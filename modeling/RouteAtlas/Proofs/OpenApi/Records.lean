/-
Module: RouteAtlas.Proofs.OpenApi.Records
Layer: Proofs
Purpose: Optional members, arrays and maps, written and read back: each gives back what was written if
  its parts do. And what is read has whatever property its parts have, with every map in order.
Trusted boundary: none
Main exports: KeyMap.Proper, Json.optional?_written, Json.list?_written, Json.map?_written,
  Json.optional?_proper, Json.map?_proper, Json.depth_lt_of_mem
-/
import RouteAtlas.OpenApi.Encoding
import RouteAtlas.Proofs.Data.Bindings

namespace RouteAtlas

/-- A map in increasing order of its keys, with proper values only. -/
def KeyMap.Proper {α : Type} (proper : α → Prop) (map : KeyMap α) : Prop :=
  KeyMap.Sorted map ∧ ∀ binding ∈ map, proper binding.2

namespace Json

variable {α : Type} {read : Json → Option α} {write : α → Json}

/-! ### Optional members -/

@[simp] theorem find?_optionalMember (key name : String) (value : Option Json) :
    KeyMap.find? key (OpenApi.optionalMember name value) = if key = name then value else none := by
  cases value with
  | none => simp [OpenApi.optionalMember, KeyMap.find?]
  | some value => simp [OpenApi.optionalMember, KeyMap.find?]

/-- What is not `null` is read as it stands. -/
theorem optional?_of_read {value : Json} {a : α} (strict : read .null = none)
    (reads : read value = some a) : value.optional? read = some (some a) := by
  cases value with
  | null => rw [strict] at reads; cases reads
  | _ => simp [optional?, reads]

/-- A value that may be missing is read back, where `null` is not read as a value. -/
theorem optional?_written (strict : read .null = none) {value : Option α}
    (back : ∀ a ∈ value, read (write a) = some a) :
    ((value.map write).getD .null).optional? read = some value := by
  cases value with
  | none => rfl
  | some a => exact optional?_of_read strict (back a rfl)

@[simp] theorem optional?_text (value : Option String) :
    ((value.map text).getD .null).optional? text? = some value :=
  optional?_written rfl fun _ _ => rfl

@[simp] theorem optional?_bool (value : Option Bool) :
    ((value.map bool).getD .null).optional? bool? = some value :=
  optional?_written rfl fun _ _ => rfl

/-- A value that is there has been read. -/
theorem read_of_optional? {value : Json} {a : α} (reads : value.optional? read = some (some a)) :
    read value = some a := by
  cases value with
  | null => cases reads
  | _ =>
      obtain ⟨b, reads, same⟩ := Option.map_eq_some_iff.1 reads
      exact reads.trans same

theorem optional?_proper {proper : α → Prop} {value : Json} {read? : Option α}
    (each : ∀ value a, read value = some a → proper a) (reads : value.optional? read = some read?) :
    ∀ a ∈ read?, proper a := by
  rintro a rfl
  exact each value a (read_of_optional? reads)

/-- Numbers that are read fit into 64 bits. -/
theorem lt_of_word64? {value : Json} {number : Nat} (reads : value.word64? = some number) :
    number < Nat.pow 2 64 := by
  unfold word64? at reads
  split at reads
  · obtain ⟨fits, same⟩ := Option.ite_none_right_eq_some.1 reads
    exact Option.some.inj same ▸ fits
  · cases reads

/-! ### Arrays and maps -/

/-- An array is read back item by item. -/
theorem list?_written {items : List α} (back : ∀ a ∈ items, read (write a) = some a) :
    list? read (.array (items.map write)) = some items := by
  rw [list?]
  induction items with
  | nil => rfl
  | cons first rest ih =>
      rw [List.map_cons, List.mapM_cons, back first List.mem_cons_self,
        ih fun a member => back a (List.mem_cons_of_mem _ member)]
      rfl

@[simp] theorem optional?_texts (value : Option (List String)) :
    ((value.map OpenApi.textArray).getD .null).optional? (list? text?) = some value :=
  optional?_written rfl fun _ _ => list?_written fun _ _ => rfl

theorem mapM_bindings {map : KeyMap α} (back : ∀ binding ∈ map, read (write binding.2) = some binding.2) :
    (map.map fun binding => (binding.1, write binding.2)).mapM
      (fun member => (read member.2).map fun value => (member.1, value)) = some map := by
  induction map with
  | nil => rfl
  | cons first rest ih =>
      rw [List.map_cons, List.mapM_cons, back first List.mem_cons_self,
        ih fun binding member => back binding (List.mem_cons_of_mem _ member)]
      rfl

/-- A sorted map is read back binding by binding. -/
theorem map?_written {map : KeyMap α} (sorted : KeyMap.Sorted map)
    (back : ∀ binding ∈ map, read (write binding.2) = some binding.2) :
    map? read (OpenApi.mapJson write map) = some map := by
  rw [OpenApi.mapJson, map?, mapM_bindings back, Option.map_some, KeyMap.ofList_eq_self sorted]

theorem read_of_mem_mapM {members : List (String × Json)} {bindings : List (String × α)}
    (reads : members.mapM (fun member => (read member.2).map fun value => (member.1, value)) =
      some bindings) :
    ∀ binding ∈ bindings, ∃ member ∈ members, read member.2 = some binding.2 := by
  induction members generalizing bindings with
  | nil =>
      obtain rfl := Option.some.inj reads
      simp
  | cons first rest ih =>
      rw [List.mapM_cons] at reads
      obtain ⟨binding, readsFirst, reads⟩ := Option.bind_eq_some_iff.1 reads
      obtain ⟨value, readsValue, rfl⟩ := Option.map_eq_some_iff.1 readsFirst
      obtain ⟨others, readsRest, same⟩ := Option.bind_eq_some_iff.1 reads
      obtain rfl := Option.some.inj same
      intro other member
      rcases List.mem_cons.1 member with rfl | later
      · exact ⟨first, List.mem_cons_self, readsValue⟩
      · obtain ⟨member, there, readsIt⟩ := ih readsRest other later
        exact ⟨member, List.mem_cons_of_mem _ there, readsIt⟩

/-- A map that is read is in order, and its values were read. -/
theorem map?_proper {proper : α → Prop} {value : Json} {map : KeyMap α}
    (each : ∀ value a, read value = some a → proper a) (reads : map? read value = some map) :
    map.Proper proper := by
  cases value with
  | object members =>
      rw [map?] at reads
      obtain ⟨bindings, readsAll, rfl⟩ := Option.map_eq_some_iff.1 reads
      refine ⟨KeyMap.sorted_ofList bindings, fun binding member => ?_⟩
      obtain ⟨member, _, readsIt⟩ := read_of_mem_mapM readsAll binding (KeyMap.mem_of_mem_ofList member)
      exact each _ _ readsIt
  | _ => cases reads

/-! ### Depth -/

/-- The value of a member is less deep than the object. -/
theorem depth_lt_of_mem {members : List (String × Json)} {name : String} {value : Json}
    (member : (name, value) ∈ members) : value.depth < (Json.object members).depth := by
  rw [depth, Nat.lt_succ_iff]
  induction members with
  | nil => cases member
  | cons first rest ih =>
      obtain ⟨other, front⟩ := first
      rw [depthOfMembers]
      rcases List.mem_cons.1 member with same | later
      · obtain ⟨rfl, rfl⟩ := Prod.mk.inj same
        exact Nat.le_max_left _ _
      · exact Nat.le_trans (ih later) (Nat.le_max_right _ _)

end Json

end RouteAtlas
