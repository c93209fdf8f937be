/-
Module: RouteAtlas.Proofs.Data.Bindings
Layer: Proofs
Purpose: Lookups and members of maps. What is looked up is a binding, and binding a key of a sorted map
  puts one binding in the place of at most one other. Different keys can be bound in either order. The map
  of a list is sorted, and a sorted list is its own map.
Trusted boundary: none
Main exports: KeyMap.mem_of_find?, KeyMap.find?_eq_none_of_lt, KeyMap.mem_iff_find?,
  KeyMap.insert_perm, KeyMap.insert_insert, KeyMap.insert_comm, KeyMap.contains_iff_mem_keys,
  KeyMap.mem_of_mem_ofList, KeyMap.contains_ofList, KeyMap.find?_append, KeyMap.find?_ofList,
  KeyMap.sorted_ofList, KeyMap.ofList_eq_self, KeyMap.find?_foldl_insertNew,
  KeyMap.sorted_foldl_insertNew
-/
import RouteAtlas.Data.KeyMap

namespace RouteAtlas.KeyMap

variable {α : Type}

instance (map : KeyMap α) : Decidable (Sorted map) :=
  inferInstanceAs (Decidable (List.Pairwise _ map))

/-- What is looked up is one of the bindings. -/
theorem mem_of_find? {key : String} {value : α} {map : KeyMap α}
    (found : find? key map = some value) : (key, value) ∈ map := by
  induction map with
  | nil => simp [find?] at found
  | cons binding rest ih =>
      obtain ⟨other, old⟩ := binding
      rw [find?] at found
      by_cases same : key = other
      · rw [if_pos same, Option.some.injEq] at found
        exact same ▸ found ▸ List.mem_cons_self
      · rw [if_neg same] at found
        exact List.mem_cons_of_mem _ (ih found)

/-- A key below all keys of a map is not bound. -/
theorem find?_eq_none_of_lt {key : String} {map : KeyMap α}
    (below : ∀ binding ∈ map, key < binding.1) : find? key map = none := by
  cases found : find? key map with
  | none => rfl
  | some value =>
      exact absurd (below _ (mem_of_find? found)) (String.lt_irrefl _)

/-- The bindings of a sorted map are what is looked up in it. -/
theorem mem_iff_find? {key : String} {value : α} {map : KeyMap α} (sorted : Sorted map) :
    (key, value) ∈ map ↔ find? key map = some value := by
  refine ⟨fun member => ?_, mem_of_find?⟩
  induction map with
  | nil => cases member
  | cons binding rest ih =>
      obtain ⟨smaller, sortedRest⟩ := List.pairwise_cons.1 sorted
      rw [find?]
      rcases List.mem_cons.1 member with rfl | later
      · exact if_pos rfl
      · have differs : key ≠ binding.1 := fun same => String.lt_irrefl _ (same ▸ smaller _ later)
        rw [if_neg differs]
        exact ih sortedRest later

/-- Binding a key puts a binding in the place of the older one of that key, if there is one. -/
theorem insert_perm (key : String) (value : α) {map : KeyMap α} (sorted : Sorted map) :
    ∃ rest, map.Perm ((find? key map).toList.map (key, ·) ++ rest) ∧
      (insert key value map).Perm ((key, value) :: rest) := by
  induction map with
  | nil => exact ⟨[], .refl _, .refl _⟩
  | cons binding others ih =>
      obtain ⟨other, old⟩ := binding
      obtain ⟨smaller, sortedOthers⟩ := List.pairwise_cons.1 sorted
      rw [insert]
      by_cases before : key < other
      · rw [if_pos before]
        have unbound : find? key ((other, old) :: others) = none := by
          refine find?_eq_none_of_lt fun binding member => ?_
          rcases List.mem_cons.1 member with rfl | later
          · exact before
          · exact String.lt_trans before (smaller _ later)
        rw [unbound]
        exact ⟨_, .refl _, .refl _⟩
      · rw [if_neg before]
        by_cases same : key = other
        · subst same
          rw [if_pos rfl, find?, if_pos rfl]
          exact ⟨others, .refl _, .refl _⟩
        · rw [if_neg same, find?, if_neg same]
          obtain ⟨rest, was, becomes⟩ := ih sortedOthers
          refine ⟨(other, old) :: rest, ?_, ?_⟩
          · exact (was.cons _).trans List.perm_middle.symm
          · exact (becomes.cons _).trans (.swap _ _ _)

/-- Of two values for one key the later one counts. -/
theorem insert_insert (key : String) (value old : α) (map : KeyMap α) :
    insert key value (insert key old map) = insert key value map := by
  induction map with
  | nil => simp [insert]
  | cons binding rest ih =>
      obtain ⟨other, was⟩ := binding
      rw [insert, insert]
      by_cases before : key < other
      · simp [before, insert]
      · by_cases same : key = other
        · simp [same, insert]
        · simp [before, same, insert, ih]

theorem insert_comm_of_lt {key other : String} (before : key < other) (value another : α)
    (map : KeyMap α) :
    insert key value (insert other another map) = insert other another (insert key value map) := by
  have notAfter : ¬ other < key := String.lt_asymm before
  have differ : other ≠ key := fun same => String.lt_irrefl _ (same ▸ before)
  induction map with
  | nil => simp [insert, before, notAfter, differ]
  | cons binding rest ih =>
      obtain ⟨name, old⟩ := binding
      by_cases first : key < name
      · -- The smaller key comes to stand in front, wherever the larger one goes.
        by_cases second : other < name
        · simp [insert, before, notAfter, differ, first, second]
        · by_cases there : other = name
          · subst there
            simp [insert, first, notAfter, differ]
          · simp [insert, first, second, notAfter, differ, there]
      · by_cases same : key = name
        · subst same
          simp [insert, notAfter, differ]
        · have beyond : ¬ other < name := by
            intro second
            exact first (String.lt_trans before second)
          have apart : other ≠ name := by
            rintro rfl
            exact first before
          simp [insert, first, same, beyond, apart, ih]

/-- Different keys can be bound in either order. -/
theorem insert_comm {key other : String} (differ : key ≠ other) (value another : α) (map : KeyMap α) :
    insert key value (insert other another map) = insert other another (insert key value map) := by
  by_cases before : key < other
  · exact insert_comm_of_lt before value another map
  · have after : other < key := by
      apply Decidable.byContradiction
      intro notAfter
      exact differ (String.le_antisymm (String.not_lt.1 notAfter) (String.not_lt.1 before))
    exact (insert_comm_of_lt after another value map).symm

/-- The keys of a map are those that are bound. -/
theorem contains_iff_mem_keys {key : String} {map : KeyMap α} :
    contains key map = true ↔ key ∈ map.keys := by
  rw [contains, keys]
  induction map with
  | nil => simp [find?]
  | cons binding rest ih =>
      obtain ⟨other, value⟩ := binding
      rw [find?, List.map_cons, List.mem_cons]
      by_cases same : key = other
      · simp [same]
      · rw [if_neg same, ih, or_iff_right same]

theorem contains_insert (key other : String) (value : α) (map : KeyMap α) :
    contains other (insert key value map) = true ↔ other = key ∨ contains other map = true := by
  rw [contains, find?_insert, contains]
  by_cases same : other = key
  · simp [same]
  · simp [same]

/-- A binding that is there after some keys were bound is a new one or was there before. -/
theorem mem_of_mem_foldl_insert {bindings : List (String × α)} {map : KeyMap α}
    {binding : String × α}
    (member : binding ∈ bindings.foldl (fun map binding => insert binding.1 binding.2 map) map) :
    binding ∈ bindings ∨ binding ∈ map := by
  induction bindings generalizing map with
  | nil => exact .inr member
  | cons first rest ih =>
      rcases ih member with later | earlier
      · exact .inl (List.mem_cons_of_mem first later)
      · rcases mem_insert earlier with rfl | old
        · exact .inl List.mem_cons_self
        · exact .inr old

theorem contains_foldl_insert (bindings : List (String × α)) (map : KeyMap α) (key : String) :
    contains key (bindings.foldl (fun map binding => insert binding.1 binding.2 map) map) = true ↔
      (∃ value, (key, value) ∈ bindings) ∨ contains key map = true := by
  induction bindings generalizing map with
  | nil => simp
  | cons first rest ih =>
      obtain ⟨other, value⟩ := first
      rw [List.foldl_cons, ih, contains_insert]
      constructor
      · rintro (⟨found, later⟩ | rfl | old)
        · exact .inl ⟨found, List.mem_cons_of_mem _ later⟩
        · exact .inl ⟨value, List.mem_cons_self⟩
        · exact .inr old
      · rintro (⟨found, there⟩ | old)
        · rcases List.mem_cons.1 there with here | later
          · exact .inr (.inl (Prod.mk.inj here).1)
          · exact .inl ⟨found, later⟩
        · exact .inr (.inr old)

/-- All bindings of the map of a list are in the list. -/
theorem mem_of_mem_ofList {bindings : List (String × α)} {binding : String × α}
    (member : binding ∈ ofList bindings) : binding ∈ bindings := by
  rcases mem_of_mem_foldl_insert member with there | nowhere
  · exact there
  · cases nowhere

/-- The map of a list binds the keys that the list has. -/
theorem contains_ofList (bindings : List (String × α)) (key : String) :
    contains key (ofList bindings) = true ↔ ∃ value, (key, value) ∈ bindings := by
  rw [ofList, contains_foldl_insert]
  simp [contains, find?]

/-- Of two lists of bindings the first one counts first. -/
theorem find?_append (key : String) (first second : KeyMap α) :
    find? key (first ++ second) = (find? key first).or (find? key second) := by
  induction first with
  | nil => rfl
  | cons binding rest ih =>
      obtain ⟨other, value⟩ := binding
      rw [List.cons_append, find?, find?, ih]
      split
      · rfl
      · rfl

/-! ### The map of a list -/

/-- What is bound after some keys were bound is what was bound last. -/
theorem find?_foldl_insert (key : String) (bindings : List (String × α)) (map : KeyMap α) :
    find? key (bindings.foldl (fun map binding => insert binding.1 binding.2 map) map) =
      ((bindings.filter fun binding => binding.1 = key).getLast?.map Prod.snd).or (find? key map) := by
  induction bindings generalizing map with
  | nil => rfl
  | cons first rest ih =>
      rw [List.foldl_cons, ih, find?_insert]
      by_cases same : key = first.1
      · rw [if_pos same, List.filter_cons_of_pos (by simpa using same.symm), List.getLast?_cons]
        cases (rest.filter fun binding => binding.1 = key).getLast? with
        | none => rfl
        | some later => rfl
      · rw [if_neg same, List.filter_cons_of_neg (by simpa using Ne.symm same)]

/-- Of the bindings of a key in a list, the map of the list has the last one. -/
theorem find?_ofList (key : String) (bindings : List (String × α)) :
    find? key (ofList bindings) =
      (bindings.filter fun binding => binding.1 = key).getLast?.map Prod.snd := by
  rw [ofList, find?_foldl_insert, find?, Option.or_none]

theorem sorted_foldl_insert (bindings : List (String × α)) {map : KeyMap α} (sorted : Sorted map) :
    Sorted (bindings.foldl (fun map binding => insert binding.1 binding.2 map) map) := by
  induction bindings generalizing map with
  | nil => exact sorted
  | cons first rest ih => exact ih (sorted_insert first.1 first.2 sorted)

/-- The map of a list is sorted, whatever the list is. -/
theorem sorted_ofList (bindings : List (String × α)) : Sorted (ofList bindings) :=
  sorted_foldl_insert bindings .nil

/-- A key above all others is bound at the end. -/
theorem insert_eq_append {key : String} {value : α} {map : KeyMap α}
    (above : ∀ binding ∈ map, binding.1 < key) : insert key value map = map ++ [(key, value)] := by
  induction map with
  | nil => rfl
  | cons binding rest ih =>
      obtain ⟨other, old⟩ := binding
      have less : other < key := above _ List.mem_cons_self
      have differs : key ≠ other := fun same => String.lt_irrefl _ (same ▸ less)
      rw [insert, if_neg (String.lt_asymm less), if_neg differs,
        ih fun binding member => above _ (List.mem_cons_of_mem _ member), List.cons_append]

theorem foldl_insert_eq_append {map : KeyMap α} {bindings : List (String × α)}
    (sorted : Sorted (map ++ bindings)) :
    bindings.foldl (fun map binding => insert binding.1 binding.2 map) map = map ++ bindings := by
  induction bindings generalizing map with
  | nil => exact (List.append_nil map).symm
  | cons first rest ih =>
      have above : ∀ binding ∈ map, binding.1 < first.1 := fun binding member =>
        (List.pairwise_append.1 sorted).2.2 binding member first List.mem_cons_self
      rw [List.append_cons] at sorted
      rw [List.foldl_cons, insert_eq_append above, ih sorted, List.append_assoc]
      rfl

/-- A sorted list is its own map. -/
theorem ofList_eq_self {map : KeyMap α} (sorted : Sorted map) : ofList map = map :=
  foldl_insert_eq_append sorted

/-! ### Keys that keep their first binding -/

theorem find?_insertNew (key other : String) (value : α) (map : KeyMap α) :
    find? other (insertNew key value map) =
      (find? other map).or (if other = key then some value else none) := by
  rw [insertNew]
  by_cases bound : contains key map = true
  · rw [if_pos bound]
    by_cases same : other = key
    · obtain ⟨old, found⟩ := Option.isSome_iff_exists.1 bound
      rw [same, found, Option.some_or]
    · rw [if_neg same, Option.or_none]
  · rw [if_neg bound, find?_insert]
    by_cases same : other = key
    · have unbound : find? key map = none := Option.not_isSome_iff_eq_none.1 bound
      rw [if_pos same, if_pos same, same, unbound, Option.none_or]
    · rw [if_neg same, if_neg same, Option.or_none]

/-- What is bound after some keys were bound that were new is what was bound first. -/
theorem find?_foldl_insertNew (key : String) (bindings : List (String × α)) (map : KeyMap α) :
    find? key (bindings.foldl (fun map binding => insertNew binding.1 binding.2 map) map) =
      (find? key map).or ((bindings.filter fun binding => binding.1 = key).head?.map Prod.snd) := by
  induction bindings generalizing map with
  | nil => exact (Option.or_none).symm
  | cons first rest ih =>
      rw [List.foldl_cons, ih, find?_insertNew, Option.or_assoc]
      by_cases same : key = first.1
      · rw [if_pos same, List.filter_cons_of_pos (by simpa using same.symm)]
        rfl
      · rw [if_neg same, List.filter_cons_of_neg (by simpa using Ne.symm same), Option.none_or]

theorem sorted_foldl_insertNew (bindings : List (String × α)) {map : KeyMap α}
    (sorted : Sorted map) :
    Sorted (bindings.foldl (fun map binding => insertNew binding.1 binding.2 map) map) := by
  induction bindings generalizing map with
  | nil => exact sorted
  | cons first rest ih =>
      have kept : Sorted (insertNew first.1 first.2 map) := by
        rw [insertNew]
        split
        · exact sorted
        · exact sorted_insert first.1 first.2 sorted
      exact ih kept

end RouteAtlas.KeyMap
