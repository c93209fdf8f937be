/-
Module: RouteAtlas.Data.KeyMap
Layer: Data
Purpose: Maps from texts to values, kept as lists of pairs in strictly increasing order of the keys.
  Two sorted maps with the same bindings are equal, and the order of the list is the order in which
  maps are written out.
Trusted boundary: none
Main exports: KeyMap, find?, insert, insertNew, Sorted, sorted_insert, find?_insert, mem_insert
-/

namespace RouteAtlas

/-- Bindings of texts to values. -/
abbrev KeyMap (α : Type) := List (String × α)

namespace KeyMap

variable {α : Type}

/-- The value bound to a key. -/
def find? (key : String) : KeyMap α → Option α
  | [] => none
  | (other, value) :: rest => if key = other then some value else find? key rest

/-- Whether a key is bound. -/
def contains (key : String) (map : KeyMap α) : Bool := (find? key map).isSome

/-- Bind a key, in place of an older binding of it. -/
def insert (key : String) (value : α) : KeyMap α → KeyMap α
  | [] => [(key, value)]
  | (other, old) :: rest =>
      if key < other then (key, value) :: (other, old) :: rest
      else if key = other then (key, value) :: rest
      else (other, old) :: insert key value rest

/-- Bind a key unless it is bound already. -/
def insertNew (key : String) (value : α) (map : KeyMap α) : KeyMap α :=
  if contains key map then map else insert key value map

/-- The map of a list of bindings; later ones win. -/
def ofList (bindings : List (String × α)) : KeyMap α :=
  bindings.foldl (fun map binding => insert binding.1 binding.2 map) []

/-- The keys in increasing order. -/
def keys (map : KeyMap α) : List String := map.map Prod.fst

/-- The values in the order of their keys. -/
def values (map : KeyMap α) : List α := map.map Prod.snd

/-- The keys increase strictly. -/
def Sorted (map : KeyMap α) : Prop := map.Pairwise fun left right => left.1 < right.1

/-- A key that was just bound has its new value; the others keep theirs. -/
theorem find?_insert (key other : String) (value : α) (map : KeyMap α) :
    find? other (insert key value map) = if other = key then some value else find? other map := by
  induction map with
  | nil => simp [insert, find?]
  | cons binding rest ih =>
      obtain ⟨name, old⟩ := binding
      simp only [insert]
      split
      case isTrue => simp [find?]
      case isFalse =>
        split
        case isTrue h => subst h; simp only [find?]; split <;> rfl
        case isFalse h =>
          simp only [find?, ih]
          by_cases hn : other = name
          · subst hn
            simp [Ne.symm h]
          · simp [hn]

/-- Every binding of the larger map is the new one or an old one. -/
theorem mem_insert {key : String} {value : α} {map : KeyMap α} {binding : String × α}
    (h : binding ∈ insert key value map) : binding = (key, value) ∨ binding ∈ map := by
  induction map with
  | nil => simpa [insert] using h
  | cons first rest ih =>
      obtain ⟨name, old⟩ := first
      simp only [insert] at h
      split at h
      case isTrue => simpa using h
      case isFalse =>
        split at h
        case isTrue =>
          rcases List.mem_cons.1 h with h | h
          · exact .inl h
          · exact .inr (List.mem_cons_of_mem _ h)
        case isFalse =>
          rcases List.mem_cons.1 h with h | h
          · exact .inr (h ▸ List.mem_cons_self)
          · rcases ih h with h | h
            · exact .inl h
            · exact .inr (List.mem_cons_of_mem _ h)

/-- Binding a key keeps a map sorted. -/
theorem sorted_insert (key : String) (value : α) {map : KeyMap α} (h : Sorted map) :
    Sorted (insert key value map) := by
  induction map with
  | nil => simp [insert, Sorted]
  | cons first rest ih =>
      obtain ⟨name, old⟩ := first
      obtain ⟨hfirst, hrest⟩ := List.pairwise_cons.1 h
      simp only [insert]
      split
      case isTrue hlt =>
        refine List.pairwise_cons.2 ⟨fun binding hb => ?_, h⟩
        rcases List.mem_cons.1 hb with rfl | hb
        · exact hlt
        · exact String.lt_trans hlt (hfirst binding hb)
      case isFalse hlt =>
        split
        case isTrue heq =>
          subst heq
          exact List.pairwise_cons.2 ⟨hfirst, hrest⟩
        case isFalse hne =>
          refine List.pairwise_cons.2 ⟨fun binding hb => ?_, ih hrest⟩
          rcases mem_insert hb with rfl | hb
          · rcases Decidable.em (name < key) with hk | hk
            · exact hk
            · exact absurd (String.le_antisymm (String.not_lt.1 hk) (String.not_lt.1 hlt)) hne
          · exact hfirst binding hb

end KeyMap

end RouteAtlas
