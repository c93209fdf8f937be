/-
Module: RouteAtlas.Proofs.Text.Replacement
Layer: Proofs
Purpose: How a replacement goes through a text. Where the rule does not apply a character stays; where
  it applies, what was found stands in the place of what it takes. So a text that is put together of
  pieces can be replaced piece by piece, if no place goes over the end of a piece.
Trusted boundary: none
Main exports: replace_cons_of_none, replace_cons_of_some, replace_append_of_idle,
  replace_append_of_some, replace_flatMap, replace_forall, replace_ne_nil
-/
import RouteAtlas.Text.Sift

namespace RouteAtlas.Text

variable {rule : Rule (List Char)}

/-- A character at which the rule does not apply stays. -/
theorem replace_cons_of_none {c : Char} {rest : List Char} (idle : rule (c :: rest) = none) :
    replace rule (c :: rest) = c :: replace rule rest := by
  rw [replace, sift, siftFrom, idle]
  rfl

/-- What is found stands in the place of the characters that the rule takes. -/
theorem replace_cons_of_some {c : Char} {rest found : List Char} {extra : Nat}
    (applies : rule (c :: rest) = some (extra, found)) :
    replace rule (c :: rest) = found ++ replace rule (rest.drop extra) := by
  rw [replace, sift, siftFrom, applies]
  change found ++ (siftFrom rule extra rest).flatMap _ = _
  rw [siftFrom_eq_sift_drop]
  rfl

/-- A beginning stays if the rule applies nowhere in it, whatever follows. -/
theorem replace_append_of_idle {front rest : List Char}
    (idle : ∀ before c after, front = before ++ c :: after → rule (c :: (after ++ rest)) = none) :
    replace rule (front ++ rest) = front ++ replace rule rest := by
  induction front with
  | nil => rfl
  | cons c front ih =>
      have here : rule (c :: (front ++ rest)) = none := idle [] c front rfl
      have later : replace rule (front ++ rest) = front ++ replace rule rest := by
        apply ih
        intro before d after split
        exact idle (c :: before) d after (by rw [split, List.cons_append])
      rw [List.cons_append, replace_cons_of_none here, later, List.cons_append]

/-- A beginning stays if none of its characters is one at which the rule can apply. -/
theorem replace_append_of_absent {front rest : List Char}
    (idle : ∀ c ∈ front, ∀ after, rule (c :: after) = none) :
    replace rule (front ++ rest) = front ++ replace rule rest := by
  apply replace_append_of_idle
  intro before c after split
  exact idle c (by simp [split]) _

/-- A find that takes all of a beginning stands in its place. -/
theorem replace_append_of_some {front rest found : List Char} (nonempty : front ≠ [])
    (applies : rule (front ++ rest) = some (front.length - 1, found)) :
    replace rule (front ++ rest) = found ++ replace rule rest := by
  obtain ⟨c, tail, rfl⟩ := List.exists_cons_of_ne_nil nonempty
  rw [List.cons_append] at applies ⊢
  rw [replace_cons_of_some applies, List.length_cons, Nat.add_sub_cancel, List.drop_left]

/-- If every piece is replaced by itself, whatever follows it, then so is a text of pieces. -/
theorem replace_flatMap {α : Type} {before after : α → List Char}
    (step : ∀ piece rest, replace rule (before piece ++ rest) = after piece ++ replace rule rest)
    (pieces : List α) : replace rule (pieces.flatMap before) = pieces.flatMap after := by
  induction pieces with
  | nil => rfl
  | cons piece rest ih => rw [List.flatMap_cons, step, ih, List.flatMap_cons]

/-- What holds of all characters of a text, and of all that is found where it holds, holds of all
characters afterwards. The induction is on the length, since a find takes several characters. -/
theorem replace_forall {P : Char → Prop}
    (kept : ∀ chars extra found, (∀ c ∈ chars, P c) → rule chars = some (extra, found) →
      ∀ c ∈ found, P c)
    {chars : List Char} (holds : ∀ c ∈ chars, P c) : ∀ c ∈ replace rule chars, P c := by
  induction size : chars.length using Nat.strongRecOn generalizing chars with
  | ind bound ih =>
      cases chars with
      | nil => intro c member; cases member
      | cons head rest =>
          have holdsRest : ∀ c ∈ rest, P c := fun c member =>
            holds c (List.mem_cons_of_mem head member)
          intro c member
          cases applies : rule (head :: rest) with
          | none =>
              rw [replace_cons_of_none applies] at member
              rcases List.mem_cons.1 member with rfl | member
              · exact holds _ List.mem_cons_self
              · have shorter : rest.length < bound := by rw [← size]; exact Nat.lt_succ_self _
                exact ih _ shorter holdsRest rfl c member
          | some find =>
              obtain ⟨extra, found⟩ := find
              rw [replace_cons_of_some applies] at member
              rcases List.mem_append.1 member with member | member
              · exact kept _ extra found holds applies c member
              · have shorter : (rest.drop extra).length < bound := by
                  rw [← size, List.length_drop, List.length_cons]
                  omega
                exact ih _ shorter (fun d there => holdsRest d (List.mem_of_mem_drop there)) rfl c
                  member

/-- A text does not become empty if nothing that is found at its beginning is. -/
theorem replace_ne_nil {chars : List Char}
    (nonempty : ∀ extra found, rule chars = some (extra, found) → found ≠ []) (text : chars ≠ []) :
    replace rule chars ≠ [] := by
  cases chars with
  | nil => exact absurd rfl text
  | cons c rest =>
      cases applies : rule (c :: rest) with
      | none =>
          rw [replace_cons_of_none applies]
          exact List.cons_ne_nil _ _
      | some find =>
          obtain ⟨extra, found⟩ := find
          rw [replace_cons_of_some applies]
          exact List.append_ne_nil_of_left_ne_nil (nonempty _ _ applies) _

end RouteAtlas.Text
