/-
Module: RouteAtlas.Proofs.Text.Erasure
Layer: Proofs
Purpose: What is left of a text without the occurrences of a part. Where the part does not occur the text
  stays, and where it does something is missing. If the first character of the part comes back nowhere in
  it, no occurrence goes over a place where that character stands, so that the text can be cut there.
Trusted boundary: none
Main exports: erasure, eraseAll_eq, replace_erasure_of_absent, length_replace_erasure, replace_erasure_cut,
  eraseAll_of_absent, length_eraseAll_le, length_eraseAll_lt, eraseAll_cut
-/
import RouteAtlas.Proofs.Text.Replacement

namespace RouteAtlas.Text

/-- The rule that finds a part and puts nothing in its place. -/
def erasure (part : List Char) : Rule (List Char) := fun chars =>
  match part with
  | [] => none
  | _ :: tail => (dropPrefix? part chars).map fun _ => (tail.length, [])

theorem eraseAll_eq (part text : String) :
    eraseAll part text = String.ofList (replace (erasure part.toList) text.toList) := rfl

section Erasure

variable {first : Char} {tail : List Char}

theorem erasure_idle {chars : List Char} (absent : ¬ first :: tail <+: chars) :
    erasure (first :: tail) chars = none := by
  rw [← isSome_dropPrefix?_iff, Option.not_isSome_iff_eq_none] at absent
  rw [erasure, absent]
  rfl

theorem erasure_part (rest : List Char) :
    erasure (first :: tail) (first :: tail ++ rest) = some (tail.length, []) := by
  have drops := (dropPrefix?_eq_some_iff (first :: tail) (first :: tail ++ rest) rest).2 rfl
  rw [erasure, drops]
  rfl

/-- An occurrence at the beginning is taken away. -/
theorem replace_erasure_part (rest : List Char) :
    replace (erasure (first :: tail)) (first :: tail ++ rest) =
      replace (erasure (first :: tail)) rest :=
  replace_append_of_some (List.cons_ne_nil _ _) (erasure_part rest)

/-- A text without the part stays. -/
theorem replace_erasure_of_absent {chars : List Char} (absent : ¬ first :: tail <:+: chars) :
    replace (erasure (first :: tail)) chars = chars := by
  have idle : replace (erasure (first :: tail)) (chars ++ []) =
      chars ++ replace (erasure (first :: tail)) [] := by
    apply replace_append_of_idle
    intro before c after split
    apply erasure_idle
    intro begins
    apply absent
    rw [List.append_nil] at begins
    rw [split]
    exact begins.isInfix.trans (List.suffix_append before _).isInfix
  rwa [List.append_nil, show replace (erasure (first :: tail)) [] = [] from rfl,
    List.append_nil] at idle

/-- A text gets no longer, and shorter if the part occurs in it. -/
theorem length_replace_erasure (chars : List Char) :
    (replace (erasure (first :: tail)) chars).length ≤ chars.length ∧
      (first :: tail <:+: chars →
        (replace (erasure (first :: tail)) chars).length < chars.length) := by
  induction size : chars.length using Nat.strongRecOn generalizing chars with
  | ind bound ih =>
      subst size
      by_cases begins : first :: tail <+: chars
      · obtain ⟨rest, rfl⟩ := begins
        have shorter : rest.length < (first :: tail ++ rest).length := by
          rw [List.length_append, List.length_cons]
          omega
        have bounded := (ih rest.length shorter rest rfl).1
        rw [replace_erasure_part]
        exact ⟨Nat.le_of_lt (Nat.lt_of_le_of_lt bounded shorter),
          fun _ => Nat.lt_of_le_of_lt bounded shorter⟩
      · cases chars with
        | nil => exact ⟨Nat.le_refl 0, fun occurs => absurd (List.infix_nil.1 occurs) (by simp)⟩
        | cons c rest =>
            obtain ⟨bounded, strict⟩ := ih rest.length (Nat.lt_succ_self _) rest rfl
            rw [replace_cons_of_none (erasure_idle begins), List.length_cons, List.length_cons]
            refine ⟨Nat.succ_le_succ bounded, fun occurs => Nat.succ_lt_succ (strict ?_)⟩
            exact (List.infix_cons_iff.1 occurs).resolve_left begins

/-- An occurrence that begins before a place where its first character stands ends before it too. -/
theorem prefix_before_first (once : first ∉ tail) {c : Char} {front rest : List Char}
    (begins : first :: tail <+: c :: front ++ first :: rest) : first :: tail <+: c :: front := by
  rcases List.prefix_or_prefix_of_prefix begins (List.prefix_append _ _) with within | ⟨more, beyond⟩
  · exact within
  · cases more with
    | nil => exact ⟨[], by rw [List.append_nil, ← beyond, List.append_nil]⟩
    | cons d more =>
        -- What goes over the place has the first character there once more.
        rw [← beyond, List.prefix_append_right_inj, List.cons_prefix_cons] at begins
        obtain ⟨rfl, _⟩ := begins
        obtain ⟨_, split⟩ := List.cons.inj beyond
        exact absurd (split ▸ List.mem_append_right front List.mem_cons_self) once

/-- A text can be cut where the first character of the part stands, if the part has it once. -/
theorem replace_erasure_cut (once : first ∉ tail) (front rest : List Char) :
    replace (erasure (first :: tail)) (front ++ first :: rest) =
      replace (erasure (first :: tail)) front ++ replace (erasure (first :: tail)) (first :: rest) := by
  induction size : front.length using Nat.strongRecOn generalizing front with
  | ind bound ih =>
      subst size
      cases front with
      | nil => rfl
      | cons c front =>
          by_cases begins : first :: tail <+: c :: front
          · obtain ⟨after, split⟩ := begins
            have shorter : after.length < (c :: front).length := by
              rw [← split, List.length_append, List.length_cons]
              omega
            have later := ih after.length shorter after rfl
            rw [← split, List.append_assoc, replace_erasure_part, replace_erasure_part, later]
          · have beyond : ¬ first :: tail <+: c :: (front ++ first :: rest) :=
              fun longer => begins (prefix_before_first once longer)
            have later := ih front.length (Nat.lt_succ_self _) front rfl
            rw [List.cons_append, replace_cons_of_none (erasure_idle beyond), later,
              replace_cons_of_none (erasure_idle begins), List.cons_append]

end Erasure

section Texts

variable {part text : String} {first : Char} {tail : List Char}

theorem eraseAll_of_absent (chars : part.toList = first :: tail)
    (absent : ¬ part.toList <:+: text.toList) : eraseAll part text = text := by
  rw [chars] at absent
  rw [eraseAll_eq, chars, replace_erasure_of_absent absent, String.ofList_toList]

theorem length_eraseAll_le (chars : part.toList = first :: tail) (text : String) :
    (eraseAll part text).length ≤ text.length := by
  rw [eraseAll_eq, chars, String.length_ofList, ← String.length_toList]
  exact (length_replace_erasure text.toList).1

theorem length_eraseAll_lt (chars : part.toList = first :: tail)
    (occurs : part.toList <:+: text.toList) : (eraseAll part text).length < text.length := by
  rw [chars] at occurs
  rw [eraseAll_eq, chars, String.length_ofList, ← String.length_toList]
  exact (length_replace_erasure text.toList).2 occurs

/-- What follows a text and begins with the first character of the part is erased by itself. -/
theorem eraseAll_cut (chars : part.toList = first :: tail) (once : first ∉ tail) {ending : String}
    (starts : ending.toList.head? = some first) :
    eraseAll part (text ++ ending) = eraseAll part text ++ eraseAll part ending := by
  obtain ⟨rest, ends⟩ := List.head?_eq_some_iff.1 starts
  apply String.toList_inj.1
  rw [eraseAll_eq, eraseAll_eq, eraseAll_eq, chars, String.toList_append, String.toList_append, ends,
    replace_erasure_cut once, String.toList_ofList, String.toList_ofList, String.toList_ofList]

end Texts

end RouteAtlas.Text
