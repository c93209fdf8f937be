/-
Module: RouteAtlas.Text.Sift
Layer: Text
Purpose: Reading a text from left to right for the places where a rule applies. A rule looks at the
  rest of the text and answers how many characters it takes beyond the first one, and with what
  result; where it does not apply the character stands for itself. Places never overlap, and the
  leftmost one wins.
Trusted boundary: none
Main exports: Rule, sift, replace, finds, inside?, eraseAll, siftFrom_eq_sift_drop
-/
import RouteAtlas.Text.Affix

namespace RouteAtlas.Text

/-- What a rule finds at the beginning of a text: the number of characters that belong to the find
beyond the first, and the find itself. -/
abbrev Rule (α : Type) := List Char → Option (Nat × α)

/-- The finds of a rule and the characters between them, after passing over `skip` characters. -/
def siftFrom {α : Type} (rule : Rule α) (skip : Nat) : List Char → List (Char ⊕ α)
  | [] => []
  | c :: rest =>
      match skip with
      | skip + 1 => siftFrom rule skip rest
      | 0 =>
          match rule (c :: rest) with
          | some (extra, found) => .inr found :: siftFrom rule extra rest
          | none => .inl c :: siftFrom rule 0 rest

/-- The finds of a rule and the characters between them. -/
def sift {α : Type} (rule : Rule α) (chars : List Char) : List (Char ⊕ α) := siftFrom rule 0 chars

/-- Put the finds in the place of what was found. -/
def replace (rule : Rule (List Char)) (chars : List Char) : List Char :=
  (sift rule chars).flatMap (Sum.elim (fun c => [c]) id)

/-- The finds alone, from left to right. -/
def finds {α : Type} (rule : Rule α) (chars : List Char) : List α :=
  (sift rule chars).filterMap Sum.getRight?

/-- Passing over characters is dropping them. -/
theorem siftFrom_eq_sift_drop {α : Type} (rule : Rule α) (skip : Nat) (chars : List Char) :
    siftFrom rule skip chars = sift rule (chars.drop skip) := by
  induction chars generalizing skip with
  | nil => simp [siftFrom, sift]
  | cons c rest ih =>
      cases skip with
      | zero => simp [sift]
      | succ skip => simp [siftFrom, ih]

/-- The inside of a bracket whose opening character has been read: what stands before `close`, if
there is something and `close` follows it. -/
def inside? (close : Char) (chars : List Char) : Option (List Char) :=
  let inside := chars.takeWhile (· ≠ close)
  if inside.isEmpty || inside.length = chars.length then none else some inside

/-- Remove every occurrence of `part`. -/
def eraseAll (part text : String) : String :=
  let rule : Rule (List Char) := fun chars =>
    match part.toList with
    | [] => none
    | _ :: tail => (dropPrefix? part.toList chars).map fun _ => (tail.length, [])
  String.ofList (replace rule text.toList)

end RouteAtlas.Text
