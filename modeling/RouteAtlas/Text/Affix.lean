/-
Module: RouteAtlas.Text.Affix
Layer: Text
Purpose: Beginnings, ends and occurrences of one text in another.
Trusted boundary: none
Main exports: dropPrefix?, dropSuffix?, occursIn, withoutSuffix?, hasPrefix, hasSuffix, mentions,
  occursIn_iff, hasPrefix_iff, mentions_iff
-/

namespace RouteAtlas.Text

/-- The rest of `chars` after the beginning `start`. -/
def dropPrefix? : (start chars : List Char) → Option (List Char)
  | [], chars => some chars
  | _ :: _, [] => none
  | s :: start, c :: chars => if s = c then dropPrefix? start chars else none

/-- What precedes the end `tail` of `chars`. -/
def dropSuffix? (tail chars : List Char) : Option (List Char) :=
  (dropPrefix? tail.reverse chars.reverse).map List.reverse

/-- A beginning is dropped exactly when it is one. -/
theorem dropPrefix?_eq_some_iff (start chars rest : List Char) :
    dropPrefix? start chars = some rest ↔ chars = start ++ rest := by
  induction start generalizing chars with
  | nil => simp [dropPrefix?]
  | cons s start ih =>
      cases chars with
      | nil => simp [dropPrefix?]
      | cons c chars =>
          simp only [dropPrefix?]
          split
          case isTrue h => subst h; simp [ih]
          case isFalse h =>
            simp only [List.cons_append, List.cons.injEq, reduceCtorEq, false_iff, not_and]
            intro hc
            exact absurd hc.symm h

/-- An end is dropped exactly when it is one. -/
theorem dropSuffix?_eq_some_iff (tail chars rest : List Char) :
    dropSuffix? tail chars = some rest ↔ chars = rest ++ tail := by
  simp only [dropSuffix?, Option.map_eq_some_iff, dropPrefix?_eq_some_iff]
  constructor
  · rintro ⟨front, h, rfl⟩
    have := congrArg List.reverse h
    simpa using this
  · rintro rfl
    exact ⟨rest.reverse, by simp, by simp⟩

/-- Whether `part` occurs in `chars`. -/
def occursIn (part : List Char) : List Char → Bool
  | [] => part.isEmpty
  | c :: rest => (dropPrefix? part (c :: rest)).isSome || occursIn part rest

theorem isSome_dropPrefix?_iff (start chars : List Char) :
    (dropPrefix? start chars).isSome = true ↔ start <+: chars := by
  rw [Option.isSome_iff_exists]
  exact exists_congr fun rest => (dropPrefix?_eq_some_iff start chars rest).trans eq_comm

theorem occursIn_iff (part chars : List Char) : occursIn part chars = true ↔ part <:+: chars := by
  induction chars with
  | nil => simp [occursIn]
  | cons c rest ih =>
      rw [occursIn, Bool.or_eq_true, isSome_dropPrefix?_iff, ih, List.infix_cons_iff]

/-- What precedes the end `tail` of a string. -/
def withoutSuffix? (tail text : String) : Option String :=
  (dropSuffix? tail.toList text.toList).map String.ofList

/-- Whether `text` begins with `start`. -/
def hasPrefix (start text : String) : Bool := (dropPrefix? start.toList text.toList).isSome

theorem hasPrefix_iff (start text : String) :
    hasPrefix start text = true ↔ ∃ rest, text = start ++ rest := by
  rw [hasPrefix, isSome_dropPrefix?_iff]
  constructor
  · rintro ⟨rest, split⟩
    exact ⟨String.ofList rest, String.toList_inj.1 (by simp [split])⟩
  · rintro ⟨rest, rfl⟩
    exact ⟨rest.toList, String.toList_append.symm⟩

/-- Whether `text` ends with `tail`. -/
def hasSuffix (tail text : String) : Bool := (dropSuffix? tail.toList text.toList).isSome

/-- Whether `part` occurs in `text`. -/
def mentions (text part : String) : Bool := occursIn part.toList text.toList

theorem mentions_iff (text part : String) :
    mentions text part = true ↔ part.toList <:+: text.toList :=
  occursIn_iff part.toList text.toList

end RouteAtlas.Text
