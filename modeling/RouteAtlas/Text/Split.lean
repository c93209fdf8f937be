/-
Module: RouteAtlas.Text.Split
Layer: Text
Purpose: Cutting a text at a separator and joining pieces with one. Cutting always yields one piece
  more than there are separators, so the empty text has one empty piece.
Trusted boundary: none
Main exports: splitAt, split, firstPiece, lastPiece, join, splitAt_eq_splitOn, splitAt_ne_nil,
  firstPiece_cases, firstPiece_intercalate_prefix
-/

namespace RouteAtlas.Text

/-- Cut at every occurrence of `sep`. -/
def splitAt (sep : Char) : List Char → List (List Char)
  | [] => [[]]
  | c :: rest =>
      if c = sep then [] :: splitAt sep rest
      else
        match splitAt sep rest with
        | [] => [[c]]
        | piece :: pieces => (c :: piece) :: pieces

/-- Cutting is what lists call splitting on an element. -/
theorem splitAt_eq_splitOn (sep : Char) (chars : List Char) : splitAt sep chars = chars.splitOn sep := by
  induction chars with
  | nil => rfl
  | cons c rest ih =>
      obtain ⟨piece, pieces, cut⟩ := List.exists_cons_of_ne_nil (List.splitOn_ne_nil sep rest)
      rw [splitAt, ih, List.splitOn_cons_eq_if_modifyHead, cut]
      by_cases same : c = sep
      · rw [if_pos same, if_pos (beq_iff_eq.2 same)]
      · rw [if_neg same, if_neg (mt beq_iff_eq.1 same), List.modifyHead_cons]

/-- There is always a first piece. -/
theorem splitAt_ne_nil (sep : Char) (chars : List Char) : splitAt sep chars ≠ [] := by
  rw [splitAt_eq_splitOn]
  exact List.splitOn_ne_nil sep chars

/-- Cut a string at every occurrence of `sep`. -/
def split (sep : Char) (text : String) : List String :=
  (splitAt sep text.toList).map String.ofList

/-- What stands before the first `sep`; all of it if there is none. -/
def firstPiece (sep : Char) (text : String) : String :=
  String.ofList (text.toList.takeWhile (· ≠ sep))

/-- A text is its first piece, or goes on with the separator. -/
theorem firstPiece_cases (sep : Char) (text : String) :
    text = firstPiece sep text ∨ ∃ rest, text = firstPiece sep text ++ (String.singleton sep ++ rest) := by
  have halves : text.toList =
      text.toList.takeWhile (· ≠ sep) ++ text.toList.dropWhile (· ≠ sep) :=
    List.takeWhile_append_dropWhile.symm
  cases remains : text.toList.dropWhile (· ≠ sep) with
  | nil =>
      rw [remains, List.append_nil] at halves
      exact .inl (String.toList_inj.1 (by rw [firstPiece, String.toList_ofList, ← halves]))
  | cons c rest =>
      have stops : c = sep := by
        have head := List.head?_dropWhile_not (· ≠ sep) text.toList
        rw [remains] at head
        simpa using head
      refine .inr ⟨String.ofList rest, String.toList_inj.1 ?_⟩
      rw [remains, stops] at halves
      simpa [firstPiece] using halves

/-- Before the first separator of joined texts stands nothing but the first text. -/
theorem firstPiece_intercalate_prefix (sep : Char) (first : String) (others : List String) :
    (firstPiece sep (String.intercalate (String.singleton sep) (first :: others))).toList <+:
      first.toList := by
  have start : ∃ rest, (String.intercalate (String.singleton sep) (first :: others)).toList =
      first.toList ++ rest ∧ rest.takeWhile (· ≠ sep) = [] := by
    rw [String.toList_intercalate]
    cases others with
    | nil => exact ⟨[], by simp [List.intercalate], rfl⟩
    | cons second others =>
        refine ⟨sep :: List.intercalate [sep] ((second :: others).map String.toList), ?_, by simp⟩
        simp [List.intercalate]
  obtain ⟨rest, joined, stops⟩ := start
  rw [firstPiece, String.toList_ofList, joined, List.takeWhile_append, stops]
  split
  · exact ⟨[], by rw [List.append_nil, List.append_nil]⟩
  · exact List.takeWhile_prefix _

/-- What stands after the last `sep`; all of it if there is none. -/
def lastPiece (sep : Char) (text : String) : String :=
  String.ofList (text.toList.reverse.takeWhile (· ≠ sep)).reverse

/-- Put `sep` between the texts. -/
def join (sep : String) (texts : List String) : String := String.intercalate sep texts

end RouteAtlas.Text
