/-
Module: RouteAtlas.Proofs.Text.Pieces
Layer: Proofs
Purpose: The pieces between separators. A text without the separator is one piece, and behind a separator
  cutting goes on as if the text began there. What stands before the first separator is a piece, and so is
  what stands behind the last.
Trusted boundary: none
Main exports: splitAt_of_absent, splitAt_append_cons, splitAt_append, splitAt_append_absent, split_ne_nil,
  mem_of_mem_split, firstPiece_mem_split, lastPiece_mem_split, split_slashless, split_slash
-/
import RouteAtlas.Text.Split

namespace RouteAtlas.Text

theorem splitAt_of_absent {sep : Char} {piece : List Char} (absent : sep ∉ piece) :
    splitAt sep piece = [piece] := by
  rw [splitAt_eq_splitOn]
  exact List.splitOn_eq_singleton absent

/-- Cutting goes on behind a separator as if the text began there. -/
theorem splitAt_append_cons (sep : Char) (front rest : List Char) :
    splitAt sep (front ++ sep :: rest) = splitAt sep front ++ splitAt sep rest := by
  rw [splitAt_eq_splitOn, splitAt_eq_splitOn, splitAt_eq_splitOn]
  exact List.splitOn_append_cons_self front rest

/-- A piece ends at the first separator. -/
theorem splitAt_append {sep : Char} {piece : List Char} (absent : sep ∉ piece) (rest : List Char) :
    splitAt sep (piece ++ sep :: rest) = piece :: splitAt sep rest := by
  rw [splitAt_append_cons, splitAt_of_absent absent, List.singleton_append]

/-- A text without the separator goes on with the last piece of the one before it. -/
theorem splitAt_append_absent {sep : Char} {tail : List Char} (absent : sep ∉ tail)
    (chars : List Char) : ∃ earlier last, splitAt sep chars = earlier ++ [last] ∧
      splitAt sep (chars ++ tail) = earlier ++ [last ++ tail] := by
  induction chars with
  | nil => exact ⟨[], [], rfl, splitAt_of_absent absent⟩
  | cons c rest ih =>
      obtain ⟨earlier, last, pieces, longer⟩ := ih
      rw [List.cons_append, splitAt, splitAt, pieces, longer]
      by_cases cut : c = sep
      · exact ⟨[] :: earlier, last, if_pos cut, if_pos cut⟩
      · rw [if_neg cut, if_neg cut]
        cases earlier with
        | nil => exact ⟨[], c :: last, rfl, rfl⟩
        | cons first others => exact ⟨(c :: first) :: others, last, rfl, rfl⟩

theorem split_ne_nil (sep : Char) (text : String) : split sep text ≠ [] := by
  rw [split, Ne, List.map_eq_nil_iff]
  exact splitAt_ne_nil sep text.toList

/-- A piece has no separator, and no character that the text has not. -/
theorem mem_of_mem_splitAt {sep c : Char} {chars piece : List Char}
    (member : piece ∈ splitAt sep chars) (inside : c ∈ piece) : c ≠ sep ∧ c ∈ chars := by
  induction chars generalizing piece with
  | nil =>
      obtain rfl : piece = [] := List.mem_singleton.1 member
      cases inside
  | cons d rest ih =>
      rw [splitAt] at member
      by_cases cut : d = sep
      · rw [if_pos cut, List.mem_cons] at member
        rcases member with rfl | later
        · cases inside
        · exact (ih later inside).imp_right (List.mem_cons_of_mem d)
      · rw [if_neg cut] at member
        obtain ⟨first, others, pieced⟩ := List.exists_cons_of_ne_nil (splitAt_ne_nil sep rest)
        rw [pieced] at member ih
        rcases List.mem_cons.1 member with rfl | later
        · rcases List.mem_cons.1 inside with rfl | deeper
          · exact ⟨cut, List.mem_cons_self⟩
          · exact (ih List.mem_cons_self deeper).imp_right (List.mem_cons_of_mem d)
        · exact (ih (List.mem_cons_of_mem first later) inside).imp_right (List.mem_cons_of_mem d)

theorem mem_of_mem_split {sep c : Char} {text piece : String} (member : piece ∈ split sep text)
    (inside : c ∈ piece.toList) : c ≠ sep ∧ c ∈ text.toList := by
  obtain ⟨chars, listed, rfl⟩ := List.mem_map.1 member
  rw [String.toList_ofList] at inside
  exact mem_of_mem_splitAt listed inside

/-- A text ends before the first separator, or goes on with it. -/
theorem takeWhile_cases (sep : Char) (chars : List Char) :
    chars = chars.takeWhile (· ≠ sep) ∨ ∃ rest, chars = chars.takeWhile (· ≠ sep) ++ sep :: rest := by
  refine (firstPiece_cases sep (String.ofList chars)).imp (fun whole => ?_) fun ⟨rest, cut⟩ => ?_
  · simpa [firstPiece] using congrArg String.toList whole
  · exact ⟨rest.toList, by simpa [firstPiece] using congrArg String.toList cut⟩

theorem not_mem_takeWhile (sep : Char) (chars : List Char) : sep ∉ chars.takeWhile (· ≠ sep) :=
  fun inside => by simpa using List.all_eq_true.1 List.all_takeWhile sep inside

theorem firstPiece_mem_split (sep : Char) (text : String) : firstPiece sep text ∈ split sep text := by
  refine List.mem_map_of_mem ?_
  have absent := not_mem_takeWhile sep text.toList
  rcases takeWhile_cases sep text.toList with whole | ⟨rest, cut⟩
  · rw [← whole] at absent ⊢
    simp [splitAt_of_absent absent]
  · have pieces := splitAt_append absent rest
    rw [← cut] at pieces
    simp [pieces]

theorem lastPiece_mem_split (sep : Char) (text : String) : lastPiece sep text ∈ split sep text := by
  refine List.mem_map_of_mem ?_
  have absent : sep ∉ (text.toList.reverse.takeWhile (· ≠ sep)).reverse :=
    fun inside => not_mem_takeWhile sep _ (List.mem_reverse.1 inside)
  rcases takeWhile_cases sep text.toList.reverse with whole | ⟨rest, cut⟩
  · rw [← whole, List.reverse_reverse] at absent ⊢
    simp [splitAt_of_absent absent]
  · have turned := congrArg List.reverse cut
    rw [List.reverse_reverse, List.reverse_append, List.reverse_cons, List.append_assoc,
      List.singleton_append] at turned
    have pieces := splitAt_append_cons sep rest.reverse (text.toList.reverse.takeWhile (· ≠ sep)).reverse
    rw [← turned, splitAt_of_absent absent] at pieces
    simp [pieces]

section Slashes

variable {piece : String}

theorem split_slashless (slashless : '/' ∉ piece.toList) : split '/' piece = [piece] := by
  rw [split, splitAt_of_absent slashless, List.map_singleton, String.ofList_toList]

theorem split_slash (slashless : '/' ∉ piece.toList) (rest : String) :
    split '/' (piece ++ ("/" ++ rest)) = piece :: split '/' rest := by
  have chars : (piece ++ ("/" ++ rest)).toList = piece.toList ++ '/' :: rest.toList := by
    rw [String.toList_append, String.toList_append]
    rfl
  rw [split, chars, splitAt_append slashless, List.map_cons, String.ofList_toList, split]

end Slashes

end RouteAtlas.Text
