/-
Module: RouteAtlas.Proofs.Files.Descent
Layer: Proofs
Purpose: Where a path ends up that is put together of texts. Texts that lead down keep it under the
  directory it starts from, also with an extension at its end. A text that starts at the root makes the path
  forget that directory, and all that was joined before.
Trusted boundary: none
Main exports: DiskPath.LiesUnder, join_below, below_of_absolute, withExtension_join,
  liesUnder_withExtension
-/
import Mathlib.Data.List.TakeWhile
import RouteAtlas.Proofs.Files.Paths

namespace RouteAtlas

namespace DiskPath

/-- A path lies under a directory if it goes on from there, name by name, and does not end there. -/
def LiesUnder (path directory : DiskPath) : Prop :=
  ∃ names, names ≠ [] ∧ directory.Descends path names

variable {directory path : DiskPath} {piece : String} {pieces : List String}

theorem Descends.liesUnder {names : List String} (descends : directory.Descends path names)
    (below : names ≠ []) : path.LiesUnder directory :=
  ⟨names, below, descends⟩

theorem LiesUnder.sameStart (under : path.LiesUnder directory) :
    path.isAbsolute = directory.isAbsolute := by
  obtain ⟨_, _, descends⟩ := under
  exact descends.sameStart

theorem LiesUnder.components_extend (under : path.LiesUnder directory) :
    directory.components <+: path.components := by
  obtain ⟨names, _, descends⟩ := under
  exact ⟨names.map .name, descends.components.symm⟩

/-! ### Texts that start at the root -/

theorem join_absolute (absolute : (⟨piece⟩ : DiskPath).isAbsolute = true) :
    directory.join piece = ⟨piece⟩ := by
  rw [join]
  exact if_pos absolute

/-- What stands between a path and a relative text that is joined to it. -/
def separator (directory : DiskPath) : String :=
  match directory.text.toList.getLast? with
  | none => ""
  | some last => if last = '/' then "" else "/"

theorem join_relative (relative : (⟨piece⟩ : DiskPath).isAbsolute = false) :
    directory.join piece = ⟨directory.text ++ directory.separator ++ piece⟩ := by
  rw [join, if_neg (by simp [relative]), separator, ← List.head?_reverse]
  cases last : directory.text.toList.reverse.head? with
  | some last => rfl
  | none =>
      have empty : directory.text = "" :=
        String.toList_inj.1 (List.reverse_eq_nil_iff.1 (List.head?_eq_none_iff.1 last))
      simp [empty]

theorem separator_append (front : String) (nonempty : piece ≠ "") :
    separator ⟨front ++ piece⟩ = separator ⟨piece⟩ := by
  have chars : piece.toList ≠ [] := fun empty =>
    nonempty (String.toList_inj.1 (empty.trans String.toList_empty.symm))
  simp only [separator, String.toList_append, List.getLast?_append_of_ne_nil _ chars]

theorem isAbsolute_join_absolute (absolute : path.isAbsolute = true) (next : String) :
    (path.join next).isAbsolute = true := by
  cases relative : (⟨next⟩ : DiskPath).isAbsolute with
  | true => rw [join_absolute relative, relative]
  | false =>
      have nonempty : path.text ≠ "" := fun empty => by
        rw [isAbsolute, empty] at absolute
        cases absolute
      rw [isAbsolute_join relative nonempty, absolute]

/-- A path that has been given its slash needs no other. -/
theorem separator_separator (directory : DiskPath) :
    separator ⟨directory.text ++ directory.separator⟩ = "" := by
  cases last : directory.text.toList.getLast? with
  | none => simp [separator, last]
  | some c =>
      by_cases slash : c = '/'
      · simp [separator, last, slash]
      · simp [separator, last, slash]

/-- It does not matter in which order texts are joined. -/
theorem join_join (directory : DiskPath) (piece next : String) :
    (directory.join piece).join next = directory.join ((⟨piece⟩ : DiskPath).join next).text := by
  cases relativeNext : (⟨next⟩ : DiskPath).isAbsolute with
  | true => rw [join_absolute relativeNext, join_absolute relativeNext, join_absolute relativeNext]
  | false =>
      cases relative : (⟨piece⟩ : DiskPath).isAbsolute with
      | true =>
          have absolute : (⟨((⟨piece⟩ : DiskPath).join next).text⟩ : DiskPath).isAbsolute = true :=
            isAbsolute_join_absolute relative next
          rw [join_absolute relative, join_absolute absolute]
      | false =>
          by_cases empty : piece = ""
          · subst empty
            rw [join_empty, join_relative relative, join_relative relativeNext,
              join_relative relativeNext, String.append_empty, separator_separator, String.append_empty]
          · have inner : (⟨((⟨piece⟩ : DiskPath).join next).text⟩ : DiskPath).isAbsolute = false :=
              (isAbsolute_join relativeNext empty).trans relative
            rw [join_relative inner, join_relative relativeNext, join_relative relativeNext,
              join_relative relative, separator_append _ empty]
            simp only [String.append_assoc]

/-- Texts may be joined to each other first, and then to the directory. -/
theorem join_below (directory : DiskPath) (piece : String) (pieces : List String) :
    directory.join ((⟨piece⟩ : DiskPath).below pieces).text = (directory.join piece).below pieces := by
  induction pieces generalizing piece with
  | nil => rfl
  | cons next rest ih =>
      have step : ∀ start : DiskPath, start.below (next :: rest) = (start.join next).below rest :=
        fun _ => rfl
      rw [step, step, join_join]
      exact ih _

theorem isAbsolute_below (absolute : path.isAbsolute = true) (pieces : List String) :
    (path.below pieces).isAbsolute = true := by
  induction pieces generalizing path with
  | nil => exact absolute
  | cons next rest ih => exact ih (isAbsolute_join_absolute absolute next)

/-- Behind a text that starts at the root nothing is left of the directory. -/
theorem below_of_absolute (directory other : DiskPath)
    (start : ∃ piece ∈ pieces, (⟨piece⟩ : DiskPath).isAbsolute = true) :
    directory.below pieces = other.below pieces ∧ (directory.below pieces).isAbsolute = true := by
  induction pieces generalizing directory other with
  | nil => simp at start
  | cons piece rest ih =>
      by_cases later : ∃ piece ∈ rest, (⟨piece⟩ : DiskPath).isAbsolute = true
      · exact ih _ _ later
      · have absolute : (⟨piece⟩ : DiskPath).isAbsolute = true := by
          obtain ⟨first, member, absolute⟩ := start
          rcases List.mem_cons.1 member with rfl | there
          · exact absolute
          · exact absurd ⟨first, there, absolute⟩ later
        have step : ∀ start : DiskPath, start.below (piece :: rest) = (⟨piece⟩ : DiskPath).below rest :=
          fun start => congrArg (·.below rest) (join_absolute absolute)
        rw [step, step]
        exact ⟨rfl, isAbsolute_below absolute rest⟩

/-! ### Extensions -/

/-- A text without dots leads down unless it starts at the root. -/
theorem inner_of_undotted (relative : (⟨piece⟩ : DiskPath).isAbsolute = false)
    (undotted : '.' ∉ piece.toList) : IsInner piece where
  relative := relative
  downward part listed := by
    have absent : '.' ∉ part.toList := fun inside => undotted (Text.mem_of_mem_split listed inside).2
    constructor <;> rintro rfl <;> exact absent (by decide)

/-- The beginning that is no part of a path's body is over before a text that begins with neither a slash
nor a dot. -/
theorem splitLead_append {front rest : List Char} (spelled : path.text.toList = front ++ rest)
    (more : rest ≠ []) (begins : ∀ c ∈ rest.head?, c ≠ '/' ∧ c ≠ '.') :
    ∃ lead body, path.splitLead = (lead, body ++ rest) ∧ front = lead ++ body := by
  rw [splitLead, spelled]
  cases front with
  | nil =>
      obtain ⟨c, others, rfl⟩ := List.exists_cons_of_ne_nil more
      obtain ⟨notSlash, notDot⟩ := begins c rfl
      refine ⟨[], [], ?_, rfl⟩
      split <;> simp_all
  | cons first front =>
      have longer : front ++ rest ≠ [] := List.append_ne_nil_of_right_ne_nil front more
      rw [List.cons_append]
      split
      · next slash =>
          obtain ⟨rfl, rfl⟩ := List.cons.inj slash
          exact ⟨['/'], front, rfl, rfl⟩
      · next alone => exact absurd (List.cons.inj alone).2 longer
      · next dotted =>
          obtain ⟨rfl, same⟩ := List.cons.inj dotted
          exact ⟨['.'], front, by rw [same], rfl⟩
      · exact ⟨[], first :: front, rfl, rfl⟩

theorem dropIdleEnd_slashes {slashes rest : List Char} {last : Char}
    (idle : ∀ c ∈ slashes, c = '/') (notSlash : last ≠ '/') (notDot : last ≠ '.') :
    dropIdleEnd (slashes ++ last :: rest) = last :: rest := by
  induction slashes with
  | nil =>
      rw [List.nil_append, dropIdleEnd]
      · exact fun _ same => notSlash (List.cons.inj same).1
      · exact fun same => notDot (List.cons.inj same).1
      · exact fun _ same => notDot (List.cons.inj same).1
  | cons c others ih =>
      obtain rfl := idle c List.mem_cons_self
      rw [List.cons_append, dropIdleEnd]
      exact ih fun d member => idle d (List.mem_cons_of_mem _ member)

theorem exists_cut_slashes {chars : List Char} (notOnly : ∃ c ∈ chars, c ≠ '/') :
    ∃ core last slashes, chars = core ++ last :: slashes ∧ last ≠ '/' ∧ ∀ c ∈ slashes, c = '/' := by
  induction chars with
  | nil => simp at notOnly
  | cons c rest ih =>
      by_cases later : ∃ d ∈ rest, d ≠ '/'
      · obtain ⟨core, last, slashes, rfl, notSlash, idle⟩ := ih later
        exact ⟨c :: core, last, slashes, rfl, notSlash, idle⟩
      · obtain ⟨d, member, notSlash⟩ := notOnly
        rcases List.mem_cons.1 member with rfl | there
        · exact ⟨[], d, rest, rfl, notSlash, by simpa using later⟩
        · exact absurd ⟨d, there, notSlash⟩ later

theorem isAbsolute_cut {core slashes : List Char} {last : Char}
    (spelled : piece.toList = core ++ last :: slashes) (tail : String) :
    (⟨String.ofList (core ++ [last]) ++ tail⟩ : DiskPath).isAbsolute =
      (⟨piece⟩ : DiskPath).isAbsolute := by
  rw [isAbsolute, isAbsolute, spelled]
  cases core <;> simp

theorem extension?_of_undotted {name : String} (undotted : '.' ∉ name.toList) :
    extension? name = none := by
  have whole : name.toList.reverse.takeWhile (· ≠ '.') = name.toList.reverse := by
    refine List.takeWhile_eq_self_iff.2 fun c member => ?_
    have other : c ≠ '.' := fun same => undotted (same ▸ List.mem_reverse.1 member)
    simpa using other
  rw [extension?, whole, List.drop_length]

theorem partsOf_ne_nil (relative : (⟨piece⟩ : DiskPath).isAbsolute = false) (nonempty : piece ≠ "") :
    partsOf piece ≠ [] := by
  have first := Text.firstPiece_mem_split '/' piece
  have filled : Text.firstPiece '/' piece ≠ "" := by
    intro empty
    have chars := congrArg String.toList empty
    rw [isAbsolute] at relative
    rw [Text.firstPiece, String.toList_ofList, String.toList_empty] at chars
    cases spelled : piece.toList with
    | nil => exact nonempty (String.toList_inj.1 (spelled.trans String.toList_empty.symm))
    | cons c rest => simp_all
  exact List.ne_nil_of_mem (List.mem_filter.2 ⟨first, by simpa using filled⟩)

/-- The last part of a text is what gets the extension, in front of the slashes that the text ends with. -/
theorem withExtension_join {core slashes : List Char} {last : Char}
    (spelled : piece.toList = core ++ last :: slashes) (notSlash : last ≠ '/')
    (idle : ∀ c ∈ slashes, c = '/') (undotted : '.' ∉ piece.toList)
    (relative : (⟨piece⟩ : DiskPath).isAbsolute = false) (extension : String) :
    (directory.join piece).withExtension extension =
      directory.join (String.ofList (core ++ [last]) ++ ("." ++ extension)) := by
  have nonempty : piece ≠ "" := by
    rintro rfl
    simp at spelled
  -- The file name is the last part of the text, and has no extension.
  obtain ⟨name, named, absent⟩ : ∃ name, (directory.join piece).fileName? = some name ∧
      '.' ∉ name.toList := by
    have descends : directory.Descends (directory.join piece) (partsOf piece) :=
      descends_join (inner_of_undotted relative undotted)
    obtain ⟨front, name, parts⟩ := (List.eq_nil_or_concat (partsOf piece)).resolve_left
      (partsOf_ne_nil relative nonempty)
    have listed : name ∈ partsOf piece := by simp [parts]
    refine ⟨name, ?_, fun dot => undotted (Text.mem_of_mem_split (List.mem_filter.1 listed).1 dot).2⟩
    rw [fileName?, descends.components, parts, List.concat_eq_append, List.map_append,
      List.map_singleton, ← List.append_assoc, List.getLast?_concat]
  have notDot : ∀ c ∈ piece.toList, c ≠ '.' := fun c member same => undotted (same ▸ member)
  have begins : ∀ c ∈ piece.toList.head?, c ≠ '/' ∧ c ≠ '.' := fun c first => by
    refine ⟨?_, notDot c (List.mem_of_head? first)⟩
    rintro rfl
    simp [isAbsolute, Option.mem_def.1 first] at relative
  -- Before the text stands the directory, in which alone the lead of the path can be.
  obtain ⟨lead, body, split, front⟩ : ∃ lead body,
      (directory.join piece).splitLead = (lead, body ++ piece.toList) ∧
        directory.text.toList ++ directory.separator.toList = lead ++ body :=
    splitLead_append (by simp [join_relative relative]) (by simp [spelled]) begins
  have kept : dropIdleEnd (body ++ piece.toList).reverse = last :: (body ++ core).reverse := by
    rw [spelled, ← List.append_assoc, List.reverse_append, List.reverse_cons, List.append_assoc,
      List.singleton_append]
    exact dropIdleEnd_slashes (fun c member => idle c (List.mem_reverse.1 member)) notSlash
      (notDot last (by simp [spelled]))
  rw [join_relative ((isAbsolute_cut spelled _).trans relative), withExtension, named]
  simp only [split, kept, extension?_of_undotted absent, Option.elim_none, List.drop_zero]
  congr 1
  refine String.toList_inj.1 ?_
  simp only [String.toList_append, String.toList_ofList, front, List.reverse_cons, List.reverse_reverse,
    List.append_assoc]

/-- An extension does not lead elsewhere. -/
theorem inner_append_extension {front extension : String} (undotted : '.' ∉ front.toList)
    (relative : (⟨front ++ ("." ++ extension)⟩ : DiskPath).isAbsolute = false)
    (slashless : '/' ∉ extension.toList) (long : 2 ≤ extension.length) :
    IsInner (front ++ ("." ++ extension)) ∧ partsOf (front ++ ("." ++ extension)) ≠ [] := by
  have absent : '/' ∉ ("." ++ extension).toList := by simpa using slashless
  obtain ⟨earlier, last, pieces, longer⟩ := Text.splitAt_append_absent absent front.toList
  have parts : Text.split '/' (front ++ ("." ++ extension)) =
      earlier.map String.ofList ++ [String.ofList (last ++ ("." ++ extension).toList)] := by
    rw [Text.split, String.toList_append, longer, List.map_append, List.map_singleton]
  have lengthy : ∀ short : String, short.length ≤ 2 →
      String.ofList (last ++ ("." ++ extension).toList) ≠ short := by
    rintro _ few rfl
    have dot : ".".length = 1 := by decide
    simp at few
    omega
  refine ⟨⟨relative, fun part listed => ?_⟩, ?_⟩
  · rw [parts, List.mem_append, List.mem_singleton] at listed
    rcases listed with before | rfl
    · obtain ⟨chars, member, rfl⟩ := List.mem_map.1 before
      have inFront : chars ∈ Text.splitAt '/' front.toList := by
        rw [pieces]
        exact List.mem_append_left _ member
      have dotless : '.' ∉ chars := fun inside => undotted (Text.mem_of_mem_splitAt inFront inside).2
      have free : '.' ∉ (String.ofList chars).toList := by rwa [String.toList_ofList]
      constructor <;> intro same <;> exact free (same ▸ by decide)
    · exact ⟨lengthy "." (by decide), lengthy ".." (by decide)⟩
  · refine List.ne_nil_of_mem (List.mem_filter.2 ⟨?_, decide_eq_true (lengthy "" (by decide))⟩)
    rw [parts]
    exact List.mem_append_right _ List.mem_cons_self

/-- With another extension a path still lies under the directory that it starts from. -/
theorem liesUnder_withExtension (relative : (⟨piece⟩ : DiskPath).isAbsolute = false)
    (undotted : '.' ∉ piece.toList) (nonempty : piece ≠ "") {extension : String}
    (slashless : '/' ∉ extension.toList) (long : 2 ≤ extension.length) :
    ((directory.join piece).withExtension extension).LiesUnder directory := by
  obtain ⟨first, rest, chars⟩ : ∃ first rest, piece.toList = first :: rest :=
    List.exists_cons_of_ne_nil fun empty =>
      nonempty (String.toList_inj.1 (empty.trans String.toList_empty.symm))
  have notSlash : first ≠ '/' := by
    rintro rfl
    simp [isAbsolute, chars] at relative
  obtain ⟨core, last, slashes, spelled, lastNotSlash, idle⟩ :=
    exists_cut_slashes ⟨first, chars ▸ List.mem_cons_self, notSlash⟩
  have absent : '.' ∉ (String.ofList (core ++ [last])).toList := by
    intro inside
    refine undotted (spelled ▸ ?_)
    rw [String.toList_ofList] at inside
    exact List.append_cons core last slashes ▸ List.mem_append_left _ inside
  obtain ⟨inner, parts⟩ :=
    inner_append_extension absent ((isAbsolute_cut spelled _).trans relative) slashless long
  rw [withExtension_join spelled lastNotSlash idle undotted relative]
  exact (descends_join inner).liesUnder parts

theorem isAbsolute_withExtension (absolute : path.isAbsolute = true) (extension : String) :
    (path.withExtension extension).isAbsolute = true := by
  obtain ⟨rest, spelled⟩ : ∃ rest, path.text.toList = '/' :: rest := by
    rw [isAbsolute] at absolute
    exact List.head?_eq_some_iff.1 (eq_of_beq absolute)
  rw [withExtension]
  cases path.fileName? with
  | none => exact absolute
  | some name => simp [splitLead, spelled, isAbsolute]

end DiskPath

end RouteAtlas
