/-
Module: RouteAtlas.Proofs.Project.Listing
Layer: Proofs
Purpose: What is listed of a project. A Python file is listed if none of the directories that lead to it
  from the root is passed over, however deep it is; what the root or the file is called does not matter.
  The files are listed once each and in the order of their paths, which is also what comes out if the
  directories are walked in any other order and the files are sorted afterwards.
Trusted boundary: none
Main exports: FileTree.WellFormed, extension?_eq_some_iff, IsSource, isSource_cons_iff, Lists,
  exists_lists, Entry, Walked, walked_perm, walked_listing, eq_of_sorted, pythonFiles_listed
-/
import Mathlib.Data.List.Pairwise
import RouteAtlas.Project.Listing
import RouteAtlas.Proofs.Data.Bindings
import RouteAtlas.Proofs.Files.Paths

namespace RouteAtlas

/-- The entries of every directory of a tree are in order of their names, and no two have the same
name. -/
inductive FileTree.WellFormed : FileTree → Prop where
  | file (content : ByteArray) : WellFormed (.file content)
  | link (target : String) : WellFormed (.link target)
  | directory {entries : KeyMap FileTree} (sorted : KeyMap.Sorted entries)
      (named : ∀ entry ∈ entries, IsFileName entry.1) (below : ∀ entry ∈ entries, WellFormed entry.2) :
      WellFormed (.directory entries)

namespace Project

/-! ### Names -/

/-- A directory is passed over if it is hidden or has one of the names. -/
theorem isSkipped_iff (name : String) :
    isSkipped name = true ↔ (∃ rest, name = "." ++ rest) ∨ name ∈ skippedDirectories := by
  rw [isSkipped, Bool.or_eq_true, Text.hasPrefix_iff, List.contains_iff_mem]

theorem drop_length_takeWhile {α : Type} (p : α → Bool) (list : List α) :
    list.drop (list.takeWhile p).length = list.dropWhile p := by
  induction list with
  | nil => rfl
  | cons head rest ih =>
      cases here : p head with
      | true => simpa [here] using ih
      | false => simp [here]

/-- A name has an extension if there is something before its last dot. -/
theorem extension?_eq_some_iff {name extension : String} (plain : '.' ∉ extension.toList)
    (nonempty : extension ≠ "") :
    extension? name = some extension ↔ ∃ stem, stem ≠ "" ∧ name = stem ++ "." ++ extension := by
  constructor
  · intro found
    have halves : name.toList.reverse = name.toList.reverse.takeWhile (· ≠ '.') ++
        name.toList.reverse.dropWhile (· ≠ '.') := List.takeWhile_append_dropWhile.symm
    simp only [extension?, drop_length_takeWhile] at found
    split at found
    · cases found
    · cases found
    · next dot front proper behind =>
        obtain ⟨_, same⟩ := Option.ite_none_left_eq_some.1 found
        have isDot : dot = '.' := by
          have stops := List.head?_dropWhile_not (· ≠ '.') name.toList.reverse
          rw [behind] at stops
          simpa using stops
        refine ⟨String.ofList front.reverse, ?_, String.toList_inj.1 ?_⟩
        · intro empty
          exact proper (by simpa using congrArg String.toList empty)
        · rw [behind, isDot] at halves
          rw [← Option.some.inj same]
          simpa using congrArg List.reverse halves
  · rintro ⟨stem, something, rfl⟩
    have chars : (stem ++ "." ++ extension).toList.reverse =
        extension.toList.reverse ++ '.' :: stem.toList.reverse := by simp
    have ending : ((extension.toList.reverse ++ '.' :: stem.toList.reverse).takeWhile (· ≠ '.')) =
        extension.toList.reverse := by
      rw [List.takeWhile_append_of_pos]
      · simp
      · intro c member
        have other : c ≠ '.' := fun same => plain (same ▸ List.mem_reverse.1 member)
        simpa using other
    have proper : stem.toList.reverse ≠ [] := by
      intro empty
      exact something (String.toList_inj.1 (by simpa using empty))
    have notParent : stem ++ "." ++ extension ≠ ".." := by
      intro same
      have dots : ∀ c ∈ extension.toList, c = '.' := by
        intro c member
        have among : c ∈ (stem ++ "." ++ extension).toList := by simp [member]
        rw [same] at among
        simpa using among
      cases chars : extension.toList with
      | nil => exact nonempty (String.toList_inj.1 (chars.trans String.toList_empty.symm))
      | cons c rest =>
          have member : c ∈ extension.toList := chars ▸ List.mem_cons_self
          exact plain (dots c member ▸ member)
    obtain ⟨c, front, behind⟩ := List.exists_cons_of_ne_nil proper
    simp only [extension?, chars, ending, List.drop_left, if_neg notParent, List.reverse_reverse,
      String.ofList_toList]

/-- A file is a Python file if its name ends in `.py` and has something before that. -/
theorem extension?_python_iff (name : String) :
    extension? name = some "py" ↔ ∃ stem, stem ≠ "" ∧ name = stem ++ ".py" := by
  have together : ∀ stem : String, stem ++ "." ++ "py" = stem ++ ".py" := fun stem => by
    rw [String.append_assoc]
    rfl
  simp only [extension?_eq_some_iff (by decide : '.' ∉ "py".toList) (by decide), together]

/-! ### Sources -/

/-- A Python file at a location, the directories on the way not being passed over. -/
structure IsSource (tree : FileTree) (location : Location) : Prop where
  present : ∃ content, tree.at? location = some (.file content)
  python : ∃ stem, stem ≠ "" ∧ location.getLast? = some (stem ++ ".py")
  visible : ∀ directory ∈ location.dropLast,
    (¬ ∃ rest, directory = "." ++ rest) ∧ directory ∉ skippedDirectories

/-- A source that is met in an entry of a directory: the entry itself, or one below it. -/
def EntryHolds (name : String) (node : FileTree) (rest : Location) : Prop :=
  (rest = [] ∧ (∃ content, node = .file content) ∧ extension? name = some "py") ∨
    ∃ inner, node = .directory inner ∧ isSkipped name = false ∧ IsSource (.directory inner) rest

section Sources

variable {entries others : KeyMap FileTree} {name : String} {node : FileTree} {rest location : Location}

theorem not_isSource_nil : ¬ IsSource (.directory entries) [] := by
  rintro ⟨⟨content, isFile⟩, _, _⟩
  cases isFile

/-- A source is in the entry that its location begins with. -/
theorem isSource_cons_iff :
    IsSource (.directory entries) (name :: rest) ↔
      ∃ node, KeyMap.find? name entries = some node ∧ EntryHolds name node rest := by
  have step : (FileTree.directory entries).at? (name :: rest) =
      (KeyMap.find? name entries).bind fun child => child.at? rest := rfl
  constructor
  · rintro ⟨⟨content, isFile⟩, python, visible⟩
    rw [step] at isFile
    obtain ⟨node, found, isFile⟩ := Option.bind_eq_some_iff.1 isFile
    refine ⟨node, found, ?_⟩
    cases rest with
    | nil =>
        obtain ⟨stem, nonempty, last⟩ := python
        refine .inl ⟨rfl, ⟨content, Option.some.inj isFile⟩, ?_⟩
        exact (extension?_python_iff name).2 ⟨stem, nonempty, Option.some.inj last⟩
    | cons next rest =>
        cases node with
        | file other => cases isFile
        | link target => cases isFile
        | directory inner =>
            refine .inr ⟨inner, rfl, ?_, ⟨content, isFile⟩, python, fun directory there => ?_⟩
            · rw [Bool.eq_false_iff, Ne, isSkipped_iff, not_or]
              exact visible name List.mem_cons_self
            · exact visible directory (List.mem_cons_of_mem name there)
  · rintro ⟨node, found, ⟨rfl, ⟨content, rfl⟩, python⟩ | ⟨inner, rfl, shown, source⟩⟩
    · obtain ⟨stem, nonempty, named⟩ := (extension?_python_iff name).1 python
      refine ⟨⟨content, ?_⟩, ⟨stem, nonempty, congrArg some named⟩, fun directory there => ?_⟩
      · rw [step, found]
        rfl
      · cases there
    · obtain ⟨⟨content, isFile⟩, ⟨stem, nonempty, last⟩, visible⟩ := source
      cases rest with
      | nil => cases isFile
      | cons next rest =>
          refine ⟨⟨content, ?_⟩, ⟨stem, nonempty, last⟩, fun directory there => ?_⟩
          · rw [step, found]
            exact isFile
          · rcases List.mem_cons.1 there with rfl | deeper
            · rwa [Bool.eq_false_iff, Ne, isSkipped_iff, not_or] at shown
            · exact visible directory deeper

/-- Of the sources below a directory some are in its first entry, and the others below the rest. -/
theorem isSource_entries_iff (sorted : KeyMap.Sorted ((name, node) :: others)) :
    IsSource (.directory ((name, node) :: others)) location ↔
      (∃ rest, location = name :: rest ∧ EntryHolds name node rest) ∨
        IsSource (.directory others) location := by
  have absent : KeyMap.find? name others = none :=
    KeyMap.find?_eq_none_of_lt (List.pairwise_cons.1 sorted).1
  cases location with
  | nil => simp [not_isSource_nil]
  | cons first rest =>
      rw [isSource_cons_iff, isSource_cons_iff]
      by_cases same : first = name
      · subst same
        simp [KeyMap.find?, absent]
      · simp [KeyMap.find?, same]

theorem listingOfEntries_cons (here : DiskPath) (name : String) (node : FileTree)
    (others : List (String × FileTree)) :
    listingOfEntries here ((name, node) :: others) =
      listingOfEntries here [(name, node)] ++ listingOfEntries here others := by
  cases node with
  | file content => simp [listingOfEntries]
  | link target => simp [listingOfEntries]
  | directory inner => simp [listingOfEntries]

/-- Locations of which the paths are listed for some entries: they are in increasing order, and they are
those of the sources. -/
structure Lists (entries : KeyMap FileTree) (locations : List Location) : Prop where
  increasing : locations.Pairwise (· < ·)
  complete : ∀ location, location ∈ locations ↔ IsSource (.directory entries) location
  listed : ∀ here, listingOfEntries here entries = locations.map here.below

/-- The same for one entry, the locations being without its name. -/
structure ListsEntry (name : String) (node : FileTree) (rests : List Location) : Prop where
  increasing : rests.Pairwise (· < ·)
  complete : ∀ rest, rest ∈ rests ↔ EntryHolds name node rest
  listed : ∀ here, listingOfEntries here [(name, node)] = rests.map fun rest => here.below (name :: rest)

theorem Lists.nothing : Lists [] [] where
  increasing := .nil
  complete := fun location => by
    refine iff_of_false List.not_mem_nil fun source => ?_
    cases location with
    | nil => exact not_isSource_nil source
    | cons name rest =>
        obtain ⟨_, found, _⟩ := isSource_cons_iff.1 source
        cases found
  listed := fun here => by rw [listingOfEntries, List.map_nil]

/-- An entry that nothing is listed for. -/
theorem ListsEntry.nothing (empty : ∀ rest, ¬ EntryHolds name node rest)
    (listed : ∀ here, listingOfEntries here [(name, node)] = []) : ListsEntry name node [] where
  increasing := .nil
  complete := fun rest => iff_of_false List.not_mem_nil (empty rest)
  listed := fun here => by rw [listed, List.map_nil]

/-- For an entry some locations are listed, if they are for what is in it. -/
theorem exists_listsEntry
    (within : ∀ inner, node = .directory inner → ∃ locations, Lists inner locations) :
    ∃ rests, ListsEntry name node rests := by
  cases node with
  | file content =>
      by_cases python : extension? name = some "py"
      · refine ⟨[[]], List.pairwise_singleton _ _, fun rest => ?_, fun here => ?_⟩
        · simp [EntryHolds, python]
        · simp [listingOfEntries, python, DiskPath.below]
      · exact ⟨[], .nothing (by simp [EntryHolds, python]) (by simp [listingOfEntries, python])⟩
  | link target => exact ⟨[], .nothing (by simp [EntryHolds]) (by simp [listingOfEntries])⟩
  | directory inner =>
      cases passed : isSkipped name with
      | true =>
          exact ⟨[], .nothing (by simp [EntryHolds, passed]) (by simp [listingOfEntries, passed])⟩
      | false =>
          obtain ⟨rests, increasing, complete, listed⟩ := within inner rfl
          refine ⟨rests, increasing, fun rest => ?_, fun here => ?_⟩
          · simp [EntryHolds, passed, complete]
          · simp [listingOfEntries, passed, listed, DiskPath.below]

/-- What is listed for the first entry comes before what is listed for the others. -/
theorem ListsEntry.cons {rests locations : List Location} (first : ListsEntry name node rests)
    (later : Lists others locations) (sorted : KeyMap.Sorted ((name, node) :: others)) :
    Lists ((name, node) :: others) (rests.map (name :: ·) ++ locations) where
  increasing := by
    refine List.pairwise_append.2 ⟨?_, later.increasing, ?_⟩
    · exact List.pairwise_map.2 (first.increasing.imp List.cons_lt_cons_self.2)
    · intro early there late member
      obtain ⟨rest, _, rfl⟩ := List.mem_map.1 there
      cases late with
      | nil => exact absurd ((later.complete []).1 member) not_isSource_nil
      | cons other more =>
          obtain ⟨_, found, _⟩ := isSource_cons_iff.1 ((later.complete _).1 member)
          exact List.Lex.rel ((List.pairwise_cons.1 sorted).1 _ (KeyMap.mem_of_find? found))
  complete := fun location => by
    rw [List.mem_append, later.complete, isSource_entries_iff sorted, List.mem_map]
    simp only [first.complete, eq_comm, and_comm]
  listed := fun here => by
    rw [listingOfEntries_cons, first.listed, later.listed, List.map_append, List.map_map]
    rfl

/-- For a directory exactly the sources below it are listed. The recursion is on the entries and into
them. -/
theorem exists_lists : ∀ entries : KeyMap FileTree, (FileTree.directory entries).WellFormed →
    ∃ locations, Lists entries locations
  | [], _ => ⟨[], .nothing⟩
  | (name, node) :: others, .directory sorted named below => by
      have othersFormed : (FileTree.directory others).WellFormed :=
        .directory (List.pairwise_cons.1 sorted).2
          (fun entry there => named entry (List.mem_cons_of_mem _ there))
          (fun entry there => below entry (List.mem_cons_of_mem _ there))
      have within : ∀ inner, node = .directory inner → ∃ locations, Lists inner locations := by
        rintro inner rfl
        exact exists_lists inner (below _ List.mem_cons_self)
      obtain ⟨rests, first⟩ := exists_listsEntry within
      obtain ⟨locations, later⟩ := exists_lists others othersFormed
      exact ⟨_, first.cons later sorted⟩
termination_by entries => sizeOf entries

/-- The names that lead to a source can all name a file. -/
theorem IsSource.names (wellFormed : (FileTree.directory entries).WellFormed)
    (source : IsSource (.directory entries) location) : ∀ name ∈ location, IsFileName name := by
  induction location generalizing entries with
  | nil => exact fun name there => nomatch there
  | cons first rest ih =>
      obtain ⟨node, found, held⟩ := isSource_cons_iff.1 source
      have there := KeyMap.mem_of_find? found
      cases wellFormed with
      | directory _ named below =>
          intro name member
          rcases List.mem_cons.1 member with rfl | later
          · exact named _ there
          · rcases held with ⟨rfl, _⟩ | ⟨inner, rfl, _, deeper⟩
            · cases later
            · exact ih (below _ there) deeper name later

end Sources

/-! ### Walks -/

/-- An entry of a directory, together with the path to the directory. -/
structure Entry where
  directory : DiskPath
  name : String
  node : FileTree

namespace Entry

/-- What is listed when an entry is met: the entry itself, if it is a Python file. -/
def listed (entry : Entry) : List DiskPath :=
  match entry.node with
  | .file _ => if extension? entry.name = some "py" then [entry.directory.join entry.name] else []
  | _ => []

/-- The entries of a directory. -/
def within (directory : DiskPath) (entries : List (String × FileTree)) : List Entry :=
  entries.map fun entry => ⟨directory, entry.1, entry.2⟩

/-- What there is to go on with when an entry is met: its own entries, if it is a directory that is not
passed over. -/
def opened (entry : Entry) : List Entry :=
  match entry.node with
  | .directory entries =>
      if isSkipped entry.name then [] else within (entry.directory.join entry.name) entries
  | _ => []

/-- What is listed of an entry, with all that is below it. -/
def below (entry : Entry) : List DiskPath :=
  listingOfEntries entry.directory [(entry.name, entry.node)]

theorem flatMap_below_within (here : DiskPath) (entries : List (String × FileTree)) :
    (within here entries).flatMap below = listingOfEntries here entries := by
  induction entries with
  | nil =>
      rw [listingOfEntries]
      rfl
  | cons entry others ih => rw [listingOfEntries_cons, ← ih, within, within, List.map_cons,
      List.flatMap_cons, below]

theorem below_eq (entry : Entry) : entry.below = entry.listed ++ entry.opened.flatMap below := by
  obtain ⟨here, name, node⟩ := entry
  cases node with
  | file content => simp [below, listed, opened, listingOfEntries]
  | link target => simp [below, listed, opened, listingOfEntries]
  | directory inner =>
      cases passed : isSkipped name with
      | true => simp [below, listed, opened, listingOfEntries, passed]
      | false => simp [below, listed, opened, listingOfEntries, passed, flatMap_below_within]

end Entry

/-- A walk from some entries, in any order: the next one may be any of those that are still to be met, and
the entries of a directory are met after it. Every entry is met once. -/
inductive Walked : List Entry → List DiskPath → Prop where
  | done : Walked [] []
  | met {pending others : List Entry} {entry : Entry} {found : List DiskPath}
      (next : pending.Perm (entry :: others)) (rest : Walked (entry.opened ++ others) found) :
      Walked pending (entry.listed ++ found)

section Walks

variable {pending others : List Entry} {found : List DiskPath}

/-- Whatever the order of a walk is, it finds the same files. -/
theorem walked_perm (walked : Walked pending found) : found.Perm (pending.flatMap Entry.below) := by
  induction walked with
  | done => exact .nil
  | @met pending others entry found next rest ih =>
      have whole := next.flatMap_right Entry.below
      rw [List.flatMap_cons, Entry.below_eq, List.append_assoc, ← List.flatMap_append] at whole
      exact (ih.append_left entry.listed).trans whole.symm

/-- The files are listed in the order of one of the walks, which goes through every directory before it
goes on. The recursion is on the entries and into them. -/
theorem walked_listing (here : DiskPath) : ∀ (entries : List (String × FileTree)) {others : List Entry}
    {found : List DiskPath}, Walked others found →
      Walked (Entry.within here entries ++ others) (listingOfEntries here entries ++ found)
  | [], others, found, walked => by
      rw [listingOfEntries]
      exact walked
  | (name, node) :: rest, others, found, walked => by
      have later := walked_listing here rest walked
      have inside : Walked (Entry.opened ⟨here, name, node⟩ ++ (Entry.within here rest ++ others))
          ((Entry.opened ⟨here, name, node⟩).flatMap Entry.below ++
            (listingOfEntries here rest ++ found)) := by
        cases node with
        | file content => exact later
        | link target => exact later
        | directory inner =>
            cases passed : isSkipped name with
            | true => simpa [Entry.opened, passed] using later
            | false =>
                simpa [Entry.opened, passed, Entry.flatMap_below_within] using
                  walked_listing (here.join name) inner later
      have first : Walked (⟨here, name, node⟩ :: (Entry.within here rest ++ others))
          (Entry.below ⟨here, name, node⟩ ++ (listingOfEntries here rest ++ found)) := by
        rw [Entry.below_eq, List.append_assoc]
        exact .met (.refl _) inside
      rw [listingOfEntries_cons, List.append_assoc]
      exact first
termination_by entries => sizeOf entries

end Walks

/-! ### Files -/

/-- A list in strictly increasing order is the only ordered list of its members. -/
theorem eq_of_sorted {files sorted : List DiskPath} (increasing : files.Pairwise DiskPath.Before)
    (same : sorted.Perm files) (ordered : sorted.Pairwise fun first second => ¬ second.Before first) :
    sorted = files := by
  have comparable : ∀ first ∈ files, ∀ second ∈ files, first ≠ second →
      first.Before second ∨ second.Before first := by
    have symm : Std.Symm fun first second : DiskPath =>
        first.Before second ∨ second.Before first := ⟨fun _ _ => Or.symm⟩
    exact (increasing.imp Or.inl).forall
  have alsoOrdered : files.Pairwise fun first second => ¬ second.Before first :=
    increasing.imp fun before => before.asymm
  refine List.Perm.eq_of_pairwise (fun first second there found notAfter notBefore => ?_) ordered
    alsoOrdered same
  by_contra different
  rcases comparable first (same.subset there) second found different with before | after
  · exact notBefore before
  · exact notAfter after

/-- Exactly the Python files are listed that no directory which is passed over leads to: the path of each
of them is in the list once, and the paths are in increasing order. What the root is called does not
matter, and neither does the order in which the directories are walked: the files that any walk finds are
this list once they are sorted. -/
theorem pythonFiles_listed {disk : Disk} {root : DiskPath} {entries : KeyMap FileTree}
    (there : disk.node? root = some (.directory entries))
    (wellFormed : (FileTree.directory entries).WellFormed) :
    ∃ files, pythonFiles disk root = .ok files ∧
      (∀ path, path ∈ files ↔
        ∃ location, IsSource (.directory entries) location ∧ root.below location = path) ∧
      (∀ location other, IsSource (.directory entries) location → IsSource (.directory entries) other →
        root.below location = root.below other → location = other) ∧
      files.Nodup ∧ files.Pairwise DiskPath.Before ∧ Walked (Entry.within root entries) files ∧
      ∀ found sorted, Walked (Entry.within root entries) found → sorted.Perm found →
        sorted.Pairwise (fun first second => ¬ second.Before first) → sorted = files := by
  obtain ⟨locations, increasing, complete, listed⟩ := exists_lists entries wellFormed
  have names : ∀ location ∈ locations, ∀ name ∈ location, IsFileName name := fun location member =>
    ((complete location).1 member).names wellFormed
  have ordered : (locations.map root.below).Pairwise DiskPath.Before :=
    List.pairwise_map.2 (increasing.imp_of_mem fun first second less =>
      DiskPath.below_before (names _ first) (names _ second) less)
  refine ⟨locations.map root.below, ?_, fun path => ?_, fun location other source another => ?_, ?_,
    ordered, ?_, fun found sorted walked same => ?_⟩
  · rw [pythonFiles, there, ← listed]
  · simp only [List.mem_map, complete]
  · exact DiskPath.below_injective (source.names wellFormed) (another.names wellFormed)
  · exact ordered.imp fun before equal => (equal ▸ before).asymm (equal ▸ before)
  · have walk := walked_listing root entries .done
    rwa [List.append_nil, List.append_nil, listed] at walk
  · have whole := walked_perm walked
    rw [Entry.flatMap_below_within, listed] at whole
    exact eq_of_sorted ordered (same.trans whole)

/-- The entries of a project in a directory that is itself called `env`. -/
def envEntries : KeyMap FileTree :=
  [(".git", .directory [("hook.py", .file "".toUTF8)]),
    (".settings.py", .file "".toUTF8),
    ("blog", .directory [("migrations", .directory [("first.py", .file "".toUTF8)]),
      ("urls.py", .file "".toUTF8)]),
    ("notes.txt", .file "".toUTF8)]

/-- The disk that the project is on. -/
def envProject : Disk := { tree := .directory [("env", .directory envEntries)] }

theorem envEntries_wellFormed : (FileTree.directory envEntries).WellFormed := by
  have hooks : (FileTree.directory [("hook.py", .file "".toUTF8)]).WellFormed :=
    .directory (by decide) (by decide) (by simpa using .file _)
  have migrations : (FileTree.directory [("first.py", .file "".toUTF8)]).WellFormed :=
    .directory (by decide) (by decide) (by simpa using .file _)
  have blog : (FileTree.directory [("migrations", .directory [("first.py", .file "".toUTF8)]),
      ("urls.py", .file "".toUTF8)]).WellFormed :=
    .directory (by decide) (by decide) (by simpa using ⟨migrations, .file _⟩)
  exact .directory (by decide) (by decide) (by simpa [envEntries] using ⟨hooks, .file _, blog, .file _⟩)

/-- Of the files of the project two are listed. The others are passed over with a directory above them, or
are no Python files. -/
theorem envProject_sources :
    envProject.node? ⟨"/env"⟩ = some (.directory envEntries) ∧
      pythonFiles envProject ⟨"/env"⟩ = .ok [⟨"/env/.settings.py"⟩, ⟨"/env/blog/urls.py"⟩] ∧
      ∀ found sorted, Walked (Entry.within ⟨"/env"⟩ envEntries) found → sorted.Perm found →
        sorted.Pairwise (fun first second => ¬ second.Before first) →
        sorted = [⟨"/env/.settings.py"⟩, ⟨"/env/blog/urls.py"⟩] := by
  have there : envProject.node? ⟨"/env"⟩ = some (.directory envEntries) := rfl
  have listed : pythonFiles envProject ⟨"/env"⟩ =
      .ok [⟨"/env/.settings.py"⟩, ⟨"/env/blog/urls.py"⟩] := by
    rw [pythonFiles, there]
    simp [envEntries, listingOfEntries]
    decide +kernel
  obtain ⟨files, same, _, _, _, _, _, found⟩ := pythonFiles_listed there envEntries_wellFormed
  rw [listed] at same
  cases same
  exact ⟨there, listed, found⟩

end Project

end RouteAtlas
