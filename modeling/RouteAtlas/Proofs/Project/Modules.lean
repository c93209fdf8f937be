/-
Module: RouteAtlas.Proofs.Project.Modules
Layer: Proofs
Purpose: Where the file of a module can be. A module is looked for at a list of paths, and the first of
  them that leads to a file is its file. These paths lie under the directories of the search path, or
  under the directory that a relative name starts from, unless a piece of the name is an absolute path:
  such a piece takes the search to the same paths whichever directories are configured.
Trusted boundary: none
Main exports: moduleFiles, SearchPath.candidates, SearchPath.locate?_eq, SearchPath.Holds,
  SearchPath.Covers, strays, located_inside_iff
-/
import RouteAtlas.Project.Modules
import RouteAtlas.Proofs.Files.Descent

namespace RouteAtlas

namespace Project

open DiskPath (LiesUnder below)

/-! ### The paths of a module -/

/-- The pieces of a module's name that mean something. -/
def namedPieces (module : String) : List String := (Text.split '.' module).filter (· ≠ "")

/-- The paths below a directory at which a module is looked for, in this order. -/
def moduleFiles (base : DiskPath) (module : String) : List DiskPath :=
  let path := base.below (namedPieces module)
  (if namedPieces module = [] then [] else [path.withExtension "py"]) ++ [path.join "__init__.py"]

theorem moduleFile?_eq (disk : Disk) (base : DiskPath) (module : String) :
    moduleFile? disk base module = (moduleFiles base module).find? disk.isFile := by
  rw [moduleFile?, moduleFiles, ← namedPieces]
  cases namedPieces module with
  | nil => rfl
  | cons first rest => rfl

/-- The texts that lead to the directories of an application, below the root of the project. -/
def applicationPieces (module : String) : List (List String) :=
  let pieces := Text.split '.' module
  [pieces, [Text.firstPiece '.' module, Text.lastPiece '.' module], "apps" :: pieces]

theorem applicationUrls_eq (search : SearchPath) (module : String) :
    applicationUrls search module =
      ((applicationPieces module).map fun pieces => search.root.below (pieces ++ ["urls.py"])) ++
        search.directories.map fun directory =>
          directory.below (Text.split '.' module ++ ["urls.py"]) := by
  have asPath : ∀ directory : DiskPath,
      directory.join ((Text.split '.' module).foldl DiskPath.join ⟨""⟩).text =
        directory.below (Text.split '.' module) := by
    intro directory
    obtain ⟨first, rest, pieces⟩ := List.exists_cons_of_ne_nil (Text.split_ne_nil '.' module)
    rw [pieces, List.foldl_cons, DiskPath.join_empty]
    exact DiskPath.join_below directory first rest
  simp only [applicationUrls, applicationPieces, asPath, below, List.foldl_append, List.foldl_cons,
    List.foldl_nil, List.map_cons, List.map_nil]

namespace SearchPath

/-- The paths at which an absolute module name is looked for. -/
def candidates (search : SearchPath) (module : String) : List DiskPath :=
  if module = "" then []
  else
    moduleFiles search.root module ++ applicationUrls search module ++
      search.directories.flatMap fun directory => moduleFiles directory module

theorem locateAbsolute?_eq (search : SearchPath) (disk : Disk) (module : String) :
    search.locateAbsolute? disk module = (search.candidates module).find? disk.isFile := by
  rw [locateAbsolute?, candidates]
  by_cases empty : module = ""
  · rw [if_pos empty, if_pos empty]
    rfl
  · rw [if_neg empty, if_neg empty, List.append_assoc, List.find?_append, List.find?_append,
      List.find?_flatMap, moduleFile?_eq, firstFile?]
    simp only [moduleFile?_eq]

/-- The paths at which a module is looked for that a file refers to with `level` dots. -/
def candidatesFrom (search : SearchPath) (module : String) (level : Nat) (file : DiskPath) :
    List DiskPath :=
  if level = 0 then search.candidates module
  else
    match climb? level file with
    | none => []
    | some base => moduleFiles base module ++ search.candidates module

/-- The file of a module is the first of its paths that leads to a file. -/
theorem locate?_eq (search : SearchPath) (disk : Disk) (module : String) (level : Nat)
    (file : DiskPath) :
    search.locate? disk module level file =
      (search.candidatesFrom module level file).find? disk.isFile := by
  rw [locate?, candidatesFrom]
  by_cases absolute : level = 0
  · rw [if_pos absolute, if_pos absolute, locateAbsolute?_eq]
  · rw [if_neg absolute, if_neg absolute]
    cases climb? level file with
    | none => rfl
    | some base => simp only [List.find?_append, moduleFile?_eq, locateAbsolute?_eq]

/-- A path lies under the root of the project or under another directory of the search path. -/
def Holds (search : SearchPath) (path : DiskPath) : Prop :=
  ∃ directory ∈ search.root :: search.directories, path.LiesUnder directory

/-- A path lies inside if the search path holds it or, for a module that a file refers to with dots, if it
lies under the directory that the dots name. -/
def Covers (search : SearchPath) (level : Nat) (file path : DiskPath) : Prop :=
  search.Holds path ∨ 0 < level ∧ ∃ base, climb? level file = some base ∧ path.LiesUnder base

end SearchPath

/-! ### Inside and outside -/

/-- The search path of no directory. -/
def nowhere : SearchPath := ⟨⟨""⟩, []⟩

/-- The absolute paths at which a module is looked for although no directory is. -/
def strays (module : String) : List DiskPath :=
  (moduleFiles ⟨""⟩ module ++ applicationUrls nowhere module).filter DiskPath.isAbsolute

/-- A piece of the name of a module is an absolute path. -/
def Rooted (module : String) : Prop :=
  ∃ piece ∈ Text.split '.' module, (⟨piece⟩ : DiskPath).isAbsolute = true

section Pieces

variable {base other path : DiskPath} {module : String} {pieces : List String}

theorem undotted_of_mem_split {piece : String} (member : piece ∈ Text.split '.' module) :
    '.' ∉ piece.toList := fun dot => (Text.mem_of_mem_split member dot).1 rfl

/-- A path that is put together of texts without dots lies under the directory it starts from, or it is
absolute and the same for all directories. -/
theorem below_cases (base other : DiskPath) (undotted : ∀ piece ∈ pieces, '.' ∉ piece.toList)
    {name : String} (isName : IsFileName name) :
    (base.below (pieces ++ [name])).LiesUnder base ∨
      (∃ piece ∈ pieces, (⟨piece⟩ : DiskPath).isAbsolute = true) ∧
        base.below (pieces ++ [name]) = other.below (pieces ++ [name]) ∧
        (base.below (pieces ++ [name])).isAbsolute = true := by
  by_cases rooted : ∃ piece ∈ pieces, (⟨piece⟩ : DiskPath).isAbsolute = true
  · right
    obtain ⟨piece, member, absolute⟩ := rooted
    exact ⟨⟨piece, member, absolute⟩,
      DiskPath.below_of_absolute base other ⟨piece, List.mem_append_left _ member, absolute⟩⟩
  · left
    have inner : ∀ piece ∈ pieces ++ [name], IsInner piece := fun piece member => by
      rcases List.mem_append.1 member with listed | last
      · have relative := eq_false_of_ne_true fun absolute => rooted ⟨piece, listed, absolute⟩
        exact DiskPath.inner_of_undotted relative (undotted piece listed)
      · exact List.mem_singleton.1 last ▸ isName.inner
    refine (DiskPath.descends_below inner).liesUnder ?_
    simp [isName.partsOf_eq]

theorem rooted_iff :
    Rooted module ↔ ∃ piece ∈ namedPieces module, (⟨piece⟩ : DiskPath).isAbsolute = true := by
  constructor
  · rintro ⟨piece, member, absolute⟩
    refine ⟨piece, List.mem_filter.2 ⟨member, decide_eq_true ?_⟩, absolute⟩
    rintro rfl
    cases absolute
  · rintro ⟨piece, member, absolute⟩
    exact ⟨piece, (List.mem_filter.1 member).1, absolute⟩

theorem undotted_of_mem_namedPieces {piece : String} (member : piece ∈ namedPieces module) :
    '.' ∉ piece.toList :=
  undotted_of_mem_split (List.mem_filter.1 member).1

/-- The same with an extension, which a path gets for its last text. -/
theorem withExtension_cases (base other : DiskPath) (named : namedPieces module ≠ []) :
    ((base.below (namedPieces module)).withExtension "py").LiesUnder base ∨
      Rooted module ∧ base.below (namedPieces module) = other.below (namedPieces module) ∧
        ((base.below (namedPieces module)).withExtension "py").isAbsolute = true := by
  by_cases rooted : Rooted module
  · right
    obtain ⟨same, absolute⟩ := DiskPath.below_of_absolute base other (rooted_iff.1 rooted)
    exact ⟨rooted, same, DiskPath.isAbsolute_withExtension absolute "py"⟩
  · left
    have relative : ∀ piece ∈ namedPieces module, (⟨piece⟩ : DiskPath).isAbsolute = false :=
      fun piece member => eq_false_of_ne_true fun absolute =>
        rooted (rooted_iff.2 ⟨piece, member, absolute⟩)
    obtain ⟨front, last, pieces⟩ := (List.eq_nil_or_concat (namedPieces module)).resolve_left named
    rw [List.concat_eq_append] at pieces
    have member : last ∈ namedPieces module := by simp [pieces]
    have inner : ∀ piece ∈ front, IsInner piece := fun piece before => by
      have listed : piece ∈ namedPieces module := by simp [pieces, before]
      exact DiskPath.inner_of_undotted (relative piece listed) (undotted_of_mem_namedPieces listed)
    have joined : base.below (namedPieces module) = (base.below front).join last := by
      rw [pieces, DiskPath.below_concat]
    have under : (((base.below front).join last).withExtension "py").LiesUnder (base.below front) :=
      DiskPath.liesUnder_withExtension (relative last member) (undotted_of_mem_namedPieces member)
        (by simpa using (List.mem_filter.1 member).2) (by decide) (by decide)
    obtain ⟨names, more, descends⟩ := under
    rw [joined]
    exact ((DiskPath.descends_below inner).trans descends).liesUnder
      (List.append_ne_nil_of_right_ne_nil _ more)

theorem moduleFiles_cases (other : DiskPath) (member : path ∈ moduleFiles base module) :
    path.LiesUnder base ∨
      Rooted module ∧ path ∈ moduleFiles other module ∧ path.isAbsolute = true := by
  have isName : IsFileName "__init__.py" := by decide
  rw [moduleFiles, ← DiskPath.below_concat] at member ⊢
  rcases List.mem_append.1 member with file | last
  · by_cases nameless : namedPieces module = []
    · rw [if_pos nameless] at file
      cases file
    · rw [if_neg nameless, List.mem_singleton] at file
      subst file
      refine (withExtension_cases base other nameless).imp_right fun ⟨rooted, same, absolute⟩ =>
        ⟨rooted, ?_, absolute⟩
      rw [if_neg nameless, same]
      exact List.mem_append_left _ List.mem_cons_self
  · rw [List.mem_singleton] at last
    subst last
    refine (below_cases base other (fun _ => undotted_of_mem_namedPieces) isName).imp_right
      fun ⟨rooted, same, absolute⟩ => ⟨rooted_iff.2 rooted, ?_, absolute⟩
    rw [same]
    exact List.mem_append_right _ List.mem_cons_self

theorem mem_strays_iff :
    path ∈ strays module ↔
      (path ∈ moduleFiles ⟨""⟩ module ∨ path ∈ applicationUrls nowhere module) ∧
        path.isAbsolute = true := by
  rw [strays, List.mem_filter, List.mem_append]

theorem mem_applicationPieces {piece : String} (known : pieces ∈ applicationPieces module)
    (member : piece ∈ pieces) : piece = "apps" ∨ piece ∈ Text.split '.' module := by
  simp only [applicationPieces, List.mem_cons, List.not_mem_nil, or_false] at known
  rcases known with rfl | rfl | rfl
  · exact .inr member
  · rcases List.mem_pair.1 member with rfl | rfl
    · exact .inr (Text.firstPiece_mem_split '.' module)
    · exact .inr (Text.lastPiece_mem_split '.' module)
  · exact List.mem_cons.1 member

theorem undotted_of_mem_applicationPieces (known : pieces ∈ applicationPieces module) :
    ∀ piece ∈ pieces, '.' ∉ piece.toList := by
  intro piece member
  rcases mem_applicationPieces known member with rfl | listed
  · decide
  · exact undotted_of_mem_split listed

theorem rooted_of_mem_applicationPieces (known : pieces ∈ applicationPieces module)
    (start : ∃ piece ∈ pieces, (⟨piece⟩ : DiskPath).isAbsolute = true) : Rooted module := by
  obtain ⟨piece, member, absolute⟩ := start
  rcases mem_applicationPieces known member with rfl | listed
  · cases absolute
  · exact ⟨piece, listed, absolute⟩

theorem applicationUrls_cases {search : SearchPath}
    (member : path ∈ applicationUrls search module) : search.Holds path ∨ path ∈ strays module := by
  obtain ⟨directory, configured, pieces, known, rfl⟩ :
      ∃ directory ∈ search.root :: search.directories, ∃ pieces ∈ applicationPieces module,
        directory.below (pieces ++ ["urls.py"]) = path := by
    rw [applicationUrls_eq, List.mem_append, List.mem_map, List.mem_map] at member
    rcases member with ⟨pieces, known, same⟩ | ⟨directory, configured, same⟩
    · exact ⟨search.root, List.mem_cons_self, pieces, known, same⟩
    · exact ⟨directory, List.mem_cons_of_mem _ configured, _, List.mem_cons_self, same⟩
  refine (below_cases directory ⟨""⟩ (undotted_of_mem_applicationPieces known) (by decide)).imp
    (fun under => ⟨directory, configured, under⟩) fun ⟨_, same, absolute⟩ =>
      mem_strays_iff.2 ⟨.inr ?_, absolute⟩
  rw [applicationUrls_eq, same]
  exact List.mem_append_left _ (List.mem_map_of_mem known)

theorem moduleFiles_held {search : SearchPath} (configured : base ∈ search.root :: search.directories)
    (member : path ∈ moduleFiles base module) : search.Holds path ∨ path ∈ strays module :=
  (moduleFiles_cases ⟨""⟩ member).imp (fun under => ⟨base, configured, under⟩)
    fun ⟨_, same, absolute⟩ => mem_strays_iff.2 ⟨.inl same, absolute⟩

theorem candidates_cases {search : SearchPath} (member : path ∈ search.candidates module) :
    search.Holds path ∨ path ∈ strays module := by
  rw [SearchPath.candidates] at member
  split at member
  · cases member
  · rcases List.mem_append.1 member with first | along
    · rcases List.mem_append.1 first with atRoot | application
      · exact moduleFiles_held List.mem_cons_self atRoot
      · exact applicationUrls_cases application
    · obtain ⟨directory, listed, there⟩ := List.mem_flatMap.1 along
      exact moduleFiles_held (List.mem_cons_of_mem _ listed) there

/-- Wherever a module is looked for, the path is inside or one of those that no directory is needed for. -/
theorem candidatesFrom_cases {search : SearchPath} {level : Nat} {file : DiskPath}
    (member : path ∈ search.candidatesFrom module level file) :
    search.Covers level file path ∨ path ∈ strays module := by
  rw [SearchPath.candidatesFrom] at member
  split at member
  · exact (candidates_cases member).imp_left .inl
  · next dotted =>
      cases climbed : climb? level file with
      | none => simp [climbed] at member
      | some base =>
          simp only [climbed] at member
          rcases List.mem_append.1 member with relative | absolute
          · refine (moduleFiles_cases ⟨""⟩ relative).imp (fun under => ?_) fun ⟨_, same, absolute⟩ =>
              mem_strays_iff.2 ⟨.inl same, absolute⟩
            exact .inr ⟨Nat.pos_of_ne_zero dotted, base, climbed, under⟩
          · exact (candidates_cases absolute).imp_left .inl

theorem isAbsolute_of_rooted (rooted : Rooted module) (member : path ∈ moduleFiles base module) :
    path.isAbsolute = true := by
  obtain ⟨_, absolute⟩ := DiskPath.below_of_absolute base base (rooted_iff.1 rooted)
  rw [moduleFiles, List.mem_append, List.mem_singleton] at member
  rcases member with file | rfl
  · split at file
    · cases file
    · rw [List.mem_singleton.1 file]
      exact DiskPath.isAbsolute_withExtension absolute "py"
  · exact DiskPath.isAbsolute_join_absolute absolute _

/-- There are stray paths exactly if a piece of the name is an absolute path. -/
theorem strays_eq_nil_iff : strays module = [] ↔ ¬ Rooted module := by
  constructor
  · intro nothing rooted
    have member : (DiskPath.below ⟨""⟩ (namedPieces module)).join "__init__.py" ∈
        moduleFiles ⟨""⟩ module := List.mem_append_right _ List.mem_cons_self
    have stray := mem_strays_iff.2 ⟨.inl member, isAbsolute_of_rooted rooted member⟩
    rw [nothing] at stray
    cases stray
  · intro unrooted
    refine List.eq_nil_iff_forall_not_mem.2 fun path member => ?_
    obtain ⟨sought, absolute⟩ := mem_strays_iff.1 member
    have apart : ¬ path.LiesUnder ⟨""⟩ := fun under => by
      rw [under.sameStart] at absolute
      cases absolute
    rcases sought with file | application
    · obtain ⟨rooted, _⟩ := (moduleFiles_cases ⟨""⟩ file).resolve_left apart
      exact unrooted rooted
    · rw [applicationUrls_eq, nowhere, List.map_nil, List.append_nil, List.mem_map] at application
      obtain ⟨pieces, known, rfl⟩ := application
      have isName : IsFileName "urls.py" := by decide
      obtain ⟨rooted, _⟩ := (below_cases ⟨""⟩ ⟨""⟩ (undotted_of_mem_applicationPieces known)
        isName).resolve_left apart
      exact unrooted (rooted_of_mem_applicationPieces known rooted)

/-- If there is a file at a stray path, then an absolute path is found. All paths that come before one with
only the ends of the name are absolute, and the one that comes after it is among them. -/
theorem stray_found {disk : Disk} (member : path ∈ strays module) (present : disk.isFile path = true)
    (more : List DiskPath) :
    ∃ target, (moduleFiles ⟨""⟩ module ++ applicationUrls nowhere module ++ more).find? disk.isFile =
      some target ∧ target.isAbsolute = true := by
  have rooted : Rooted module := by
    by_contra unrooted
    rw [strays_eq_nil_iff.2 unrooted] at member
    cases member
  obtain ⟨sought, absolute⟩ := mem_strays_iff.1 member
  rw [List.append_assoc, List.find?_append]
  cases files : (moduleFiles ⟨""⟩ module).find? disk.isFile with
  | some target =>
      exact ⟨target, rfl, isAbsolute_of_rooted rooted (List.mem_of_find?_eq_some files)⟩
  | none =>
      have notFile : path ∉ moduleFiles ⟨""⟩ module := fun listed =>
        List.find?_eq_none.1 files path listed present
      have application := sought.resolve_left notFile
      obtain ⟨piece, listed, start⟩ := rooted
      have whole : ∃ piece ∈ Text.split '.' module ++ ["urls.py"],
          (⟨piece⟩ : DiskPath).isAbsolute = true := ⟨piece, List.mem_append_left _ listed, start⟩
      obtain ⟨same, first⟩ := DiskPath.below_of_absolute ⟨""⟩ ⟨"apps"⟩ whole
      have among : DiskPath.below ⟨""⟩ ("apps" :: Text.split '.' module ++ ["urls.py"]) =
          DiskPath.below ⟨""⟩ (Text.split '.' module ++ ["urls.py"]) := by
        rw [same, List.cons_append, below, List.foldl_cons, DiskPath.join_empty]
        rfl
      rw [applicationUrls_eq, nowhere] at application ⊢
      simp only [applicationPieces, List.map_cons, List.map_nil, List.append_nil, among, List.mem_cons,
        List.not_mem_nil, or_false] at application ⊢
      generalize DiskPath.below ⟨""⟩ (Text.split '.' module ++ ["urls.py"]) = outer at *
      generalize DiskPath.below ⟨""⟩ ([Text.firstPiece '.' module, Text.lastPiece '.' module] ++
        ["urls.py"]) = inner at *
      cases there : disk.isFile outer with
      | true => exact ⟨outer, by simp [there], first⟩
      | false =>
          have other : path ≠ outer := by
            rintro rfl
            rw [there] at present
            cases present
          obtain rfl : path = inner := (application.resolve_left other).resolve_right other
          exact ⟨path, by simp [there, present], absolute⟩

/-- With a file at a stray path the project of the empty path finds a file outside: all its directories are
relative, so that nothing absolute lies under them. -/
theorem stray_located {disk : Disk} (member : path ∈ strays module) (present : disk.isFile path = true) :
    ∃ target, (SearchPath.ofProject ⟨""⟩ ⟨""⟩ []).locate? disk module 0 ⟨""⟩ = some target ∧
      ¬ (SearchPath.ofProject ⟨""⟩ ⟨""⟩ []).Covers 0 ⟨""⟩ target := by
  have named : module ≠ "" := by
    rintro rfl
    have nothing : strays "" = [] := by decide
    rw [nothing] at member
    cases member
  have relative : ∀ directory ∈ (SearchPath.ofProject ⟨""⟩ ⟨""⟩ []).root ::
      (SearchPath.ofProject ⟨""⟩ ⟨""⟩ []).directories, directory.isAbsolute = false := by
    decide
  obtain ⟨target, found, absolute⟩ := stray_found member present
    ((SearchPath.ofProject ⟨""⟩ ⟨""⟩ []).directories.map
        (fun directory => directory.below (Text.split '.' module ++ ["urls.py"])) ++
      (SearchPath.ofProject ⟨""⟩ ⟨""⟩ []).directories.flatMap
        fun directory => moduleFiles directory module)
  refine ⟨target, ?_, ?_⟩
  · rw [SearchPath.locate?_eq, SearchPath.candidatesFrom, if_pos rfl, SearchPath.candidates,
      if_neg named, ← found, applicationUrls_eq, applicationUrls_eq]
    simp only [nowhere, SearchPath.ofProject, List.map_nil, List.append_nil, List.append_assoc]
  · rintro (⟨directory, configured, under⟩ | ⟨dotted, _⟩)
    · rw [under.sameStart, relative directory configured] at absolute
      cases absolute
    · exact absurd dotted (Nat.lt_irrefl 0)

end Pieces

/-- Where the file of a module is, for every project, disk and file that refers to the module. What is found
is a file, and it lies inside or is one of the stray paths of the module. Only files inside are found, by all
projects and on all disks, exactly if no stray path leads to a file on any disk. A module has stray paths
exactly if a piece of its name is an absolute path. -/
theorem located_inside_iff (module : String) :
    (∀ root entry extra disk level file target,
      (SearchPath.ofProject root entry extra).locate? disk module level file = some target →
        disk.isFile target = true ∧
          ((SearchPath.ofProject root entry extra).Covers level file target ∨
            target ∈ strays module)) ∧
    ((∀ root entry extra disk level file target,
      (SearchPath.ofProject root entry extra).locate? disk module level file = some target →
        disk.isFile target = true ∧
          (SearchPath.ofProject root entry extra).Covers level file target) ↔
      ∀ stray ∈ strays module, ∀ disk : Disk, disk.isFile stray = false) ∧
    (strays module = [] ↔
      ∀ piece ∈ Text.split '.' module, (⟨piece⟩ : DiskPath).isAbsolute = false) := by
  have located : ∀ root entry extra disk level file target,
      (SearchPath.ofProject root entry extra).locate? disk module level file = some target →
        disk.isFile target = true ∧
          ((SearchPath.ofProject root entry extra).Covers level file target ∨
            target ∈ strays module) := by
    intro root entry extra disk level file target found
    rw [SearchPath.locate?_eq] at found
    exact ⟨List.find?_some found, candidatesFrom_cases (List.mem_of_find?_eq_some found)⟩
  refine ⟨located, ⟨fun inside stray member disk => ?_, fun absent root entry extra disk level file target
    found => ?_⟩, ?_⟩
  · by_contra present
    obtain ⟨target, found, outside⟩ := stray_located member (eq_true_of_ne_false present)
    exact outside (inside _ _ _ _ _ _ _ found).2
  · obtain ⟨present, inside⟩ := located root entry extra disk level file target found
    refine ⟨present, inside.resolve_right fun stray => ?_⟩
    rw [absent target stray disk] at present
    cases present
  · rw [strays_eq_nil_iff, Rooted]
    simp

/-- A file of a directory apart from the project. -/
def elsewhereDisk : Disk where
  tree := .directory [("w", .directory [
    ("elsewhere", .directory [("hidden.py", .file "".toUTF8)]),
    ("site", .directory [("project", .directory [("urls.py", .file "".toUTF8)])])])]
  working := ["w"]

/-- The file is found by its absolute path, and lies inside of no directory that is configured. -/
theorem hiddenFile_located :
    let search := SearchPath.ofProject ⟨"/w/site/project"⟩ ⟨"/w/site/project/urls.py"⟩ []
    let file : DiskPath := ⟨"/w/site/project/urls.py"⟩
    let target : DiskPath := ⟨"/proc/self/cwd/elsewhere/hidden.py"⟩
    search.locate? elsewhereDisk "/proc/self/cwd/elsewhere/hidden" 0 file = some target ∧
      ¬ search.Covers 0 file target := by
  intro search file target
  have apart : ∀ directory ∈ search.root :: search.directories,
      ¬ directory.components <+: target.components := by decide
  refine ⟨by decide +kernel, ?_⟩
  rintro (⟨directory, configured, under⟩ | ⟨dotted, _⟩)
  · exact apart directory configured under.components_extend
  · exact absurd dotted (Nat.lt_irrefl 0)

end Project

end RouteAtlas
