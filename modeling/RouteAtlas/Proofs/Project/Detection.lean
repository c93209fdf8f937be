/-
Module: RouteAtlas.Proofs.Project.Detection
Layer: Proofs
Purpose: What the framework of a project has to do with the texts of its files. Only files that mention
  `django` or `flask` are parsed. A file that imports a module mentions its top package, so what is left
  out can import no package of a framework but `rest_framework`; the framework is that of all files
  unless Django shows only in files that are left out.
Trusted boundary: none
Main exports: parsed, parseFile_eq_ok_iff, isCandidate_of_imports, firstPiece_of_left_out, ShowsIn,
  detectFramework_eq_ok_iff, detectFramework_agrees_iff
-/
import RouteAtlas.Project.Detection
import RouteAtlas.Proofs.Framework.Detection
import RouteAtlas.Proofs.Python.Reading

namespace RouteAtlas.Project

/-- The syntax trees of those files that can be read and parsed. -/
def parsed (disk : Disk) (files : List DiskPath) : List Python.Module :=
  files.filterMap fun file => (disk.parseFile file).toOption

theorem parsed_cons_of_error {disk : Disk} {file : DiskPath} {error : SourceError}
    (unread : disk.parseFile file = .error error) (rest : List DiskPath) :
    parsed disk (file :: rest) = parsed disk rest := by
  simp [parsed, unread, Except.toOption]

theorem parsed_cons_of_ok {disk : Disk} {file : DiskPath} {body : Python.Module}
    (reads : disk.parseFile file = .ok body) (rest : List DiskPath) :
    parsed disk (file :: rest) = body :: parsed disk rest := by
  simp [parsed, reads, Except.toOption]

theorem mem_parsed_iff {disk : Disk} {files : List DiskPath} {body : Python.Module} :
    body ∈ parsed disk files ↔ ∃ file ∈ files, disk.parseFile file = .ok body := by
  rw [parsed, List.mem_filterMap]
  refine exists_congr fun file => and_congr_right fun _ => ?_
  cases disk.parseFile file with
  | error error => simp [Except.toOption]
  | ok other => simp [Except.toOption]

/-! ### What the texts of files tell -/

/-- A file has the syntax tree of its text. -/
theorem parseFile_eq_ok_iff {disk : Disk} {file : DiskPath} {body : Python.Module} :
    disk.parseFile file = .ok body ↔
      ∃ source, disk.readText file = .ok source ∧ Python.parse source = .ok body := by
  have parses : ∀ source, parseText file source = .ok body ↔ Python.parse source = .ok body := by
    intro source
    rw [parseText]
    cases Python.parse source with
    | error error => simp
    | ok other => simp
  rw [Disk.parseFile]
  cases disk.readText file with
  | error cause => simp
  | ok source => simp [parses]

/-- A file that imports a module of `django` or `flask` is looked at. -/
theorem isCandidate_of_imports {disk : Disk} {file : DiskPath} {body : Python.Module}
    {stmt : Python.Stmt} {module : String} (reads : disk.parseFile file = .ok body)
    (stated : stmt ∈ body) (imports : stmt.Imports module)
    (top : Text.firstPiece '.' module = "django" ∨ Text.firstPiece '.' module = "flask") :
    isCandidate disk file = true := by
  obtain ⟨source, text, parses⟩ := parseFile_eq_ok_iff.1 reads
  have mentioned := Python.parse_mentions parses stated imports
  rw [isCandidate, text]
  change (Text.mentions source "django" || Text.mentions source "flask") = true
  rw [Bool.or_eq_true]
  rcases top with top | top
  · exact .inl (top ▸ mentioned)
  · exact .inr (top ▸ mentioned)

/-- A file that is left out imports no package of a framework but `rest_framework`. -/
theorem firstPiece_of_left_out {disk : Disk} {file : DiskPath} {body : Python.Module}
    {stmt : Python.Stmt} {module : String} (reads : disk.parseFile file = .ok body)
    (leftOut : isCandidate disk file = false) (stated : stmt ∈ body) (imports : stmt.Imports module)
    {framework : Framework} (belongs : Framework.ofModule? module = some framework) :
    Text.firstPiece '.' module = "rest_framework" := by
  have apart : ¬ (Text.firstPiece '.' module = "django" ∨ Text.firstPiece '.' module = "flask") := by
    intro top
    rw [isCandidate_of_imports reads stated imports top] at leftOut
    cases leftOut
  rw [Framework.ofModule?_eq_some_iff] at belongs
  cases framework with
  | django =>
      simp only [Framework.packages, List.mem_cons, List.not_mem_nil, or_false] at belongs
      exact belongs.resolve_left fun django => apart (.inl django)
  | flask => exact absurd (.inr (List.mem_singleton.1 belongs)) apart

/-- A framework shows in some of the files. -/
def ShowsIn (disk : Disk) (files : List DiskPath) (framework : Framework) : Prop :=
  ∃ body ∈ parsed disk files, framework.Shows body

theorem ShowsIn.of_candidates {disk : Disk} {files : List DiskPath} {framework : Framework}
    (shows : ShowsIn disk (files.filter (isCandidate disk)) framework) :
    ShowsIn disk files framework := by
  obtain ⟨body, member, shows⟩ := shows
  obtain ⟨file, kept, reads⟩ := mem_parsed_iff.1 member
  exact ⟨body, mem_parsed_iff.2 ⟨file, (List.mem_filter.1 kept).1, reads⟩, shows⟩

/-- Flask shows in no file that is left out. -/
theorem ShowsIn.flask_candidates {disk : Disk} {files : List DiskPath}
    (shows : ShowsIn disk files .flask) : ShowsIn disk (files.filter (isCandidate disk)) .flask := by
  obtain ⟨body, member, shows⟩ := shows
  obtain ⟨file, listed, reads⟩ := mem_parsed_iff.1 member
  obtain ⟨stmt, stated, module, imports, top⟩ := shows.uses
  have kept := isCandidate_of_imports reads stated imports (.inr (List.mem_singleton.1 top))
  exact ⟨body, mem_parsed_iff.2 ⟨file, List.mem_filter.2 ⟨listed, kept⟩, reads⟩, shows⟩

/-! ### The framework of a project -/

/-- Two sets of frameworks, of which one has more than the other at most by Django, have the same only
element exactly if they are the same. -/
theorem only_iff {kept found : Framework → Prop} (fewer : ∀ framework, kept framework → found framework)
    (flask : found .flask → kept .flask) :
    (∀ framework, (∀ other, kept other ↔ other = framework) ↔ ∀ other, found other ↔ other = framework) ↔
      (found .django → kept .django) := by
  constructor
  · intro agree django
    refine Classical.byContradiction fun missing => ?_
    by_cases both : found .flask
    · have keptFlask : ∀ other, kept other ↔ other = .flask :=
        Framework.forall_iff.2 ⟨iff_of_false missing nofun, iff_of_true (flask both) rfl⟩
      cases ((agree .flask).1 keptFlask .django).1 django
    · have foundDjango : ∀ other, found other ↔ other = .django :=
        Framework.forall_iff.2 ⟨iff_of_true django rfl, iff_of_false both nofun⟩
      exact missing (((agree .django).2 foundDjango .django).2 rfl)
  · intro django framework
    have same : ∀ other, kept other ↔ found other :=
      Framework.forall_iff.2 ⟨⟨fewer _, django⟩, ⟨fewer _, flask⟩⟩
    simp only [same]

theorem detectInFiles_eq_ok_iff (disk : Disk) (files : List DiskPath) (framework : Framework) :
    (detectInFiles disk files).1 = .ok framework ↔
      Framework.single? (Framework.detect (parsed disk (files.filter (isCandidate disk)))) =
        some framework := by
  have trees : ((files.filter (isCandidate disk)).map disk.parseFile).filterMap Except.toOption =
      parsed disk (files.filter (isCandidate disk)) := List.filterMap_map
  rw [detectInFiles, Disk.parseFiles]
  dsimp only
  rw [trees]
  split
  · next found => rw [found, Except.ok.injEq, Option.some.injEq]
  · next missing => simp [missing]

/-- Where the entry file decides nothing, the framework is the one that shows in the files that are
looked at. -/
theorem detectFramework_eq_ok_iff {disk : Disk} {endpoint root : DiskPath} {files : List DiskPath}
    (undecided : (detectInEntry disk endpoint).1 = none) (listed : pythonFiles disk root = .ok files)
    (framework : Framework) :
    (detectFramework disk endpoint root).1 = .ok framework ↔
      Framework.single? (Framework.detect (parsed disk (files.filter (isCandidate disk)))) =
        some framework := by
  rw [← detectInFiles_eq_ok_iff, detectFramework]
  split
  · next decided =>
      rw [decided] at undecided
      cases undecided
  · rw [listed]

/-- A project with one file of the given text. -/
def urlsProject (source : String) : Disk where
  tree := .directory [("urls.py", .file source.toUTF8)]

theorem urlsProject_undecided (source : String) :
    (detectInEntry (urlsProject source) ⟨"/"⟩).1 = none := rfl

theorem urlsProject_listed (source : String) :
    pythonFiles (urlsProject source) ⟨"/"⟩ = .ok [⟨"/urls.py"⟩] := by
  have root : (urlsProject source).node? ⟨"/"⟩ = some (urlsProject source).tree := rfl
  have entries : listingOfEntries ⟨"/"⟩ [("urls.py", .file source.toUTF8)] = [⟨"/urls.py"⟩] := by
    rw [listingOfEntries, listingOfEntries]
    decide +kernel
  rw [pythonFiles, root]
  exact congrArg Except.ok entries

/-- Whether the framework of a project, where its entry file decides nothing, is the one framework that is
detected in all its Python files that can be read and parsed. It is, exactly if Django shows in a file
that mentions `django` or `flask` when it shows in any: for the files that mention neither are left out,
and these import nothing of a framework except from `rest_framework`. -/
theorem detectFramework_agrees_iff {disk : Disk} {endpoint root : DiskPath} {files : List DiskPath}
    (undecided : (detectInEntry disk endpoint).1 = none)
    (listed : pythonFiles disk root = .ok files) :
    ((∀ framework, (detectFramework disk endpoint root).1 = .ok framework ↔
        Framework.single? (Framework.detect (parsed disk files)) = some framework) ↔
      (ShowsIn disk files .django → ShowsIn disk (files.filter (isCandidate disk)) .django)) ∧
    ∀ file body stmt module framework, disk.parseFile file = .ok body →
      isCandidate disk file = false → stmt ∈ body → stmt.Imports module →
      Framework.ofModule? module = some framework → Text.firstPiece '.' module = "rest_framework" := by
  constructor
  · simp only [detectFramework_eq_ok_iff undecided listed, Framework.single?_detect_eq_some_iff]
    exact only_iff (fun _ => ShowsIn.of_candidates) ShowsIn.flask_candidates
  · intro file body stmt module framework reads leftOut stated imports belongs
    exact firstPiece_of_left_out reads leftOut stated imports belongs

/-- It agrees for a file that imports Django itself. -/
theorem urlsProject_agrees :
    let project := urlsProject "from django.urls import path\n"
    (detectInEntry project ⟨"/"⟩).1 = none ∧ pythonFiles project ⟨"/"⟩ = .ok [⟨"/urls.py"⟩] ∧
      ∀ framework, (detectFramework project ⟨"/"⟩ ⟨"/"⟩).1 = .ok framework ↔
        Framework.single? (Framework.detect (parsed project [⟨"/urls.py"⟩])) = some framework := by
  intro project
  have undecided := urlsProject_undecided "from django.urls import path\n"
  have listed := urlsProject_listed "from django.urls import path\n"
  have shows : ShowsIn project ([⟨"/urls.py"⟩].filter (isCandidate project)) .django :=
    (Framework.mem_detect_iff _ _).1 (by decide +kernel)
  exact ⟨undecided, listed, (detectFramework_agrees_iff undecided listed).1.2 fun _ => shows⟩

/-- For a file that imports Django REST framework, and does not mention Django itself, no framework is
found, although Django is the one that shows. -/
theorem urlsProject_missed :
    let project := urlsProject "from rest_framework import routers\n"
    (detectInEntry project ⟨"/"⟩).1 = none ∧ pythonFiles project ⟨"/"⟩ = .ok [⟨"/urls.py"⟩] ∧
      Framework.single? (Framework.detect (parsed project [⟨"/urls.py"⟩])) = some .django ∧
      ∀ framework, (detectFramework project ⟨"/"⟩ ⟨"/"⟩).1 ≠ .ok framework := by
  intro project
  have undecided := urlsProject_undecided "from rest_framework import routers\n"
  have listed := urlsProject_listed "from rest_framework import routers\n"
  have missed : Framework.single? (Framework.detect
      (parsed project ([⟨"/urls.py"⟩].filter (isCandidate project)))) = none := by
    decide +kernel
  refine ⟨undecided, listed, by decide +kernel, fun framework found => ?_⟩
  rw [detectFramework_eq_ok_iff undecided listed, missed] at found
  cases found

end RouteAtlas.Project
