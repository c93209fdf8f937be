/-
Module: RouteAtlas.Proofs.Walk.Isolation
Layer: Proofs
Purpose: Failures stay where they are. A reference is broken if its module cannot be resolved, if the file
  that it leads to does not exist, or if that file cannot be parsed. Walks yield the same routes and the
  same application name whichever broken references the files of a project make. What they have met may
  differ, but only in parts of files that cannot be parsed.
Trusted boundary: none
Main exports: Site.Broken, SameButBroken, Site.Agree, arrive_agree, visitRevised_agree, reports,
  failures_isolated
-/
import RouteAtlas.Proofs.Walk.Collection
import RouteAtlas.Proofs.Walk.Revision

namespace RouteAtlas.Project

/-! ### Broken references -/

/-- A reference of a file from which nothing can come. -/
inductive Site.Broken (site : Site) (file : DiskPath) (reference : Include) : Prop where
  | unresolved {error : SourceError}
      (lost : site.modules.resolve site.disk reference.module reference.level file = .error error)
  | missing {target : DiskPath} {cause : DiskError}
      (resolved : site.modules.resolve site.disk reference.module reference.level file = .ok target)
      (absent : site.disk.canonical target = .error cause)
  | unread {target canonical : DiskPath} {error : SourceError}
      (resolved : site.modules.resolve site.disk reference.module reference.level file = .ok target)
      (found : site.disk.canonical target = .ok canonical)
      (garbled : site.disk.parseFile canonical = .error error)

/-- Two lists of references are the same but for broken ones, of which each may have some that the
other one has not. -/
inductive SameButBroken (broken : Include → Prop) : List Include → List Include → Prop where
  | nil : SameButBroken broken [] []
  | kept (reference : Include) {references others : List Include}
      (rest : SameButBroken broken references others) :
      SameButBroken broken (reference :: references) (reference :: others)
  | deleted {reference : Include} {references others : List Include} (useless : broken reference)
      (rest : SameButBroken broken references others) :
      SameButBroken broken (reference :: references) others
  | inserted {reference : Include} {references others : List Include} (useless : broken reference)
      (rest : SameButBroken broken references others) :
      SameButBroken broken references (reference :: others)

namespace SameButBroken

variable {broken : Include → Prop} {references others : List Include}

theorem refl (references : List Include) : SameButBroken broken references references := by
  induction references with
  | nil => exact .nil
  | cons reference rest ih => exact .kept reference ih

theorem symm (same : SameButBroken broken references others) :
    SameButBroken broken others references := by
  induction same with
  | nil => exact .nil
  | kept reference _ ih => exact .kept reference ih
  | deleted useless _ ih => exact .inserted useless ih
  | inserted useless _ ih => exact .deleted useless ih

/-- If all are broken, they can all be left out. -/
theorem all (useless : ∀ reference ∈ references, broken reference) :
    SameButBroken broken references [] := by
  induction references with
  | nil => exact .nil
  | cons reference rest ih =>
      obtain ⟨first, others⟩ := List.forall_mem_cons.1 useless
      exact .deleted first (ih others)

end SameButBroken

/-! ### States of progress that agree -/

/-- Two states of progress differ in nothing but warnings and in whether parts of files that cannot be
parsed were met. -/
structure Site.Agree (site : Site) (one other : Progress) : Prop where
  met : ∀ file symbol body, site.disk.parseFile file = .ok body →
    ((file, symbol) ∈ one.visited ↔ (file, symbol) ∈ other.visited)
  appName : one.appName = other.appName
  cycle : one.cycle = other.cycle

namespace Site.Agree

variable {site : Site} {one other third : Progress}

theorem refl (site : Site) (progress : Progress) : site.Agree progress progress :=
  ⟨fun _ _ _ _ => Iff.rfl, rfl, rfl⟩

theorem symm (agree : site.Agree one other) : site.Agree other one :=
  ⟨fun file symbol body parsed => (agree.met file symbol body parsed).symm, agree.appName.symm,
    agree.cycle.symm⟩

theorem trans (agree : site.Agree one other) (more : site.Agree other third) :
    site.Agree one third :=
  ⟨fun file symbol body parsed =>
      (agree.met file symbol body parsed).trans (more.met file symbol body parsed),
    agree.appName.trans more.appName, agree.cycle.trans more.cycle⟩

/-- Whatever a user is told makes no difference. -/
theorem warned (agree : site.Agree one other) (told toldOther : List Warning) :
    site.Agree { one with warnings := told } { other with warnings := toldOther } :=
  ⟨agree.met, agree.appName, agree.cycle⟩

theorem told (site : Site) (warning : Warning) (progress : Progress) :
    site.Agree progress ((tell warning).run progress).2 :=
  (refl site progress).warned progress.warnings (progress.warnings ++ [warning])

/-- Neither does a part of a file that cannot be parsed. -/
theorem unread {file : DiskPath} {error : SourceError} (symbol : Option String)
    (garbled : site.disk.parseFile file = .error error) (progress : Progress) :
    site.Agree progress { progress with visited := (file, symbol) :: progress.visited } := by
  refine ⟨fun other name body parsed => ?_, rfl, rfl⟩
  have apart : (other, name) ≠ (file, symbol) := by
    rintro ⟨⟩
    rw [garbled] at parsed
    cases parsed
  rw [List.mem_cons, or_iff_right apart]

/-- If a part is noted on both sides, they agree as before. -/
theorem marked (agree : site.Agree one other) (part : Part) :
    site.Agree { one with visited := part :: one.visited }
      { other with visited := part :: other.visited } := by
  refine ⟨fun file symbol body parsed => ?_, agree.appName, agree.cycle⟩
  rw [List.mem_cons, List.mem_cons, agree.met file symbol body parsed]

end Site.Agree

section Agreement

variable {site : Site} {file : DiskPath} {scope : Scope} {before other after : Progress}

/-- There is nothing to be found at a path: no file, or one that cannot be parsed. -/
def Site.Futile (site : Site) (file : DiskPath) : Prop :=
  ∀ canonical, site.disk.canonical file = .ok canonical →
    ∃ error, site.disk.parseFile canonical = .error error

/-- Going to such a path leads nowhere, and makes no difference to the state of progress. -/
theorem arrive_futile (futile : site.Futile file) (scope : Scope) (before : Progress) :
    ∃ after, (arrive site file scope).run before = (none, after) ∧ site.Agree before after := by
  have same := Site.Agree.refl site before
  cases found : site.disk.canonical file with
  | error cause => exact ⟨_, arrive_missing found, same.warned _ _⟩
  | ok canonical =>
      obtain ⟨error, garbled⟩ := futile canonical found
      by_cases met : (canonical, scope.symbol) ∈ before.visited
      · exact ⟨_, arrive_passed found met, same⟩
      · exact ⟨_, arrive_unread found met garbled,
          (Site.Agree.unread scope.symbol garbled before).warned _ _⟩

/-- Going to a file from states of progress that agree leads to the same, and they agree afterwards. -/
theorem arrive_agree (agree : site.Agree before other) (file : DiskPath) (scope : Scope) :
    ∃ goal after afterOther, (arrive site file scope).run before = (goal, after) ∧
      (arrive site file scope).run other = (goal, afterOther) ∧ site.Agree after afterOther := by
  by_cases futile : site.Futile file
  · obtain ⟨after, run, same⟩ := arrive_futile futile scope before
    obtain ⟨afterOther, runOther, sameOther⟩ := arrive_futile futile scope other
    exact ⟨none, after, afterOther, run, runOther, (same.symm.trans agree).trans sameOther⟩
  · -- The file exists and can be parsed, so that both sides have met the part or neither has.
    obtain ⟨canonical, found, body, parsed⟩ : ∃ canonical, site.disk.canonical file = .ok canonical ∧
        ∃ body, site.disk.parseFile canonical = .ok body := by
      by_contra none
      refine futile fun canonical found => ?_
      cases parsed : site.disk.parseFile canonical with
      | error error => exact ⟨error, rfl⟩
      | ok body => exact absurd ⟨canonical, found, body, parsed⟩ none
    have met := agree.met canonical scope.symbol body parsed
    by_cases seen : (canonical, scope.symbol) ∈ before.visited
    · exact ⟨none, before, other, arrive_passed found seen, arrive_passed found (met.1 seen), agree⟩
    · have seenOther := fun there => seen (met.2 there)
      have marked := agree.marked (canonical, scope.symbol)
      cases answered : site.read scope body with
      | error cycle =>
          refine ⟨none, _, _, arrive_cyclic found seen parsed answered,
            arrive_cyclic found seenOther parsed answered, marked.met, marked.appName, ?_⟩
          simp only [agree.cycle]
      | ok findings =>
          refine ⟨some (canonical, findings), _, _, arrive_entered found seen parsed answered,
            arrive_entered found seenOther parsed answered, marked.met, ?_, marked.cycle⟩
          simp only [agree.appName]

/-- What is found in a file that is entered is its answer. -/
theorem arrive_answered {canonical : DiskPath} {findings : Findings}
    (run : (arrive site file scope).run before = (some (canonical, findings), after)) :
    ∃ body, site.disk.parseFile canonical = .ok body ∧ site.read scope body = .ok findings := by
  cases found : site.disk.canonical file with
  | error cause => cases (arrive_missing found).symm.trans run
  | ok target =>
      by_cases met : (target, scope.symbol) ∈ before.visited
      · cases (arrive_passed found met).symm.trans run
      · cases parsed : site.disk.parseFile target with
        | error error => cases (arrive_unread found met parsed).symm.trans run
        | ok body =>
            cases answered : site.read scope body with
            | error cycle => cases (arrive_cyclic found met parsed answered).symm.trans run
            | ok found' =>
                have entered := (arrive_entered found met parsed answered).symm.trans run
                obtain ⟨rfl, rfl⟩ : target = canonical ∧ found' = findings := by
                  simpa using congrArg Prod.fst entered
                exact ⟨body, parsed, answered⟩

/-- There is nothing at the end of a broken reference, if it has an end. -/
theorem Site.Broken.cases {reference : Include} (broken : site.Broken file reference) :
    (∃ error, site.modules.resolve site.disk reference.module reference.level file = .error error) ∨
      ∃ target, site.modules.resolve site.disk reference.module reference.level file = .ok target ∧
        site.Futile target := by
  cases broken with
  | unresolved lost => exact .inl ⟨_, lost⟩
  | missing resolved absent =>
      refine .inr ⟨_, resolved, fun canonical found => ?_⟩
      cases absent.symm.trans found
  | unread resolved found garbled =>
      refine .inr ⟨_, resolved, fun canonical there => ?_⟩
      obtain rfl := Except.ok.inj (found.symm.trans there)
      exact ⟨_, garbled⟩

/-- A walk that goes nowhere yields nothing. -/
theorem visitRevised_futile (futile : site.Futile file) (revision : Revision) (path : String)
    (scope : Scope) (before : Progress) :
    ∃ after, site.visitRevised revision file path scope before = some ([], after) ∧
      site.Agree before after := by
  obtain ⟨after, run, same⟩ := arrive_futile futile scope before
  refine ⟨after, ?_, same⟩
  rw [Site.visitRevised, run]

/-- A broken reference can as well be left out. -/
theorem includedRevised_broken {reference : Include} (broken : site.Broken file reference)
    (revision : Revision) (path : String) (rest : List Include) (before : Progress) :
    ∃ after, site.includedRevised revision file path (reference :: rest) before =
        site.includedRevised revision file path rest after ∧ site.Agree before after := by
  rcases broken.cases with ⟨error, lost⟩ | ⟨target, resolved, futile⟩
  · refine ⟨_, ?_, Site.Agree.told site (.source error) before⟩
    rw [Site.includedRevised, lost]
  · obtain ⟨after, run, same⟩ :=
      visitRevised_futile futile revision (path ++ reference.path) reference.scope before
    refine ⟨after, ?_, same⟩
    rw [Site.includedRevised, resolved]
    simp only [run, Option.bind_eq_bind, Option.bind_some, List.nil_append, Option.pure_def,
      Prod.mk.eta, Option.bind_fun_some]

end Agreement

/-- Two revisions leave the files of a project with the same references but for broken ones. -/
def Site.SameRevision (site : Site) (revision other : Revision) : Prop :=
  ∀ file scope body findings, site.disk.parseFile file = .ok body →
    site.read scope body = .ok findings →
      SameButBroken (site.Broken file) (revision file scope findings.includes)
        (other file scope findings.includes)

/-- From states of progress that agree, a walk that ends with one revision ends with the other one too;
it yields the same routes, and the states agree afterwards. The induction is on the recursion of the
first walk. Where only that one follows a broken reference, it gets nothing from there, as the other
one would; where only the other one does, it is left out beforehand. -/
theorem visitRevised_agree {site : Site} {revision other : Revision}
    (same : site.SameRevision revision other) :
    (∀ file path scope before result,
      site.visitRevised revision file path scope before = some result →
        ∀ start, site.Agree before start → ∃ after,
          site.visitRevised other file path scope start = some (result.1, after) ∧
            site.Agree result.2 after) ∧
    (∀ file path references before result,
      site.includedRevised revision file path references before = some result →
        ∀ others start, SameButBroken (site.Broken file) references others →
          site.Agree before start → ∃ after,
            site.includedRevised other file path others start = some (result.1, after) ∧
              site.Agree result.2 after) := by
  refine Site.visitRevised.mutual_partial_correctness site revision
    (fun file path scope before result => ∀ start, site.Agree before start → ∃ after,
      site.visitRevised other file path scope start = some (result.1, after) ∧
        site.Agree result.2 after)
    (fun file path references before result => ∀ others start,
      SameButBroken (site.Broken file) references others → site.Agree before start → ∃ after,
        site.includedRevised other file path others start = some (result.1, after) ∧
          site.Agree result.2 after) ?_ ?_
  · intro includes includesAgree file path scope before result run start agree
    obtain ⟨goal, middle, middleOther, arrived, arrivedOther, agree⟩ := arrive_agree agree file scope
    rw [arrived] at run
    rw [Site.visitRevised, arrivedOther]
    cases goal with
    | none =>
        obtain rfl := Option.some.inj run
        exact ⟨middleOther, rfl, agree⟩
    | some entered =>
        obtain ⟨canonical, findings⟩ := entered
        obtain ⟨body, parsed, answered⟩ := arrive_answered arrived
        obtain ⟨toldOwn, runOwn⟩ :=
          completeViews_yields site canonical findings.importedViews 0 [] findings.routes
        obtain ⟨toldRegistered, runRegistered⟩ :=
          registeredRoutes_yields site canonical findings path findings.registrations
        simp only [runOwn, runRegistered, Option.bind_eq_bind, Option.bind_eq_some_iff] at run ⊢
        obtain ⟨⟨included, left⟩, runIncluded, done⟩ := run
        obtain rfl := Option.some.inj done
        obtain ⟨after, runOther, agree⟩ := includesAgree _ _ _ _ _ runIncluded _ _
          (same canonical scope body findings parsed answered) (agree.warned _ _)
        exact ⟨_, ⟨_, runOther, rfl⟩, agree.warned _ _⟩
  · intro visits includes visitAgree includesAgree file path references before result run others start
      alike agree
    induction alike generalizing start with
    | nil =>
        obtain rfl := Option.some.inj run
        exact ⟨start, by rw [Site.includedRevised], agree⟩
    | kept reference alike _ =>
        rw [Site.includedRevised]
        simp only at run
        cases resolved :
            site.modules.resolve site.disk reference.module reference.level file with
        | error error =>
            rw [resolved] at run
            exact includesAgree _ _ _ _ _ run _ _ alike (agree.warned _ _)
        | ok target =>
            simp only [resolved, Option.bind_eq_bind, Option.bind_eq_some_iff] at run ⊢
            obtain ⟨⟨first, middle⟩, runFirst, ⟨more, left⟩, runMore, done⟩ := run
            obtain rfl := Option.some.inj done
            obtain ⟨middleOther, first, agree⟩ := visitAgree _ _ _ _ _ runFirst _ agree
            obtain ⟨after, more, agree⟩ := includesAgree _ _ _ _ _ runMore _ _ alike agree
            exact ⟨after, ⟨_, first, _, more, rfl⟩, agree⟩
    | deleted useless alike _ =>
        simp only at run
        rcases useless.cases with ⟨error, lost⟩ | ⟨target, resolved, futile⟩
        · rw [lost] at run
          have unchanged := Site.Agree.told site (.source error) before
          exact includesAgree _ _ _ _ _ run _ _ alike (unchanged.symm.trans agree)
        · simp only [resolved, Option.bind_eq_bind, Option.bind_eq_some_iff] at run
          obtain ⟨⟨first, middle⟩, runFirst, ⟨more, left⟩, runMore, done⟩ := run
          obtain rfl := Option.some.inj done
          obtain ⟨nowhere, nothing, unchanged⟩ := visitRevised_futile futile other
            (path ++ _) _ before
          obtain ⟨after, again, agreeFirst⟩ :=
            visitAgree _ _ _ _ _ runFirst before (Site.Agree.refl site before)
          obtain ⟨rfl, rfl⟩ : ([] : List Route) = first ∧ nowhere = after := by
            simpa using nothing.symm.trans again
          exact includesAgree _ _ _ _ _ runMore _ _ alike
            ((agreeFirst.trans unchanged.symm).trans agree)
    | inserted useless _ ih =>
        obtain ⟨passed, skips, unchanged⟩ := includedRevised_broken useless other path _ start
        rw [skips]
        exact ih run passed (agree.trans unchanged)

/-! ### Walks one after the other -/

/-- What comes of some walks one after the other: for each of them its routes, and the name of an
application object that is known after it. -/
def reports (walk : DiskPath → String → Progress → Option (List Route × Progress)) :
    List (DiskPath × String) → Progress → Option (List (List Route × Option String))
  | [], _ => some []
  | (file, path) :: goals, progress => do
      let (routes, progress) ← walk file path progress
      let others ← reports walk goals progress
      return (routes, progress.appName) :: others

section Reports

variable {site : Site} {revision other : Revision}

theorem Site.SameRevision.symm (same : site.SameRevision revision other) :
    site.SameRevision other revision :=
  fun file scope body findings parsed answered =>
    (same file scope body findings parsed answered).symm

/-- One walk from states of progress that agree. -/
theorem walkRevised_agree (same : site.SameRevision revision other) {file : DiskPath} {path : String}
    {before start after : Progress} {routes : List Route}
    (run : site.walkRevised? revision file path before = some (routes, after))
    (agree : site.Agree before start) :
    ∃ stop, site.walkRevised? other file path start = some (routes, stop) ∧ site.Agree after stop := by
  obtain ⟨⟨found, left⟩, visits, done⟩ := Option.bind_eq_some_iff.1 run
  obtain ⟨rfl, rfl⟩ : found.map withParameters = routes ∧ left = after := by simpa using done
  obtain ⟨stop, again, agreed⟩ := (visitRevised_agree same).1 _ _ _ _ _ visits start agree
  exact ⟨stop, Option.bind_eq_some_iff.2 ⟨_, again, rfl⟩, agreed⟩

/-- All of them, if they end. -/
theorem reports_agree (same : site.SameRevision revision other) {goals : List (DiskPath × String)}
    {before start : Progress} {all : List (List Route × Option String)}
    (run : reports (site.walkRevised? revision) goals before = some all)
    (agree : site.Agree before start) :
    reports (site.walkRevised? other) goals start = some all := by
  induction goals generalizing before start all with
  | nil => exact run
  | cons goal goals ih =>
      obtain ⟨⟨routes, middle⟩, first, continued⟩ := Option.bind_eq_some_iff.1 run
      obtain ⟨more, runMore, done⟩ := Option.bind_eq_some_iff.1 continued
      obtain rfl := Option.some.inj done
      obtain ⟨stop, again, agreed⟩ := walkRevised_agree same first agree
      refine Option.bind_eq_some_iff.2 ⟨_, again, ?_⟩
      refine Option.bind_eq_some_iff.2 ⟨_, ih runMore agreed, ?_⟩
      simp only [agreed.appName, Option.pure_def]

/-- Walks in the terms of a framework end one after the other, wherever the first one starts. -/
theorem reports_end {framework : Framework} (reads : site.read = framework.findings)
    (answers : site.Answers) (goals : List (DiskPath × String)) (progress : Progress) :
    ∃ all, reports site.walk? goals progress = some all := by
  induction goals generalizing progress with
  | nil => exact ⟨[], rfl⟩
  | cons goal goals ih =>
      obtain ⟨entry, path⟩ := goal
      have finite : {part | site.Reaches site.Finds entry part}.Finite :=
        Site.reaches_finite (fun body => reads ▸ framework.asked_finite body) entry
      have few : (unmet {part | site.Reaches site.Finds entry part} progress).ncard ≤ _ := le_rfl
      obtain ⟨⟨routes, middle⟩, first⟩ := visit_ends answers finite (site.closed_reaches entry) few
        entry path {} (fun _ present => .start present)
      obtain ⟨all, rest⟩ := ih middle
      refine ⟨(routes.map withParameters, middle.appName) :: all, ?_⟩
      simp [reports, Site.walk?, first, rest]

end Reports

/-- Failures are isolated. Revised walks are those of a project whose files lose references, or are
given some; if all stay, they are its walks. Whichever broken references come or go, the walks from any
files, one after the other on any state of progress, yield the same routes each, leave the same
application name after each, and end if and only if they did before. A walk to a file that is
missing, or that was met already for the symbol in question, yields nothing and leaves the state of
progress as it was, but for the warning about the missing one. In the terms of either framework all
walks end. -/
theorem failures_isolated (site : Site) {revision : Revision}
    (spares : ∀ file scope body findings, site.disk.parseFile file = .ok body →
      site.read scope body = .ok findings →
        SameButBroken (site.Broken file) findings.includes
          (revision file scope findings.includes)) :
    site.walkRevised? unrevised = site.walk? ∧
    (∀ goals progress, reports (site.walkRevised? revision) goals progress =
      reports site.walk? goals progress) ∧
    (∀ file path progress cause, site.disk.canonical file = .error cause →
      let told := { progress with warnings := progress.warnings ++ [.skipped file cause] }
      site.walk? file path progress = some ([], told) ∧
        ∀ scope, site.visit file path scope progress = some ([], told)) ∧
    (∀ file path progress canonical, site.disk.canonical file = .ok canonical →
      ((canonical, none) ∈ progress.visited → site.walk? file path progress = some ([], progress)) ∧
        ∀ scope : Scope, (canonical, scope.symbol) ∈ progress.visited →
          site.visit file path scope progress = some ([], progress)) ∧
    ∀ framework : Framework, site.read = framework.findings → site.Answers →
      ∀ goals progress, ∃ all, reports site.walk? goals progress = some all := by
  have same : site.SameRevision unrevised revision := spares
  have missing : ∀ file path progress cause scope, site.disk.canonical file = .error cause →
      site.visit file path scope progress =
        some ([], { progress with warnings := progress.warnings ++ [.skipped file cause] }) := by
    intro file path progress cause scope absent
    rw [Site.visit, arrive_missing absent]
  have passed : ∀ file path progress canonical (scope : Scope),
      site.disk.canonical file = .ok canonical → (canonical, scope.symbol) ∈ progress.visited →
        site.visit file path scope progress = some ([], progress) := by
    intro file path progress canonical scope found met
    rw [Site.visit, arrive_passed found met]
  refine ⟨walkRevised_unrevised, fun goals progress => ?_,
    fun file path progress cause absent => ⟨?_, ?_⟩,
    fun file path progress canonical found => ⟨fun met => ?_, fun scope met => ?_⟩,
    fun framework reads answers => reports_end reads answers⟩
  · have agree := Site.Agree.refl site progress
    rw [← walkRevised_unrevised]
    exact Option.ext fun all =>
      ⟨fun run => reports_agree same.symm run agree, fun run => reports_agree same run agree⟩
  · rw [Site.walk?, missing file path progress cause {} absent]
    rfl
  · exact fun scope => missing file path progress cause scope absent
  · rw [Site.walk?, passed file path progress canonical {} found met]
    rfl
  · exact passed file path progress canonical scope found met

/-- An application with blueprints of a module that does not exist and of one that is garbled. -/
def damaged : Site where
  disk := { tree := .directory [
    ("app.py", .file ("from gone import pages\nfrom bad import shop\napp = Flask()\n" ++
      "app.register_blueprint(pages)\napp.register_blueprint(shop)\n").toUTF8),
    ("bad.py", .file "shop = (\n".toUTF8)] }
  modules := .ofProject ⟨"/"⟩ ⟨"/app.py"⟩ []
  inventory := {}
  read := Framework.flask.findings

/-- What it refers to. -/
def damagedReferences : List Include :=
  [{ module := "gone", symbol := some "pages" }, { module := "bad", symbol := some "shop" }]

theorem damaged_includes : ∃ body, damaged.disk.parseFile ⟨"/app.py"⟩ = .ok body ∧
    (Flask.findings {} body).includes = damagedReferences := by
  have stated : (damaged.disk.parseFile ⟨"/app.py"⟩).toOption.map
      (fun body => (Flask.findings {} body).includes) = some damagedReferences := by
    decide +kernel
  cases parsed : damaged.disk.parseFile ⟨"/app.py"⟩ with
  | error error =>
      rw [parsed] at stated
      cases stated
  | ok body =>
      rw [parsed] at stated
      exact ⟨body, rfl, Option.some.inj stated⟩

theorem damagedReferences_broken :
    ∀ reference ∈ damagedReferences, damaged.Broken ⟨"/app.py"⟩ reference := by
  have gone : damaged.modules.resolve damaged.disk "gone" 0 ⟨"/app.py"⟩ =
      .error (.unresolved "gone" ⟨"/app.py"⟩) := by
    decide +kernel
  have bad : damaged.modules.resolve damaged.disk "bad" 0 ⟨"/app.py"⟩ = .ok ⟨"/bad.py"⟩ := by
    decide +kernel
  have found : damaged.disk.canonical ⟨"/bad.py"⟩ = .ok ⟨"/bad.py"⟩ := by
    decide +kernel
  have refused : (damaged.disk.parseFile ⟨"/bad.py"⟩).isOk = false := by
    decide +kernel
  cases garbled : damaged.disk.parseFile ⟨"/bad.py"⟩ with
  | ok body =>
      rw [garbled] at refused
      cases refused
  | error error =>
      intro reference listed
      simp only [damagedReferences, List.mem_cons, List.not_mem_nil, or_false] at listed
      rcases listed with rfl | rfl
      · exact .unresolved gone
      · exact .unread bad found garbled

/-- The application refers to nothing. -/
def withdrawn : Revision := fun file _ references => if file = ⟨"/app.py"⟩ then [] else references

/-- Its walks come to the same end then, also if one follows the other. -/
theorem damaged_isolated :
    (∀ file scope body findings, damaged.disk.parseFile file = .ok body →
      damaged.read scope body = .ok findings →
        SameButBroken (damaged.Broken file) findings.includes
          (withdrawn file scope findings.includes)) ∧
      withdrawn ⟨"/app.py"⟩ {} damagedReferences = [] ∧
      ∃ all, reports damaged.walk? [(⟨"/app.py"⟩, ""), (⟨"/bad.py"⟩, "")] {} = some all ∧
        reports (damaged.walkRevised? withdrawn) [(⟨"/app.py"⟩, ""), (⟨"/bad.py"⟩, "")] {} =
          some all := by
  have spares : ∀ file scope body findings, damaged.disk.parseFile file = .ok body →
      damaged.read scope body = .ok findings →
        SameButBroken (damaged.Broken file) findings.includes
          (withdrawn file scope findings.includes) := by
    intro file scope body findings parsed answered
    by_cases here : file = ⟨"/app.py"⟩
    · subst here
      obtain ⟨stated, parses, includes⟩ := damaged_includes
      obtain rfl := Except.ok.inj (parsed.symm.trans parses)
      obtain rfl := Except.ok.inj answered
      rw [withdrawn, if_pos rfl]
      apply SameButBroken.all
      rcases Flask.findings_includes scope body with none_eq | all_eq
      · rw [none_eq]
        simp
      · rw [all_eq, includes]
        exact damagedReferences_broken
    · rw [withdrawn, if_neg here]
      exact .refl _
  have answers : damaged.Answers := fun _ scope body _ => Framework.flask_answers scope body
  obtain ⟨_, isolated, _, _, ends⟩ := failures_isolated damaged spares
  obtain ⟨all, run⟩ := ends .flask rfl answers [(⟨"/app.py"⟩, ""), (⟨"/bad.py"⟩, "")] {}
  exact ⟨spares, rfl, all, run, (isolated _ _).trans run⟩

end RouteAtlas.Project
