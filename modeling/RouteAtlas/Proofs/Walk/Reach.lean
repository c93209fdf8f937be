/-
Module: RouteAtlas.Proofs.Walk.Reach
Layer: Proofs
Purpose: The parts of files that references lead to. The parts that are met in a forest are those that
  are reached from its entry file through what was found in it; and if what a part refers to does
  not hang on the path that was asked for, they are those reached in the include graph itself.
Trusted boundary: none
Main exports: Site.Reaches, Site.Finds, Forest.Finds, Site.Steady, Unfolds.reaches_iff,
  Unfolds.reaches_finds_iff
-/
import RouteAtlas.Proofs.Walk.Exploration

namespace RouteAtlas.Project

/-- The parts that are reached from the entry file, without a symbol, along references that can be
resolved and lead to files that exist. `found` says what was found in a part. -/
inductive Site.Reaches (site : Site) (found : Part → Findings → Prop) (entry : DiskPath) :
    Part → Prop where
  | start {file : DiskPath} (present : site.disk.canonical entry = .ok file) :
      Reaches site found entry (file, none)
  | follow {part : Part} {findings : Findings} {reference : Include} {target file : DiskPath}
      (earlier : Reaches site found entry part)
      (there : found part findings)
      (listed : reference ∈ findings.includes)
      (resolved :
        site.modules.resolve site.disk reference.module reference.level part.1 = .ok target)
      (present : site.disk.canonical target = .ok file) :
      Reaches site found entry (file, reference.symbol)

/-- What is found in a part whose file can be parsed, for some path that takes the place of its own
one. -/
def Site.Finds (site : Site) (part : Part) (findings : Findings) : Prop :=
  ∃ (urlPath : Option String) (body : Python.Module),
    site.disk.parseFile part.1 = .ok body ∧ site.read ⟨part.2, urlPath⟩ body = .ok findings

/-- What was found in a part that is entered in a forest. -/
def Forest.Finds (forest : Forest) (part : Part) (findings : Findings) : Prop :=
  ∃ stop : Stop, stop.part = part ∧ (stop, findings) ∈ forest.entries

/-- What a part of a file refers to is the same for all paths that take the place of its own one. -/
def Site.Steady (site : Site) : Prop :=
  ∀ (symbol urlPath other : Option String) (body : Python.Module) (findings more : Findings),
    site.read ⟨symbol, urlPath⟩ body = .ok findings → site.read ⟨symbol, other⟩ body = .ok more →
      findings.includes = more.includes

/-- The references of a file lead to its stops. -/
theorem Site.mem_stops_iff {site : Site} {file : DiskPath} {path : String}
    {references : List Include} {stop : Stop} :
    stop ∈ site.stops file path references ↔
      ∃ reference ∈ references, ∃ target,
        site.modules.resolve site.disk reference.module reference.level file = .ok target ∧
          stop = ⟨target, path ++ reference.path, reference.scope⟩ := by
  simp only [Site.stops, List.mem_filterMap, Option.map_eq_some_iff]
  constructor
  · rintro ⟨reference, listed, target, resolved, rfl⟩
    refine ⟨reference, listed, target, ?_, rfl⟩
    revert resolved
    cases site.modules.resolve site.disk reference.module reference.level file with
    | error error => simp [Except.toOption]
    | ok other => simp [Except.toOption]
  · rintro ⟨reference, listed, target, resolved, rfl⟩
    exact ⟨reference, listed, target, by rw [resolved]; rfl, rfl⟩

/-- A part that arrives is new, or was met before. -/
theorem MarkedAfter.met {seen : List Part} {arrivals : List (Part × Bool)}
    (marked : MarkedAfter seen arrivals) {part : Part} (arrives : part ∈ arrivals.map Prod.fst) :
    part ∈ seen ∨ part ∈ firsts arrivals := by
  induction arrivals generalizing seen with
  | nil => simp at arrives
  | cons arrival rest ih =>
      obtain ⟨head, new⟩ := arrival
      cases new with
      | false =>
          rw [firsts_old]
          rcases List.mem_cons.1 arrives with rfl | arrives
          · exact .inl marked.1
          · exact ih marked.2 arrives
      | true =>
          rw [firsts_new]
          rcases List.mem_cons.1 arrives with rfl | arrives
          · exact .inr List.mem_cons_self
          · rcases ih marked.2 arrives with met | new
            · rcases List.mem_cons.1 met with rfl | met
              · exact .inr List.mem_cons_self
              · exact .inl met
            · exact .inr (List.mem_cons_of_mem head new)

theorem mem_arrivals_of_mem_firsts {arrivals : List (Part × Bool)} {part : Part}
    (new : part ∈ firsts arrivals) : part ∈ arrivals.map Prod.fst := by
  obtain ⟨arrival, kept, rfl⟩ := List.mem_map.1 new
  exact List.mem_map_of_mem (List.mem_filter.1 kept).1

namespace Unfolds

variable {site : Site} {stops : List Stop} {forest : Forest}

/-- Every stop whose file exists arrives. -/
theorem stop_arrives (unfolds : Unfolds site stops forest) {stop : Stop} {file : DiskPath}
    (member : stop ∈ stops) (present : site.disk.canonical stop.file = .ok file) :
    (file, stop.scope.symbol) ∈ forest.arrivals.map Prod.fst := by
  induction unfolds with
  | done => simp at member
  | missing lost _ ih =>
      rcases List.mem_cons.1 member with rfl | member
      · rw [present] at lost
        cases lost
      · exact ih member
  | passed found _ ih =>
      rcases List.mem_cons.1 member with rfl | member
      · obtain rfl := Except.ok.inj (present.symm.trans found)
        exact List.mem_cons_self
      · exact List.mem_cons_of_mem _ (ih member)
  | unread found _ _ ih =>
      rcases List.mem_cons.1 member with rfl | member
      · obtain rfl := Except.ok.inj (present.symm.trans found)
        exact List.mem_cons_self
      · exact List.mem_cons_of_mem _ (ih member)
  | entered found _ _ _ _ _ ih =>
      simp only [Forest.arrivals, List.map_cons, List.map_append, List.mem_cons, List.mem_append]
      rcases List.mem_cons.1 member with rfl | member
      · obtain rfl := Except.ok.inj (present.symm.trans found)
        exact .inl rfl
      · exact .inr (.inr (ih member))

/-- Whatever an entered part refers to arrives. -/
theorem reference_arrives (unfolds : Unfolds site stops forest) {stop : Stop}
    {findings : Findings} {reference : Include} {target file : DiskPath}
    (entry : (stop, findings) ∈ forest.entries) (listed : reference ∈ findings.includes)
    (resolved :
      site.modules.resolve site.disk reference.module reference.level stop.file = .ok target)
    (present : site.disk.canonical target = .ok file) :
    (file, reference.symbol) ∈ forest.arrivals.map Prod.fst := by
  induction unfolds with
  | done => simp [Forest.entries] at entry
  | missing _ _ ih => exact ih entry
  | passed _ _ ih => exact List.mem_cons_of_mem _ (ih entry)
  | unread _ _ _ ih => exact List.mem_cons_of_mem _ (ih entry)
  | entered _ _ _ inner _ ihInner ih =>
      simp only [Forest.arrivals, List.map_cons, List.map_append, List.mem_cons, List.mem_append]
      simp only [Forest.entries, List.mem_cons, List.mem_append, Prod.mk.injEq] at entry
      rcases entry with ⟨rfl, rfl⟩ | entry | entry
      · exact .inr (.inl (inner.stop_arrives
          (Site.mem_stops_iff.2 ⟨reference, listed, target, resolved, rfl⟩) present))
      · exact .inr (.inl (ihInner entry))
      · exact .inr (.inr (ih entry))

/-- What is found in an entered part is what the site finds there. -/
theorem finds_of_mem_entries (unfolds : Unfolds site stops forest) {stop : Stop}
    {findings : Findings} (entry : (stop, findings) ∈ forest.entries) :
    ∃ body, site.disk.parseFile stop.file = .ok body ∧
      site.read stop.scope body = .ok findings := by
  induction unfolds with
  | done => simp [Forest.entries] at entry
  | missing _ _ ih => exact ih entry
  | passed _ _ ih => exact ih entry
  | unread _ _ _ ih => exact ih entry
  | entered _ parsed answered _ _ ihInner ih =>
      simp only [Forest.entries, List.mem_cons, List.mem_append, Prod.mk.injEq] at entry
      rcases entry with ⟨rfl, rfl⟩ | entry | entry
      · exact ⟨_, parsed, answered⟩
      · exact ihInner entry
      · exact ih entry

/-- A new part whose file can be parsed is entered. -/
theorem entered_of_parsed (unfolds : Unfolds site stops forest) {part : Part}
    {body : Python.Module} (new : part ∈ firsts forest.arrivals)
    (parsed : site.disk.parseFile part.1 = .ok body) :
    ∃ stop findings, stop.part = part ∧ (stop, findings) ∈ forest.entries := by
  induction unfolds with
  | done => cases new
  | missing _ _ ih => exact ih new
  | passed _ _ ih => exact ih new
  | @unread stop _ later file _ found broken _ ih =>
      rw [firsts_unread, List.mem_cons] at new
      rcases new with rfl | new
      · rw [broken] at parsed
        cases parsed
      · exact ih new
  | @entered stop _ below later file _ findings _ _ _ _ _ ihInner ih =>
      rw [firsts_entered, List.mem_cons, List.mem_append] at new
      rcases new with rfl | new | new
      · exact ⟨⟨file, stop.path, stop.scope⟩, findings, rfl, List.mem_cons_self⟩
      · obtain ⟨deep, more, same, entry⟩ := ihInner new
        exact ⟨deep, more, same, List.mem_cons_of_mem _ (List.mem_append_left _ entry)⟩
      · obtain ⟨deep, more, same, entry⟩ := ih new
        exact ⟨deep, more, same, List.mem_cons_of_mem _ (List.mem_append_right _ entry)⟩

/-- What holds of the stops, and of everything that a part refers to if it holds of the part, holds of
all that arrives. -/
theorem arrivals_induction (unfolds : Unfolds site stops forest) {P : Part → Prop}
    (ofStop : ∀ stop ∈ stops, ∀ file, site.disk.canonical stop.file = .ok file →
      P (file, stop.scope.symbol))
    (ofReference : ∀ stop findings, (stop, findings) ∈ forest.entries → P stop.part →
      ∀ reference ∈ findings.includes, ∀ target,
        site.modules.resolve site.disk reference.module reference.level stop.file = .ok target →
          ∀ file, site.disk.canonical target = .ok file → P (file, reference.symbol)) :
    ∀ part ∈ forest.arrivals.map Prod.fst, P part := by
  induction unfolds with
  | done => simp [Forest.arrivals]
  | missing _ _ ih =>
      exact ih (fun stop member => ofStop stop (List.mem_cons_of_mem _ member)) ofReference
  | passed found _ ih =>
      intro part arrives
      rcases List.mem_cons.1 arrives with rfl | arrives
      · exact ofStop _ List.mem_cons_self _ found
      · exact ih (fun stop member => ofStop stop (List.mem_cons_of_mem _ member)) ofReference
          part arrives
  | unread found _ _ ih =>
      intro part arrives
      rcases List.mem_cons.1 arrives with rfl | arrives
      · exact ofStop _ List.mem_cons_self _ found
      · exact ih (fun stop member => ofStop stop (List.mem_cons_of_mem _ member)) ofReference
          part arrives
  | @entered stop _ below later file _ findings found _ _ _ _ ihInner ih =>
      have here : P (file, stop.scope.symbol) := ofStop _ List.mem_cons_self _ found
      intro part arrives
      simp only [Forest.arrivals, List.map_cons, List.map_append, List.mem_cons,
        List.mem_append] at arrives
      rcases arrives with rfl | arrives | arrives
      · exact here
      · refine ihInner ?_ ?_ part arrives
        · intro next member target present
          obtain ⟨reference, listed, place, resolved, rfl⟩ := Site.mem_stops_iff.1 member
          exact ofReference _ findings List.mem_cons_self here reference listed place resolved
            target present
        · intro deep more entry
          exact ofReference deep more (List.mem_cons_of_mem _ (List.mem_append_left _ entry))
      · refine ih (fun next member => ofStop next (List.mem_cons_of_mem _ member)) ?_ part arrives
        intro deep more entry
        exact ofReference deep more (List.mem_cons_of_mem _ (List.mem_append_right _ entry))

end Unfolds

section Reached

variable {site : Site} {entry : DiskPath} {path : String} {forest : Forest}

/-- The new parts of a walk from the entry file are those that are reached through what it found. -/
theorem Unfolds.reaches_iff (unfolds : Unfolds site [⟨entry, path, {}⟩] forest)
    (marked : MarkedAfter [] forest.arrivals) (part : Part) :
    part ∈ firsts forest.arrivals ↔ site.Reaches forest.Finds entry part := by
  have new_of_arrives : ∀ {part}, part ∈ forest.arrivals.map Prod.fst →
      part ∈ firsts forest.arrivals := fun arrives => by simpa using marked.met arrives
  constructor
  · intro new
    refine unfolds.arrivals_induction (P := site.Reaches forest.Finds entry) ?_ ?_ part
      (mem_arrivals_of_mem_firsts new)
    · intro stop member file present
      obtain rfl := List.mem_singleton.1 member
      exact .start present
    · intro stop findings entered earlier reference listed target resolved file present
      exact .follow earlier ⟨stop, rfl, entered⟩ listed resolved present
  · intro reached
    induction reached with
    | start present => exact new_of_arrives (unfolds.stop_arrives List.mem_cons_self present)
    | follow _ there listed resolved present _ =>
        obtain ⟨stop, rfl, entered⟩ := there
        exact new_of_arrives (unfolds.reference_arrives entered listed resolved present)

/-- If what a part refers to does not hang on the path that was asked for, they are those that are
reached in the include graph of the site. -/
theorem Unfolds.reaches_finds_iff (steady : site.Steady)
    (unfolds : Unfolds site [⟨entry, path, {}⟩] forest)
    (marked : MarkedAfter [] forest.arrivals) (part : Part) :
    part ∈ firsts forest.arrivals ↔ site.Reaches site.Finds entry part := by
  rw [unfolds.reaches_iff marked]
  constructor
  · intro reached
    induction reached with
    | start present => exact .start present
    | follow _ there listed resolved present ih =>
        obtain ⟨stop, rfl, entered⟩ := there
        obtain ⟨body, parsed, answered⟩ := unfolds.finds_of_mem_entries entered
        exact .follow ih ⟨stop.scope.urlPath, body, parsed, answered⟩ listed resolved present
  · intro reached
    induction reached with
    | start present => exact .start present
    | @follow part _ reference _ _ _ there listed resolved present ih =>
        obtain ⟨urlPath, body, parsed, answered⟩ := there
        obtain ⟨stop, more, rfl, entered⟩ :=
          unfolds.entered_of_parsed ((unfolds.reaches_iff marked part).2 ih) parsed
        obtain ⟨same, parsedSame, answeredSame⟩ := unfolds.finds_of_mem_entries entered
        obtain rfl := Except.ok.inj (parsed.symm.trans parsedSame)
        have includes_eq := steady stop.scope.symbol urlPath stop.scope.urlPath body _ _ answered
          answeredSame
        exact .follow ih ⟨stop, rfl, entered⟩ (includes_eq ▸ listed) resolved present

end Reached

end RouteAtlas.Project
