/-
Module: RouteAtlas.Proofs.Walk.Forest
Layer: Proofs
Purpose: What a walk meets, as a forest: the include graph unfolded from the entry file, where each
  part of a file is entered at its first arrival in depth-first order and passed over at every later
  one. A walk that ends has gone through such a forest, and its routes are read off the forest.
Trusted boundary: none
Main exports: Part, Stop, Forest, Forest.routes, Unfolds, firsts, FirstMarked, MarkedAfter
-/
import RouteAtlas.Proofs.Walk.Effects

namespace RouteAtlas.Project

/-- A part of a file: the file by its canonical path, and the symbol that is asked for. -/
abbrev Part := DiskPath × Option String

/-- A place to which a walk goes: a file, the path under which its routes appear, and the part of it
that is asked for. -/
structure Stop where
  file : DiskPath
  path : String
  scope : Scope
deriving DecidableEq, Repr, Inhabited

/-- The part of the file of a stop that is asked for. -/
def Stop.part (stop : Stop) : Part := (stop.file, stop.scope.symbol)

/-- Where the references of a file lead that can be resolved, in order. The path of a reference comes
after that of the file. -/
def Site.stops (site : Site) (file : DiskPath) (path : String) (references : List Include) :
    List Stop :=
  references.filterMap fun reference =>
    (site.modules.resolve site.disk reference.module reference.level file).toOption.map
      fun target => ⟨target, path ++ reference.path, reference.scope⟩

/-- What a walk meets, in order: parts that were met before, parts of files that cannot be parsed, and
parts that are entered, each with what is met below it. -/
inductive Forest where
  | done
  | passed (part : Part) (rest : Forest)
  | unread (part : Part) (rest : Forest)
  | entered (stop : Stop) (findings : Findings) (below rest : Forest)
deriving Inhabited

namespace Forest

/-- One forest after the other. -/
def append : Forest → Forest → Forest
  | .done, other => other
  | .passed part rest, other => .passed part (rest.append other)
  | .unread part rest, other => .unread part (rest.append other)
  | .entered stop findings below rest, other => .entered stop findings below (rest.append other)

/-- The arrivals in depth-first order, each with whether the part is taken for a new one. -/
def arrivals : Forest → List (Part × Bool)
  | .done => []
  | .passed part rest => (part, false) :: rest.arrivals
  | .unread part rest => (part, true) :: rest.arrivals
  | .entered stop _ below rest => (stop.part, true) :: (below.arrivals ++ rest.arrivals)

/-- The stops that are entered, each with what was found there. -/
def entries : Forest → List (Stop × Findings)
  | .done => []
  | .passed _ rest => rest.entries
  | .unread _ rest => rest.entries
  | .entered stop findings below rest => (stop, findings) :: (below.entries ++ rest.entries)

/-- The routes of a forest. Of a part that is entered they are its own ones under its path, those of
what is below it, and those of its registered resources. -/
def routes (site : Site) : Forest → List Route
  | .done => []
  | .passed _ rest => rest.routes site
  | .unread _ rest => rest.routes site
  | .entered stop findings below rest =>
      (site.ownRoutes stop.file findings).map (Route.under stop.path) ++ below.routes site ++
        site.registeredRoutesOf stop.file findings stop.path ++ rest.routes site

theorem arrivals_append (forest other : Forest) :
    (forest.append other).arrivals = forest.arrivals ++ other.arrivals := by
  induction forest with
  | done => rfl
  | passed part rest ih => simp [append, arrivals, ih]
  | unread part rest ih => simp [append, arrivals, ih]
  | entered stop findings below rest _ ih => simp [append, arrivals, ih]

theorem routes_append (site : Site) (forest other : Forest) :
    (forest.append other).routes site = forest.routes site ++ other.routes site := by
  induction forest with
  | done => rfl
  | passed part rest ih => simpa [append, routes] using ih
  | unread part rest ih => simpa [append, routes] using ih
  | entered stop findings below rest _ ih => simp [append, routes, ih]

end Forest

/-- A forest is what some stops unfold to. Each one whose file exists is there, as passed, unread or
entered, in the order of the stops; below an entered one are the stops of its own references. -/
inductive Unfolds (site : Site) : List Stop → Forest → Prop where
  | done : Unfolds site [] .done
  | missing {stop : Stop} {rest : List Stop} {later : Forest} {cause : DiskError}
      (lost : site.disk.canonical stop.file = .error cause)
      (others : Unfolds site rest later) :
      Unfolds site (stop :: rest) later
  | passed {stop : Stop} {rest : List Stop} {later : Forest} {file : DiskPath}
      (found : site.disk.canonical stop.file = .ok file)
      (others : Unfolds site rest later) :
      Unfolds site (stop :: rest) (.passed (file, stop.scope.symbol) later)
  | unread {stop : Stop} {rest : List Stop} {later : Forest} {file : DiskPath}
      {error : SourceError}
      (found : site.disk.canonical stop.file = .ok file)
      (broken : site.disk.parseFile file = .error error)
      (others : Unfolds site rest later) :
      Unfolds site (stop :: rest) (.unread (file, stop.scope.symbol) later)
  | entered {stop : Stop} {rest : List Stop} {below later : Forest} {file : DiskPath}
      {body : Python.Module} {findings : Findings}
      (found : site.disk.canonical stop.file = .ok file)
      (parsed : site.disk.parseFile file = .ok body)
      (answered : site.read stop.scope body = .ok findings)
      (inner : Unfolds site (site.stops file stop.path findings.includes) below)
      (others : Unfolds site rest later) :
      Unfolds site (stop :: rest)
        (.entered ⟨file, stop.path, stop.scope⟩ findings below later)

theorem Unfolds.append {site : Site} {stops others : List Stop} {forest later : Forest}
    (first : Unfolds site stops forest) (second : Unfolds site others later) :
    Unfolds site (stops ++ others) (forest.append later) := by
  induction first with
  | done => exact second
  | missing lost _ ih => exact .missing lost ih
  | passed found _ ih => exact .passed found ih
  | unread found broken _ ih => exact .unread found broken ih
  | entered found parsed answered inner _ _ ih => exact .entered found parsed answered inner ih

/-! ### First arrivals -/

/-- The parts that are taken for new ones. -/
def firsts (arrivals : List (Part × Bool)) : List Part :=
  (arrivals.filter Prod.snd).map Prod.fst

/-- A part is taken for a new one exactly where it is met first. -/
def FirstMarked (arrivals : List (Part × Bool)) : Prop :=
  ∀ earlier part new later, arrivals = earlier ++ (part, new) :: later →
    (new = true ↔ part ∉ earlier.map Prod.fst)

/-- A part is taken for a new one exactly where it is met first, some parts having been met before. A
part that is met is kept in mind if it is new. -/
def MarkedAfter (seen : List Part) : List (Part × Bool) → Prop
  | [] => True
  | (part, false) :: rest => part ∈ seen ∧ MarkedAfter seen rest
  | (part, true) :: rest => part ∉ seen ∧ MarkedAfter (part :: seen) rest

section Firsts

variable (part : Part) (arrivals others : List (Part × Bool)) (rest : Forest)

@[simp]
theorem firsts_nil : firsts [] = [] := rfl

@[simp]
theorem firsts_new : firsts ((part, true) :: arrivals) = part :: firsts arrivals := rfl

@[simp]
theorem firsts_old : firsts ((part, false) :: arrivals) = firsts arrivals := rfl

@[simp]
theorem firsts_append : firsts (arrivals ++ others) = firsts arrivals ++ firsts others := by
  rw [firsts, List.filter_append, List.map_append]
  rfl

@[simp]
theorem firsts_done : firsts Forest.done.arrivals = [] := rfl

@[simp]
theorem firsts_passed : firsts (Forest.passed part rest).arrivals = firsts rest.arrivals := rfl

@[simp]
theorem firsts_unread :
    firsts (Forest.unread part rest).arrivals = part :: firsts rest.arrivals := rfl

@[simp]
theorem firsts_entered (stop : Stop) (findings : Findings) (below : Forest) :
    firsts (Forest.entered stop findings below rest).arrivals =
      stop.part :: (firsts below.arrivals ++ firsts rest.arrivals) := by
  rw [Forest.arrivals, firsts_new, firsts_append]

end Firsts

theorem MarkedAfter.append {seen : List Part} {arrivals others : List (Part × Bool)}
    (first : MarkedAfter seen arrivals)
    (second : MarkedAfter ((firsts arrivals).reverse ++ seen) others) :
    MarkedAfter seen (arrivals ++ others) := by
  induction arrivals generalizing seen with
  | nil => simpa using second
  | cons arrival rest ih =>
      obtain ⟨part, new⟩ := arrival
      cases new with
      | false => exact ⟨first.1, ih first.2 (by simpa using second)⟩
      | true => exact ⟨first.1, ih first.2 (by simpa using second)⟩

/-- Keeping in mind what is new amounts to looking at all that was met earlier. -/
theorem MarkedAfter.new_iff {seen : List Part} {arrivals : List (Part × Bool)}
    (marked : MarkedAfter seen arrivals) :
    ∀ {earlier : List (Part × Bool)} {part : Part} {new : Bool} {later : List (Part × Bool)},
      arrivals = earlier ++ (part, new) :: later →
        (new = true ↔ part ∉ seen ∧ part ∉ earlier.map Prod.fst) := by
  induction arrivals generalizing seen with
  | nil => intro earlier part new later split; simp at split
  | cons arrival rest ih =>
      obtain ⟨head, first⟩ := arrival
      intro earlier part new later split
      cases earlier with
      | nil =>
          obtain ⟨⟨rfl, rfl⟩, rfl⟩ : (head = part ∧ first = new) ∧ rest = later := by
            simpa using split
          cases first with
          | false => simp [marked.1]
          | true => simp [marked.1]
      | cons before earlier =>
          obtain ⟨rfl, rest_eq⟩ : (head, first) = before ∧ rest = earlier ++ (part, new) :: later :=
            by simpa using split
          cases first with
          | false =>
              have onward := ih marked.2 rest_eq
              have met : head ∈ seen := marked.1
              simp only [List.map_cons, List.mem_cons, not_or]
              rw [onward]
              constructor
              · rintro ⟨fresh, absent⟩
                refine ⟨fresh, ?_, absent⟩
                rintro rfl
                exact fresh met
              · rintro ⟨fresh, _, absent⟩
                exact ⟨fresh, absent⟩
          | true =>
              have onward := ih marked.2 rest_eq
              simp only [List.map_cons, List.mem_cons, not_or] at onward ⊢
              rw [onward]
              constructor
              · rintro ⟨⟨other, fresh⟩, absent⟩
                exact ⟨fresh, other, absent⟩
              · rintro ⟨fresh, other, absent⟩
                exact ⟨⟨other, fresh⟩, absent⟩

theorem MarkedAfter.firstMarked {arrivals : List (Part × Bool)}
    (marked : MarkedAfter [] arrivals) : FirstMarked arrivals := by
  intro earlier part new later split
  simpa using marked.new_iff split

/-- No part is taken for a new one twice, nor one that was met before. -/
theorem MarkedAfter.nodup {seen : List Part} {arrivals : List (Part × Bool)}
    (marked : MarkedAfter seen arrivals) :
    (firsts arrivals).Nodup ∧ ∀ part ∈ firsts arrivals, part ∉ seen := by
  induction arrivals generalizing seen with
  | nil => simp
  | cons arrival rest ih =>
      obtain ⟨head, new⟩ := arrival
      cases new with
      | false =>
          rw [firsts_old]
          exact ih marked.2
      | true =>
          obtain ⟨nodup, fresh⟩ := ih marked.2
          rw [firsts_new]
          have once : head ∉ firsts rest := fun repeated =>
            fresh head repeated List.mem_cons_self
          refine ⟨List.nodup_cons.2 ⟨once, nodup⟩, ?_⟩
          intro part member
          rcases List.mem_cons.1 member with rfl | member
          · exact marked.1
          · intro old
            exact fresh part member (List.mem_cons_of_mem head old)

end RouteAtlas.Project
