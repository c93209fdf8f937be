/-
Module: RouteAtlas.Proofs.Flask.Scope
Layer: Proofs
Purpose: A part of a file, as another file asks for it by the name of a blueprint. A blueprint that the
  file declares gives the same routes to the other file as it gives to its own one when it is registered
  there. A name of which the file declares no blueprint is as good as none: then the whole file answers.
Trusted boundary: none
Main exports: Assembly.own?, findings_scoped, StatedOn, scope_keeps_iff, registrationOf,
  registered_as_included
-/
import RouteAtlas.Proofs.Flask.Registration

namespace RouteAtlas.Flask

/-! ### Blueprints by name -/

namespace Assembly

variable (assembly : Assembly)

/-- The path that the first blueprint of a name declares for itself. -/
def own? (name : String) : Option String :=
  (assembly.declared.find? fun declaration => declaration.1 = name).map Prod.snd

theorem own?_isSome_iff (name : String) :
    (assembly.own? name).isSome = true ↔ name ∈ assembly.declared.map Prod.fst := by
  simp [own?]

theorem find?_of_own? {assembly : Assembly} {name own : String}
    (declares : assembly.own? name = some own) :
    (assembly.declared.find? fun declaration => declaration.1 = name) = some (name, own) := by
  obtain ⟨⟨other, path⟩, first, rfl⟩ := Option.map_eq_some_iff.1 declares
  have same : other = name := by simpa using List.find?_some first
  rw [first, same]

end Assembly

-- A name that was seen hides its later declarations, so the lookup is followed only up to the first
-- declaration of the name, which nothing hides.
theorem find?_blueprints (assembly : Assembly) {seen : List String} {name : String}
    (unseen : name ∉ seen) (declared : List (String × String)) :
    ((assembly.blueprints seen declared).find? fun blueprint => blueprint.name == name) =
      (declared.find? fun declaration => declaration.1 = name).map fun declaration =>
        assembly.blueprint name declaration.2 := by
  induction declared generalizing seen with
  | nil => rfl
  | cons first rest ih =>
      obtain ⟨other, own⟩ := first
      rw [Assembly.blueprints]
      by_cases same : other = name
      · subst same
        rw [if_neg unseen, List.find?_cons_of_pos (by simp [Assembly.blueprint]),
          List.find?_cons_of_pos (by simp)]
        rfl
      · have hidden : name ∉ other :: seen :=
          List.not_mem_cons_of_ne_of_not_mem (Ne.symm same) unseen
        rw [List.find?_cons_of_neg, ih hidden, List.find?_cons_of_neg (by simpa using same)]
        split
        · simpa using same
        · simpa [Assembly.blueprint] using same

/-- The first blueprint of a name is the one to which everything is added that is said of the name. -/
theorem blueprint?_application (assembly : Assembly) (name : String) :
    assembly.application.blueprint? name = (assembly.own? name).map (assembly.blueprint name) := by
  rw [Application.blueprint?, Assembly.own?, Option.map_map]
  exact find?_blueprints assembly List.not_mem_nil _

/-- A blueprint that is declared stands in one place among those that count. -/
theorem firstDeclared_split {name own : String} {declared : List (String × String)}
    (first : (declared.find? fun declaration => declaration.1 = name) = some (name, own)) :
    ∃ earlier later, firstDeclared declared = earlier ++ (name, own) :: later ∧
      ∀ other ∈ earlier ++ later, other.1 ≠ name := by
  induction declared with
  | nil => cases first
  | cons head rest ih =>
      rw [firstDeclared]
      by_cases same : head.1 = name
      · rw [List.find?_cons_of_pos (by simpa using same)] at first
        obtain rfl := Option.some.inj first
        refine ⟨[], _, rfl, fun other member => ?_⟩
        simpa using (List.mem_filter.1 member).2
      · -- The head only takes declarations of its own name away from what follows it.
        rw [List.find?_cons_of_neg (by simpa using same)] at first
        obtain ⟨earlier, later, split, others⟩ := ih first
        refine ⟨head :: earlier.filter fun other => other.1 ≠ head.1,
          later.filter fun other => other.1 ≠ head.1, ?_, fun other member => ?_⟩
        · rw [split, List.filter_append, List.filter_cons_of_pos (by simpa using Ne.symm same)]
          rfl
        · rw [List.cons_append, ← List.filter_append] at member
          rcases List.mem_cons.1 member with rfl | member
          · exact same
          · exact others other (List.mem_filter.1 member).1

/-! ### One blueprint of a file -/

/-- The findings of a file for a scope. A blueprint that the file declares answers with its own routes, at
the path that the scope gives for it or else at its own one. If the file declares none of the name, the
whole file answers, as if nothing had been asked for. -/
theorem findings_scoped (body : Python.Module) (name : String) (override : Option String) :
    let said := assemblyOf (Python.imports body) (Python.nodes body)
    findings ⟨some name, override⟩ body =
      match said.own? name with
      | some own =>
          { routes := (said.blueprint name own).routesUnder (override.getD own)
            imports := Python.imports body
            appName := said.apps.head? }
      | none => findings {} body := by
  intro said
  rw [findings_eq, Application.findings, Option.bind_some, blueprint?_application]
  cases said.own? name with
  | some own => rfl
  | none =>
      rw [findings_eq]
      rfl

/-- A route is stated on the blueprint of a name: a rule of it is recorded on the name, which is that of a
blueprint and not that of an application. The route comes out at the path that is given for the blueprint,
and else at the blueprint's own one. -/
def Assembly.StatedOn (assembly : Assembly) (name : String) (override : Option String) (route : Route) :
    Prop :=
  ∃ own rule stated, assembly.own? name = some own ∧ name ∉ assembly.apps ∧
    (name, rule) ∈ assembly.rules ∧ stated ∈ rule.routes ∧ route = stated.under (override.getD own)

theorem statedOn_iff {assembly : Assembly} {name own : String} (declares : assembly.own? name = some own)
    (override : Option String) (route : Route) :
    assembly.StatedOn name override route ↔
      route ∈ (assembly.blueprint name own).routesUnder (override.getD own) := by
  rw [Blueprint.routesUnder, List.mem_map]
  constructor
  · rintro ⟨other, rule, stated, first, plain, recorded, there, rfl⟩
    obtain rfl := Option.some.inj (first.symm.trans declares)
    refine ⟨stated, ?_, rfl⟩
    rw [Assembly.blueprint, if_neg (by simpa using plain), Assembly.routesOn]
    exact List.mem_flatMap.2 ⟨_, List.mem_filter.2 ⟨recorded, by simp⟩, there⟩
  · rintro ⟨stated, member, rfl⟩
    by_cases app : assembly.apps.contains name = true
    · rw [Assembly.blueprint, if_pos app] at member
      cases member
    · rw [Assembly.blueprint, if_neg app, Assembly.routesOn] at member
      obtain ⟨⟨receiver, rule⟩, kept, there⟩ := List.mem_flatMap.1 member
      obtain ⟨recorded, same⟩ := List.mem_filter.1 kept
      obtain rfl : receiver = name := of_decide_eq_true same
      exact ⟨own, rule, stated, declares, by simpa using app, recorded, there, rfl⟩

/-- What a scope is good for. If the file declares a blueprint of the name, its routes come out and no
others; if it declares none, all routes of the file do. So a scope keeps to the routes that are stated on
the blueprint it names exactly if the file declares such a blueprint, or has no routes at all. Objects are
told apart by their names. -/
theorem scope_keeps_iff (body : Python.Module) (name : String) (override : Option String) :
    let said := assemblyOf (Python.imports body) (Python.nodes body)
    (findings ⟨some name, override⟩ body).routes =
        (match said.own? name with
        | some own => (said.blueprint name own).routesUnder (override.getD own)
        | none => (findings {} body).routes) ∧
      (∀ route, said.StatedOn name override route →
        route ∈ (findings ⟨some name, override⟩ body).routes) ∧
      ((∀ route ∈ (findings ⟨some name, override⟩ body).routes, said.StatedOn name override route) ↔
        name ∈ said.declared.map Prod.fst ∨ (findings {} body).routes = []) := by
  intro said
  rw [findings_scoped, ← Assembly.own?_isSome_iff]
  cases declares : said.own? name with
  | some own =>
      refine ⟨rfl, fun route => (statedOn_iff declares override route).1, ?_⟩
      exact iff_of_true (fun route => (statedOn_iff declares override route).2) (.inl rfl)
  | none =>
      have unstated : ∀ route, ¬ said.StatedOn name override route := by
        rintro route ⟨own, _, _, first, _⟩
        cases first.symm.trans declares
      refine ⟨rfl, fun route stated => (unstated route stated).elim, ?_⟩
      constructor
      · intro keeps
        exact .inr (List.eq_nil_iff_forall_not_mem.2 fun route member =>
          unstated route (keeps route member))
      · rintro (impossible | empty) route member
        · cases impossible
        · exact absurd member (by simp [empty])

/-- A file with one blueprint. -/
def otherBlueprint : Python.Module :=
  [.assign [.name "other"] (.call (.name "Blueprint") [.constant (.text "other"), .name "__name__"] []),
    .function "view" [.call (.attribute (.name "other") "get") [.constant (.text "/x")] []] [.simple]]

/-- Its routes come out for the name of a blueprint that it does not declare. -/
theorem otherBlueprint_leaks :
    let said := assemblyOf (Python.imports otherBlueprint) (Python.nodes otherBlueprint)
    (findings ⟨some "bp", none⟩ otherBlueprint).routes.map Route.path = ["/x"] ∧
      ∀ route, ¬ said.StatedOn "bp" none route := by
  refine ⟨by decide, ?_⟩
  rintro route ⟨own, _, _, first, _⟩
  cases first

/-! ### A blueprint registered in its own file and in another one -/

/-- The keyword argument of a registration that gives a path. -/
def pathKeyword : Option String → List (Option String × Python.Expr)
  | none => []
  | some path => [(some "url_prefix", .constant (.text path))]

/-- The statement that registers the blueprint of a name, at a path if one is given. -/
def registrationOf (receiver name : String) (override : Option String) : Python.Stmt :=
  registerStmt receiver [.name name] (pathKeyword override)

/-- A registration at the end of a file is one more registration. -/
theorem assemblyOf_registrationOf (imports : Python.ImportTable) (body : Python.Module)
    (receiver : String) {name : String} (override : Option String)
    (declared : name ∈ ((Python.nodes body).filterMap blueprintOf?).map Prod.fst) :
    assemblyOf imports (Python.nodes (body ++ [registrationOf receiver name override])) =
      (assemblyOf imports (Python.nodes body)).register name override := by
  have single : Python.nodes [registrationOf receiver name override] =
      [.call (registerCall receiver [.name name] (pathKeyword override))] := by
    cases override with
    | none => rfl
    | some path => rfl
  have given : overridePath? (registerCall receiver [.name name] (pathKeyword override)) =
      override := by
    cases override with
    | none => rfl
    | some path => rfl
  have target : (registerCall receiver [.name name] (pathKeyword override)).argOrKeyword? 0
      "blueprint" = some (.name name) := rfl
  rw [Python.nodes_append, single, assemblyOf_registerStmt imports (Python.nodes body) [] target
    (by rwa [List.append_nil]), given, List.append_nil]
  rfl

section Registered

variable {assembly : Assembly} {name : String}

/-- The routes of some blueprints of a file, as they come out. -/
def Assembly.routesOf (assembly : Assembly) (declarations : List (String × String)) : List Route :=
  declarations.flatMap fun declaration =>
    (assembly.blueprint declaration.1 declaration.2).registeredRoutes

/-- All routes of a file, with those of one blueprint set apart. -/
theorem allRoutes_split {own : String} {earlier later : List (String × String)}
    (split : firstDeclared assembly.declared = earlier ++ (name, own) :: later) :
    assembly.application.allRoutes =
      assembly.appRoutes ++ assembly.routesOf earlier ++
        (assembly.blueprint name own).registeredRoutes ++ assembly.routesOf later := by
  rw [allRoutes_blueprints, split, List.flatMap_append, List.flatMap_cons, ← List.append_assoc,
    ← List.append_assoc]
  rfl

/-- A registration of one blueprint leaves the others as they are. -/
theorem routesOf_register (override : Option String) {others : List (String × String)}
    (apart : ∀ other ∈ others, other.1 ≠ name) :
    (assembly.register name override).routesOf others = assembly.routesOf others := by
  induction others with
  | nil => rfl
  | cons first rest ih =>
      rw [Assembly.routesOf, List.flatMap_cons,
        assembly.blueprint_register_other override (apart first List.mem_cons_self)]
      exact congrArg _ (ih fun other member => apart other (List.mem_cons_of_mem _ member))

/-- A blueprint that was not registered comes out at its own path. -/
theorem registeredRoutes_unregistered (own : String) (unregistered : assembly.pathsOf name own = []) :
    (assembly.blueprint name own).registeredRoutes = (assembly.blueprint name own).routesUnder own := by
  have unpaired : (assembly.blueprint name own).registrations = [] := unregistered
  rw [Blueprint.registeredRoutes, unpaired]
  exact List.flatMap_singleton _ own

/-- A blueprint that is registered once comes out at the path of the registration. -/
theorem registeredRoutes_register (own : String) (override : Option String)
    (unregistered : assembly.pathsOf name own = []) :
    ((assembly.register name override).blueprint name own).registeredRoutes =
      (assembly.blueprint name own).routesUnder (override.getD own) := by
  have unpaired : (assembly.blueprint name own).registrations = [] := unregistered
  rw [assembly.blueprint_register_self, Blueprint.registeredRoutes, unpaired, List.nil_append]
  exact List.flatMap_singleton _ (override.getD own)

end Registered

/-- A blueprint that a file declares and does not register gives to a file that includes it what it gives
to its own file when it is registered there. A registration at the end of the file, at a path if one is
given, takes the routes at the blueprint's own path out of the findings, and puts exactly those in their
place that the file states in the scope of that name and path; all else stays as it is. -/
theorem registered_as_included (body : Python.Module) (receiver name : String)
    (override : Option String)
    (declared : ∃ own, (name, own) ∈ (Python.nodes body).filterMap blueprintOf?)
    (unregistered : ∀ node ∈ Python.nodes body, ∀ path, registration? node ≠ some (name, path)) :
    let said := assemblyOf (Python.imports body) (Python.nodes body)
    ∃ earlier own later,
      firstDeclared said.declared = earlier ++ (name, own) :: later ∧
      (∀ other ∈ earlier ++ later, other.1 ≠ name) ∧
      (findings {} body).routes =
        said.appRoutes ++ said.routesOf earlier ++
          (said.blueprint name own).routesUnder own ++ said.routesOf later ∧
      findings {} (body ++ [registrationOf receiver name override]) =
        { findings {} body with
          routes := said.appRoutes ++ said.routesOf earlier ++
            (findings ⟨some name, override⟩ body).routes ++ said.routesOf later } := by
  intro said
  have member : name ∈ said.declared.map Prod.fst :=
    declared.elim fun own there => List.mem_map.2 ⟨(name, own), there, rfl⟩
  obtain ⟨own, declares⟩ := Option.isSome_iff_exists.1 ((said.own?_isSome_iff name).2 member)
  obtain ⟨earlier, later, split, apart⟩ := firstDeclared_split (Assembly.find?_of_own? declares)
  have unpaired : said.pathsOf name own = [] := by
    refine List.map_eq_nil_iff.2 (List.filter_eq_nil_iff.2 fun registration paired => ?_)
    obtain ⟨node, there, registers⟩ := List.mem_filterMap.1 paired
    intro same
    refine unregistered node there registration.2 ?_
    rw [registers, ← of_decide_eq_true same]
  have imports : Python.imports (body ++ [registrationOf receiver name override]) =
      Python.imports body := by
    simp [Python.imports, registrationOf, registerStmt, Python.Stmt.importBindings]
  refine ⟨earlier, own, later, split, apart, ?_, ?_⟩
  · rw [findings_eq, ← registeredRoutes_unregistered own unpaired]
    exact allRoutes_split split
  · have apartEarlier : ∀ other ∈ earlier, other.1 ≠ name := fun other there =>
      apart other (List.mem_append_left _ there)
    have apartLater : ∀ other ∈ later, other.1 ≠ name := fun other there =>
      apart other (List.mem_append_right _ there)
    have asked : (findings ⟨some name, override⟩ body).routes =
        (said.blueprint name own).routesUnder (override.getD own) := by
      rw [findings_scoped, declares]
    have registered : (said.register name override).application.allRoutes =
        said.appRoutes ++ said.routesOf earlier ++
          (findings ⟨some name, override⟩ body).routes ++ said.routesOf later := by
      rw [asked, ← registeredRoutes_register own override unpaired,
        ← routesOf_register override apartEarlier, ← routesOf_register override apartLater]
      exact allRoutes_split split
    rw [← registered, findings_eq, imports, assemblyOf_registrationOf _ _ _ _ member, findings_eq]
    rfl

/-- A file with an application and two blueprints, one of which is declared twice. -/
def loginFile : Python.Module :=
  [.assign [.name "app"] (.call (.name "Flask") [.name "__name__"] []),
    .function "login" [.call (.attribute (.name "auth") "post") [.constant (.text "/login")] []] [.simple],
    .assign [.name "auth"] (.call (.name "Blueprint") [.constant (.text "auth"), .name "__name__"]
      [(some "url_prefix", .constant (.text "/v1"))]),
    .function "ping" [.call (.attribute (.name "app") "get") [.constant (.text "/ping")] []] [.simple],
    .assign [.name "auth"] (.call (.name "Blueprint") [.constant (.text "again"), .name "__name__"] []),
    .assign [.name "admin"] (.call (.name "Blueprint") [.constant (.text "admin"), .name "__name__"] []),
    .function "stats" [.call (.attribute (.name "admin") "get") [.constant (.text "/stats")] []] [.simple]]

/-- Registered at the empty path, the blueprint loses its own one, as it does for a file that includes it
at the empty path. -/
theorem loginFile_registered :
    (∃ own, ("auth", own) ∈ (Python.nodes loginFile).filterMap blueprintOf?) ∧
      (∀ node ∈ Python.nodes loginFile, ∀ path, registration? node ≠ some ("auth", path)) ∧
      (∃ earlier later,
        (findings {} (loginFile ++ [registrationOf "app" "auth" (some "")])).routes =
          earlier ++ (findings ⟨some "auth", some ""⟩ loginFile).routes ++ later) ∧
      (findings {} loginFile).routes.map Route.path = ["/ping", "/v1/login", "/stats"] ∧
      (findings {} (loginFile ++ [registrationOf "app" "auth" (some "")])).routes.map Route.path =
        ["/ping", "/login", "/stats"] := by
  have declared : ∃ own, ("auth", own) ∈ (Python.nodes loginFile).filterMap blueprintOf? :=
    ⟨"/v1", by decide⟩
  have unregistered : ∀ node ∈ Python.nodes loginFile, ∀ path,
      registration? node ≠ some ("auth", path) := by
    have silent : (Python.nodes loginFile).filterMap registration? = [] := by decide
    intro node there path registers
    exact List.ne_nil_of_mem (List.mem_filterMap.2 ⟨node, there, registers⟩) silent
  refine ⟨declared, unregistered, ?_, by decide, by decide⟩
  obtain ⟨earlier, own, later, _, _, _, becomes⟩ :=
    registered_as_included loginFile "app" "auth" (some "") declared unregistered
  rw [becomes]
  exact ⟨_, _, rfl⟩

end RouteAtlas.Flask
