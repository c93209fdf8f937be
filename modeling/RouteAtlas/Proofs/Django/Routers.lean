/-
Module: RouteAtlas.Proofs.Django.Routers
Layer: Proofs
Purpose: What a file makes of its routers, whatever it does with them and in whatever order. Each router
  pairs all paths at which it is mounted with all resources that are registered with it; routers stand
  in the order in which they are first mentioned, and none knows of what is done with the others.
Trusted boundary: none
Main exports: Routers.Step, Routers.run, Routers.stateOf, Routers.run_eq_map, Routers.run_mounted,
  Routers.run_filter, Routers.run_exchange, Routers.count_mounted, Routers.history_pairs
-/
import Mathlib.Data.List.Induction
import Mathlib.Data.List.Nodup
import Mathlib.Data.List.Perm.Basic
import Mathlib.Logic.Function.Basic
import RouteAtlas.Django.Router

namespace RouteAtlas.Django.Routers

/-! ### Histories of routers -/

/-- What a source file does with the router of a name. -/
inductive Step where
  | declare (name : String)
  | register (name : String) (registration : Registration)
  | mount (name path : String)
deriving DecidableEq, Repr

namespace Step

/-- The router that a step is about. -/
def name : Step → String
  | declare name => name
  | register name _ => name
  | mount name _ => name

/-- A step on the routers of a file. -/
def apply (routers : Routers) : Step → Routers
  | declare name => Routers.declare name routers
  | register name registration => Routers.register name registration routers
  | mount name path => Routers.mount name path routers

/-- What a step changes of the router that it is about. -/
def change : Step → Router → Router
  | declare _, router => { router with declared := true }
  | register _ registration, router =>
      { router with registrations := router.registrations ++ [registration] }
  | mount _ path, router => { router with mounts := router.mounts ++ [path] }

/-- The path at which a step mounts the router of a name. -/
def pathFor? (name : String) : Step → Option String
  | mount other path => if other = name then some path else none
  | _ => none

/-- The registration that a step makes with the router of a name. -/
def registrationFor? (name : String) : Step → Option Registration
  | register other registration => if other = name then some registration else none
  | _ => none

/-- All kinds of steps are updates of one router. -/
theorem apply_eq_update (routers : Routers) (step : Step) :
    step.apply routers = update step.name step.change routers := by
  cases step <;> rfl

end Step

/-- The routers of a file after some steps. -/
def run (steps : List Step) : Routers := steps.foldl Step.apply []

/-- The names of the routers in the order in which some steps first mention them. -/
def mentions (steps : List Step) : List String := (steps.map Step.name).eraseDups

/-- The paths at which some steps mount the router of a name. -/
def pathsOf (name : String) (steps : List Step) : List String :=
  steps.filterMap (Step.pathFor? name)

/-- The registrations that some steps make with the router of a name. -/
def registrationsOf (name : String) (steps : List Step) : List Registration :=
  steps.filterMap (Step.registrationFor? name)

/-- What is known of the router of a name after some steps: whether one of them declared it, and what the
others did with it, in their order. -/
def stateOf (steps : List Step) (name : String) : Router where
  name := name
  declared := steps.contains (.declare name)
  mounts := pathsOf name steps
  registrations := registrationsOf name steps

/-! ### One step -/

theorem run_concat (steps : List Step) (step : Step) :
    run (steps ++ [step]) = update step.name step.change (run steps) := by
  rw [run, List.foldl_concat, Step.apply_eq_update]
  rfl

/-- A step changes what is known of the router that it is about, and of no other one. -/
theorem stateOf_concat (steps : List Step) (step : Step) :
    stateOf (steps ++ [step]) =
      Function.update (stateOf steps) step.name (step.change (stateOf steps step.name)) := by
  funext name
  by_cases about : name = step.name
  · subst about
    rw [Function.update_self]
    cases step with
    | _ => simp [stateOf, pathsOf, registrationsOf, Step.change, Step.name, Step.pathFor?,
        Step.registrationFor?]
  · rw [Function.update_of_ne about]
    have other : step.name ≠ name := Ne.symm about
    cases step with
    | _ =>
        simp only [Step.name] at about other
        simp [stateOf, pathsOf, registrationsOf, Step.pathFor?, Step.registrationFor?, about, other]

/-- Nothing is known of a router that no step mentions. -/
theorem stateOf_unmentioned {steps : List Step} {name : String}
    (silent : ∀ step ∈ steps, step.name ≠ name) : stateOf steps name = { name := name } := by
  have undeclared : Step.declare name ∉ steps := fun member => silent _ member rfl
  have unmounted : pathsOf name steps = [] := by
    refine List.filterMap_eq_nil_iff.2 fun step member => ?_
    have other := silent step member
    cases step with
    | mount other path => exact if_neg other
    | _ => rfl
  have unregistered : registrationsOf name steps = [] := by
    refine List.filterMap_eq_nil_iff.2 fun step member => ?_
    have other := silent step member
    cases step with
    | register other registration => exact if_neg other
    | _ => rfl
  simp [stateOf, undeclared, unmounted, unregistered]

theorem mentions_concat (steps : List Step) (step : Step) :
    mentions (steps ++ [step]) =
      if step.name ∈ mentions steps then mentions steps else mentions steps ++ [step.name] := by
  simp only [mentions, List.map_append, List.map_singleton, List.eraseDups_append,
    List.mem_eraseDups, List.removeAll, List.filter_singleton]
  by_cases known : step.name ∈ steps.map Step.name
  · rw [if_pos known, List.elem_eq_true_of_mem known]
    simp
  · rw [if_neg known, Bool.eq_false_iff.2 (mt List.mem_of_elem_eq_true known)]
    simp [List.eraseDups_cons]

theorem mem_mentions {steps : List Step} {name : String} :
    name ∈ mentions steps ↔ ∃ step ∈ steps, step.name = name := by
  simp [mentions]

theorem mentions_nodup (steps : List Step) : (mentions steps).Nodup := by
  induction steps using List.reverseRecOn with
  | nil => exact List.nodup_nil
  | append_singleton steps step ih =>
      rw [mentions_concat]
      split
      · exact ih
      · next fresh => exact List.nodup_append_comm.1 (List.nodup_cons.2 ⟨fresh, ih⟩)

/-! ### Whole histories -/

/-- Changing the router of a name, where every router stands under its own name and once. -/
theorem update_map {names : List String} (distinct : names.Nodup) {states : String → Router}
    (named : ∀ name, (states name).name = name) (name : String) (change : Router → Router) :
    update name change (names.map states) =
      if name ∈ names then names.map (Function.update states name (change (states name)))
      else names.map states ++ [change { name := name }] := by
  induction names with
  | nil => rfl
  | cons first rest ih =>
      obtain ⟨fresh, distinct⟩ := List.nodup_cons.1 distinct
      rw [List.map_cons, update, named]
      by_cases here : first = name
      · subst here
        have others : rest.map (Function.update states first (change (states first))) =
            rest.map states :=
          List.map_congr_left fun other member =>
            Function.update_of_ne (by rintro rfl; exact fresh member) _ _
        simp [others]
      · rw [if_neg here, ih distinct]
        by_cases later : name ∈ rest
        · simp [later, Function.update_of_ne here]
        · simp [later, Ne.symm here]

/-- The routers after some steps: each router that is mentioned, in order of first mention, with what the
steps about it have made of it. -/
theorem run_eq_map (steps : List Step) : run steps = (mentions steps).map (stateOf steps) := by
  induction steps using List.reverseRecOn with
  | nil => rfl
  | append_singleton steps step ih =>
      rw [run_concat, ih, update_map (mentions_nodup steps) fun _ => rfl, mentions_concat,
        stateOf_concat]
      by_cases known : step.name ∈ mentions steps
      · rw [if_pos known, if_pos known]
      · have silent : ∀ other ∈ steps, other.name ≠ step.name := fun other member same =>
          known (mem_mentions.2 ⟨other, member, same⟩)
        have others : (mentions steps).map (Function.update (stateOf steps) step.name
            (step.change (stateOf steps step.name))) = (mentions steps).map (stateOf steps) :=
          List.map_congr_left fun other member =>
            Function.update_of_ne (by rintro rfl; exact known member) _ _
        rw [if_neg known, if_neg known, List.map_append, others, List.map_singleton,
          Function.update_self, stateOf_unmentioned silent]

/-- All pairs that the routers of a file make up. -/
theorem run_mounted (steps : List Step) :
    (run steps).mounted =
      (mentions steps).flatMap fun name =>
        (if (pathsOf name steps).isEmpty then [""] else pathsOf name steps).flatMap fun path =>
          (registrationsOf name steps).map fun registration => ⟨path, registration⟩ := by
  rw [Routers.mounted, run_eq_map, List.flatMap_map]
  rfl

/-- A name is that of a declared router if and only if a step declared it. -/
theorem isDeclared_run (steps : List Step) (name : String) :
    isDeclared name (run steps) = true ↔ .declare name ∈ steps := by
  rw [isDeclared, run_eq_map, List.any_map, List.any_eq_true]
  constructor
  · rintro ⟨other, _, declared⟩
    simp only [Function.comp_apply, stateOf, Bool.and_eq_true, beq_iff_eq,
      List.contains_iff_mem] at declared
    exact declared.1 ▸ declared.2
  · intro member
    refine ⟨name, mem_mentions.2 ⟨_, member, rfl⟩, ?_⟩
    simp [stateOf, member]

/-! ### Routers apart -/

theorem filter_update (name other : String) {change : Router → Router}
    (keeps : ∀ router, (change router).name = router.name) (routers : Routers) :
    (update other change routers).filter (fun router => router.name == name) =
      if other = name then update name change (routers.filter fun router => router.name == name)
      else routers.filter fun router => router.name == name := by
  induction routers with
  | nil => by_cases same : other = name <;> simp [update, keeps, same]
  | cons router rest ih =>
      rw [update]
      by_cases here : router.name = other
      · rw [if_pos here]
        by_cases same : other = name
        · simp [keeps, here, same, update]
        · simp [keeps, here, same]
      · rw [if_neg here]
        by_cases same : other = name
        · subst same
          simp [here, ih]
        · simp only [List.filter_cons, ih, if_neg same]

theorem change_name (step : Step) (router : Router) : (step.change router).name = router.name := by
  cases step <;> rfl

/-- The router of a name is what the steps about it alone would make of it. -/
theorem run_filter (steps : List Step) (name : String) :
    (run steps).filter (fun router => router.name == name) =
      run (steps.filter fun step => step.name == name) := by
  induction steps using List.reverseRecOn with
  | nil => rfl
  | append_singleton steps step ih =>
      rw [run_concat, filter_update _ _ (change_name step), ih, List.filter_append]
      by_cases about : step.name = name
      · have kept : [step].filter (fun step => step.name == name) = [step] := by simp [about]
        rw [if_pos about, kept, run_concat, about]
      · have dropped : [step].filter (fun step => step.name == name) = [] := by simp [about]
        rw [if_neg about, dropped, List.append_nil]

/-! ### Steps exchanged -/

section Exchange

variable (before between after : List Step) (name path : String) (registration : Registration)

/-- Exchanging a mount and a registration of one router does not change which router is mentioned
when. -/
theorem mentions_exchange :
    mentions (before ++ .mount name path :: between ++ .register name registration :: after) =
      mentions (before ++ .register name registration :: between ++ .mount name path :: after) := by
  simp [mentions, Step.name]

/-- If nothing is done with the router in between, the exchange leaves all routers as they are. -/
theorem run_exchange (apart : ∀ step ∈ between, step.name ≠ name) :
    run (before ++ .mount name path :: between ++ .register name registration :: after) =
      run (before ++ .register name registration :: between ++ .mount name path :: after) := by
  have silent := stateOf_unmentioned apart
  have unmounted : between.filterMap (Step.pathFor? name) = [] := congrArg Router.mounts silent
  have unregistered : between.filterMap (Step.registrationFor? name) = [] :=
    congrArg Router.registrations silent
  rw [run_eq_map, run_eq_map, mentions_exchange]
  refine List.map_congr_left fun other _ => ?_
  by_cases about : name = other
  · subst about
    simp [stateOf, pathsOf, registrationsOf, List.filterMap_cons, Step.pathFor?,
      Step.registrationFor?, unmounted, unregistered]
  · simp [stateOf, pathsOf, registrationsOf, List.filterMap_cons, Step.pathFor?,
      Step.registrationFor?, about]

/-- Whatever is done with the router in between, the exchange leaves all pairs as they are, although it
may change their order. -/
theorem mounted_exchange_perm :
    (run (before ++ .mount name path :: between ++ .register name registration :: after)).mounted.Perm
      (run (before ++ .register name registration :: between ++ .mount name path :: after)).mounted := by
  rw [run_mounted, run_mounted, mentions_exchange]
  refine List.Perm.flatMap_left _ fun other _ => ?_
  have paths : (pathsOf other
        (before ++ .mount name path :: between ++ .register name registration :: after)).Perm
      (pathsOf other
        (before ++ .register name registration :: between ++ .mount name path :: after)) := by
    by_cases about : name = other
    · simp only [pathsOf, List.filterMap_append, List.filterMap_cons, Step.pathFor?, if_pos about,
        List.append_assoc, List.cons_append]
      exact List.perm_middle.symm.append_left _
    · simp [pathsOf, List.filterMap_cons, Step.pathFor?, about]
  have registrations : (registrationsOf other
        (before ++ .mount name path :: between ++ .register name registration :: after)).Perm
      (registrationsOf other
        (before ++ .register name registration :: between ++ .mount name path :: after)) := by
    by_cases about : name = other
    · simp only [registrationsOf, List.filterMap_append, List.filterMap_cons,
        Step.registrationFor?, if_pos about, List.append_assoc, List.cons_append]
      exact List.perm_middle.append_left _
    · simp [registrationsOf, List.filterMap_cons, Step.registrationFor?, about]
  have empty := paths.isEmpty_eq
  rw [empty]
  split
  · simpa using registrations.map _
  · exact paths.flatMap fun mount _ => registrations.map _

end Exchange

/-! ### Pairs -/

/-- The pairs of one router. -/
theorem mounted_filter (steps : List Step) (name : String) :
    Routers.mounted ((run steps).filter fun router => router.name == name) =
      (stateOf steps name).mounted := by
  have single : (run steps).filter (fun router => router.name == name) =
      if name ∈ mentions steps then [stateOf steps name] else [] := by
    rw [run_eq_map, List.filter_map]
    have named : ((fun router => router.name == name) ∘ stateOf steps) = (· == name) := rfl
    rw [named, List.filter_beq]
    split
    · next known => rw [List.count_eq_one_of_mem (mentions_nodup steps) known]; rfl
    · next unknown => rw [List.count_eq_zero_of_not_mem unknown]; rfl
  rw [single]
  split
  · exact List.append_nil _
  · next unknown =>
      rw [stateOf_unmentioned fun step member same => unknown (mem_mentions.2 ⟨step, member, same⟩)]
      rfl

/-- A router has each of its registrations once for each of its mounts, and once if it has none. -/
theorem count_mounted (steps : List Step) (name : String) (registration : Registration) :
    ((stateOf steps name).mounted.map Mounted.registration).count registration =
      max 1 (pathsOf name steps).length * (registrationsOf name steps).count registration := by
  have each (paths : List String) :
      ((paths.flatMap fun path => (registrationsOf name steps).map fun registration =>
          (⟨path, registration⟩ : Mounted)).map Mounted.registration).count registration =
        paths.length * (registrationsOf name steps).count registration := by
    induction paths with
    | nil => simp
    | cons path rest ih =>
        rw [List.flatMap_cons, List.map_append, List.count_append, ih, List.length_cons,
          Nat.succ_mul, Nat.add_comm]
        simp [Function.comp_def]
  refine (each _).trans ?_
  cases paths : pathsOf name steps with
  | nil => simp [stateOf, paths]
  | cons path rest => simp [stateOf, paths]

/-- What becomes of routers, whatever is done with them. The pairs are, router by router in order of first
mention, each of its mounts (the root if it has none) with each of its registrations, in their orders; so
that a router has each registration once for each mount. A name is that of a declared router if and only
if it was declared. The pairs of a router are those that the steps about it alone make up. Exchanging a
mount of a router with a registration, past steps about other routers, changes nothing; past any steps, it
changes no more than the order of the pairs. -/
theorem history_pairs :
    (∀ steps : List Step,
      (run steps).mounted =
        (mentions steps).flatMap fun name =>
          (if (pathsOf name steps).isEmpty then [""] else pathsOf name steps).flatMap fun path =>
            (registrationsOf name steps).map fun registration => ⟨path, registration⟩) ∧
    (∀ (steps : List Step) (name : String) (registration : Registration),
      ((Routers.mounted ((run steps).filter fun router => router.name == name)).map
          Mounted.registration).count registration =
        max 1 (pathsOf name steps).length * (registrationsOf name steps).count registration) ∧
    (∀ (steps : List Step) (name : String),
      isDeclared name (run steps) = true ↔ .declare name ∈ steps) ∧
    (∀ (steps : List Step) (name : String),
      Routers.mounted ((run steps).filter fun router => router.name == name) =
        (run (steps.filter fun step => step.name == name)).mounted) ∧
    (∀ (before between after : List Step) (name path : String) (registration : Registration),
      (∀ step ∈ between, step.name ≠ name) →
        (run (before ++ .mount name path :: between ++ .register name registration :: after)).mounted =
          (run (before ++ .register name registration :: between ++
            .mount name path :: after)).mounted) ∧
    (∀ (before between after : List Step) (name path : String) (registration : Registration),
      (run (before ++ .mount name path :: between ++
          .register name registration :: after)).mounted.Perm
        (run (before ++ .register name registration :: between ++
          .mount name path :: after)).mounted) := by
  refine ⟨run_mounted, fun steps name registration => ?_, isDeclared_run, fun steps name => ?_,
    fun before between after name path registration apart => ?_, mounted_exchange_perm⟩
  · rw [mounted_filter]
    exact count_mounted steps name registration
  · rw [run_filter]
  · rw [run_exchange before between after name path registration apart]

/-- Two routers whose steps are interleaved: the one is mounted before the other is declared, and its
registration comes after that. -/
theorem interleaved_pairs :
    (∀ step ∈ [Step.declare "other"], step.name ≠ "api") ∧
      (run ([.declare "api"] ++ .mount "api" "v1/" :: [.declare "other"] ++
          .register "api" ⟨"tasks", "TaskViewSet", none⟩ :: [.mount "api" "v2/"])).mounted =
        (run ([.declare "api"] ++ .register "api" ⟨"tasks", "TaskViewSet", none⟩ ::
          [.declare "other"] ++ .mount "api" "v1/" :: [.mount "api" "v2/"])).mounted :=
  have apart : ∀ step ∈ [Step.declare "other"], step.name ≠ "api" := by decide
  ⟨apart, history_pairs.2.2.2.2.1 [.declare "api"] [.declare "other"] [.mount "api" "v2/"] "api" "v1/"
    ⟨"tasks", "TaskViewSet", none⟩ apart⟩

end RouteAtlas.Django.Routers
