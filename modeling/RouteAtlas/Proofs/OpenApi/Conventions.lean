/-
Module: RouteAtlas.Proofs.OpenApi.Conventions
Layer: Proofs
Purpose: What the endpoints of a project add to a draft. The view sets take their turns, and each one
  that is served adds five operations where there was nothing, without a duplicate and without a change
  to what is there. Afterwards every view set with a model finds a path that begins like its own, so that
  a second call does nothing; and since no two view sets have one name, the order of their names is one
  order, however they are enumerated.
Trusted boundary: none
Main exports: Draft.endpointsOf, Draft.Serves, Draft.exists_serves, Draft.Serves.adds,
  Draft.Serves.begun_after, Draft.foldl_addEndpointsOf_idle, Draft.byName, Draft.byName_eq,
  Draft.endpoints_once
-/
import RouteAtlas.Proofs.OpenApi.Endpoints
import RouteAtlas.Proofs.Project.Inventory

namespace RouteAtlas.OpenApi.Draft

open Project (Inventory)

/-! ### View sets that are served -/

/-- The endpoints of some view sets, each for its model. -/
def endpointsOf (served : List (Django.ViewSet × String)) : List Request :=
  served.flatMap fun pair => endpointRequests pair.1.name pair.2 (endpointBase pair.2)

theorem length_endpointsOf (served : List (Django.ViewSet × String)) :
    (endpointsOf served).length = 5 * served.length := by
  induction served with
  | nil => rfl
  | cons pair rest ih =>
      rw [endpointsOf, List.flatMap_cons, List.length_append, List.length_cons, Nat.mul_succ,
        Nat.add_comm]
      exact congrArg (· + 5) ih

/-- View sets take their turns at a draft. One that is about no model of the project is passed over, and so
is one whose base path some path of the draft begins with. Any other one is served: its endpoints are
added, and the next one finds them there. -/
inductive Serves (inventory : Inventory) :
    Draft → List Django.ViewSet → List (Django.ViewSet × String) → Draft → Prop where
  | done (draft : Draft) : Serves inventory draft [] [] draft
  | unknown {before after : Draft} {viewSet : Django.ViewSet} {rest : List Django.ViewSet}
      {served : List (Django.ViewSet × String)} (nothing : inventory.modelOf? viewSet = none)
      (others : Serves inventory before rest served after) :
      Serves inventory before (viewSet :: rest) served after
  | begun {before after : Draft} {viewSet : Django.ViewSet} {rest : List Django.ViewSet}
      {served : List (Django.ViewSet × String)} {model : String}
      (known : inventory.modelOf? viewSet = some model)
      (begun : ∃ path ∈ before.paths.keys, (endpointBase model).toList <+: path.toList)
      (others : Serves inventory before rest served after) :
      Serves inventory before (viewSet :: rest) served after
  | served {before after : Draft} {viewSet : Django.ViewSet} {rest : List Django.ViewSet}
      {served : List (Django.ViewSet × String)} {model : String}
      (known : inventory.modelOf? viewSet = some model)
      (free : ∀ path ∈ before.paths.keys, ¬ (endpointBase model).toList <+: path.toList)
      (others : Serves inventory (before.addEndpointsOf inventory viewSet) rest served after) :
      Serves inventory before (viewSet :: rest) ((viewSet, model) :: served) after

section Serving

variable {inventory : Inventory} {before after : Draft} {viewSets : List Django.ViewSet}
  {served : List (Django.ViewSet × String)}

/-- All view sets get their turns. -/
theorem exists_serves (inventory : Inventory) (draft : Draft) (viewSets : List Django.ViewSet) :
    ∃ served, Serves inventory draft viewSets served
      (viewSets.foldl (addEndpointsOf inventory) draft) := by
  induction viewSets generalizing draft with
  | nil => exact ⟨[], .done draft⟩
  | cons viewSet rest ih =>
      rw [List.foldl_cons]
      cases known : inventory.modelOf? viewSet with
      | none =>
          obtain ⟨served, others⟩ := ih draft
          rw [addEndpointsOf_unknown known]
          exact ⟨served, .unknown known others⟩
      | some model =>
          by_cases begun : ∃ path ∈ draft.paths.keys, (endpointBase model).toList <+: path.toList
          · obtain ⟨served, others⟩ := ih draft
            rw [addEndpointsOf_begun known begun]
            exact ⟨served, .begun known begun others⟩
          · obtain ⟨served, others⟩ := ih (draft.addEndpointsOf inventory viewSet)
            have free : ∀ path ∈ draft.paths.keys,
                ¬ (endpointBase model).toList <+: path.toList := by
              intro path there begins
              exact begun ⟨path, there, begins⟩
            exact ⟨_, .served known free others⟩

/-- The segment of a model that a view set is about means nothing in a path. -/
theorem endpointName_segment_of_modelOf
    (identifiers : ∀ name ∈ inventory.models.keys, Text.isIdentifier name = true)
    {viewSet : Django.ViewSet} {model : String} (known : inventory.modelOf? viewSet = some model) :
    Text.IsSegment (Naming.endpointName model).toList := by
  have named : model ∈ inventory.models.keys :=
    KeyMap.contains_iff_mem_keys.1 (Inventory.modelOf?_known known)
  exact Naming.endpointName_segment (identifiers model named)

/-- When all have had their turns, the endpoints of those that were served are added. -/
theorem Serves.adds (serves : Serves inventory before viewSets served after)
    (identifiers : ∀ name ∈ inventory.models.keys, Text.isIdentifier name = true) :
    Adds (endpointsOf served) before after := by
  induction serves with
  | done draft => exact .nothing draft
  | unknown _ _ ih => exact ih
  | begun _ _ _ ih => exact ih
  | served known free _ ih =>
      have plain := endpointName_segment_of_modelOf identifiers known
      exact (addEndpointsOf_adds known plain free).append ih

/-! ### A second call -/

/-- Where a path begins with the base path of every view set that is about a model, nothing is added. -/
theorem foldl_addEndpointsOf_idle {draft : Draft}
    (begun : ∀ viewSet ∈ viewSets, ∀ model, inventory.modelOf? viewSet = some model →
      ∃ path ∈ draft.paths.keys, (endpointBase model).toList <+: path.toList) :
    viewSets.foldl (addEndpointsOf inventory) draft = draft := by
  induction viewSets with
  | nil => rfl
  | cons viewSet rest ih =>
      obtain ⟨first, others⟩ := List.forall_mem_cons.1 begun
      have idle : draft.addEndpointsOf inventory viewSet = draft := by
        cases known : inventory.modelOf? viewSet with
        | none => exact addEndpointsOf_unknown known
        | some model => exact addEndpointsOf_begun known (first model known)
      rw [List.foldl_cons, idle]
      exact ih others

/-- And so it is when all have had their turns: there was such a path when the turn of a view set came, or it
has endpoints of its own now, whose paths really begin with its base path. -/
theorem Serves.begun_after (serves : Serves inventory before viewSets served after)
    (identifiers : ∀ name ∈ inventory.models.keys, Text.isIdentifier name = true) :
    ∀ viewSet ∈ viewSets, ∀ model, inventory.modelOf? viewSet = some model →
      ∃ path ∈ after.paths.keys, (endpointBase model).toList <+: path.toList := by
  induction serves with
  | done draft =>
      intro viewSet nowhere
      cases nowhere
  | unknown nothing _ ih =>
      apply List.forall_mem_cons.2 ⟨_, ih⟩
      intro model known
      rw [nothing] at known
      cases known
  | begun known begun others ih =>
      apply List.forall_mem_cons.2 ⟨_, ih⟩
      intro model sameKnown
      obtain rfl := Option.some.inj (known.symm.trans sameKnown)
      obtain ⟨path, there, begins⟩ := begun
      exact ⟨path, (others.adds identifiers).paths path there, begins⟩
  | @served before after viewSet rest served model known free others ih =>
      apply List.forall_mem_cons.2 ⟨_, ih⟩
      intro other sameKnown
      obtain rfl := Option.some.inj (known.symm.trans sameKnown)
      have plain := endpointName_segment_of_modelOf identifiers known
      have adds := addEndpointsOf_adds known plain free
      obtain ⟨request, member⟩ := List.exists_mem_of_ne_nil
        (endpointRequests viewSet.name model (endpointBase model)) (List.cons_ne_nil _ _)
      obtain ⟨id, entered⟩ := adds.entered request member
      have listed : request.template ∈ (before.addEndpointsOf inventory viewSet).paths.keys := by
        by_contra absent
        rw [operation?_absent absent] at entered
        cases entered
      exact ⟨request.template, (others.adds identifiers).paths _ listed,
        (endpointRequests_occupy plain member).begins⟩

end Serving

/-! ### The order of the view sets -/

/-- Some view sets in the order of their names. -/
def byName (listed : List Django.ViewSet) : List Django.ViewSet :=
  listed.mergeSort fun first second => decide (first.name ≤ second.name)

/-- View sets whose names differ have one order, whatever order they are listed in. -/
theorem byName_eq {viewSets listed : List Django.ViewSet}
    (increasing : viewSets.Pairwise fun first second => first.name < second.name)
    (reordered : listed.Perm viewSets) : byName listed = viewSets := by
  have pairwise : (byName listed).Pairwise fun first second =>
      decide (first.name ≤ second.name) = true := by
    apply List.pairwise_mergeSort
    · intro first second third
      simpa using String.le_trans
    · intro first second
      simpa using String.le_total first.name second.name
  have sorted : (byName listed).Pairwise fun first second => first.name ≤ second.name :=
    pairwise.imp of_decide_eq_true
  have ordered : viewSets.Pairwise fun first second => first.name ≤ second.name :=
    increasing.imp fun less => String.not_lt.1 (String.lt_asymm less)
  have perm : (byName listed).Perm viewSets := (List.mergeSort_perm _ _).trans reordered
  apply perm.eq_of_pairwise _ sorted ordered
  intro first second member listedSecond before after
  have distinct : (viewSets.map Django.ViewSet.name).Nodup := by
    rw [List.Nodup, List.pairwise_map]
    exact increasing.imp String.ne_of_lt
  exact List.inj_on_of_nodup_map distinct (perm.mem_iff.1 member) listedSecond
    (String.le_antisymm before after)

/-- What the endpoints of a project add to a draft that any calls have made, where the classes of the
project are those of some modules and have identifiers for names. They are five new operations for each
view set that is served; no other operation comes in, none that was there is changed, and none is turned
away. A second call changes nothing at all, and neither does the order in which the view sets are
enumerated. -/
theorem endpoints_once (info : Info) (servers : List Server) (list : List Call)
    (bodies : List Python.Module)
    (identifiers : ∀ decl ∈ Inventory.classesOf bodies, Text.isIdentifier decl.name = true) :
    let inventory := bodies.foldl Inventory.addBody {}
    let before := (started info servers).calls list
    let after := before.addEndpoints inventory
    (∃ served, Serves inventory before inventory.viewSets.values served after ∧
      Adds (endpointsOf served) before after ∧
      after.storedOperations.length = before.storedOperations.length + 5 * served.length) ∧
    before.Keeps after ∧ after.duplicates = before.duplicates ∧
    after.addEndpoints inventory = after ∧
    ∀ listed : List Django.ViewSet, listed.Perm inventory.viewSets.values →
      (byName listed).foldl (addEndpointsOf inventory) before = after := by
  intro inventory before after
  have made : inventory = _ := Inventory.foldl_addBody_empty bodies
  have modelNames : ∀ name ∈ inventory.models.keys, Text.isIdentifier name = true := by
    intro name entered
    rw [made] at entered
    obtain ⟨decl, member, rfl⟩ := Inventory.exists_of_mem_keys_keepFirst_nil entered
    exact identifiers decl member
  have increasing :
      inventory.viewSets.values.Pairwise fun first second => first.name < second.name := by
    rw [made]
    exact Inventory.values_keepFirst_nil_increasing Django.ofClass?_name _
  obtain ⟨served, serves⟩ := exists_serves inventory before inventory.viewSets.values
  have adds : Adds (endpointsOf served) before after := serves.adds modelNames
  have sorted : KeyMap.Sorted before.paths := (calls_consistent info servers list).sorted
  have counted := adds.counted sorted
  rw [length_endpointsOf] at counted
  have idle : after.addEndpoints inventory = after :=
    foldl_addEndpointsOf_idle (serves.begun_after modelNames)
  apply And.intro ⟨served, serves, adds, counted⟩
  apply And.intro adds.kept
  apply And.intro adds.duplicates
  apply And.intro idle
  intro listed reordered
  rw [byName_eq increasing reordered]
  rfl

/-- A module that defines a model and a view set for it. -/
def taskModule : Python.Module := [
  .class_ "Task" [.attribute (.name "models") "Model"] [],
  .class_ "TaskViewSet" [.attribute (.name "viewsets") "ModelViewSet"] []]

theorem taskModule_endpoints_once :
    (∀ decl ∈ Inventory.classesOf [taskModule], Text.isIdentifier decl.name = true) ∧
      let inventory := [taskModule].foldl Inventory.addBody {}
      let before := (started ⟨"API", "1.0.0", none⟩ []).calls [.route none healthRoute]
      let after := before.addEndpoints inventory
      after.paths.keys = ["/api/tasks/", "/api/tasks/\x7bid\x7d/", "/health/"] ∧
        after.addEndpoints inventory = after := by
  have identifiers : ∀ decl ∈ Inventory.classesOf [taskModule],
      Text.isIdentifier decl.name = true := by
    decide +kernel
  apply And.intro identifiers
  constructor
  · decide +kernel
  · exact (endpoints_once _ _ _ _ identifiers).2.2.2.1

end RouteAtlas.OpenApi.Draft
