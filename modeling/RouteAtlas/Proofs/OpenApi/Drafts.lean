/-
Module: RouteAtlas.Proofs.OpenApi.Drafts
Layer: Proofs
Purpose: What a draft is like after any calls. A request that is new stores one operation, any other
  one is counted and changes nothing else; so the identifiers given out are those of the stored
  operations, each once, and every path and its parameters have the shape that they should.
Trusted boundary: none
Main exports: Draft.store, addRequest_cases, operation?_store, storedOperations_store,
  Draft.Consistent, Call, Call.Makes, Draft.calls, calls_preserve_made, calls_sound
-/
import RouteAtlas.Proofs.Data.Bindings
import RouteAtlas.Proofs.OpenApi.Identifiers
import RouteAtlas.Proofs.Url.Shape

namespace RouteAtlas.OpenApi

open Project (Inventory)

/-- Where a partial function gets one more value, its values along a list without repetitions are one
more. -/
theorem filterMap_perm_of_update {α β : Type} {f g : α → Option β} (place : α) {value : β}
    {list : List α} (distinct : list.Nodup) (member : place ∈ list) (was : f place = none)
    (becomes : g place = some value) (others : ∀ other, other ≠ place → g other = f other) :
    (list.filterMap g).Perm (value :: list.filterMap f) := by
  induction list with
  | nil => cases member
  | cons head rest ih =>
      obtain ⟨absent, distinctRest⟩ := List.nodup_cons.1 distinct
      by_cases here : head = place
      · subst here
        have same : rest.filterMap g = rest.filterMap f :=
          List.filterMap_congr fun other there => others other fun eq => absent (eq ▸ there)
        rw [List.filterMap_cons_some becomes, List.filterMap_cons_none was, same]
      · have later : place ∈ rest := (List.mem_cons.1 member).resolve_left (Ne.symm here)
        have perm := ih distinctRest later
        cases value_eq : f head with
        | none =>
            rw [List.filterMap_cons_none value_eq,
              List.filterMap_cons_none ((others head here).trans value_eq)]
            exact perm
        | some old =>
            rw [List.filterMap_cons_some value_eq,
              List.filterMap_cons_some ((others head here).trans value_eq)]
            exact (perm.cons old).trans (.swap _ _ _)

/-- An operation for a method that had none is one more operation. -/
theorem PathItem.operations_setOperation {item : PathItem} {method : Method}
    (operation : Operation) (free : item.operation? method = none) :
    (item.setOperation method operation).operations.Perm (operation :: item.operations) := by
  refine filterMap_perm_of_update method (by decide) (by cases method <;> decide) free
    ?_ fun other differ => ?_
  · rw [PathItem.operation?_setOperation, if_pos rfl]
  · rw [PathItem.operation?_setOperation, if_neg differ]

/-- All operations of an item are operations for some method. -/
theorem PathItem.mem_operations_iff {item : PathItem} {operation : Operation} :
    operation ∈ item.operations ↔ ∃ method, item.operation? method = some operation := by
  rw [PathItem.operations, List.mem_filterMap]
  constructor
  · rintro ⟨method, _, there⟩
    exact ⟨method, there⟩
  · rintro ⟨method, there⟩
    exact ⟨method, by cases method <;> decide, there⟩

/-- The parameters that an operation on a path has, if there are any. -/
def parametersFor (path : String) : Option (List Parameter) :=
  if (Url.parametersOf path).isEmpty then none
  else some ((Url.parametersOf path).map pathParameter)

/-- They are the placeholders of the path. -/
theorem parametersFor_scans {path : String} {names : List (List Char)}
    (scans : Url.Scans path.toList names) :
    parametersFor path =
      if names = [] then none
      else some ((names.eraseDups.map String.ofList).map pathParameter) := by
  rw [parametersFor, Url.parametersOf_scans scans]
  cases names with
  | nil => rfl
  | cons name rest => simp [List.eraseDups_cons]

section Operation

variable (request : Request) (id : String)

@[simp]
theorem Request.operation_description :
    (request.operation id).description = request.route.description := rfl

@[simp]
theorem Request.operation_operationId : (request.operation id).operationId = id := rfl

@[simp]
theorem Request.operation_parameters :
    (request.operation id).parameters = parametersFor request.template := rfl

end Operation

namespace Draft

/-- The operation that a draft has for a request when it stores it. -/
def storedOperation (draft : Draft) (request : Request) : Operation :=
  request.operation (uniqueId draft.operationIds request)

/-- What a draft has on the path of a request. -/
def itemFor (draft : Draft) (request : Request) : PathItem :=
  (KeyMap.find? request.template draft.paths).getD {}

/-- What a draft has there when it has stored the request. -/
def storedItem (draft : Draft) (request : Request) : PathItem :=
  (draft.itemFor request).setOperation request.route.method (draft.storedOperation request)

/-- The draft with a request in it that is new. -/
def store (draft : Draft) (request : Request) : Draft :=
  { draft with
    paths := KeyMap.insert request.template (draft.storedItem request) draft.paths
    operationIds := uniqueId draft.operationIds request :: draft.operationIds }

section Step

variable {draft : Draft} {request : Request}

theorem addRequest_stored
    (new : draft.operation? request.template request.route.method = none) :
    draft.addRequest request = (draft.store request, true) := by
  simp only [addRequest, new]
  rfl

theorem addRequest_turnedAway
    (old : (draft.operation? request.template request.route.method).isSome) :
    draft.addRequest request = ({ draft with duplicates := draft.duplicates + 1 }, false) := by
  obtain ⟨operation, there⟩ := Option.isSome_iff_exists.1 old
  simp only [addRequest, there]

/-- All that can become of a request: it is stored where there is no operation yet, and turned away
where there is one. -/
theorem addRequest_cases (draft : Draft) (request : Request) :
    (draft.operation? request.template request.route.method = none ∧
        draft.addRequest request = (draft.store request, true)) ∨
      ((draft.operation? request.template request.route.method).isSome ∧
        draft.addRequest request = ({ draft with duplicates := draft.duplicates + 1 }, false)) := by
  cases there : draft.operation? request.template request.route.method with
  | none => exact .inl ⟨rfl, addRequest_stored there⟩
  | some operation =>
      have old : (draft.operation? request.template request.route.method).isSome := by
        rw [there]
        rfl
      exact .inr ⟨rfl, addRequest_turnedAway old⟩

theorem addRequest_sorted (sorted : KeyMap.Sorted draft.paths) :
    KeyMap.Sorted (draft.addRequest request).1.paths := by
  rcases addRequest_cases draft request with ⟨_, stored⟩ | ⟨_, turnedAway⟩
  · rw [stored]
    exact KeyMap.sorted_insert _ _ sorted
  · rw [turnedAway]
    exact sorted

/-- What is found on the path of a request is what its item has. -/
theorem operation?_itemFor (method : Method) :
    draft.operation? request.template method = (draft.itemFor request).operation? method := by
  rw [operation?, itemFor]
  cases KeyMap.find? request.template draft.paths with
  | none => cases method <;> rfl
  | some item => rfl

/-- A request that is stored is found under its template and method; everything else is found as
before. -/
theorem operation?_store (template : String) (method : Method) :
    (draft.store request).operation? template method =
      if template = request.template ∧ method = request.route.method then
        some (draft.storedOperation request)
      else draft.operation? template method := by
  rw [operation?, store, KeyMap.find?_insert]
  by_cases sameTemplate : template = request.template
  · subst sameTemplate
    rw [if_pos rfl, Option.bind_some, storedItem, PathItem.operation?_setOperation]
    by_cases sameMethod : method = request.route.method
    · rw [if_pos sameMethod, if_pos ⟨rfl, sameMethod⟩]
    · rw [if_neg sameMethod, if_neg fun both => sameMethod both.2, operation?_itemFor]
  · rw [if_neg sameTemplate, if_neg fun both => sameTemplate both.1, operation?]

/-- All operations of a draft. -/
def storedOperations (draft : Draft) : List Operation :=
  draft.paths.values.flatMap PathItem.operations

/-- A request that is stored is one more operation. -/
theorem storedOperations_store (sorted : KeyMap.Sorted draft.paths)
    (new : draft.operation? request.template request.route.method = none) :
    (draft.store request).storedOperations.Perm
      (draft.storedOperation request :: draft.storedOperations) := by
  obtain ⟨rest, was, becomes⟩ :=
    KeyMap.insert_perm request.template (draft.storedItem request) sorted
  let others := (rest.map Prod.snd).flatMap PathItem.operations
  have before : draft.storedOperations.Perm ((draft.itemFor request).operations ++ others) := by
    refine ((was.map Prod.snd).flatMap_right PathItem.operations).trans ?_
    rw [itemFor]
    cases KeyMap.find? request.template draft.paths with
    | none => exact .refl _
    | some item => simp [others]
  have after : (draft.store request).storedOperations.Perm
      ((draft.storedItem request).operations ++ others) :=
    (becomes.map Prod.snd).flatMap_right PathItem.operations
  have free := (operation?_itemFor request.route.method).symm.trans new
  have oneMore := PathItem.operations_setOperation (draft.storedOperation request) free
  exact (after.trans (oneMore.append_right others)).trans (before.symm.cons _)

end Step

/-- What holds of a draft at any time: its paths are in order, the identifiers that it has given out are
those of its operations and differ from each other, and every path has the shape of a template and
the parameters of its own placeholders. -/
structure Consistent (draft : Draft) : Prop where
  sorted : KeyMap.Sorted draft.paths
  stored : draft.operationIds.Perm (draft.storedOperations.map Operation.operationId)
  distinct : draft.operationIds.Nodup
  shaped : ∀ path item, (path, item) ∈ draft.paths → Url.SingleSlashes path.toList
  placed : ∀ path item, (path, item) ∈ draft.paths → ∀ operation ∈ item.operations,
    operation.parameters = parametersFor path

/-- A draft that nothing was added to yet. -/
def started (info : Info) (servers : List Server) : Draft := { info, servers }

theorem started_consistent (info : Info) (servers : List Server) :
    (started info servers).Consistent where
  sorted := .nil
  stored := .refl _
  distinct := .nil
  shaped := fun _ _ member => nomatch member
  placed := fun _ _ member => nomatch member

section Step

variable {draft : Draft} {request : Request}

theorem Consistent.store (consistent : draft.Consistent)
    (templated : request.template = Url.template request.route.path)
    (new : draft.operation? request.template request.route.method = none) :
    (draft.store request).Consistent where
  sorted := KeyMap.sorted_insert _ _ consistent.sorted
  stored := by
    have perm := (storedOperations_store consistent.sorted new).map Operation.operationId
    exact (consistent.stored.cons _).trans perm.symm
  distinct := by
    have fresh := (uniqueId_chosen draft.operationIds request).fresh
    exact List.nodup_cons.2 ⟨fresh, consistent.distinct⟩
  shaped := by
    intro path item member
    rcases KeyMap.mem_insert member with same | old
    · obtain ⟨rfl, -⟩ := Prod.mk.inj same
      rw [templated]
      exact Url.template_singleSlashes _
    · exact consistent.shaped path item old
  placed := by
    intro path item member operation stored
    rcases KeyMap.mem_insert member with same | old
    · obtain ⟨rfl, rfl⟩ := Prod.mk.inj same
      obtain ⟨method, there⟩ := PathItem.mem_operations_iff.1 stored
      rw [storedItem, PathItem.operation?_setOperation] at there
      by_cases sameMethod : method = request.route.method
      · rw [if_pos sameMethod] at there
        obtain rfl := Option.some.inj there
        rfl
      · rw [if_neg sameMethod, itemFor] at there
        cases found : KeyMap.find? request.template draft.paths with
        | none =>
            rw [found] at there
            cases method <;> cases there
        | some item =>
            rw [found] at there
            exact consistent.placed _ item (KeyMap.mem_of_find? found) operation
              (PathItem.mem_operations_iff.2 ⟨method, there⟩)
    · exact consistent.placed path item old operation stored

/-- Every request keeps a draft consistent, whether it is stored or turned away. -/
theorem Consistent.addRequest (consistent : draft.Consistent)
    (templated : request.template = Url.template request.route.path) :
    (draft.addRequest request).1.Consistent := by
  rcases addRequest_cases draft request with ⟨new, stored⟩ | ⟨_, turnedAway⟩
  · rw [stored]
    exact consistent.store templated new
  · rw [turnedAway]
    exact { consistent with }

end Step

/-- What can be done with a draft: adding a route, with or without the classes of a project, and adding
the endpoints of the view sets of a project. -/
inductive Call where
  | route (inventory : Option Inventory) (route : Route)
  | endpoints (inventory : Inventory)

/-- The draft after a call. -/
def call (draft : Draft) : Call → Draft
  | .route inventory route => (draft.addRoute inventory route).1
  | .endpoints inventory => draft.addEndpoints inventory

/-- The draft after some calls. -/
def calls (draft : Draft) (list : List Call) : Draft := list.foldl call draft

/-- What every request preserves is preserved by all the requests that a list makes. -/
theorem foldl_preserves {α : Type} {P : Draft → Prop} {step : Draft → α → Draft}
    (list : List α) (steps : ∀ item ∈ list, ∀ draft, P draft → P (step draft item)) {draft : Draft}
    (start : P draft) : P (list.foldl step draft) := by
  induction list generalizing draft with
  | nil => exact start
  | cons item rest ih =>
      have next := steps item List.mem_cons_self draft start
      exact ih (fun other member => steps other (List.mem_cons_of_mem _ member)) next

/-- The template of an endpoint that is added by convention is that of its path. -/
theorem endpointRequests_templated {viewSet model base : String} {request : Request}
    (member : request ∈ endpointRequests viewSet model base) :
    request.template = Url.template request.route.path := by
  simp only [endpointRequests, List.mem_cons, List.not_mem_nil, or_false] at member
  rcases member with rfl | rfl | rfl | rfl | rfl <;> rfl

/-- The requests that a call can make: that of its route, or the endpoints that a view set of its project
has by convention. -/
inductive Call.Makes : Call → Request → Prop where
  | route (inventory : Option Inventory) (route : Route) :
      Makes (.route inventory route) (requestOf inventory route)
  | endpoint {inventory : Inventory} {viewSet : Django.ViewSet} {model : String}
      {request : Request} (listed : viewSet ∈ inventory.viewSets.values)
      (known : inventory.modelOf? viewSet = some model)
      (member : request ∈ endpointRequests viewSet.name model (endpointBase model)) :
      Makes (.endpoints inventory) request

theorem Call.Makes.templated {call : Call} {request : Request} (makes : call.Makes request) :
    request.template = Url.template request.route.path := by
  cases makes with
  | route inventory route => rfl
  | endpoint _ _ member => exact endpointRequests_templated member

/-- Whatever the endpoints of a view set preserve holds after its turn, if it holds before. -/
theorem addEndpointsOf_preserves {P : Draft → Prop} {inventory : Inventory}
    {viewSet : Django.ViewSet}
    (requests : ∀ model, inventory.modelOf? viewSet = some model →
      ∀ request ∈ endpointRequests viewSet.name model (endpointBase model),
        ∀ draft, P draft → P (addRequest draft request).1)
    {draft : Draft} (start : P draft) : P (draft.addEndpointsOf inventory viewSet) := by
  rw [addEndpointsOf]
  cases known : inventory.modelOf? viewSet with
  | none => exact start
  | some model =>
      dsimp only
      split
      · exact start
      · exact foldl_preserves _ (requests model known) start

/-- Whatever the requests of a call preserve holds after the call, if it holds before. -/
theorem call_preserves {P : Draft → Prop} {call : Call}
    (requests : ∀ request, call.Makes request → ∀ draft, P draft → P (addRequest draft request).1)
    {draft : Draft} (start : P draft) : P (draft.call call) := by
  cases call with
  | route inventory route => exact requests _ (.route inventory route) draft start
  | endpoints inventory =>
      refine foldl_preserves _ (fun viewSet listed draft held => ?_) start
      apply addEndpointsOf_preserves _ held
      intro model known request member
      exact requests request (.endpoint listed known member)

/-- Whatever all requests of some calls preserve holds after the calls, if it holds before. -/
theorem calls_preserve_made {P : Draft → Prop} (list : List Call)
    (requests : ∀ call ∈ list, ∀ request, call.Makes request →
      ∀ draft, P draft → P (addRequest draft request).1)
    {draft : Draft} (start : P draft) : P (draft.calls list) :=
  foldl_preserves list (fun call member _ held => call_preserves (requests call member) held) start

/-- Whatever requests preserve whose template is that of their path holds after any calls, if it holds
before. -/
theorem calls_preserve {P : Draft → Prop}
    (requests : ∀ draft request, request.template = Url.template request.route.path →
      P draft → P (addRequest draft request).1)
    (list : List Call) {draft : Draft} (start : P draft) : P (draft.calls list) :=
  calls_preserve_made list
    (fun _ _ request makes draft held => requests draft request makes.templated held) start

theorem calls_consistent (info : Info) (servers : List Server) (list : List Call) :
    ((started info servers).calls list).Consistent :=
  calls_preserve (fun _ _ templated consistent => consistent.addRequest templated) list
    (started_consistent info servers)

/-- After any calls on a new draft the identifiers of its operations differ from each other and are
those that it has given out, every path begins with exactly one slash and has no two in a row, and
every operation has the placeholders of its path as parameters, each once and from left to right,
or none if there are none. A request that is new then is stored under the identifier that it is to get:
its own one, or the one that is made for it, or that one with the least number from two on. -/
theorem calls_sound (info : Info) (servers : List Server) (list : List Call) :
    let draft := (started info servers).calls list
    (draft.storedOperations.map Operation.operationId).Nodup ∧
      (∀ id, id ∈ draft.operationIds ↔ id ∈ draft.storedOperations.map Operation.operationId) ∧
      (∀ path item, (path, item) ∈ draft.paths →
        Url.SingleSlashes path.toList ∧
          ∃ names, Url.Scans path.toList names ∧ ∀ operation ∈ item.operations,
            operation.parameters =
              if names = [] then none
              else some ((names.eraseDups.map String.ofList).map pathParameter)) ∧
      ∀ request : Request, draft.operation? request.template request.route.method = none →
        ∃ id, Chosen draft.operationIds request id ∧
          draft.addRequest request = (draft.store request, true) ∧
          (draft.store request).operationIds = id :: draft.operationIds ∧
          (draft.store request).operation? request.template request.route.method =
            some (request.operation id) := by
  intro draft
  have consistent : draft.Consistent := calls_consistent info servers list
  refine ⟨consistent.stored.nodup_iff.1 consistent.distinct,
    fun id => consistent.stored.mem_iff, fun path item member => ?_, fun request new => ?_⟩
  · have scans := Url.finds_scans path.toList
    refine ⟨consistent.shaped path item member, _, scans, fun operation stored => ?_⟩
    rw [consistent.placed path item member operation stored, parametersFor_scans scans]
  · refine ⟨_, uniqueId_chosen draft.operationIds request, addRequest_stored new, rfl, ?_⟩
    rw [operation?_store, if_pos ⟨rfl, rfl⟩]
    rfl

end Draft

end RouteAtlas.OpenApi
