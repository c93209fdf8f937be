/-
Module: RouteAtlas.Proofs.OpenApi.Reordering
Layer: Proofs
Purpose: Routes in another order. Where no two routes have a template and method in common, and no two an
  identifier, each route is stored under its own identifier whatever came before. Operations at different
  places can be entered in either order, so that the document is the same for every order of the routes.
Trusted boundary: none
Main exports: PathItem.setOperation_comm, Draft.enter, Draft.enter_comm, Draft.store_own,
  Draft.foldl_addRequest_own, Draft.foldl_enter_perm, Draft.find?_foldl_enter, Draft.document_reordered
-/
import RouteAtlas.Proofs.OpenApi.Endpoints

namespace RouteAtlas.OpenApi

open Project (Inventory)

/-- Operations for different methods can be set in either order. -/
theorem PathItem.setOperation_comm {method other : Method} (differ : method ≠ other)
    (operation another : Operation) (item : PathItem) :
    (item.setOperation method operation).setOperation other another =
      (item.setOperation other another).setOperation method operation := by
  cases method <;> cases other <;> trivial

/-- The operation that a request is about, under the own identifier of its route. -/
def Request.ownOperation (request : Request) : Operation := request.operation request.route.operationId

namespace Draft

/-! ### Operations under their own identifiers -/

/-- Enter the operation of a request under the own identifier of its route. -/
def enter (paths : KeyMap PathItem) (request : Request) : KeyMap PathItem :=
  KeyMap.insert request.template
    (((KeyMap.find? request.template paths).getD {}).setOperation request.route.method
      request.ownOperation) paths

section Enter

variable {paths : KeyMap PathItem} {request other : Request}

theorem find?_enter :
    (KeyMap.find? request.template (enter paths request)).bind
        (fun item => item.operation? request.route.method) = some request.ownOperation := by
  rw [enter, KeyMap.find?_insert, if_pos rfl, Option.bind_some, PathItem.operation?_setOperation,
    if_pos rfl]

/-- Operations at different places can be entered in either order, also if both belong to one path. -/
theorem enter_comm (apart : request.place ≠ other.place) :
    enter (enter paths request) other = enter (enter paths other) request := by
  by_cases sameTemplate : request.template = other.template
  · have differ : request.route.method ≠ other.route.method := by
      intro sameMethod
      exact apart (Prod.ext sameTemplate sameMethod)
    rw [enter, enter, enter, enter, sameTemplate, KeyMap.find?_insert, KeyMap.find?_insert,
      if_pos rfl, if_pos rfl, KeyMap.insert_insert, KeyMap.insert_insert, Option.getD_some,
      Option.getD_some, PathItem.setOperation_comm differ]
  · rw [enter, enter, enter, enter, KeyMap.find?_insert, KeyMap.find?_insert,
      if_neg (Ne.symm sameTemplate), if_neg sameTemplate, KeyMap.insert_comm (Ne.symm sameTemplate)]

/-- A request whose own identifier is free is stored under it. -/
theorem store_own {draft : Draft} (free : request.route.operationId ∉ draft.operationIds) :
    draft.store request =
      { draft with
        paths := enter draft.paths request
        operationIds := request.route.operationId :: draft.operationIds } := by
  have own : uniqueId draft.operationIds request = request.route.operationId := by
    rw [uniqueId_eq, if_neg free]
  rw [store, storedItem, storedOperation, own]
  rfl

end Enter

section Requests

variable {requests : List Request}

/-- Requests that belong in different places where there is nothing yet, with different identifiers that
are not given out yet, are all entered under their own identifiers. -/
theorem foldl_addRequest_own {draft : Draft} (places : (requests.map Request.place).Nodup)
    (ids : (requests.map fun request => request.route.operationId).Nodup)
    (vacant : ∀ request ∈ requests,
      draft.operation? request.template request.route.method = none)
    (free : ∀ request ∈ requests, request.route.operationId ∉ draft.operationIds) :
    requests.foldl (fun draft request => (draft.addRequest request).1) draft =
      { draft with
        paths := requests.foldl enter draft.paths
        operationIds :=
          (requests.map fun request => request.route.operationId).reverse ++ draft.operationIds } := by
  induction requests generalizing draft with
  | nil => rfl
  | cons first rest ih =>
      rw [List.map_cons, List.nodup_cons] at places ids
      obtain ⟨elsewhere, placesRest⟩ := places
      obtain ⟨another, idsRest⟩ := ids
      have stored : (draft.addRequest first).1 = draft.store first := by
        rw [addRequest_stored (vacant first List.mem_cons_self)]
      have vacantRest : ∀ request ∈ rest,
          (draft.store first).operation? request.template request.route.method = none := by
        intro request member
        rw [operation?_store_elsewhere]
        · exact vacant request (List.mem_cons_of_mem _ member)
        · intro same
          exact elsewhere (same ▸ List.mem_map_of_mem member)
      have own := store_own (free first List.mem_cons_self)
      have freeRest : ∀ request ∈ rest,
          request.route.operationId ∉ (draft.store first).operationIds := by
        intro request member
        rw [own, List.mem_cons, not_or]
        constructor
        · intro same
          exact another (same ▸ List.mem_map_of_mem member)
        · exact free request (List.mem_cons_of_mem _ member)
      rw [List.foldl_cons, List.foldl_cons, stored, ih placesRest idsRest vacantRest freeRest, own,
        List.map_cons, List.reverse_cons, List.append_assoc]
      rfl

/-- Operations at different places can be entered in every order. -/
theorem foldl_enter_perm {others : List Request} (places : (requests.map Request.place).Nodup)
    (reordered : requests.Perm others) (paths : KeyMap PathItem) :
    requests.foldl enter paths = others.foldl enter paths := by
  apply reordered.foldl_eq'
  intro request member other listed paths
  by_cases same : request = other
  · rw [same]
  · apply enter_comm
    intro samePlace
    exact same (List.inj_on_of_nodup_map places member listed samePlace)

/-- Each of them is found where it belongs: it might as well have been entered last. -/
theorem find?_foldl_enter (places : (requests.map Request.place).Nodup) {request : Request}
    (member : request ∈ requests) (paths : KeyMap PathItem) :
    (KeyMap.find? request.template (requests.foldl enter paths)).bind
        (fun item => item.operation? request.route.method) = some request.ownOperation := by
  obtain ⟨before, after, split⟩ := List.append_of_mem member
  have last : requests.Perm ((before ++ after) ++ [request]) := by
    rw [split]
    exact List.perm_middle.trans (List.perm_append_singleton _ _).symm
  rw [foldl_enter_perm places last, List.foldl_append, List.foldl_cons, List.foldl_nil]
  exact find?_enter

end Requests

/-! ### Routes -/

section Routes

variable (info : Info) (servers : List Server) (inventory : Option Inventory) {routes : List Route}

/-- The routes of a new draft are entered under their own identifiers. -/
theorem started_addRoutes
    (places : (routes.map fun route => (Url.template route.path, route.method)).Nodup)
    (ids : (routes.map Route.operationId).Nodup) :
    ((started info servers).addRoutes inventory routes).info = info ∧
      ((started info servers).addRoutes inventory routes).servers = servers ∧
      ((started info servers).addRoutes inventory routes).paths =
        (routes.map (requestOf inventory)).foldl enter [] := by
  have asRequests : (started info servers).addRoutes inventory routes =
      (routes.map (requestOf inventory)).foldl (fun draft request => (draft.addRequest request).1)
        (started info servers) := by
    rw [addRoutes, List.foldl_map]
    rfl
  rw [asRequests, foldl_addRequest_own]
  · exact ⟨rfl, rfl, rfl⟩
  · rw [List.map_map]
    exact places
  · rw [List.map_map]
    exact ids
  · intro request _
    rfl
  · intro request _
    exact List.not_mem_nil

/-- An operation of a new draft with some routes is where one of them belongs. -/
theorem started_addRoutes_isSome (routes : List Route) {template : String} {method : Method} :
    (((started info servers).addRoutes inventory routes).operation? template method).isSome ↔
      ∃ route ∈ routes, Url.template route.path = template ∧ route.method = method := by
  have asAdditions : (started info servers).addRoutes inventory routes =
      (started info servers).addAll (routes.map (Addition.mk inventory)) := by
    rw [addRoutes, addAll, List.foldl_map]
  rw [asAdditions, started_addAll_isSome]
  simp [Addition.place]

end Routes

/-- Routes that belong in different places and have different identifiers, added to a new draft with or
without the classes of a project, make the same document in whatever order they are added. The document
has an operation for each of them, under the own identifier of the route, and no others. -/
theorem document_reordered (info : Info) (servers : List Server) (inventory built : Option Inventory)
    {routes others : List Route}
    (places : (routes.map fun route => (Url.template route.path, route.method)).Nodup)
    (ids : (routes.map Route.operationId).Nodup) (reordered : routes.Perm others) :
    let document := ((started info servers).addRoutes inventory routes).document built
    document = ((started info servers).addRoutes inventory others).document built ∧
      ∀ template method operation, document.operation? template method = some operation ↔
        ∃ route ∈ routes, Url.template route.path = template ∧ route.method = method ∧
          operation = (requestOf inventory route).operation route.operationId := by
  intro document
  have requestPlaces : ((routes.map (requestOf inventory)).map Request.place).Nodup := by
    rw [List.map_map]
    exact places
  obtain ⟨sameInfo, sameServers, paths⟩ := started_addRoutes info servers inventory places ids
  obtain ⟨otherInfo, otherServers, otherPaths⟩ := started_addRoutes info servers inventory
    ((reordered.map _).nodup_iff.1 places) ((reordered.map _).nodup_iff.1 ids)
  have own : ∀ route ∈ routes, document.operation? (Url.template route.path) route.method =
      some ((requestOf inventory route).operation route.operationId) := by
    intro route member
    have there := find?_foldl_enter requestPlaces (List.mem_map_of_mem member) []
    rw [← paths] at there
    exact there
  constructor
  · have samePaths := foldl_enter_perm requestPlaces (reordered.map _) []
    rw [← paths, ← otherPaths] at samePaths
    simp only [document, Draft.document, sameInfo, sameServers, otherInfo, otherServers, samePaths]
  · intro template method operation
    constructor
    · intro there
      have listed : (document.operation? template method).isSome := by
        rw [there]
        rfl
      obtain ⟨route, member, rfl, rfl⟩ := (started_addRoutes_isSome info servers inventory routes).1 listed
      rw [own route member] at there
      exact ⟨route, member, rfl, rfl, (Option.some.inj there).symm⟩
    · rintro ⟨route, member, rfl, rfl, rfl⟩
      exact own route member

/-- Two routes of one path with a route of another path between them. -/
def taskRoutes : List Route := [
  ⟨"api/tasks/", .get, "list_tasks", "GET api/tasks/", [], some "TaskViewSet"⟩,
  ⟨"health/", .get, "health", "GET health/", [], none⟩,
  ⟨"/api/tasks/", .post, "create_task", "POST api/tasks/", [], some "TaskViewSet"⟩]

theorem taskRoutes_reversed :
    (taskRoutes.map fun route => (Url.template route.path, route.method)).Nodup ∧
      (taskRoutes.map Route.operationId).Nodup ∧
      ((started ⟨"API", "1.0.0", none⟩ []).addRoutes (some taskProject) taskRoutes).document none =
        ((started ⟨"API", "1.0.0", none⟩ []).addRoutes (some taskProject)
          taskRoutes.reverse).document none := by
  have places : (taskRoutes.map fun route => (Url.template route.path, route.method)).Nodup := by
    decide +kernel
  have ids : (taskRoutes.map Route.operationId).Nodup := by
    decide
  have reordered : taskRoutes.Perm taskRoutes.reverse := (List.reverse_perm taskRoutes).symm
  exact ⟨places, ids, (document_reordered _ _ _ _ places ids reordered).1⟩

end Draft

end RouteAtlas.OpenApi
