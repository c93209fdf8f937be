/-
Module: RouteAtlas.Proofs.OpenApi.Extension
Layer: Proofs
Purpose: What the classes of a project add to a document. Two drafts that get the same routes, one of
  them with the classes and one without, give out the same identifiers all the way and differ in the
  schemas of their operations alone; the endpoints of view sets come at last, below paths of their
  own, and leave everything else as it is.
Trusted boundary: none
Main exports: Operation.bare, Draft.Alike, Draft.addRoutes_alike, template_collection, template_item,
  Draft.Extends, Draft.addEndpoints_extends, Draft.inference_extends
-/
import RouteAtlas.Proofs.Naming.Endpoint
import RouteAtlas.Proofs.OpenApi.Additions
import RouteAtlas.Proofs.OpenApi.References
import RouteAtlas.Proofs.Url.Native

namespace RouteAtlas

/-! ### Conventional paths -/

namespace Url

open Text (IsSegment)

/-- Nothing in a segment means anything in a path. -/
theorem segment_avoids {chars : List Char} (segment : IsSegment chars) :
    Avoids ['<', '>', '{', '}', '(', '\\', '^', '$', '/'] chars := by
  intro c inside member
  have barred : ['<', '>', '{', '}', '(', '\\', '^', '$', '/'].all
      (fun d => !decide (Text.IsSegmentChar d)) = true := by
    decide
  have not := List.all_eq_true.1 barred c member
  simp [segment.plain c inside] at not

section Segment

variable {segment : String}

/-- A segment between slashes is a literal text. -/
def apiLiteral (plain : IsSegment segment.toList) : Literal where
  chars := "/api/".toList ++ (segment.toList ++ ['/'])
  plain := by
    have inside : Avoids ['<', '>', '{', '}', '(', '\\', '^', '$'] segment.toList :=
      (segment_avoids plain).fewer (by simp)
    exact .append (by decide) (inside.append (by decide))

/-- No slashes are in a row in a path below a segment. -/
theorem api_apart (plain : IsSegment segment.toList) {ending : List Char}
    (apart : ('/' :: ending).IsChain Apart) :
    ("/api/".toList ++ (segment.toList ++ '/' :: ending)).IsChain Apart := by
  have slashless : ∀ c ∈ segment.toList, c ≠ '/' := (segment_avoids plain).ne (by simp)
  have lower : (segment.toList ++ '/' :: ending).IsChain Apart := by
    refine List.isChain_append.2 ⟨apart_of_slashless slashless, apart, fun last ends _ _ both => ?_⟩
    exact slashless last (List.mem_of_getLast? ends) both.1
  refine List.isChain_append.2 ⟨by decide, lower, fun _ _ first begins both => ?_⟩
  have head : first ∈ segment.toList := by
    rw [List.head?_append_of_ne_nil _ plain.nonempty] at begins
    exact List.mem_of_head? begins
  exact slashless first head both.2

/-- The path of a resource is its own template. -/
theorem template_collection (plain : IsSegment segment.toList) :
    template ("/api/" ++ segment ++ "/") = "/api/" ++ segment ++ "/" := by
  have path : nativePath [.literal (apiLiteral plain)] = "/api/" ++ segment ++ "/" := by
    apply String.toList_inj.1
    simp [nativePath, Piece.written, apiLiteral]
  rw [← path]
  refine template_eq_self rfl rfl ?_
  simpa [skeleton, Piece.templated, apiLiteral] using api_apart plain (.singleton '/')

/-- So is the path of an item. -/
theorem template_item (plain : IsSegment segment.toList) :
    template ("/api/" ++ segment ++ "/\x7bid\x7d/") = "/api/" ++ segment ++ "/\x7bid\x7d/" := by
  let id : Name := ⟨"id".toList, by decide, by decide⟩
  let slash : Literal := ⟨['/'], by decide⟩
  let pieces : List Piece := [.literal (apiLiteral plain), .ready id, .literal slash]
  have path : nativePath pieces = "/api/" ++ segment ++ "/\x7bid\x7d/" := by
    apply String.toList_inj.1
    simp [pieces, id, slash, nativePath, Piece.written, apiLiteral, placeholder]
  rw [← path]
  refine template_eq_self rfl rfl ?_
  have apart : ('/' :: "\x7bid\x7d/".toList).IsChain Apart := by decide
  simpa [pieces, id, slash, skeleton, Piece.templated, apiLiteral, placeholder] using
    api_apart plain apart

end Segment

end Url

namespace OpenApi

open Project (Inventory)

/-! ### Routes with and without schemas -/

/-- The operation without what is sent and what comes back. -/
def Operation.bare (operation : Operation) : Operation :=
  { operation with requestBody := none, responses := [] }

theorem Operation.bare_eq_iff {operation other : Operation} :
    operation.bare = other.bare ↔
      operation.operationId = other.operationId ∧ operation.description = other.description ∧
        operation.parameters = other.parameters ∧ operation.summary = other.summary := by
  simp only [bare, Operation.mk.injEq, and_true]
  tauto

/-- A request that is the same but for the model that it is about. -/
structure Request.Similar (request other : Request) : Prop where
  route : other.route = request.route
  template : other.template = request.template
  summary : other.summary = request.summary

namespace Draft

/-- Similar requests get the same identifier. -/
theorem uniqueId_similar {request other : Request} (similar : request.Similar other)
    (taken : List String) : uniqueId taken other = uniqueId taken request := by
  rw [uniqueId, uniqueId, similar.route, similar.template]

theorem bare_operation_similar {request other : Request} (similar : request.Similar other)
    (id : String) : (other.operation id).bare = (request.operation id).bare := by
  refine Operation.bare_eq_iff.2 ⟨rfl, ?_, ?_, similar.summary⟩
  · rw [Request.operation_description, Request.operation_description, similar.route]
  · rw [Request.operation_parameters, Request.operation_parameters, similar.template]

/-- Two drafts that have given out the same identifiers and have the same operations, but for what is
sent and what comes back. -/
structure Alike (draft other : Draft) : Prop where
  operationIds : other.operationIds = draft.operationIds
  operations : ∀ template method, (other.operation? template method).map Operation.bare =
    (draft.operation? template method).map Operation.bare

theorem Alike.refl (draft : Draft) : draft.Alike draft := ⟨rfl, fun _ _ => rfl⟩

/-- Similar requests keep drafts alike: either both are stored, under one identifier, or both are turned
away. -/
theorem Alike.addRequest {draft other : Draft} {request similarOne : Request}
    (alike : draft.Alike other) (similar : request.Similar similarOne) :
    (draft.addRequest request).1.Alike (other.addRequest similarOne).1 where
  operationIds := by
    -- Which of the two becomes of a request hangs on what is at its place, and there the drafts agree.
    have both : (other.operation? similarOne.template similarOne.route.method).isSome =
        (draft.operation? request.template request.route.method).isSome := by
      have same := congrArg Option.isSome
        (alike.operations request.template request.route.method)
      rw [Option.isSome_map, Option.isSome_map] at same
      rw [similar.template, similar.route, same]
    rcases addRequest_cases draft request with ⟨new, stored⟩ | ⟨old, turnedAway⟩
    · have alsoNew : other.operation? similarOne.template similarOne.route.method = none := by
        rw [← Option.not_isSome_iff_eq_none, both, new]
        exact Bool.false_ne_true
      rw [stored, addRequest_stored alsoNew]
      change uniqueId other.operationIds similarOne :: other.operationIds = _
      rw [alike.operationIds, uniqueId_similar similar]
      rfl
    · rw [turnedAway, addRequest_turnedAway (both.trans old)]
      exact alike.operationIds
  operations := by
    intro template method
    have stored : (other.storedOperation similarOne).bare = (draft.storedOperation request).bare := by
      rw [storedOperation, storedOperation, alike.operationIds, uniqueId_similar similar,
        bare_operation_similar similar]
    rw [operation?_addRequest, operation?_addRequest, Option.map_or, Option.map_or,
      alike.operations, similar.template, similar.route]
    split
    · rw [Option.map_some, Option.map_some, stored]
    · rfl

/-- A route asks for the same with and without the classes of a project, but for its model. -/
theorem requestOf_similar (inventory other : Option Inventory) (route : Route) :
    (requestOf inventory route).Similar (requestOf other route) := ⟨rfl, rfl, rfl⟩

/-- The same routes, with whatever classes, keep drafts alike. -/
theorem Alike.addRoutes {draft other : Draft} (alike : draft.Alike other)
    (inventory others : Option Inventory) (routes : List Route) :
    (draft.addRoutes inventory routes).Alike (other.addRoutes others routes) := by
  induction routes generalizing draft other with
  | nil => exact alike
  | cons route rest ih =>
      exact ih (alike.addRequest (requestOf_similar inventory others route))

/-! ### Endpoints by convention -/

/-- A path that a view set of the project has by convention. -/
def Conventional (inventory : Inventory) (template : String) : Prop :=
  ∃ viewSet ∈ inventory.viewSets.values, ∃ model, inventory.modelOf? viewSet = some model ∧
    (template = "/api/" ++ Naming.endpointName model ++ "/" ∨
      template = "/api/" ++ Naming.endpointName model ++ "/\x7bid\x7d/")

/-- The endpoints of a view set are at the path of its resource, and at that of an item. -/
theorem endpointRequests_template {viewSet model : String} {request : Request}
    (plain : Text.IsSegment (Naming.endpointName model).toList)
    (member : request ∈ endpointRequests viewSet model (endpointBase model)) :
    request.template = "/api/" ++ Naming.endpointName model ++ "/" ∨
      request.template = "/api/" ++ Naming.endpointName model ++ "/\x7bid\x7d/" := by
  have collection := Url.template_collection plain
  have item := Url.template_item plain
  simp only [endpointRequests, List.mem_cons, List.not_mem_nil, or_false] at member
  rcases member with rfl | rfl | rfl | rfl | rfl
  · exact .inl collection
  · exact .inl collection
  · exact .inr item
  · exact .inr item
  · exact .inr item

/-- Every request for the endpoints of a project is at a conventional path, if its models are named by
identifiers. -/
theorem makes_endpoints_conventional {inventory : Inventory} {request : Request}
    (identifiers : ∀ name ∈ inventory.models.keys, Text.isIdentifier name = true)
    (makes : (Call.endpoints inventory).Makes request) :
    Conventional inventory request.template := by
  cases makes with
  | @endpoint _ viewSet model _ listed known member =>
      have named : model ∈ inventory.models.keys :=
        KeyMap.contains_iff_mem_keys.1 (Inventory.modelOf?_known known)
      have plain := Naming.endpointName_segment (identifiers model named)
      exact ⟨viewSet, listed, model, known, endpointRequests_template plain member⟩

/-- A draft that has the operations of another one, and more of them at conventional paths alone. -/
def Extends (inventory : Inventory) (before draft : Draft) : Prop :=
  ∀ template method, draft.operation? template method = before.operation? template method ∨
    before.operation? template method = none ∧ Conventional inventory template

theorem Extends.addRequest {inventory : Inventory} {before draft : Draft} {request : Request}
    (extended : Extends inventory before draft)
    (conventional : Conventional inventory request.template) :
    Extends inventory before (draft.addRequest request).1 := by
  intro template method
  rcases extended template method with same | added
  -- Only where there was nothing before can the request be stored.
  · cases there : before.operation? template method with
    | some operation =>
        left
        rw [operation?_addRequest, same, there, Option.some_or]
    | none =>
        by_cases here : template = request.template ∧ method = request.route.method
        · exact .inr ⟨rfl, here.1 ▸ conventional⟩
        · left
          rw [operation?_addRequest, if_neg here, Option.or_none, same, there]
  · exact .inr added

/-- The endpoints of a project leave every operation as it is. -/
theorem addEndpoints_extends {inventory : Inventory}
    (identifiers : ∀ name ∈ inventory.models.keys, Text.isIdentifier name = true)
    (draft : Draft) : Extends inventory draft (draft.addEndpoints inventory) := by
  have preserved : Extends inventory draft (draft.call (.endpoints inventory)) := by
    refine call_preserves (fun request makes _ extended => ?_) fun _ _ => .inl rfl
    exact extended.addRequest (makes_endpoints_conventional identifiers makes)
  exact preserved

/-- What the classes of a project add to a document is what is sent and what comes back, and the
endpoints of its view sets. The document of some routes has every operation for the same method on the
same path when the classes are given, with the same identifier, description, parameters and summary.
Every other operation that it has then is at the path of the resource of some view set, or at that of
an item of it. -/
theorem inference_extends (info : Info) (servers : List Server) (routes : List Route)
    (inventory : Inventory)
    (identifiers : ∀ name ∈ inventory.models.keys, Text.isIdentifier name = true) :
    let plain := ((started info servers).addRoutes none routes).document none
    let inferred := (((started info servers).addRoutes (some inventory) routes).addEndpoints
      inventory).document (some inventory)
    (∀ template method operation, plain.operation? template method = some operation →
      ∃ extended, inferred.operation? template method = some extended ∧
        extended.operationId = operation.operationId ∧
        extended.description = operation.description ∧
        extended.parameters = operation.parameters ∧ extended.summary = operation.summary) ∧
    ∀ template method extended, inferred.operation? template method = some extended →
      plain.operation? template method = none →
      ∃ viewSet ∈ inventory.viewSets.values, ∃ model, inventory.modelOf? viewSet = some model ∧
        (template = "/api/" ++ Naming.endpointName model ++ "/" ∨
          template = "/api/" ++ Naming.endpointName model ++ "/\x7bid\x7d/") := by
  intro plain inferred
  let without := (started info servers).addRoutes none routes
  let withClasses := (started info servers).addRoutes (some inventory) routes
  have alike : without.Alike withClasses := (Alike.refl _).addRoutes none (some inventory) routes
  have extended : Extends inventory withClasses (withClasses.addEndpoints inventory) :=
    addEndpoints_extends identifiers withClasses
  refine ⟨fun template method operation there => ?_, fun template method operation there new => ?_⟩
  · have same := alike.operations template method
    have there : without.operation? template method = some operation := there
    rw [there, Option.map_some, Option.map_eq_some_iff] at same
    obtain ⟨routed, found, bare⟩ := same
    refine ⟨routed, ?_, Operation.bare_eq_iff.1 bare⟩
    rcases extended template method with kept | ⟨free, _⟩
    · exact kept.trans found
    · rw [found] at free
      cases free
  · rcases extended template method with kept | ⟨_, conventional⟩
    · have same := alike.operations template method
      have new : without.operation? template method = none := new
      have there : (withClasses.addEndpoints inventory).operation? template method =
        some operation := there
      rw [← kept, there, new] at same
      cases same
    · exact conventional

/-- A project with a model and a view set for it. -/
def taskProject : Inventory where
  viewSets := [("TaskViewSet", ⟨"TaskViewSet", ["ModelViewSet"], [], [], none, none, none⟩)]
  models := [("Task", ⟨"Task", [], none⟩)]

/-- A route that has nothing to do with it. -/
def healthRoute : Route := ⟨"health/", .get, "health", "GET health/", [], none⟩

/-- The draft of the route, with or without the classes of the project. -/
def healthDraft (inventory : Option Inventory) : Draft :=
  (started ⟨"API", "1.0.0", none⟩ []).addRoutes inventory [healthRoute]

theorem taskProject_extends :
    (∀ name ∈ taskProject.models.keys, Text.isIdentifier name = true) ∧
      ∃ health tasks,
        (((healthDraft (some taskProject)).addEndpoints taskProject).document
          (some taskProject)).operation? "/health/" .get = some health ∧
        health.operationId = "health" ∧
        (((healthDraft (some taskProject)).addEndpoints taskProject).document
          (some taskProject)).operation? "/api/tasks/" .get = some tasks ∧
        ∃ viewSet ∈ taskProject.viewSets.values, ∃ model, taskProject.modelOf? viewSet = some model ∧
          ("/api/tasks/" = "/api/" ++ Naming.endpointName model ++ "/" ∨
            "/api/tasks/" = "/api/" ++ Naming.endpointName model ++ "/\x7bid\x7d/") := by
  have identifiers : ∀ name ∈ taskProject.models.keys, Text.isIdentifier name = true := by
    decide +kernel
  obtain ⟨kept, others⟩ :=
    inference_extends ⟨"API", "1.0.0", none⟩ [] [healthRoute] taskProject identifiers
  have plain : ((healthDraft none).operation? "/health/" .get).map Operation.operationId =
      some "health" := by
    decide +kernel
  have free : ((healthDraft none).operation? "/api/tasks/" .get).isNone = true := by
    decide +kernel
  have added : (((healthDraft (some taskProject)).addEndpoints taskProject).operation?
      "/api/tasks/" .get).isSome = true := by
    decide +kernel
  obtain ⟨operation, there, id⟩ := Option.map_eq_some_iff.1 plain
  obtain ⟨health, found, same, _⟩ := kept "/health/" .get operation there
  obtain ⟨tasks, new⟩ := Option.isSome_iff_exists.1 added
  have conventional := others "/api/tasks/" .get tasks new (Option.isNone_iff_eq_none.1 free)
  exact ⟨identifiers, health, tasks, found, same.trans id, new, conventional⟩

end Draft

end OpenApi

end RouteAtlas
