/-
Module: RouteAtlas.Proofs.OpenApi.Endpoints
Layer: Proofs
Purpose: Which view sets get endpoints by convention. Five operations are added where no path begins with
  the text of their base path, and nothing is where one does. A path may begin so and belong to another
  resource all the same, one whose name is longer: then a view set is left without endpoints although
  nothing is at its own path.
Trusted boundary: none
Main exports: Request.place, Occupies, Draft.Keeps, Draft.Adds, Draft.Adds.append, Draft.Received,
  foldl_addRequest_adds, endpointRequests_places, addEndpointsOf_adds, addEndpointsOf_received_iff,
  endpoints_received_iff
-/
import RouteAtlas.Proofs.OpenApi.Extension

namespace RouteAtlas.OpenApi

open Project (Inventory)

/-- Where the operation of a request belongs. -/
def Request.place (request : Request) : String × Method := (request.template, request.route.method)

/-- A path is the base path of a resource, or lies beneath it. -/
def Occupies (base path : String) : Prop := path = base ∨ (base ++ "/").toList <+: path.toList

instance (base path : String) : Decidable (Occupies base path) :=
  inferInstanceAs (Decidable (path = base ∨ (base ++ "/").toList <+: path.toList))

/-- Whatever occupies a base path begins with its text. -/
theorem Occupies.begins {base path : String} (occupies : Occupies base path) :
    base.toList <+: path.toList := by
  rcases occupies with rfl | beneath
  · exact List.prefix_rfl
  · rw [String.toList_append] at beneath
    exact (List.prefix_append _ _).trans beneath

namespace Draft

/-! ### Several requests -/

/-- A draft has all operations of another one. -/
def Keeps (before after : Draft) : Prop :=
  ∀ template method operation, before.operation? template method = some operation →
    after.operation? template method = some operation

section Keeping

variable {before after : Draft}

theorem Keeps.refl (draft : Draft) : draft.Keeps draft := fun _ _ _ there => there

theorem Keeps.trans {middle : Draft} (first : before.Keeps middle) (second : middle.Keeps after) :
    before.Keeps after := by
  intro template method operation there
  exact second _ _ _ (first _ _ _ there)

/-- What is not there now was not there before. -/
theorem Keeps.absent (keeps : before.Keeps after) {template : String} {method : Method}
    (absent : after.operation? template method = none) :
    before.operation? template method = none := by
  cases there : before.operation? template method with
  | none => rfl
  | some operation =>
      rw [keeps _ _ _ there] at absent
      cases absent

theorem Keeps.addRequest (keeps : before.Keeps after) (request : Request) :
    before.Keeps (after.addRequest request).1 := by
  intro template method operation there
  rw [operation?_addRequest, keeps template method operation there, Option.some_or]

theorem Keeps.addEndpointsOf (keeps : before.Keeps after) (inventory : Inventory)
    (viewSet : Django.ViewSet) : before.Keeps (after.addEndpointsOf inventory viewSet) :=
  addEndpointsOf_preserves (fun _ _ request _ _ kept => kept.addRequest request) keeps

end Keeping

/-- There is no operation on a path that a draft does not have. -/
theorem operation?_absent {draft : Draft} {template : String} (absent : template ∉ draft.paths.keys)
    (method : Method) : draft.operation? template method = none := by
  have missing : KeyMap.find? template draft.paths = none := by
    rw [← KeyMap.contains_iff_mem_keys, KeyMap.contains] at absent
    simpa using absent
  rw [operation?, missing, Option.bind_none]

/-- A request that is stored takes no other place than its own. -/
theorem operation?_store_elsewhere {draft : Draft} {request other : Request}
    (apart : other.place ≠ request.place) :
    (draft.store request).operation? other.template other.route.method =
      draft.operation? other.template other.route.method := by
  rw [operation?_store, if_neg]
  rintro ⟨sameTemplate, sameMethod⟩
  exact apart (Prod.ext sameTemplate sameMethod)

/-- The second draft is the first one with the operations of some requests: none of them was there, no two
belong in one place, each is there now, everything else is as it was, and nothing was turned away. -/
structure Adds (requests : List Request) (before after : Draft) : Prop where
  new : ∀ request ∈ requests, before.operation? request.template request.route.method = none
  distinct : (requests.map Request.place).Nodup
  entered : ∀ request ∈ requests, ∃ id,
    after.operation? request.template request.route.method = some (request.operation id)
  kept : before.Keeps after
  only : ∀ template method, (after.operation? template method).isSome →
    (before.operation? template method).isSome ∨ (template, method) ∈ requests.map Request.place
  paths : ∀ path ∈ before.paths.keys, path ∈ after.paths.keys
  sorted : KeyMap.Sorted before.paths → KeyMap.Sorted after.paths
  counted : KeyMap.Sorted before.paths →
    after.storedOperations.length = before.storedOperations.length + requests.length
  duplicates : after.duplicates = before.duplicates

theorem Adds.nothing (draft : Draft) : Adds [] draft draft where
  new := by simp
  distinct := List.nodup_nil
  entered := by simp
  kept := .refl draft
  only := fun _ _ there => .inl there
  paths := fun _ there => there
  sorted := fun sorted => sorted
  counted := fun _ => rfl
  duplicates := rfl

/-- A request that is stored is added. -/
theorem Adds.store {draft : Draft} {request : Request}
    (new : draft.operation? request.template request.route.method = none) :
    Adds [request] draft (draft.store request) where
  new := by simpa using new
  distinct := List.nodup_singleton _
  entered := by
    intro other member
    rw [List.mem_singleton] at member
    subst member
    rw [operation?_store, if_pos ⟨rfl, rfl⟩]
    exact ⟨_, rfl⟩
  kept := by
    have kept := (Keeps.refl draft).addRequest request
    rwa [addRequest_stored new] at kept
  only := by
    intro template method there
    rw [operation?_store] at there
    by_cases here : template = request.template ∧ method = request.route.method
    · obtain ⟨rfl, rfl⟩ := here
      exact .inr (List.mem_singleton.2 rfl)
    · rw [if_neg here] at there
      exact .inl there
  paths := by
    intro path there
    rw [← KeyMap.contains_iff_mem_keys] at there ⊢
    exact (KeyMap.contains_insert _ _ _ _).2 (.inr there)
  sorted := KeyMap.sorted_insert _ _
  counted := fun sorted => (storedOperations_store sorted new).length_eq
  duplicates := rfl

/-- What is added later is new still, and in other places than what was added before. -/
theorem Adds.append {requests others : List Request} {before middle after : Draft}
    (first : Adds requests before middle) (second : Adds others middle after) :
    Adds (requests ++ others) before after where
  new := by
    intro request member
    rcases List.mem_append.1 member with earlier | later
    · exact first.new request earlier
    · exact first.kept.absent (second.new request later)
  distinct := by
    rw [List.map_append]
    apply first.distinct.append second.distinct
    intro place earlier later
    obtain ⟨request, member, rfl⟩ := List.mem_map.1 earlier
    obtain ⟨other, listed, same⟩ := List.mem_map.1 later
    obtain ⟨sameTemplate, sameMethod⟩ := Prod.mk.inj same
    obtain ⟨id, there⟩ := first.entered request member
    have absent := second.new other listed
    rw [sameTemplate, sameMethod, there] at absent
    cases absent
  entered := by
    intro request member
    rcases List.mem_append.1 member with earlier | later
    · obtain ⟨id, there⟩ := first.entered request earlier
      exact ⟨id, second.kept _ _ _ there⟩
    · exact second.entered request later
  kept := first.kept.trans second.kept
  only := by
    intro template method there
    rw [List.map_append, List.mem_append, ← or_assoc]
    rcases second.only template method there with earlier | new
    · exact .inl (first.only template method earlier)
    · exact .inr new
  paths := fun path there => second.paths path (first.paths path there)
  sorted := fun sorted => second.sorted (first.sorted sorted)
  counted := by
    intro sorted
    rw [second.counted (first.sorted sorted), first.counted sorted, List.length_append,
      Nat.add_assoc]
  duplicates := second.duplicates.trans first.duplicates

/-- Requests that belong in different places where there is nothing yet are added, each one where the ones
before it left the place free. -/
theorem foldl_addRequest_adds {requests : List Request} {draft : Draft}
    (distinct : (requests.map Request.place).Nodup)
    (free : ∀ request ∈ requests, draft.operation? request.template request.route.method = none) :
    Adds requests draft
      (requests.foldl (fun draft request => (draft.addRequest request).1) draft) := by
  induction requests generalizing draft with
  | nil => exact .nothing draft
  | cons first rest ih =>
      rw [List.map_cons, List.nodup_cons] at distinct
      obtain ⟨apart, distinctRest⟩ := distinct
      obtain ⟨freeFirst, freeRest⟩ := List.forall_mem_cons.1 free
      have stored : (draft.addRequest first).1 = draft.store first := by
        rw [addRequest_stored freeFirst]
      have stillFree : ∀ request ∈ rest,
          (draft.store first).operation? request.template request.route.method = none := by
        intro request member
        rw [operation?_store_elsewhere]
        · exact freeRest request member
        · intro same
          exact apart (same ▸ List.mem_map_of_mem member)
      rw [List.foldl_cons, stored]
      exact (Adds.store freeFirst).append (ih distinctRest stillFree)

/-! ### The endpoints of a view set -/

/-- A view set gets its five operations: there was none in their places before, and each is in its place
after. -/
def Received (viewSet model : String) (before after : Draft) : Prop :=
  ∀ request ∈ endpointRequests viewSet model (endpointBase model),
    before.operation? request.template request.route.method = none ∧
      ∃ id, after.operation? request.template request.route.method = some (request.operation id)

/-- Listing and creating belong to the collection; retrieving, updating and deleting to an item of it. -/
theorem endpointRequests_places {model : String}
    (plain : Text.IsSegment (Naming.endpointName model).toList) (viewSet : String) :
    (endpointRequests viewSet model (endpointBase model)).map Request.place =
      [(endpointBase model ++ "/", .get), (endpointBase model ++ "/", .post),
        (endpointBase model ++ "/\x7bid\x7d/", .get), (endpointBase model ++ "/\x7bid\x7d/", .put),
        (endpointBase model ++ "/\x7bid\x7d/", .delete)] := by
  have collection : Url.template (endpointBase model ++ "/") = endpointBase model ++ "/" :=
    Url.template_collection plain
  have item : Url.template (endpointBase model ++ "/\x7bid\x7d/") =
      endpointBase model ++ "/\x7bid\x7d/" := Url.template_item plain
  simp only [endpointRequests, endpointRequest, List.map_cons, List.map_nil, Request.place, collection,
    item]

/-- The places of the endpoints differ from each other. -/
theorem endpointRequests_distinct {model : String}
    (plain : Text.IsSegment (Naming.endpointName model).toList) (viewSet : String) :
    ((endpointRequests viewSet model (endpointBase model)).map Request.place).Nodup := by
  rw [endpointRequests_places plain]
  simp

/-- Every endpoint of a view set occupies the base path. -/
theorem endpointRequests_occupy {viewSet model : String} {request : Request}
    (plain : Text.IsSegment (Naming.endpointName model).toList)
    (member : request ∈ endpointRequests viewSet model (endpointBase model)) :
    Occupies (endpointBase model) request.template := by
  right
  rcases endpointRequests_template plain member with collection | item
  · rw [collection]
    exact List.prefix_rfl
  · rw [item]
    exact ⟨"\x7bid\x7d/".toList, by simp [endpointBase]⟩

/-- Some path of a draft begins with a text. -/
theorem any_begins_iff (draft : Draft) (base : String) :
    draft.paths.keys.any (Text.hasPrefix base) = true ↔
      ∃ path ∈ draft.paths.keys, base.toList <+: path.toList := by
  simp only [List.any_eq_true, Text.hasPrefix, Text.isSome_dropPrefix?_iff]

section Step

variable {inventory : Inventory} {draft : Draft} {viewSet : Django.ViewSet} {model : String}

theorem addEndpointsOf_unknown (nothing : inventory.modelOf? viewSet = none) :
    draft.addEndpointsOf inventory viewSet = draft := by
  rw [addEndpointsOf, nothing]

/-- Where a path begins with the text of the base path, nothing is added. -/
theorem addEndpointsOf_begun (known : inventory.modelOf? viewSet = some model)
    (begun : ∃ path ∈ draft.paths.keys, (endpointBase model).toList <+: path.toList) :
    draft.addEndpointsOf inventory viewSet = draft := by
  rw [addEndpointsOf, known]
  exact if_pos ((any_begins_iff draft _).2 begun)

/-- Where none does, the five requests are added. -/
theorem addEndpointsOf_free (known : inventory.modelOf? viewSet = some model)
    (free : ∀ path ∈ draft.paths.keys, ¬ (endpointBase model).toList <+: path.toList) :
    draft.addEndpointsOf inventory viewSet =
      (endpointRequests viewSet.name model (endpointBase model)).foldl
        (fun draft request => (draft.addRequest request).1) draft := by
  rw [addEndpointsOf, known]
  apply if_neg
  rw [any_begins_iff]
  rintro ⟨path, there, begins⟩
  exact free path there begins

/-- They are all new. -/
theorem addEndpointsOf_adds (known : inventory.modelOf? viewSet = some model)
    (plain : Text.IsSegment (Naming.endpointName model).toList)
    (free : ∀ path ∈ draft.paths.keys, ¬ (endpointBase model).toList <+: path.toList) :
    Adds (endpointRequests viewSet.name model (endpointBase model)) draft
      (draft.addEndpointsOf inventory viewSet) := by
  rw [addEndpointsOf_free known free]
  apply foldl_addRequest_adds (endpointRequests_distinct plain viewSet.name)
  intro request member
  apply operation?_absent
  intro there
  exact free _ there (endpointRequests_occupy plain member).begins

/-- A view set gets its endpoints exactly if no path begins with the text of their base path. -/
theorem addEndpointsOf_received_iff (known : inventory.modelOf? viewSet = some model)
    (plain : Text.IsSegment (Naming.endpointName model).toList) :
    Received viewSet.name model draft (draft.addEndpointsOf inventory viewSet) ↔
      ∀ path ∈ draft.paths.keys, ¬ (endpointBase model).toList <+: path.toList := by
  constructor
  · intro received path there begins
    let listing := endpointRequest viewSet.name model (endpointBase model ++ "/")
      ("list_" ++ Text.lowercase model ++ "s") ("List " ++ model ++ " objects") .get
    have member : listing ∈ endpointRequests viewSet.name model (endpointBase model) :=
      List.mem_cons_self
    obtain ⟨nothing, id, stored⟩ := received listing member
    rw [addEndpointsOf_begun known ⟨path, there, begins⟩, nothing] at stored
    cases stored
  · intro free request member
    have adds := addEndpointsOf_adds known plain free
    exact ⟨adds.new request member, adds.entered request member⟩

end Step

/-- When the endpoints of a project are added, each view set with a model is offered five operations:
listing and creating at the path of its resource, retrieving, updating and deleting at the path of an
item. It gets them, and they stay, exactly if no path of the draft begins with the text of the base path
at its turn. So a draft where nothing occupies the base path is no warrant for them: they are added to
every such draft but those with a path that only begins like it. -/
theorem endpoints_received_iff {inventory : Inventory} {draft : Draft}
    {earlier later : List Django.ViewSet} {viewSet : Django.ViewSet} {model : String}
    (identifiers : ∀ name ∈ inventory.models.keys, Text.isIdentifier name = true)
    (order : inventory.viewSets.values = earlier ++ viewSet :: later)
    (known : inventory.modelOf? viewSet = some model) :
    let base := "/api/" ++ Naming.endpointName model
    let present := earlier.foldl (addEndpointsOf inventory) draft
    let next := present.addEndpointsOf inventory viewSet
    (endpointRequests viewSet.name model base).map Request.place =
        [(base ++ "/", .get), (base ++ "/", .post), (base ++ "/\x7bid\x7d/", .get),
          (base ++ "/\x7bid\x7d/", .put), (base ++ "/\x7bid\x7d/", .delete)] ∧
      (Received viewSet.name model present next ↔
        ∀ path ∈ present.paths.keys, ¬ base.toList <+: path.toList) ∧
      (((∀ path ∈ present.paths.keys, ¬ Occupies base path) →
          Received viewSet.name model present next) ↔
        ∀ path ∈ present.paths.keys, base.toList <+: path.toList →
          ∃ other ∈ present.paths.keys, Occupies base other) ∧
      present.Keeps next ∧ next.Keeps (draft.addEndpoints inventory) := by
  intro base present next
  have named : model ∈ inventory.models.keys :=
    KeyMap.contains_iff_mem_keys.1 (Inventory.modelOf?_known known)
  have plain := Naming.endpointName_segment (identifiers model named)
  have received : Received viewSet.name model present next ↔
      ∀ path ∈ present.paths.keys, ¬ base.toList <+: path.toList :=
    addEndpointsOf_received_iff known plain
  refine ⟨endpointRequests_places plain viewSet.name, received, ?_, ?_, ?_⟩
  · rw [received]
    constructor
    · intro law path there begins
      by_contra vacant
      push Not at vacant
      exact law vacant path there begins
    · intro law vacant path there begins
      obtain ⟨other, listed, occupies⟩ := law path there begins
      exact vacant other listed occupies
  · exact (Keeps.refl present).addEndpointsOf inventory viewSet
  · have split : draft.addEndpoints inventory = later.foldl (addEndpointsOf inventory) next := by
      rw [addEndpoints, order, List.foldl_append, List.foldl_cons]
    rw [split]
    exact foldl_preserves later (fun other _ _ kept => kept.addEndpointsOf inventory other)
      (Keeps.refl next)

/-- The view set of the project of tasks. -/
def taskViewSet : Django.ViewSet := ⟨"TaskViewSet", ["ModelViewSet"], [], [], none, none, none⟩

theorem taskProject_turn : taskProject.viewSets.values = [] ++ taskViewSet :: [] := rfl

theorem taskProject_modelOf : taskProject.modelOf? taskViewSet = some "Task" := by
  decide +kernel

theorem taskProject_identifiers :
    ∀ name ∈ taskProject.models.keys, Text.isIdentifier name = true := by
  decide +kernel

/-- No path of the health route begins like that of the tasks, which get their endpoints. -/
theorem taskEndpoints_received :
    (∀ name ∈ taskProject.models.keys, Text.isIdentifier name = true) ∧
      taskProject.viewSets.values = [] ++ taskViewSet :: [] ∧
      taskProject.modelOf? taskViewSet = some "Task" ∧
      Received "TaskViewSet" "Task" (healthDraft none)
        ((healthDraft none).addEndpointsOf taskProject taskViewSet) := by
  have free : ∀ path ∈ (healthDraft none).paths.keys,
      ¬ ("/api/" ++ Naming.endpointName "Task").toList <+: path.toList := by
    decide +kernel
  have received : Received "TaskViewSet" "Task" (healthDraft none)
      ((healthDraft none).addEndpointsOf taskProject taskViewSet) ↔
      ∀ path ∈ (healthDraft none).paths.keys,
        ¬ ("/api/" ++ Naming.endpointName "Task").toList <+: path.toList :=
    (endpoints_received_iff taskProject_identifiers taskProject_turn taskProject_modelOf).2.1
  exact ⟨taskProject_identifiers, taskProject_turn, taskProject_modelOf, received.2 free⟩

/-- A route for what is archived, whose path begins like that of the tasks. -/
def archiveRoute : Route := ⟨"api/tasks-archive/", .get, "archive", "GET api/tasks-archive/", [], none⟩

/-- The draft of that route. -/
def archiveDraft : Draft := (started ⟨"API", "1.0.0", none⟩ []).addRoutes none [archiveRoute]

/-- Nothing occupies the base path of the tasks in it, and still they get no endpoints. -/
theorem archiveRoute_suppresses :
    (∀ name ∈ taskProject.models.keys, Text.isIdentifier name = true) ∧
      taskProject.viewSets.values = [] ++ taskViewSet :: [] ∧
      taskProject.modelOf? taskViewSet = some "Task" ∧
      (∀ path ∈ archiveDraft.paths.keys, ¬ Occupies ("/api/" ++ Naming.endpointName "Task") path) ∧
      ¬ Received "TaskViewSet" "Task" archiveDraft
        (archiveDraft.addEndpointsOf taskProject taskViewSet) := by
  have begun : ∃ path ∈ archiveDraft.paths.keys, (endpointBase "Task").toList <+: path.toList := by
    decide +kernel
  have vacant : ∀ path ∈ archiveDraft.paths.keys,
      ¬ Occupies ("/api/" ++ Naming.endpointName "Task") path := by
    decide +kernel
  refine ⟨taskProject_identifiers, taskProject_turn, taskProject_modelOf, vacant, ?_⟩
  obtain ⟨path, there, begins⟩ := begun
  have plain : Text.IsSegment (Naming.endpointName "Task").toList :=
    Naming.endpointName_segment (taskProject_identifiers "Task" (by decide +kernel))
  intro received
  exact (addEndpointsOf_received_iff taskProject_modelOf plain).1 received path there begins

end Draft

end RouteAtlas.OpenApi
