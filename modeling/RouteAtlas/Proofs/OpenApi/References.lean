/-
Module: RouteAtlas.Proofs.OpenApi.References
Layer: Proofs
Purpose: Where the references of a document lead. A model that an operation is about, or that a field
  refers to, is one that the project has; the schemas of a document are those of all its models, by
  name; so that every reference, however deep it stands, leads to a schema of the document.
Trusted boundary: none
Main exports: Schema.Refers, Operation.Holds, Document.Holds, Inventory.Keyed, modelOfRoute?_known,
  modelSchema_known, Draft.Step, document_references
-/
import RouteAtlas.Proofs.OpenApi.Drafts

namespace RouteAtlas

/-! ### Models of a project -/

namespace Project.Inventory

/-- Every model is found under its own name. -/
def Keyed (inventory : Inventory) : Prop :=
  ∀ name model, (name, model) ∈ inventory.models → model.name = name

theorem empty_keyed : Keyed {} := fun _ _ member => nomatch member

/-- A class that is added under its own name keeps every model under its own name. -/
theorem Keyed.addStmt {inventory : Inventory} (keyed : inventory.Keyed) (stmt : Python.Stmt) :
    (inventory.addStmt stmt).Keyed := by
  unfold Inventory.addStmt
  split
  · exact keyed
  · split
    · exact keyed
    · split
      · next model _ =>
          intro name other member
          simp only [KeyMap.insertNew] at member
          split at member
          · exact keyed name other member
          · rcases KeyMap.mem_insert member with same | old
            · obtain ⟨rfl, rfl⟩ := Prod.mk.inj same
              rfl
            · exact keyed name other old
      · exact keyed

theorem Keyed.addBody {inventory : Inventory} (keyed : inventory.Keyed) (body : Python.Module) :
    (inventory.addBody body).Keyed := by
  rw [Inventory.addBody]
  induction body generalizing inventory with
  | nil => exact keyed
  | cons stmt rest ih => exact ih (keyed.addStmt stmt)

/-- Whatever modules an inventory was made of, every model is found under its own name. -/
theorem keyed_of_bodies (bodies : List Python.Module) : (bodies.foldl addBody {}).Keyed := by
  have general : ∀ inventory : Inventory, inventory.Keyed → (bodies.foldl addBody inventory).Keyed := by
    induction bodies with
    | nil => exact fun _ keyed => keyed
    | cons body rest ih => exact fun inventory keyed => ih _ (keyed.addBody body)
  exact general {} empty_keyed

/-- The project has a model of the name. -/
def Knows (inventory : Inventory) (name : String) : Prop :=
  KeyMap.contains name inventory.models = true

theorem knows_of_find?_keys {inventory : Inventory} {p : String → Bool} {name : String}
    (found : inventory.models.keys.find? p = some name) : inventory.Knows name :=
  KeyMap.contains_iff_mem_keys.2 (List.mem_of_find?_eq_some found)

/-- The model that a view set is about is one of the project. -/
theorem modelOf?_known {inventory : Inventory} {viewSet : Django.ViewSet} {name : String}
    (found : inventory.modelOf? viewSet = some name) : inventory.Knows name := by
  obtain ⟨candidate, _, kept⟩ := List.exists_of_findSome?_eq_some found
  exact (Option.filter_eq_some_iff.1 kept).2

end Project.Inventory

namespace OpenApi

open Project (Inventory)

section Inference

variable {inventory : Inventory} {name : String}

theorem modelOfSegment?_known {segment : String}
    (found : modelOfSegment? inventory segment = some name) : inventory.Knows name := by
  rw [modelOfSegment?] at found
  split at found
  · cases found
  · rcases Option.or_eq_some_iff.1 found with named | ⟨_, endpoint⟩
    · exact Inventory.knows_of_find?_keys named
    · exact Inventory.knows_of_find?_keys endpoint

theorem modelOfHandler?_known {handler : String}
    (found : modelOfHandler? inventory handler = some name) : inventory.Knows name := by
  rw [modelOfHandler?] at found
  rcases Option.or_eq_some_iff.1 found with named | ⟨_, viewed⟩
  · exact Inventory.knows_of_find?_keys named
  · obtain ⟨viewSet, _, about⟩ := Option.bind_eq_some_iff.1 viewed
    exact Inventory.modelOf?_known about

/-- The model that a route is about is one of the project, whether its path or its handler tells. -/
theorem modelOfRoute?_known {template : String} {handler : Option String}
    (found : modelOfRoute? inventory template handler = some name) : inventory.Knows name := by
  rw [modelOfRoute?] at found
  rcases Option.or_eq_some_iff.1 found with segment | ⟨_, handled⟩
  · obtain ⟨segment, _, named⟩ := List.exists_of_findSome?_eq_some segment
    exact modelOfSegment?_known named
  · obtain ⟨handler, _, named⟩ := Option.bind_eq_some_iff.1 handled
    exact modelOfHandler?_known named

end Inference

/-! ### References -/

/-- A reference that stands in a schema: its own one, one in the schema of a property, or one in the
schema of its items. -/
inductive Schema.Refers : Schema → String → Prop where
  | here {schema : Schema} {reference : String} (own : schema.reference = some reference) :
      Refers schema reference
  | property {schema inner : Schema} {properties : List (String × Schema)} {name reference : String}
      (has : schema.properties = some properties) (member : (name, inner) ∈ properties)
      (deeper : Refers inner reference) : Refers schema reference
  | item {schema inner : Schema} {reference : String} (has : schema.items = some inner)
      (deeper : Refers inner reference) : Refers schema reference

/-- A schema that stands in an operation, for what is sent or for what comes back. -/
inductive Operation.Holds (operation : Operation) : Schema → Prop where
  | sent {body : RequestBody} {type : String} {schema : Schema}
      (has : operation.requestBody = some body) (member : (type, schema) ∈ body.content) :
      Holds operation schema
  | answered {status type : String} {response : Response} {content : Content} {schema : Schema}
      (listed : (status, response) ∈ operation.responses) (has : response.content = some content)
      (member : (type, schema) ∈ content) : Holds operation schema

/-- A schema that stands in a document, in some operation or among the schemas by name. -/
inductive Document.Holds (document : Document) : Schema → Prop where
  | operation {path : String} {item : PathItem} {operation : Operation} {schema : Schema}
      (listed : (path, item) ∈ document.paths) (member : operation ∈ item.operations)
      (holds : operation.Holds schema) : Holds document schema
  | named {schemas : KeyMap Schema} {name : String} {schema : Schema}
      (has : document.schemas = some schemas) (member : (name, schema) ∈ schemas) :
      Holds document schema

namespace Schema

variable {name reference : String}

theorem toModel_refers (refers : (toModel name).Refers reference) :
    reference = modelPath name := by
  cases refers with
  | here own => exact (Option.some.inj own).symm
  | property has _ _ => cases has
  | item has _ => cases has

theorem listOf_refers {schema : Schema} (refers : (listOf schema).Refers reference) :
    schema.Refers reference := by
  cases refers with
  | here own => cases own
  | property has _ _ => cases has
  | item has deeper =>
      obtain rfl := Option.some.inj has
      exact deeper

theorem typed_refers {type : String} : ¬ (typed type).Refers reference := by
  intro refers
  cases refers with
  | here own => cases own
  | property has _ _ => cases has
  | item has _ => cases has

end Schema

/-- The schema refers to nothing but models of the project. -/
def Schema.Known (inventory : Inventory) (schema : Schema) : Prop :=
  ∀ reference, schema.Refers reference →
    ∃ name, reference = Schema.modelPath name ∧ inventory.Knows name

section Schemas

variable {inventory : Inventory}

theorem toModel_known {name : String} (knows : inventory.Knows name) :
    (Schema.toModel name).Known inventory := fun _ refers =>
  ⟨name, Schema.toModel_refers refers, knows⟩

theorem listOf_known {schema : Schema} (known : schema.Known inventory) :
    (Schema.listOf schema).Known inventory := fun reference refers =>
  known reference (Schema.listOf_refers refers)

/-- The schema of a field refers to a model of the project if it refers to anything. -/
theorem fieldSchema_known (field : Django.Field) : (fieldSchema inventory field).Known inventory := by
  rw [fieldSchema]
  cases related : field.relatedModel.filter fun name => KeyMap.contains name inventory.models with
  | some name =>
      have knows : inventory.Knows name := (Option.filter_eq_some_iff.1 related).2
      dsimp only
      split
      · exact listOf_known (toModel_known knows)
      · exact toModel_known knows
  | none =>
      intro reference refers
      cases refers with
      | here own => cases own
      | property has _ _ => cases has
      | item has deeper =>
          dsimp only at has
          split at has
          · obtain rfl := Option.some.inj has
            exact absurd deeper Schema.typed_refers
          · cases has

/-- The schema of a model refers to what its fields refer to. -/
theorem modelSchema_known (model : Django.Model) : (modelSchema inventory model).Known inventory := by
  intro reference refers
  cases refers with
  | here own => cases own
  | item has _ => cases has
  | property has member deeper =>
      obtain rfl := Option.some.inj has
      obtain ⟨field, _, same⟩ := List.mem_map.1 (KeyMap.mem_of_mem_ofList member)
      obtain ⟨rfl, rfl⟩ := Prod.mk.inj same
      exact fieldSchema_known field reference deeper

/-- Every model of the project has its schema under its name. -/
theorem contains_modelSchemas (keyed : inventory.Keyed) {name : String}
    (knows : inventory.Knows name) : KeyMap.contains name (modelSchemas inventory) = true := by
  obtain ⟨model, found⟩ := Option.isSome_iff_exists.1 knows
  have member := KeyMap.mem_of_find? found
  rw [modelSchemas, KeyMap.contains_ofList]
  refine ⟨modelSchema inventory model, List.mem_map.2 ⟨model, ?_, ?_⟩⟩
  · exact List.mem_map_of_mem member
  · rw [keyed name model member]

end Schemas

/-! ### Operations -/

/-- The schemas of an operation refer to the model that its request is about. -/
theorem Request.operation_holds {request : Request} {id : String} {schema : Schema}
    (holds : (request.operation id).Holds schema) :
    ∃ model, request.model = some model ∧
      (schema = .toModel model ∨ schema = .listOf (.toModel model)) := by
  cases holds with
  | sent has member =>
      obtain ⟨model, about, sent⟩ := Option.bind_eq_some_iff.1 has
      refine ⟨model, about, .inl ?_⟩
      split at sent
      · obtain rfl := Option.some.inj sent
        exact (Prod.mk.inj (List.mem_singleton.1 member)).2
      · cases sent
  | answered listed has member =>
      obtain ⟨rfl, rfl⟩ := Prod.mk.inj (List.mem_singleton.1 listed)
      obtain ⟨model, about, answered⟩ := Option.bind_eq_some_iff.1 has
      refine ⟨model, about, ?_⟩
      dsimp only at answered
      split at answered
      · obtain rfl := Option.some.inj answered
        have same := (Prod.mk.inj (List.mem_singleton.1 member)).2
        split at same
        · exact .inl same
        · exact .inr same
      · obtain rfl := Option.some.inj answered
        exact .inl (Prod.mk.inj (List.mem_singleton.1 member)).2
      · obtain rfl := Option.some.inj answered
        exact .inl (Prod.mk.inj (List.mem_singleton.1 member)).2
      · obtain rfl := Option.some.inj answered
        exact .inl (Prod.mk.inj (List.mem_singleton.1 member)).2
      · cases answered

namespace Draft

/-- The paths of a draft are in order, and its operations refer to nothing but models of the project. -/
structure Known (inventory : Inventory) (draft : Draft) : Prop where
  sorted : KeyMap.Sorted draft.paths
  known : ∀ operation ∈ draft.storedOperations, ∀ schema, operation.Holds schema →
    schema.Known inventory

/-- A request that is about a model of the project, or about none, adds no reference to another one. -/
theorem Known.addRequest {inventory : Inventory} {draft : Draft} {request : Request}
    (known : draft.Known inventory)
    (about : ∀ model, request.model = some model → inventory.Knows model) :
    (draft.addRequest request).1.Known inventory := by
  rcases addRequest_cases draft request with ⟨new, stored⟩ | ⟨_, turnedAway⟩
  · rw [stored]
    refine ⟨KeyMap.sorted_insert _ _ known.sorted, fun operation member schema holds => ?_⟩
    rcases List.mem_cons.1 ((storedOperations_store known.sorted new).mem_iff.1 member) with
      rfl | old
    · obtain ⟨model, same, rfl | rfl⟩ := Request.operation_holds holds
      · exact toModel_known (about model same)
      · exact listOf_known (toModel_known (about model same))
    · exact known.known operation old schema holds
  · rw [turnedAway]
    exact ⟨known.sorted, known.known⟩

/-- The endpoints of a view set are about its model. -/
theorem endpointRequests_model {viewSet model base : String} {request : Request}
    (member : request ∈ endpointRequests viewSet model base) : request.model = some model := by
  simp only [endpointRequests, List.mem_cons, List.not_mem_nil, or_false] at member
  rcases member with rfl | rfl | rfl | rfl | rfl <;> rfl

/-- What is done with a draft while the classes of one project are given: adding a route, and adding the
endpoints of the view sets of the project. -/
inductive Step where
  | route (route : Route)
  | endpoints

/-- The call with the classes of the project. -/
def Step.call (inventory : Inventory) : Step → Call
  | .route added => .route (some inventory) added
  | .endpoints => .endpoints inventory

theorem requestOf_model (inventory : Inventory) (route : Route) :
    (requestOf (some inventory) route).model =
      modelOfRoute? inventory (Url.template route.path) route.handler := by
  simp only [requestOf, Option.bind_some]

/-- The requests that are made with the classes of a project are about models of the project. -/
theorem Step.about {inventory : Inventory} {step : Step} {request : Request}
    (makes : (step.call inventory).Makes request) {model : String}
    (about : request.model = some model) : inventory.Knows model := by
  cases step with
  | route added =>
      cases makes with
      | route _ _ =>
          rw [requestOf_model] at about
          exact modelOfRoute?_known about
  | endpoints =>
      cases makes with
      | endpoint _ known member =>
          obtain rfl := Option.some.inj ((endpointRequests_model member).symm.trans about)
          exact Inventory.modelOf?_known known

/-- Whatever is done with a new draft, its operations refer to nothing but models of the project. -/
theorem calls_known (info : Info) (servers : List Server) (inventory : Inventory)
    (steps : List Step) :
    ((started info servers).calls (steps.map (Step.call inventory))).Known inventory := by
  refine calls_preserve_made _ ?_ ⟨.nil, fun _ member => nomatch member⟩
  intro call listed request makes draft known
  obtain ⟨step, _, rfl⟩ := List.mem_map.1 listed
  exact known.addRequest fun model about => Step.about makes about

/-- A document has the schemas of all models, if there are any. -/
theorem document_schemas_eq_some_iff {draft : Draft} {inventory : Inventory}
    {schemas : KeyMap Schema} :
    (draft.document (some inventory)).schemas = some schemas ↔
      schemas = modelSchemas inventory ∧ schemas ≠ [] := by
  change (some (modelSchemas inventory)).filter (fun schemas => !schemas.isEmpty) = some schemas ↔ _
  rw [Option.filter_eq_some_iff, Option.some.injEq]
  constructor
  · rintro ⟨rfl, filled⟩
    exact ⟨rfl, by simpa using filled⟩
  · rintro ⟨rfl, filled⟩
    exact ⟨rfl, by simpa using filled⟩

/-- No reference of a document leads nowhere. Whatever modules the classes of a project come from, and
whatever routes and endpoints are added with them to a new draft: each reference that stands anywhere
in the document, be it in an operation or deep in the schema of a model, is that to a schema which the
document has under that name. -/
theorem document_references (info : Info) (servers : List Server) (bodies : List Python.Module)
    (steps : List Step) :
    let inventory := bodies.foldl Inventory.addBody {}
    let draft := (started info servers).calls (steps.map (Step.call inventory))
    let document := draft.document (some inventory)
    ∀ schema, document.Holds schema → ∀ reference, schema.Refers reference →
      ∃ name schemas, reference = "#/components/schemas/" ++ name ∧
        document.schemas = some schemas ∧ KeyMap.contains name schemas = true := by
  intro inventory draft document schema holds reference refers
  have keyed : inventory.Keyed := Inventory.keyed_of_bodies bodies
  have draftKnown : draft.Known inventory := calls_known info servers inventory steps
  have known : schema.Known inventory := by
    cases holds with
    | operation listed member holds =>
        have stored : _ ∈ draft.storedOperations :=
          List.mem_flatMap.2 ⟨_, List.mem_map_of_mem listed, member⟩
        exact draftKnown.known _ stored schema holds
    | named has member =>
        obtain ⟨rfl, _⟩ := document_schemas_eq_some_iff.1 has
        obtain ⟨model, _, same⟩ := List.mem_map.1 (KeyMap.mem_of_mem_ofList member)
        obtain ⟨rfl, rfl⟩ := Prod.mk.inj same
        exact modelSchema_known model
  obtain ⟨name, rfl, knows⟩ := known reference refers
  have there := contains_modelSchemas keyed knows
  have filled : modelSchemas inventory ≠ [] := by
    intro empty
    rw [empty] at there
    cases there
  exact ⟨name, modelSchemas inventory, rfl, document_schemas_eq_some_iff.2 ⟨rfl, filled⟩, there⟩

/-- A field that refers to the model which holds it. -/
def parentField : Django.Field where
  name := "parent"
  kind := "ForeignKey"
  relatedModel := some "Node"

/-- A model with that field. -/
def nodeModel : Django.Model := ⟨"Node", [parentField], none⟩

/-- A module that defines it. -/
def nodeModule : Python.Module :=
  let models : Python.Expr := .name "models"
  [.class_ "Node" [.attribute models "Model"]
    [.assign [.name "parent"]
      (.call (.attribute models "ForeignKey") [.constant (.text "self")] [])]]

theorem nodeModule_references :
    let inventory := [nodeModule].foldl Inventory.addBody {}
    let draft := (started ⟨"API", "1.0.0", none⟩ []).calls
      ([.route ⟨"nodes/", .get, "nodes", "GET nodes/", [], none⟩, .endpoints].map
        (Step.call inventory))
    let document := draft.document (some inventory)
    ∃ schema, document.Holds schema ∧ schema.Refers "#/components/schemas/Node" ∧
      ∃ name schemas, "#/components/schemas/Node" = "#/components/schemas/" ++ name ∧
        document.schemas = some schemas ∧ KeyMap.contains name schemas = true := by
  intro inventory draft document
  have models : inventory.models = [("Node", nodeModel)] := by
    decide +kernel
  have schemas : modelSchemas inventory = [("Node", modelSchema inventory nodeModel)] := by
    rw [modelSchemas, models]
    rfl
  have parent : fieldSchema inventory parentField = .toModel "Node" := by
    rw [fieldSchema, models]
    rfl
  have member : ("Node", modelSchema inventory nodeModel) ∈ modelSchemas inventory := by
    rw [schemas]
    exact List.mem_singleton.2 rfl
  have holds : document.Holds (modelSchema inventory nodeModel) :=
    .named (document_schemas_eq_some_iff.2 ⟨rfl, List.ne_nil_of_mem member⟩) member
  have property : ("parent", fieldSchema inventory parentField) ∈
      [("parent", fieldSchema inventory parentField)] :=
    List.mem_singleton.2 rfl
  have refers : (modelSchema inventory nodeModel).Refers "#/components/schemas/Node" := by
    refine .property rfl property ?_
    rw [parent]
    exact .here rfl
  exact ⟨_, holds, refers, document_references _ _ _ _ _ holds _ refers⟩

end Draft

end OpenApi

end RouteAtlas
