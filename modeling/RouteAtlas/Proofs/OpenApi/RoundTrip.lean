/-
Module: RouteAtlas.Proofs.OpenApi.RoundTrip
Layer: Proofs
Purpose: Documents written as JSON values and read back. A document comes back as it was if and only if
  its maps are in order and its lengths fit into 64 bits; and every document that is read from any value
  is of that kind, so that writing and reading it again changes nothing.
Trusted boundary: none
Main exports: Schema.WellFormed, Document.WellFormed, Schema.ofJson?_toJson, Document.ofJson?_toJson,
  Schema.wellFormed_of_ofJson?, Document.wellFormed_of_ofJson?, document_read_back
-/
import RouteAtlas.OpenApi.Decoding
import RouteAtlas.Proofs.OpenApi.Records

namespace RouteAtlas.OpenApi

/-! ### Well-formed documents -/

/-- A schema whose properties are in order, at every depth, and whose lengths fit into 64 bits. -/
inductive Schema.WellFormed : Schema → Prop where
  | intro {schema : Schema}
      (sorted : ∀ properties ∈ schema.properties, KeyMap.Sorted properties)
      (inner : ∀ properties ∈ schema.properties, ∀ binding ∈ properties, WellFormed binding.2)
      (item : ∀ items ∈ schema.items, WellFormed items)
      (fits : ∀ length ∈ schema.maxLength, length < Nat.pow 2 64) : WellFormed schema

/-- The content of a body with its media types in order. -/
def Content.WellFormed (content : Content) : Prop := KeyMap.Proper Schema.WellFormed content

def Response.WellFormed (response : Response) : Prop :=
  ∀ content ∈ response.content, Content.WellFormed content

/-- An operation with its bodies and its responses in order. -/
structure Operation.WellFormed (operation : Operation) : Prop where
  sent : ∀ body ∈ operation.requestBody, Content.WellFormed body.content
  answered : KeyMap.Proper Response.WellFormed operation.responses

def PathItem.WellFormed (item : PathItem) : Prop :=
  ∀ method, ∀ operation ∈ item.operation? method, operation.WellFormed

/-- A document with its paths and its schemas in order. -/
structure Document.WellFormed (document : Document) : Prop where
  paths : KeyMap.Proper PathItem.WellFormed document.paths
  schemas : ∀ schemas ∈ document.schemas, KeyMap.Proper Schema.WellFormed schemas

/-! ### Schemas -/

namespace Schema

theorem schemaMembers_eq (properties : List (String × Schema)) :
    schemaMembers properties = properties.map fun binding => (binding.1, binding.2.toJson) := by
  induction properties with
  | nil => rw [schemaMembers, List.map_nil]
  | cons first rest ih =>
      obtain ⟨name, schema⟩ := first
      rw [schemaMembers, List.map_cons, ih]

/-- The members of a schema, all of them written in one way. -/
def members (schema : Schema) : List (String × Json) :=
  optionalText "type" schema.type ++
  optionalMember "properties" (schema.properties.map (mapJson toJson)) ++
  optionalMember "required" (schema.required.map textArray) ++
  optionalMember "items" (schema.items.map toJson) ++
  optionalMember "enum" (schema.choices.map textArray) ++
  optionalText "$ref" schema.reference ++
  optionalText "format" schema.format ++
  optionalMember "maxLength" (schema.maxLength.map Json.natural) ++
  optionalMember "nullable" (schema.nullable.map .bool) ++
  optionalText "description" schema.description

theorem toJson_eq (schema : Schema) : schema.toJson = .object schema.members := by
  obtain ⟨type, properties, required, items, choices, reference, format, maxLength, nullable,
    description⟩ := schema
  have listed : optionalProperties properties =
      optionalMember "properties" (properties.map (mapJson toJson)) := by
    cases properties with
    | none => rfl
    | some properties => rw [optionalProperties, schemaMembers_eq]; rfl
  have item : optionalItems items = optionalMember "items" (items.map toJson) := by
    cases items with
    | none => rfl
    | some items => rfl
  rw [toJson, listed, item]
  rfl

/-- Every member of a schema is found under its name. -/
theorem fields?_toJson (schema : Schema) :
    schema.toJson.fields? schemaNames = some [
      (schema.type.map .text).getD .null,
      (schema.properties.map (mapJson toJson)).getD .null,
      (schema.required.map textArray).getD .null,
      (schema.items.map toJson).getD .null,
      (schema.choices.map textArray).getD .null,
      (schema.reference.map .text).getD .null,
      (schema.format.map .text).getD .null,
      (schema.maxLength.map Json.natural).getD .null,
      (schema.nullable.map .bool).getD .null,
      (schema.description.map .text).getD .null] := by
  rw [toJson_eq, Json.fields?]
  simp [schemaNames, members, optionalText, KeyMap.find?_append]

/-- The schemas of properties and items are less deep than the schema. -/
theorem depth_property {schema : Schema} {properties : List (String × Schema)}
    (has : schema.properties = some properties) {binding : String × Schema}
    (member : binding ∈ properties) : binding.2.toJson.depth < schema.toJson.depth := by
  have inside : (binding.1, binding.2.toJson) ∈
      properties.map fun binding => (binding.1, binding.2.toJson) :=
    List.mem_map_of_mem member
  have listed : ("properties", mapJson toJson properties) ∈ schema.members := by
    simp [members, has, optionalMember]
  rw [toJson_eq schema]
  exact Nat.lt_trans (Json.depth_lt_of_mem inside) (Json.depth_lt_of_mem listed)

theorem depth_items {schema items : Schema} (has : schema.items = some items) :
    items.toJson.depth < schema.toJson.depth := by
  have listed : ("items", items.toJson) ∈ schema.members := by
    simp [members, has, optionalMember]
  rw [toJson_eq schema]
  exact Json.depth_lt_of_mem listed

theorem ofJsonWithin_null (depth : Nat) : ofJsonWithin depth .null = none := by
  cases depth with
  | zero => rfl
  | succ depth => rfl

theorem natural_word64? {value : Nat} (fits : value < Nat.pow 2 64) :
    (Json.natural value).word64? = some value := if_pos fits

/-- A well-formed schema is read back within any depth that its value has. -/
theorem ofJsonWithin_toJson {schema : Schema} (wellFormed : schema.WellFormed) :
    ∀ depth, schema.toJson.depth ≤ depth → ofJsonWithin depth schema.toJson = some schema := by
  induction wellFormed with
  | @intro schema sorted inner item fits innerBack itemBack =>
      intro depth deep
      cases depth with
      | zero =>
          rw [toJson_eq] at deep
          cases deep
      | succ depth =>
          have propertiesBack : ∀ properties ∈ schema.properties,
              Json.map? (ofJsonWithin depth) (mapJson toJson properties) = some properties := by
            intro properties has
            refine Json.map?_written (sorted properties has) fun binding member => ?_
            have less := depth_property has member
            exact innerBack properties has binding member depth (by omega)
          have itemsBack : ∀ items ∈ schema.items, ofJsonWithin depth items.toJson = some items := by
            intro items has
            have less := depth_items has
            exact itemBack items has depth (by omega)
          rw [ofJsonWithin, fields?_toJson]
          simp only [Json.optional?_text, Json.optional?_texts, Json.optional?_bool,
            Json.optional?_written rfl propertiesBack,
            Json.optional?_written (ofJsonWithin_null depth) itemsBack,
            Json.optional?_written rfl fun length has => natural_word64? (fits length has)]
          cases schema with
          | mk => rfl

theorem ofJson?_toJson {schema : Schema} (wellFormed : schema.WellFormed) :
    ofJson? schema.toJson = some schema :=
  ofJsonWithin_toJson wellFormed _ (Nat.le_refl _)

/-- A schema that is read is well-formed, whatever it is read from. -/
theorem wellFormed_of_ofJsonWithin {depth : Nat} :
    ∀ value schema, ofJsonWithin depth value = some schema → schema.WellFormed := by
  induction depth with
  | zero => intro value schema reads; cases reads
  | succ depth ih =>
      intro value schema reads
      rw [ofJsonWithin] at reads
      split at reads
      · simp only [Option.bind_eq_bind, Option.bind_eq_some_iff, Option.pure_def,
          Option.some.injEq] at reads
        obtain ⟨_, _, properties, readsProperties, _, _, items, readsItems, _, _, _, _, _, _,
          maxLength, readsLength, _, _, _, _, rfl⟩ := reads
        have proper := Json.optional?_proper (fun _ _ => Json.map?_proper ih) readsProperties
        refine .intro (fun _ has => (proper _ has).1) (fun _ has => (proper _ has).2)
          (Json.optional?_proper ih readsItems) ?_
        refine Json.optional?_proper (fun value length reads => ?_) readsLength
        exact Json.lt_of_word64? reads
      · cases reads

theorem wellFormed_of_ofJson? (value : Json) (schema : Schema)
    (reads : ofJson? value = some schema) : schema.WellFormed :=
  wellFormed_of_ofJsonWithin value schema reads

end Schema

/-! ### Bodies -/

/-- A media type is written as a record around its schema. -/
theorem mediaSchema?_written {schema : Schema} (wellFormed : schema.WellFormed) :
    mediaSchema? (.object [("schema", schema.toJson)]) = some schema := by
  simp [mediaSchema?, Json.fields?, KeyMap.find?, Schema.ofJson?_toJson wellFormed]

theorem wellFormed_of_mediaSchema? (value : Json) (schema : Schema)
    (reads : mediaSchema? value = some schema) : schema.WellFormed := by
  rw [mediaSchema?] at reads
  split at reads
  · exact Schema.wellFormed_of_ofJson? _ schema reads
  · cases reads

theorem content?_written {content : Content} (wellFormed : content.WellFormed) :
    content? (contentJson content) = some content :=
  Json.map?_written wellFormed.1 fun binding member =>
    mediaSchema?_written (wellFormed.2 binding member)

theorem wellFormed_of_content? (value : Json) (content : Content)
    (reads : content? value = some content) : content.WellFormed :=
  Json.map?_proper wellFormed_of_mediaSchema? reads

theorem RequestBody.ofJson?_toJson {body : RequestBody}
    (wellFormed : Content.WellFormed body.content) : ofJson? body.toJson = some body := by
  simp [RequestBody.ofJson?, RequestBody.toJson, Json.fields?, KeyMap.find?, Json.bool?,
    content?_written wellFormed]

theorem RequestBody.wellFormed_of_ofJson? (value : Json) (body : RequestBody)
    (reads : ofJson? value = some body) : Content.WellFormed body.content := by
  rw [RequestBody.ofJson?] at reads
  split at reads
  · simp only [Option.bind_eq_bind, Option.bind_eq_some_iff, Option.pure_def,
      Option.some.injEq] at reads
    obtain ⟨_, _, content, readsContent, rfl⟩ := reads
    exact wellFormed_of_content? _ content readsContent
  · cases reads

theorem Response.ofJson?_toJson {response : Response} (wellFormed : response.WellFormed) :
    ofJson? response.toJson = some response := by
  have contentBack : ((response.content.map contentJson).getD .null).optional? content? =
      some response.content :=
    Json.optional?_written rfl fun content has => content?_written (wellFormed content has)
  simp [Response.ofJson?, Response.toJson, Json.fields?, KeyMap.find?, Json.text?, contentBack]

theorem Response.wellFormed_of_ofJson? (value : Json) (response : Response)
    (reads : ofJson? value = some response) : response.WellFormed := by
  rw [Response.ofJson?] at reads
  split at reads
  · simp only [Option.bind_eq_bind, Option.bind_eq_some_iff, Option.pure_def,
      Option.some.injEq] at reads
    obtain ⟨_, _, content, readsContent, rfl⟩ := reads
    exact Json.optional?_proper wellFormed_of_content? readsContent
  · cases reads

/-! ### Operations -/

theorem Info.ofJson?_toJson (info : Info) : ofJson? info.toJson = some info := by
  simp [Info.ofJson?, Info.toJson, Json.fields?, KeyMap.find?, optionalText, Json.text?]

theorem Server.ofJson?_toJson (server : Server) : ofJson? server.toJson = some server := by
  simp [Server.ofJson?, Server.toJson, Json.fields?, KeyMap.find?, Json.text?]

theorem Parameter.ofJson?_toJson (parameter : Parameter) :
    ofJson? parameter.toJson = some parameter := by
  simp [Parameter.ofJson?, Parameter.toJson, parameterType?, Json.fields?, KeyMap.find?, Json.text?,
    Json.bool?]

/-- Every member of an operation is found under its name. -/
theorem Operation.fields?_toJson (operation : Operation) :
    operation.toJson.fields? operationNames = some [
      (operation.summary.map .text).getD .null,
      .text operation.operationId,
      .text operation.description,
      (operation.parameters.map fun parameters =>
        .array (parameters.map Parameter.toJson)).getD .null,
      (operation.requestBody.map RequestBody.toJson).getD .null,
      mapJson Response.toJson operation.responses] := by
  simp [Operation.toJson, operationNames, Json.fields?, KeyMap.find?, KeyMap.find?_append,
    optionalText]

theorem Operation.ofJson?_toJson {operation : Operation} (wellFormed : operation.WellFormed) :
    ofJson? operation.toJson = some operation := by
  have responsesBack : Json.map? Response.ofJson? (mapJson Response.toJson operation.responses) =
      some operation.responses :=
    Json.map?_written wellFormed.answered.1 fun binding member =>
      Response.ofJson?_toJson (wellFormed.answered.2 binding member)
  have parametersBack : ∀ parameters ∈ operation.parameters,
      Json.list? Parameter.ofJson? (.array (parameters.map Parameter.toJson)) = some parameters :=
    fun parameters _ => Json.list?_written fun parameter _ => parameter.ofJson?_toJson
  rw [Operation.ofJson?, fields?_toJson]
  simp only [Json.optional?_text, Json.optional?_written rfl parametersBack,
    Json.optional?_written rfl fun body has => RequestBody.ofJson?_toJson (wellFormed.sent body has),
    responsesBack]
  rfl

theorem Operation.wellFormed_of_ofJson? (value : Json) (operation : Operation)
    (reads : ofJson? value = some operation) : operation.WellFormed := by
  rw [Operation.ofJson?] at reads
  split at reads
  · simp only [Option.bind_eq_bind, Option.bind_eq_some_iff, Option.pure_def,
      Option.some.injEq] at reads
    obtain ⟨_, _, _, _, _, _, _, _, body, readsBody, responses, readsResponses, rfl⟩ := reads
    exact {
      sent := Json.optional?_proper RequestBody.wellFormed_of_ofJson? readsBody
      answered := Json.map?_proper Response.wellFormed_of_ofJson? readsResponses }
  · cases reads

/-- Every operation of a path is found under the name of its method. -/
theorem PathItem.fields?_toJson (item : PathItem) :
    item.toJson.fields? (Method.all.map Method.name) =
      some (Method.all.map fun method =>
        ((item.operation? method).map Operation.toJson).getD .null) := by
  simp [PathItem.toJson, Method.all, Method.name, Json.fields?, KeyMap.find?_append]

theorem PathItem.ofJson?_toJson {item : PathItem} (wellFormed : item.WellFormed) :
    ofJson? item.toJson = some item := by
  have operationBack (method : Method) :
      (((item.operation? method).map Operation.toJson).getD .null).optional? Operation.ofJson? =
        some (item.operation? method) :=
    Json.optional?_written rfl fun operation has =>
      Operation.ofJson?_toJson (wellFormed method operation has)
  rw [PathItem.ofJson?, fields?_toJson]
  simp only [Method.all, List.map_cons, List.map_nil, operationBack]
  rfl

theorem PathItem.wellFormed_of_ofJson? (value : Json) (item : PathItem)
    (reads : ofJson? value = some item) : item.WellFormed := by
  rw [PathItem.ofJson?] at reads
  split at reads
  · simp only [Option.bind_eq_bind, Option.bind_eq_some_iff, Option.pure_def,
      Option.some.injEq] at reads
    obtain ⟨get, readsGet, post, readsPost, put, readsPut, delete, readsDelete, patch, readsPatch,
      options, readsOptions, head, readsHead, rfl⟩ := reads
    have each {value : Json} {operation? : Option Operation}
        (reads : value.optional? Operation.ofJson? = some operation?) :
        ∀ operation ∈ operation?, operation.WellFormed :=
      Json.optional?_proper Operation.wellFormed_of_ofJson? reads
    intro method
    cases method with
    | get => exact each readsGet
    | post => exact each readsPost
    | put => exact each readsPut
    | delete => exact each readsDelete
    | patch => exact each readsPatch
    | options => exact each readsOptions
    | head => exact each readsHead
  · cases reads

/-! ### Documents -/

theorem components?_written {schemas : KeyMap Schema}
    (proper : schemas.Proper Schema.WellFormed) :
    components? (.object [("schemas", mapJson Schema.toJson schemas)]) = some schemas := by
  have back : Json.map? Schema.ofJson? (mapJson Schema.toJson schemas) = some schemas :=
    Json.map?_written proper.1 fun binding member =>
      Schema.ofJson?_toJson (proper.2 binding member)
  simpa [components?, Json.fields?, KeyMap.find?] using back

theorem proper_of_components? (value : Json) (schemas : KeyMap Schema)
    (reads : components? value = some schemas) : schemas.Proper Schema.WellFormed := by
  rw [components?] at reads
  split at reads
  · exact Json.map?_proper Schema.wellFormed_of_ofJson? reads
  · cases reads

namespace Document

/-- A well-formed document is read back as it was. -/
theorem ofJson?_toJson {document : Document} (wellFormed : document.WellFormed) :
    ofJson? document.toJson = some document := by
  have pathsBack : Json.map? PathItem.ofJson? (mapJson PathItem.toJson document.paths) =
      some document.paths :=
    Json.map?_written wellFormed.paths.1 fun binding member =>
      PathItem.ofJson?_toJson (wellFormed.paths.2 binding member)
  have serversBack : Json.list? Server.ofJson? (.array (document.servers.map Server.toJson)) =
      some document.servers :=
    Json.list?_written fun server _ => server.ofJson?_toJson
  have componentsBack : ((document.schemas.map fun schemas =>
        Json.object [("schemas", mapJson Schema.toJson schemas)]).getD .null).optional? components? =
      some document.schemas :=
    Json.optional?_written rfl fun schemas has => components?_written (wellFormed.schemas schemas has)
  simp [ofJson?, toJson, Json.fields?, KeyMap.find?, Json.text?, Info.ofJson?_toJson, pathsBack,
    serversBack, componentsBack]

/-- A document that is read is well-formed, whatever it is read from. -/
theorem wellFormed_of_ofJson? {value : Json} {document : Document}
    (reads : ofJson? value = some document) : document.WellFormed := by
  rw [ofJson?] at reads
  split at reads
  · simp only [Option.bind_eq_bind, Option.bind_eq_some_iff, Option.pure_def,
      Option.some.injEq] at reads
    obtain ⟨_, _, _, _, _, _, paths, readsPaths, schemas, readsSchemas, rfl⟩ := reads
    exact {
      paths := Json.map?_proper PathItem.wellFormed_of_ofJson? readsPaths
      schemas := Json.optional?_proper proper_of_components? readsSchemas }
  · cases reads

end Document

/-- Documents survive being written and read. A document is read back from the value that it is written
as if and only if its maps are in order and its lengths fit into 64 bits. And a document that is read
from any value is one of them: written and read again, it is the same document, with as many
operations. -/
theorem document_read_back :
    (∀ document : Document,
      Document.ofJson? document.toJson = some document ↔ document.WellFormed) ∧
    (∀ (value : Json) (document : Document), Document.ofJson? value = some document →
      ∃ again, Document.ofJson? document.toJson = some again ∧ again = document ∧
        again.operationCount = document.operationCount) := by
  refine ⟨fun document => ⟨Document.wellFormed_of_ofJson?, Document.ofJson?_toJson⟩, ?_⟩
  intro value document reads
  have back := Document.ofJson?_toJson (Document.wellFormed_of_ofJson? reads)
  exact ⟨document, back, rfl, rfl⟩

/-- A value with an empty list of parameters, a member that is `null`, and a schema inside another. -/
def treeValue : Json := .object [
  ("openapi", .text "3.0.2"),
  ("info", .object [("title", .text "Trees"), ("version", .text "1"), ("description", .null)]),
  ("servers", .array []),
  ("paths", .object [("/trees/", .object [("get", .object [
    ("operationId", .text "trees"), ("description", .text ""), ("parameters", .array []),
    ("responses", .object [])])])]),
  ("components", .object [("schemas", .object [("Tree", .object [
    ("type", .text "array"), ("items", .object [("maxLength", .integer 8)])])])])]

/-- The document that the value is read as. -/
def treeDocument : Document where
  version := "3.0.2"
  info := ⟨"Trees", "1", none⟩
  servers := []
  paths := [("/trees/", { get := some {
    operationId := "trees", description := "", parameters := some [], responses := [] } })]
  schemas := some [("Tree", { type := some "array", items := some { maxLength := some 8 } })]

theorem treeDocument_read_back :
    Document.ofJson? treeValue = some treeDocument ∧
      ∃ again, Document.ofJson? treeDocument.toJson = some again ∧ again = treeDocument ∧
        again.operationCount = treeDocument.operationCount :=
  have reads : Document.ofJson? treeValue = some treeDocument := rfl
  ⟨reads, document_read_back.2 treeValue treeDocument reads⟩

end RouteAtlas.OpenApi
