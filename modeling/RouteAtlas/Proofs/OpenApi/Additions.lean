/-
Module: RouteAtlas.Proofs.OpenApi.Additions
Layer: Proofs
Purpose: Routes that are added in order. Of the routes with one template and method the first is kept,
  and the others are counted; adding a route once more, at whatever time, does nothing but count it.
Trusted boundary: none
Main exports: Addition, Draft.addAll, operation?_addRequest, operation?_addAll, addAll_keeps_first
-/
import RouteAtlas.Proofs.OpenApi.Drafts

namespace RouteAtlas.OpenApi

open Project (Inventory)

/-- A route that is added, with or without the classes of the project. -/
structure Addition where
  inventory : Option Inventory
  route : Route

namespace Addition

/-- What the route asks for. -/
def request (addition : Addition) : Request := Draft.requestOf addition.inventory addition.route

/-- Where the operation of the route belongs: under its template, for its method. -/
def place (addition : Addition) : String × Method :=
  (Url.template addition.route.path, addition.route.method)

@[simp]
theorem request_route (addition : Addition) : addition.request.route = addition.route := rfl

@[simp]
theorem request_template (addition : Addition) :
    addition.request.template = Url.template addition.route.path := rfl

end Addition

/-- The operation of a document for a method on a path. -/
def Document.operation? (document : Document) (template : String) (method : Method) :
    Option Operation :=
  (KeyMap.find? template document.paths).bind fun item => item.operation? method

namespace Draft

/-- Add some routes in order. -/
def addAll (draft : Draft) (additions : List Addition) : Draft :=
  additions.foldl (fun draft addition => (draft.addRoute addition.inventory addition.route).1) draft

/-- The draft with some more duplicates counted. -/
def countMore (draft : Draft) (more : Nat) : Draft :=
  { draft with duplicates := draft.duplicates + more }

theorem countMore_countMore (draft : Draft) (more others : Nat) :
    (draft.countMore more).countMore others = draft.countMore (more + others) := by
  simp only [countMore, Nat.add_assoc]

section Step

variable {draft : Draft} {addition : Addition} {template : String} {method : Method}

/-- A route is added where there is no operation yet, and nothing else is changed. -/
theorem operation?_addRequest (request : Request) :
    (draft.addRequest request).1.operation? template method =
      (draft.operation? template method).or
        (if template = request.template ∧ method = request.route.method then
          some (draft.storedOperation request)
        else none) := by
  rcases addRequest_cases draft request with ⟨new, stored⟩ | ⟨old, turnedAway⟩
  · rw [stored, operation?_store]
    by_cases here : template = request.template ∧ method = request.route.method
    · obtain ⟨rfl, rfl⟩ := here
      rw [if_pos ⟨rfl, rfl⟩, if_pos ⟨rfl, rfl⟩, new, Option.none_or]
    · rw [if_neg here, if_neg here, Option.or_none]
  · rw [turnedAway]
    change draft.operation? template method = _
    by_cases here : template = request.template ∧ method = request.route.method
    · obtain ⟨rfl, rfl⟩ := here
      obtain ⟨operation, there⟩ := Option.isSome_iff_exists.1 old
      rw [there, Option.some_or]
    · rw [if_neg here, Option.or_none]

theorem addRoute_stored
    (new : draft.operation? addition.place.1 addition.place.2 = none) :
    draft.addRoute addition.inventory addition.route = (draft.store addition.request, true) :=
  addRequest_stored new

theorem addRoute_turnedAway
    (old : (draft.operation? addition.place.1 addition.place.2).isSome) :
    draft.addRoute addition.inventory addition.route = (draft.countMore 1, false) :=
  addRequest_turnedAway old

/-- All that can become of a route. -/
theorem addRoute_cases (draft : Draft) (addition : Addition) :
    (draft.operation? addition.place.1 addition.place.2 = none ∧
        draft.addRoute addition.inventory addition.route = (draft.store addition.request, true)) ∨
      ((draft.operation? addition.place.1 addition.place.2).isSome ∧
        draft.addRoute addition.inventory addition.route = (draft.countMore 1, false)) :=
  addRequest_cases draft addition.request

/-- A route is new if there is no operation at its place. -/
theorem addRoute_new_iff :
    (draft.addRoute addition.inventory addition.route).2 = true ↔
      draft.operation? addition.place.1 addition.place.2 = none := by
  rcases addRoute_cases draft addition with ⟨new, stored⟩ | ⟨old, turnedAway⟩
  · simp [stored, new]
  · rw [turnedAway, ← Option.not_isSome_iff_eq_none]
    simp [old]

theorem addRoute_sorted (sorted : KeyMap.Sorted draft.paths) :
    KeyMap.Sorted (draft.addRoute addition.inventory addition.route).1.paths :=
  addRequest_sorted sorted

/-- Whatever route is added, an operation more or a duplicate more is counted. -/
theorem addRoute_counted (sorted : KeyMap.Sorted draft.paths) :
    (draft.addRoute addition.inventory addition.route).1.storedOperations.length +
        (draft.addRoute addition.inventory addition.route).1.duplicates =
      draft.storedOperations.length + draft.duplicates + 1 := by
  rcases addRoute_cases draft addition with ⟨new, stored⟩ | ⟨_, turnedAway⟩
  · have free : draft.operation? addition.request.template addition.request.route.method =
      none := new
    have oneMore := (storedOperations_store sorted free).length_eq
    rw [List.length_cons] at oneMore
    have same : (draft.store addition.request).duplicates = draft.duplicates := rfl
    rw [stored, oneMore, same, Nat.add_right_comm]
  · rw [turnedAway]
    exact (Nat.add_assoc _ _ _).symm

/-- The number of duplicates has no influence on what becomes of a route. -/
theorem addRoute_countMore (more : Nat) :
    ((draft.countMore more).addRoute addition.inventory addition.route).1 =
      (draft.addRoute addition.inventory addition.route).1.countMore more := by
  rcases addRoute_cases draft addition with ⟨new, stored⟩ | ⟨old, turnedAway⟩
  · have alsoNew : (draft.countMore more).operation? addition.place.1 addition.place.2 = none :=
      new
    rw [stored, addRoute_stored alsoNew]
    rfl
  · have alsoOld : ((draft.countMore more).operation? addition.place.1 addition.place.2).isSome :=
      old
    rw [turnedAway, addRoute_turnedAway alsoOld, countMore_countMore, countMore_countMore,
      Nat.add_comm]

end Step

section Run

variable {draft : Draft} {template : String} {method : Method}

theorem addAll_append (additions others : List Addition) :
    draft.addAll (additions ++ others) = (draft.addAll additions).addAll others :=
  List.foldl_append

/-- After some routes there is an operation where there was one before, the same one, and where one of
the routes belongs, that of the first such route. -/
theorem operation?_addAll (additions : List Addition) :
    ∃ id, (draft.addAll additions).operation? template method =
      (draft.operation? template method).or
        ((additions.find? fun addition => addition.place = (template, method)).map
          fun first => first.request.operation id) := by
  induction additions generalizing draft with
  | nil => exact ⟨"", (Option.or_none).symm⟩
  | cons addition rest ih =>
      rw [addAll, List.foldl_cons]
      obtain ⟨id, after⟩ := @ih (draft.addRoute addition.inventory addition.route).1
      rw [addRoute, operation?_addRequest] at after
      by_cases here : addition.place = (template, method)
      · obtain ⟨rfl, rfl⟩ := Prod.mk.inj here
        refine ⟨uniqueId draft.operationIds addition.request, after.trans ?_⟩
        rw [List.find?_cons_of_pos (by simpa using here), if_pos ⟨rfl, rfl⟩, Option.or_assoc,
          Option.some_or]
        rfl
      · refine ⟨id, after.trans ?_⟩
        rw [List.find?_cons_of_neg (by simpa using here), if_neg, Option.or_none]
        rintro ⟨rfl, rfl⟩
        exact here rfl

theorem operation?_addAll_isSome (additions : List Addition) :
    ((draft.addAll additions).operation? template method).isSome ↔
      (draft.operation? template method).isSome ∨
        ∃ addition ∈ additions, addition.place = (template, method) := by
  obtain ⟨id, after⟩ := @operation?_addAll draft template method additions
  rw [after, Option.isSome_or, Bool.or_eq_true, Option.isSome_map, List.find?_isSome]
  simp only [decide_eq_true_eq]

/-- Routes whose places are taken are counted and change nothing else. -/
theorem addAll_turnedAway {again : List Addition}
    (old : ∀ addition ∈ again, (draft.operation? addition.place.1 addition.place.2).isSome) :
    draft.addAll again = draft.countMore again.length := by
  induction again generalizing draft with
  | nil => rfl
  | cons addition rest ih =>
      have others : ∀ other ∈ rest,
          ((draft.countMore 1).operation? other.place.1 other.place.2).isSome :=
        fun other member => old other (List.mem_cons_of_mem _ member)
      rw [addAll, List.foldl_cons, addRoute_turnedAway (old addition List.mem_cons_self)]
      refine (ih others).trans ?_
      rw [countMore_countMore, List.length_cons, Nat.add_comm]

theorem addAll_countMore (more : Nat) (additions : List Addition) :
    (draft.countMore more).addAll additions = (draft.addAll additions).countMore more := by
  induction additions generalizing draft with
  | nil => rfl
  | cons addition rest ih =>
      rw [addAll, addAll, List.foldl_cons, List.foldl_cons, addRoute_countMore]
      exact ih

theorem addAll_counted (sorted : KeyMap.Sorted draft.paths) (additions : List Addition) :
    (draft.addAll additions).storedOperations.length + (draft.addAll additions).duplicates =
      draft.storedOperations.length + draft.duplicates + additions.length := by
  induction additions generalizing draft with
  | nil => rfl
  | cons addition rest ih =>
      rw [addAll, List.foldl_cons]
      refine (ih (addRoute_sorted sorted)).trans ?_
      rw [addRoute_counted sorted, List.length_cons, Nat.add_assoc, Nat.add_comm 1]

theorem document_operation? (inventory : Option Inventory) :
    (draft.document inventory).operation? template method = draft.operation? template method :=
  rfl

/-- The operations of a document are those of its draft. -/
theorem document_operationCount (inventory : Option Inventory) :
    (draft.document inventory).operationCount = draft.storedOperations.length := by
  rw [Document.operationCount, storedOperations, List.length_flatMap]
  change draft.paths.values.foldr _ 0 = _
  induction draft.paths.values with
  | nil => rfl
  | cons item rest ih => rw [List.foldr_cons, ih, List.map_cons, List.sum_cons]

/-- Adding routes once more whose places were taken does nothing but count them, now and for all that
is added later. -/
theorem addAll_again {again : List Addition} (before after : List Addition)
    (known : ∀ addition ∈ again, ∃ earlier ∈ before, earlier.place = addition.place) :
    draft.addAll (before ++ again ++ after) =
      (draft.addAll (before ++ after)).countMore again.length := by
  have old : ∀ addition ∈ again,
      ((draft.addAll before).operation? addition.place.1 addition.place.2).isSome := by
    intro addition member
    obtain ⟨earlier, there, same⟩ := known addition member
    exact (operation?_addAll_isSome before).2 (.inr ⟨earlier, there, same⟩)
  rw [addAll_append, addAll_append, addAll_append, addAll_turnedAway old, addAll_countMore]

end Run

section Started

variable {info : Info} {servers : List Server}

theorem started_operation? (template : String) (method : Method) :
    (started info servers).operation? template method = none := rfl

theorem started_addAll_isSome {template : String} {method : Method} (additions : List Addition) :
    (((started info servers).addAll additions).operation? template method).isSome ↔
      ∃ addition ∈ additions, addition.place = (template, method) := by
  rw [operation?_addAll_isSome, started_operation?]
  simp

/-- The operation at a place is that of the first route which belongs there. -/
theorem started_addAll_first {before after : List Addition} {first : Addition}
    (fresh : ∀ earlier ∈ before, earlier.place ≠ first.place) :
    ∃ id, ((started info servers).addAll (before ++ first :: after)).operation?
      first.place.1 first.place.2 = some (first.request.operation id) := by
  have found : ((before ++ first :: after).find? fun addition =>
      addition.place = (first.place.1, first.place.2)) = some first := by
    rw [List.find?_append, List.find?_eq_none.2 (by simpa using fresh), Option.none_or]
    exact List.find?_cons_of_pos (by simp)
  obtain ⟨id, there⟩ := @operation?_addAll (started info servers) first.place.1 first.place.2
    (before ++ first :: after)
  rw [started_operation?, Option.none_or, found, Option.map_some] at there
  exact ⟨id, there⟩

end Started

/-- Routes that are added in order to a new draft. The document has an operation where some route
belongs, and nowhere else; it is that of the first such route, with its description and parameters.
A route is new exactly if no earlier one has its template and method. Every route is an operation of
the document or a duplicate. One that is turned away leaves paths and identifiers as they are, and
routes that were added once can be added again at any later point: but for the number of duplicates
that makes no difference. -/
theorem addAll_keeps_first (info : Info) (servers : List Server) (additions : List Addition) :
    let draft := (started info servers).addAll additions
    (∀ inventory template method,
      ((draft.document inventory).operation? template method).isSome ↔
        ∃ addition ∈ additions, addition.place = (template, method)) ∧
    (∀ before first after, additions = before ++ first :: after →
      (∀ earlier ∈ before, earlier.place ≠ first.place) →
      ∃ operation, (∀ inventory, (draft.document inventory).operation?
          (Url.template first.route.path) first.route.method = some operation) ∧
        operation.description = first.route.description ∧
        operation.parameters = parametersFor (Url.template first.route.path) ∧
        operation = first.request.operation operation.operationId) ∧
    (∀ before next after, additions = before ++ next :: after →
      ((((started info servers).addAll before).addRoute next.inventory next.route).2 = true ↔
        ∀ earlier ∈ before, earlier.place ≠ next.place)) ∧
    (∀ inventory, (draft.document inventory).operationCount + draft.duplicates =
      additions.length) ∧
    (∀ inventory route, (draft.addRoute inventory route).2 = false →
      (draft.addRoute inventory route).1.paths = draft.paths ∧
        (draft.addRoute inventory route).1.operationIds = draft.operationIds) ∧
    ∀ before again after, additions = before ++ after →
      (∀ addition ∈ again, ∃ earlier ∈ before, earlier.place = addition.place) →
      (started info servers).addAll (before ++ again ++ after) =
        { draft with duplicates := draft.duplicates + again.length } := by
  intro draft
  refine ⟨fun inventory template method => ?_, ?_, ?_, fun inventory => ?_, ?_, ?_⟩
  · rw [document_operation?]
    exact started_addAll_isSome additions
  · rintro before first after split fresh
    obtain ⟨id, there⟩ := @started_addAll_first info servers before after first fresh
    rw [← split] at there
    refine ⟨_, fun _ => there, ?_, ?_, ?_⟩
    · rw [Request.operation_description, Addition.request_route]
    · rw [Request.operation_parameters, Addition.request_template]
    · rw [Request.operation_operationId]
  · intro before next after _
    rw [addRoute_new_iff, ← Option.not_isSome_iff_eq_none, started_addAll_isSome]
    simp
  · have sorted : KeyMap.Sorted (started info servers).paths := .nil
    rw [document_operationCount]
    exact (addAll_counted sorted additions).trans (Nat.zero_add _)
  · intro inventory route refused
    rcases addRoute_cases draft ⟨inventory, route⟩ with ⟨_, stored⟩ | ⟨_, turnedAway⟩
    · rw [stored] at refused
      cases refused
    · rw [turnedAway]
      exact ⟨rfl, rfl⟩
  · intro before again after split known
    rw [addAll_again before after known, ← split]
    rfl

end Draft

end RouteAtlas.OpenApi
