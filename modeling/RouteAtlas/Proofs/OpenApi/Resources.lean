/-
Module: RouteAtlas.Proofs.OpenApi.Resources
Layer: Proofs
Purpose: The routes of a registered resource. After the path of the collection a route has a part of its
  own: nothing or the placeholder of an item, and the word of an extra action. That part stays as it is in
  the template, so no two of the routes have one template and method, and all of them get into a document.
Trusted boundary: none
Main exports: IsWord, Slot, Slot.tail, slots, resourceRoutes_slots, mem_extraActions_ofClass?, slots_nodup,
  tail_injective, template_tail, started_addRoutes_new, resourceRoutes_distinct
-/
import RouteAtlas.Django.Resource
import RouteAtlas.Proofs.Django.Actions
import RouteAtlas.Proofs.Django.Blocks
import RouteAtlas.Proofs.OpenApi.Endpoints
import RouteAtlas.Proofs.Url.Joining

namespace RouteAtlas

theorem methodsOf_nodup (call : Python.Call) : (methodsOf call).Nodup := by
  rw [methodsOf]
  split
  · exact List.nodup_singleton _
  · exact Method.parseAll_nodup _

namespace Django

/-! ### View sets -/

/-- The standard actions of a view set, or of one that was not found. -/
def actionsOf (viewSet : Option ViewSet) : List Action :=
  viewSet.elim ViewSet.fallbackActions ViewSet.actions

/-- The extra actions of a view set. One that was not found has none. -/
def extrasOf (viewSet : Option ViewSet) : List ExtraAction := viewSet.elim [] ViewSet.extraActions

theorem actionsOf_nodup (viewSet : Option ViewSet) : (actionsOf viewSet).Nodup := by
  cases viewSet with
  | none => decide
  | some found => exact found.actions_nodup

/-- What a statement adds to the extra actions is made by decorators. -/
theorem mem_extraActions_learn {viewSet : ViewSet} {stmt : Python.Stmt} {extra : ExtraAction}
    (member : extra ∈ (viewSet.learn stmt).extraActions) :
    extra ∈ viewSet.extraActions ∨
      ∃ name decorator, ExtraAction.ofDecorator? name decorator = some extra := by
  cases stmt with
  | assign targets value =>
      rw [ViewSet.learn] at member
      split at member
      · exact .inl member
      · exact .inl member
      · exact .inl member
  | function name decorators body =>
      rcases List.mem_append.1 member with earlier | new
      · exact .inl earlier
      · obtain ⟨decorator, _, made⟩ := List.mem_filterMap.1 new
        exact .inr ⟨name, decorator, made⟩
  | _ => exact .inl member

/-- All extra actions of a view set are made by decorators. -/
theorem mem_extraActions_ofClass? {decl : Python.ClassDecl} {viewSet : ViewSet}
    (defines : ViewSet.ofClass? decl = some viewSet) {extra : ExtraAction}
    (member : extra ∈ viewSet.extraActions) :
    ∃ name decorator, ExtraAction.ofDecorator? name decorator = some extra := by
  have learned : ∀ (stmts : List Python.Stmt) (before : ViewSet),
      extra ∈ (stmts.foldl ViewSet.learn before).extraActions → extra ∈ before.extraActions ∨
        ∃ name decorator, ExtraAction.ofDecorator? name decorator = some extra := by
    intro stmts
    induction stmts with
    | nil => exact fun _ there => .inl there
    | cons stmt rest ih =>
        intro before there
        rcases ih _ there with earlier | made
        · exact mem_extraActions_learn earlier
        · exact .inr made
  obtain ⟨_, same⟩ := Option.ite_none_right_eq_some.1 defines
  rw [← Option.some.inj same] at member
  rcases learned _ _ member with nothing | made
  · cases nothing
  · exact made

/-- No extra action has a method twice. -/
theorem ExtraAction.methods_nodup {name : String} {decorator : Python.Expr} {extra : ExtraAction}
    (made : ofDecorator? name decorator = some extra) : extra.methods.Nodup := by
  rw [ofDecorator?] at made
  split at made
  · cases made
  · obtain ⟨_, same⟩ := Option.ite_none_right_eq_some.1 made
    rw [← Option.some.inj same]
    exact methodsOf_nodup _

/-! ### Slots -/

/-- A word of a path, of letters, digits, underscores and hyphens. -/
structure IsWord (word : String) : Prop where
  nonempty : word ≠ ""
  chars : ∀ c ∈ word.toList, c.isAlphanum = true ∨ c = '_' ∨ c = '-'

/-- A request on a resource: whether it is about one item, the word of an extra action, which the standard
ones do not have, and the method. -/
structure Slot where
  onItem : Bool
  word : Option String
  method : Method
deriving DecidableEq

/-- What stands after the path of the collection. -/
def Slot.tail (slot : Slot) : String :=
  (if slot.onItem then "\x7bid\x7d/" else "") ++ slot.word.elim "" (· ++ "/")

def Action.slot (action : Action) : Slot := ⟨action.onItem, none, action.method⟩

def ExtraAction.slots (extra : ExtraAction) : List Slot :=
  extra.methods.map fun method => ⟨extra.onItem, some extra.urlPath, method⟩

/-- All requests on a resource. -/
def slots (viewSet : Option ViewSet) : List Slot :=
  (actionsOf viewSet).map Action.slot ++ (extrasOf viewSet).flatMap ExtraAction.slots

theorem base_eq (resource : Resource) (onItem : Bool) :
    resource.base onItem = resource.collection ++ (if onItem then "\x7bid\x7d/" else "") := by
  cases onItem with
  | true => rfl
  | false => exact (String.append_empty).symm

theorem actionRoute_path (path : String) (mounted : Mounted) (action : Action) :
    ((Resource.ofMounted path mounted).actionRoute action).path =
      collectionPath path mounted ++ action.slot.tail := by
  have noWord : action.slot.tail = if action.onItem then "\x7bid\x7d/" else "" :=
    String.append_empty
  rw [noWord]
  exact base_eq (Resource.ofMounted path mounted) action.onItem

theorem extraRoutes_slots (path : String) (mounted : Mounted) (extra : ExtraAction) :
    ((Resource.ofMounted path mounted).extraRoutes extra).map (fun route => (route.path, route.method)) =
      extra.slots.map fun slot => (collectionPath path mounted ++ slot.tail, slot.method) := by
  rw [Resource.extraRoutes, ExtraAction.slots, List.map_map, List.map_map]
  apply List.map_congr_left
  intro method _
  simp only [Function.comp_apply, Resource.route, Slot.tail, base_eq, Option.elim_some,
    String.append_assoc]
  rfl

/-- There is one route for every request, in the same order, with the tail after the path of the
collection. -/
theorem resourceRoutes_slots (path : String) (mounted : Mounted) (viewSet : Option ViewSet) :
    (resourceRoutes path mounted viewSet).map (fun route => (route.path, route.method)) =
      (slots viewSet).map fun slot => (collectionPath path mounted ++ slot.tail, slot.method) := by
  rw [resourceRoutes, slots, List.map_append, List.map_append, List.map_map, List.map_map,
    List.map_flatMap, List.map_flatMap]
  congr 1
  · exact List.map_congr_left fun action _ =>
      congrArg (·, action.method) (actionRoute_path path mounted action)
  · exact List.flatMap_congr fun extra _ => extraRoutes_slots path mounted extra

/-- A standard action is known by its method and by whether it is about an item. -/
theorem slot_injective : Function.Injective Action.slot := by
  intro first second same
  cases first <;> cases second <;> first | rfl | cases same

/-- No request occurs twice if no two extra actions have one in common. -/
theorem slots_nodup {viewSet : Option ViewSet}
    (defined : ∀ found ∈ viewSet, ∃ decl, ViewSet.ofClass? decl = some found)
    (apart : (extrasOf viewSet).Pairwise fun first second =>
      first.onItem = second.onItem → first.urlPath = second.urlPath →
        ∀ method ∈ first.methods, method ∉ second.methods) :
    (slots viewSet).Nodup := by
  refine List.Nodup.append ((actionsOf_nodup viewSet).map slot_injective) ?_ ?_
  · refine List.nodup_flatMap.2 ⟨fun extra member => ?_, apart.imp fun {first second} differ => ?_⟩
    · have made : ∃ name decorator, ExtraAction.ofDecorator? name decorator = some extra := by
        cases viewSet with
        | none => cases member
        | some found =>
            obtain ⟨decl, defines⟩ := defined found rfl
            exact mem_extraActions_ofClass? defines member
      obtain ⟨name, decorator, made⟩ := made
      refine (ExtraAction.methods_nodup made).map fun first second same => ?_
      injection same
    · intro slot there again
      obtain ⟨method, listed, rfl⟩ := List.mem_map.1 there
      obtain ⟨other, alsoListed, same⟩ := List.mem_map.1 again
      injection same with items words methods
      exact differ items.symm (Option.some.inj words).symm method listed (methods ▸ alsoListed)
  · intro slot standard extra
    obtain ⟨action, _, rfl⟩ := List.mem_map.1 standard
    obtain ⟨other, _, member⟩ := List.mem_flatMap.1 extra
    obtain ⟨method, _, same⟩ := List.mem_map.1 member
    injection same with _ words
    cases words

/-! ### Templates -/

open Url (Avoids Apart Whole)

theorem IsWord.avoids {word : String} (isWord : IsWord word) :
    Avoids ['<', '(', '\\', '^', '$', '{', '/'] word.toList := by
  intro c member special
  rcases isWord.chars c member with alphanumeric | rfl | rfl
  · have others : ['<', '(', '\\', '^', '$', '{', '/'].all (fun c => !c.isAlphanum) = true := by decide
    have other := List.all_eq_true.1 others c special
    rw [alphanumeric] at other
    cases other
  · exact absurd special (by decide)
  · exact absurd special (by decide)

/-- No slashes are in a row where a text without slashes is put in front of one slash. -/
theorem apart_segment {segment rest : List Char} (slashless : '/' ∉ segment)
    (apart : rest.IsChain Apart) (begins : rest.head? ≠ some '/') :
    (segment ++ '/' :: rest).IsChain Apart := by
  have behind : ('/' :: rest).IsChain Apart :=
    List.isChain_cons.2 ⟨fun next first both => begins (both.2 ▸ first), apart⟩
  induction segment with
  | nil => exact behind
  | cons c segment ih =>
      refine List.isChain_cons.2 ⟨fun _ _ both => slashless (both.1 ▸ List.mem_cons_self), ?_⟩
      exact ih fun member => slashless (List.mem_cons_of_mem c member)

/-- What can be put after a path without any change: nothing in it has a meaning of its own, and no slash
comes after another one. -/
structure Plain (tail : List Char) : Prop where
  avoids : Avoids ['<', '(', '\\', '^', '$'] tail
  apart : tail.IsChain Apart
  begins : tail.head? ≠ some '/'

/-- A segment with a slash after it can be put in front. -/
theorem Plain.segment {segment rest : List Char} (plain : Plain rest) (nonempty : segment ≠ [])
    (avoids : Avoids ['<', '(', '\\', '^', '$', '/'] segment) : Plain (segment ++ '/' :: rest) where
  avoids := by
    have slash : Avoids ['<', '(', '\\', '^', '$'] ['/'] := by decide
    exact (avoids.fewer (by simp)).append (slash.append plain.avoids)
  apart := apart_segment (avoids.absent (by simp)) plain.apart plain.begins
  begins := by
    obtain ⟨c, front, rfl⟩ := List.exists_cons_of_ne_nil nonempty
    have other : '/' ∉ c :: front := avoids.absent (by simp)
    intro slash
    exact other (Option.some.inj slash ▸ List.mem_cons_self)

section Tails

variable {slot other : Slot}

/-- A tail is one segment, two or none. -/
theorem tail_plain (words : ∀ word ∈ slot.word, IsWord word) : Plain slot.tail.toList := by
  have word : Plain (slot.word.elim "" (· ++ "/")).toList := by
    cases stated : slot.word with
    | none => exact ⟨by decide, .nil, by decide⟩
    | some word =>
        have isWord := words word stated
        rw [Option.elim_some, String.toList_append]
        have something : word.toList ≠ [] := fun empty =>
          isWord.nonempty (String.toList_inj.1 (empty.trans String.toList_empty.symm))
        exact Plain.segment ⟨by decide, .nil, by decide⟩ something (isWord.avoids.fewer (by simp))
  rw [Slot.tail, String.toList_append]
  cases slot.onItem with
  | false => exact word
  | true =>
      have avoids : Avoids ['<', '(', '\\', '^', '$', '/'] "\x7bid\x7d".toList := by decide
      exact word.segment (by decide) avoids

/-- The tail stays as it is in the template. -/
theorem template_tail {collection : String} (whole : Whole collection.toList)
    (words : ∀ word ∈ slot.word, IsWord word) :
    Url.template (collection ++ slot.tail) = Url.template collection ++ slot.tail := by
  have plain := tail_plain words
  apply String.toList_inj.1
  rw [Url.template, String.toList_ofList, String.toList_append, String.toList_append, Url.template,
    String.toList_ofList]
  exact Url.template_append whole.closed plain.avoids plain.apart plain.begins

/-- The path of a collection is whole, whatever slashes are at the end of the registered path. -/
theorem whole_collectionPath {path : String} {mounted : Mounted} (wholePath : Whole path.toList)
    (wholeMount : Whole mounted.mount.toList) (wholeOwn : Whole mounted.registration.path.toList) :
    Whole (collectionPath path mounted).toList := by
  have slash : Whole ['/'] := .of_literal (by decide)
  rw [collectionPath, String.toList_append, String.toList_append, String.toList_append,
    String.toList_ofList]
  exact ((wholePath.append wholeMount).append wholeOwn.trimEnd).append slash

/-- A tail tells whether the request is about an item: only then there is a brace in it. -/
theorem brace_mem_tail (words : ∀ word ∈ slot.word, IsWord word) :
    '{' ∈ slot.tail.toList ↔ slot.onItem = true := by
  have braceless : '{' ∉ (slot.word.elim "" (· ++ "/")).toList := by
    cases stated : slot.word with
    | none => decide
    | some word =>
        have absent : '{' ∉ word.toList := (words word stated).avoids.absent (by simp)
        simpa using absent
  rw [Slot.tail, String.toList_append, List.mem_append, or_iff_left braceless]
  cases slot.onItem with
  | false => decide
  | true => decide

theorem wordTail_injective : Function.Injective fun word : Option String => word.elim "" (· ++ "/") := by
  intro first second same
  have chars := congrArg String.toList same
  cases first with
  | none =>
      cases second with
      | none => rfl
      | some word => simp at chars
  | some word =>
      cases second with
      | none => simp at chars
      | some other => simpa [String.toList_inj] using chars

/-- A tail is that of one kind of request only. -/
theorem tail_injective (words : ∀ word ∈ slot.word, IsWord word)
    (otherWords : ∀ word ∈ other.word, IsWord word) (same : slot.tail = other.tail) :
    slot.onItem = other.onItem ∧ slot.word = other.word := by
  have items : slot.onItem = other.onItem := by
    rw [Bool.eq_iff_iff, ← brace_mem_tail words, ← brace_mem_tail otherWords, same]
  rw [Slot.tail, Slot.tail, items] at same
  exact ⟨items, wordTail_injective (String.append_right_inj _ |>.1 same)⟩

end Tails

/-- The words of all requests are those of extra actions. -/
theorem slots_words {viewSet : Option ViewSet}
    (words : ∀ extra ∈ extrasOf viewSet, IsWord extra.urlPath) {slot : Slot}
    (member : slot ∈ slots viewSet) : ∀ word ∈ slot.word, IsWord word := by
  intro word stated
  rcases List.mem_append.1 member with standard | extra
  · obtain ⟨action, _, rfl⟩ := List.mem_map.1 standard
    cases stated
  · obtain ⟨action, listed, there⟩ := List.mem_flatMap.1 extra
    obtain ⟨method, _, rfl⟩ := List.mem_map.1 there
    obtain rfl := Option.some.inj stated
    exact words action listed

/-- Requests with one tail after some text, and with one method, are the same. -/
theorem place_injective {slot other : Slot} (words : ∀ word ∈ slot.word, IsWord word)
    (otherWords : ∀ word ∈ other.word, IsWord word) {start : String}
    (same : (start ++ slot.tail, slot.method) = (start ++ other.tail, other.method)) :
    slot = other := by
  obtain ⟨paths, methods⟩ := Prod.mk.inj same
  obtain ⟨items, wordsSame⟩ := tail_injective words otherWords (String.append_right_inj _ |>.1 paths)
  cases slot
  cases other
  cases items
  cases wordsSame
  cases methods
  rfl

/-- The path for a standard action: `list` and `create` are about the collection, the others about one
item. -/
def standardPath (collection : String) (action : Action) : String :=
  if action = .list ∨ action = .create then collection else collection ++ "\x7bid\x7d/"

theorem standardPath_eq (collection : String) (action : Action) :
    standardPath collection action = collection ++ action.slot.tail := by
  cases action with
  | list | create => exact String.append_empty.symm
  | retrieve | update | partialUpdate | destroy => rfl

/-- The request of a standard action occurs if the view set has the action. -/
theorem slot_mem_slots_iff {viewSet : Option ViewSet} {action : Action} :
    action.slot ∈ slots viewSet ↔ action ∈ actionsOf viewSet := by
  have notExtra : action.slot ∉ (extrasOf viewSet).flatMap ExtraAction.slots := by
    intro member
    obtain ⟨extra, _, there⟩ := List.mem_flatMap.1 member
    obtain ⟨method, _, same⟩ := List.mem_map.1 there
    injection same with _ words
    cases words
  rw [slots, List.mem_append, or_iff_left notExtra, List.mem_map_of_injective slot_injective]

end Django

namespace OpenApi

open Project (Inventory)
open Django (Mounted ViewSet actionsOf extrasOf IsWord resourceRoutes collectionPath standardPath)

/-- Routes with different templates or methods are all new to a new draft, and none is turned away. -/
theorem started_addRoutes_new (info : Info) (servers : List Server) (inventory : Option Inventory)
    {routes : List Route}
    (distinct : (routes.map fun route => (Url.template route.path, route.method)).Nodup) :
    (∀ before route after, routes = before ++ route :: after →
      (((Draft.started info servers).addRoutes inventory before).addRoute inventory route).2 = true) ∧
    ((Draft.started info servers).addRoutes inventory routes).duplicates = 0 := by
  constructor
  · rintro before route after rfl
    have added : (Draft.started info servers).addRoutes inventory before =
        (Draft.started info servers).addAll (before.map fun route => ⟨inventory, route⟩) := by
      rw [Draft.addAll, List.foldl_map]
      rfl
    have new := @Draft.addRoute_new_iff
      ((Draft.started info servers).addRoutes inventory before) ⟨inventory, route⟩
    rw [new, ← Option.not_isSome_iff_eq_none, added, Draft.started_addAll_isSome]
    rintro ⟨addition, member, same⟩
    obtain ⟨earlier, there, rfl⟩ := List.mem_map.1 member
    rw [List.map_append, List.map_cons, List.nodup_middle, List.nodup_cons] at distinct
    exact distinct.1 (List.mem_append_left _ (List.mem_map.2 ⟨earlier, there, same⟩))
  · have requests : ((routes.map (Draft.requestOf inventory)).map Request.place).Nodup := by
      rw [List.map_map]
      exact distinct
    have adds := @Draft.foldl_addRequest_adds _ (Draft.started info servers) requests fun _ _ => rfl
    rw [List.foldl_map] at adds
    exact adds.duplicates

/-- The routes of a registered resource have different templates or methods, if the paths that it is under
are made of literal texts and whole placeholders, and no two extra actions answer one request. So all of
them get into a new document. Each standard action of the view set is there once, with a path of its own
kind, and no other route has such a path and method. -/
theorem resourceRoutes_distinct {path : String} {mounted : Mounted} {viewSet : Option ViewSet}
    (wholePath : Url.Whole path.toList) (wholeMount : Url.Whole mounted.mount.toList)
    (wholeOwn : Url.Whole mounted.registration.path.toList)
    (defined : ∀ found ∈ viewSet, ∃ decl, ViewSet.ofClass? decl = some found)
    (words : ∀ extra ∈ extrasOf viewSet, IsWord extra.urlPath)
    (apart : (extrasOf viewSet).Pairwise fun first second =>
      first.onItem = second.onItem → first.urlPath = second.urlPath →
        ∀ method ∈ first.methods, method ∉ second.methods) :
    ((resourceRoutes path mounted viewSet).map fun route =>
      (Url.template route.path, route.method)).Nodup ∧
    (∀ info servers inventory,
      (∀ before route after, resourceRoutes path mounted viewSet = before ++ route :: after →
        (((Draft.started info servers).addRoutes inventory before).addRoute inventory route).2 =
          true) ∧
      ((Draft.started info servers).addRoutes inventory
        (resourceRoutes path mounted viewSet)).duplicates = 0) ∧
    (∀ action, ((resourceRoutes path mounted viewSet).map fun route =>
        (route.path, route.method)).count
          (standardPath (collectionPath path mounted) action, action.method) =
      if action ∈ actionsOf viewSet then 1 else 0) ∧
    ∀ action ∈ actionsOf viewSet, ∃ route ∈ resourceRoutes path mounted viewSet,
      route.path = standardPath (collectionPath path mounted) action ∧
        route.method = action.method ∧
        route.operationId = mounted.registration.resource ++ "_" ++ action.name := by
  have whole := Django.whole_collectionPath wholePath wholeMount wholeOwn
  have distinct := Django.slots_nodup defined apart
  have places := Django.resourceRoutes_slots path mounted viewSet
  have slotWords := fun slot (member : slot ∈ Django.slots viewSet) => Django.slots_words words member
  -- The templates are those of the collection with the same tails, so a request is known by its template
  -- and method as it is by its path and method.
  have templates : ((resourceRoutes path mounted viewSet).map fun route =>
      (Url.template route.path, route.method)) =
        (Django.slots viewSet).map fun slot =>
          (Url.template (collectionPath path mounted) ++ slot.tail, slot.method) := by
    have translated := congrArg (List.map (Prod.map Url.template id)) places
    rw [List.map_map, List.map_map] at translated
    refine translated.trans (List.map_congr_left fun slot member => ?_)
    exact congrArg (·, slot.method) (Django.template_tail whole (slotWords slot member))
  have known : ∀ start : String, ((Django.slots viewSet).map fun slot =>
      (start ++ slot.tail, slot.method)).Nodup := fun start =>
    distinct.map_on fun slot member other there same =>
      Django.place_injective (slotWords slot member) (slotWords other there) same
  have differ := templates ▸ known (Url.template (collectionPath path mounted))
  refine ⟨differ, fun info servers inventory => started_addRoutes_new info servers inventory differ,
    fun action => ?_, fun action member => ?_⟩
  · rw [places, (known _).count, Django.standardPath_eq]
    refine if_congr ?_ rfl rfl
    rw [← Django.slot_mem_slots_iff, List.mem_map]
    constructor
    · rintro ⟨slot, there, same⟩
      have wordless : ∀ word ∈ action.slot.word, IsWord word := fun _ stated => nomatch stated
      exact Django.place_injective (slotWords slot there) wordless same ▸ there
    · exact fun there => ⟨action.slot, there, rfl⟩
  · refine ⟨(Django.Resource.ofMounted path mounted).actionRoute action, ?_, ?_, rfl, rfl⟩
    · exact List.mem_append_left _ (List.mem_map_of_mem member)
    · rw [Django.standardPath_eq, Django.actionRoute_path]

/-- A class with two extra actions of one word, one for an item and one for the collection. -/
def ticketClass : Python.ClassDecl where
  name := "TicketViewSet"
  bases := [.attribute (.name "viewsets") "ModelViewSet"]
  body := [
    .function "close" [.call (.name "action") [] [(some "detail", .constant (.bool true)),
      (some "methods", .list [.constant (.text "post"), .constant (.text "delete")])]] [],
    .function "close_all" [.call (.name "action") [] [(some "url_path", .constant (.text "close"))]] []]

/-- The view set of the class. -/
def ticketSet : ViewSet where
  name := "TicketViewSet"
  bases := ["ModelViewSet"]
  extraActions := [⟨"close", true, [.post, .delete], "close"⟩, ⟨"close_all", false, [.get], "close"⟩]

/-- Where the view set is registered. -/
def ticketMounted : Mounted := ⟨"v1//", ⟨"tickets//", "TicketViewSet", none⟩⟩

theorem ticketRoutes_distinct :
    let path := Url.nativePath (Url.taggedPieces Url.codeConverter)
    let routes := resourceRoutes path ticketMounted (some ticketSet)
    ViewSet.ofClass? ticketClass = some ticketSet ∧ routes.length = 9 ∧
      (routes.map fun route => (Url.template route.path, route.method)).Nodup ∧
      ((Draft.started ⟨"API", "1.0.0", none⟩ []).addRoutes none routes).duplicates = 0 := by
  intro path routes
  have defines : ViewSet.ofClass? ticketClass = some ticketSet := by decide +kernel
  have words : ∀ extra ∈ extrasOf (some ticketSet), IsWord extra.urlPath := by
    have letters : "close".toList.all Char.isAlphanum = true := by decide
    have isWord : IsWord "close" :=
      ⟨by decide, fun c member => .inl (List.all_eq_true.1 letters c member)⟩
    simpa [extrasOf, ticketSet] using isWord
  have apart : (extrasOf (some ticketSet)).Pairwise fun first second =>
      first.onItem = second.onItem → first.urlPath = second.urlPath →
        ∀ method ∈ first.methods, method ∉ second.methods := by
    decide
  obtain ⟨distinct, new, _, _⟩ := @resourceRoutes_distinct path ticketMounted (some ticketSet)
    (Url.whole_nativePath _) (.of_literal (by decide)) (.of_literal (by decide))
    (fun found same => ⟨ticketClass, same ▸ defines⟩) words apart
  exact ⟨defines, by decide +kernel, distinct, (new _ _ _).2⟩

end OpenApi

end RouteAtlas
