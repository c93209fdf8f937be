/-
Module: RouteAtlas.Proofs.Django.Blocks
Layer: Proofs
Purpose: The routes of a URL configuration in blocks. Every call that names a view adds one block: routes
  with one path and one handler, for different methods. A view that is imported is noted with the
  position at which its block begins, which is the position of a route for `GET`; so these positions
  increase, and they keep pointing there while more blocks are added.
Trusted boundary: none
Main exports: Stated, AllStated, declaredMethods?_stated, IsBlock, forMethods_isBlock, NamesView,
  Entry.Sound, Consumes.sound, Entry.Contributes, UrlConf.Aligned, UrlConf.Adds, UrlConf.run_adds,
  findings_adds
-/
import Mathlib.Data.List.Forall2
import Mathlib.Data.List.Nodup
import RouteAtlas.Proofs.Django.Cycles
import RouteAtlas.Proofs.Django.Definitions

namespace RouteAtlas

/-! ### Methods that are stated -/

/-- Some methods, each of them once. -/
structure Stated (methods : List Method) : Prop where
  nonempty : methods ≠ []
  nodup : methods.Nodup

/-- What is answered, if anything, are some methods, each of them once. -/
def AllStated (answer : Option (List Method)) : Prop := ∀ methods, answer = some methods → Stated methods

namespace AllStated

variable {α : Type} {first second : Option (List Method)}

theorem none : AllStated none := by
  intro methods answered
  cases answered

theorem some {methods : List Method} (stated : Stated methods) : AllStated (some methods) := by
  intro others answered
  cases answered
  exact stated

theorem or (this : AllStated first) (that : AllStated second) : AllStated (first.or second) := by
  cases first with
  | none => exact that
  | some methods => exact this

theorem bind {f : α → Option (List Method)} (answers : ∀ a, AllStated (f a)) (value : Option α) :
    AllStated (value.bind f) := by
  cases value with
  | none => exact AllStated.none
  | some a => exact answers a

theorem findSome {f : α → Option (List Method)} (answers : ∀ a, AllStated (f a)) (list : List α) :
    AllStated (list.findSome? f) := by
  intro methods found
  obtain ⟨a, _, answered⟩ := List.exists_of_findSome?_eq_some found
  exact answers a methods answered

end AllStated

/-- Methods that are added unless they are there stay different from each other. -/
theorem Method.foldl_addNew_nodup (methods : List Method) {known : List Method}
    (distinct : known.Nodup) :
    (methods.foldl (fun methods method =>
      if methods.contains method then methods else methods ++ [method]) known).Nodup := by
  induction methods generalizing known with
  | nil => exact distinct
  | cons method rest ih =>
      rw [List.foldl_cons]
      apply ih
      split
      · exact distinct
      · rename_i new
        have apart : method ∉ known := by simpa using new
        rw [← List.concat_eq_append]
        exact List.Nodup.concat apart distinct

theorem Method.parseAll_nodup (verbs : List String) : (Method.parseAll verbs).Nodup :=
  Method.foldl_addNew_nodup _ List.nodup_nil

namespace Django

open Python (Expr)

theorem apiViewMethods?_stated (decorator : Expr) : AllStated (apiViewMethods? decorator) := by
  rw [apiViewMethods?]
  cases decorator.asCall? with
  | none => exact .none
  | some call =>
      dsimp only
      split
      · apply AllStated.some
        split
        · exact ⟨by simp, by simp⟩
        · rename_i several
          exact ⟨by simpa using several, Method.parseAll_nodup _⟩
      · exact .none

theorem decoratorMethods?_stated (decorators : List Expr) :
    AllStated (decoratorMethods? decorators) :=
  .findSome apiViewMethods?_stated decorators

theorem declaredMethods?_stated (body : Python.Module) (function : String) :
    AllStated (declaredMethods? body function) := by
  apply AllStated.findSome
  intro decl
  split
  · exact decoratorMethods?_stated decl.decorators
  · exact .none

theorem someMethods?_stated (verbs : List String) : AllStated (someMethods? verbs) := by
  rw [someMethods?]
  split
  · exact .none
  · rename_i several
    exact .some ⟨by simpa using several, Method.parseAll_nodup verbs⟩

theorem asViewMethods?_stated (view : Expr) : AllStated (asViewMethods? view) := by
  rw [asViewMethods?]
  cases view.asCall? with
  | none => exact .none
  | some call =>
      dsimp only
      split
      · apply AllStated.or
        · exact .bind (fun names : Expr => someMethods?_stated names.texts) _
        · split
          · exact someMethods?_stated _
          · exact .none
      · exact .none

theorem statedMethods?_stated (route : Python.Call) (view : Option Expr) :
    AllStated (statedMethods? route view) := by
  apply AllStated.or
  · exact .bind asViewMethods?_stated view
  · exact .bind (fun methods : Expr => someMethods?_stated methods.texts) _

/-- The table of the function views of a file holds what some function states. -/
theorem methodTable_stated (body : Python.Module) (function : String) :
    AllStated (KeyMap.find? function (methodTable body)) := by
  intro methods found
  rw [methodTable, find?_ofDefinitions] at found
  obtain ⟨decl, _, states⟩ := List.mem_filterMap.1 (List.mem_of_getLast? found)
  exact decoratorMethods?_stated decl.decorators methods (Option.ite_none_right_eq_some.1 states).2

end Django

/-! ### Blocks of routes -/

/-- Some routes with one path and one handler, for different methods. -/
structure IsBlock (path : String) (handler : Option String) (routes : List Route) : Prop where
  nonempty : routes ≠ []
  path : ∀ route ∈ routes, route.path = path
  handler : ∀ route ∈ routes, route.handler = handler
  distinct : (routes.map Route.method).Nodup

/-- A route for each of some methods makes a block. -/
theorem Route.forMethods_isBlock (route : Route) (rawPath : String) {methods : List Method}
    (stated : Stated methods) : IsBlock route.path route.handler (route.forMethods rawPath methods) where
  nonempty := by
    rw [Route.forMethods]
    simpa using stated.nonempty
  path := by
    intro other member
    obtain ⟨method, _, rfl⟩ := List.mem_map.1 member
    rfl
  handler := by
    intro other member
    obtain ⟨method, _, rfl⟩ := List.mem_map.1 member
    rfl
  distinct := by
    rw [Route.forMethods_methods]
    exact stated.nodup

namespace Django

open Python (Expr)

/-! ### Calls that name views -/

/-- A call of a route function with a literal path, whose view is no call of `include`. -/
structure NamesView (raw : String) (call : Python.Call) : Prop where
  function : call.func.simpleName?.any ["path", "re_path", "url"].contains = true
  literal : call.args.head?.bind Expr.text? = some raw
  view : (((call.argOrKeyword? 1 "view").bind Expr.asCall?).filter fun inner =>
    inner.func.simpleName? = some "include") = none

/-- The handler that a call names. -/
def handlerOf? (call : Python.Call) : Option String :=
  (call.argOrKeyword? 1 "view").bind handlerName?

/-- A route entry is that of a call that names a view, and its path ends with the one of the call. -/
def Entry.Sound : Entry → Prop
  | .route path raw call => NamesView raw call ∧ ∃ front, path = front ++ raw
  | .urlsOf _ _ => True
  | .included _ => True

section Turns

variable {imports : Python.ImportTable} {lists : ListTable}

/-- What is included is no route entry of the file. -/
theorem includeEntries_sound (path : String) (target : Expr) :
    ∀ entry ∈ (includeEntries ⟨imports, lists, fun _ _ => .ok []⟩ path target).toOption.getD [],
      entry.Sound := by
  intro entry member
  cases target with
  | tuple items =>
      simp only [includeEntries] at member
      split at member
      · rw [List.mem_singleton.1 member]
        trivial
      · cases member
  | «attribute» value attr =>
      cases value with
      | name owner =>
          simp only [includeEntries, Except.toOption, Option.getD_some] at member
          split at member
          · rw [List.mem_singleton.1 member]
            trivial
          · cases member
      | _ => cases member
  | name id =>
      simp only [includeEntries] at member
      split at member
      · cases member
      · split at member
        · rw [List.mem_singleton.1 member]
          trivial
        · cases member
  | constant value =>
      simp only [includeEntries] at member
      split at member
      · rw [List.mem_singleton.1 member]
        trivial
      · cases member
  | _ => cases member

theorem ownEntries_sound (path : String) (call : Python.Call) :
    ∀ entry ∈ ownEntries imports lists path call, entry.Sound := by
  intro entry member
  simp only [ownEntries, callEntries] at member
  split at member
  · rename_i function
    cases literal : call.args.head?.bind Expr.text? with
    | none =>
        rw [literal] at member
        cases member
    | some raw =>
        rw [literal] at member
        dsimp only at member
        split at member
        · split at member
          · exact includeEntries_sound _ _ entry member
          · cases member
        · rename_i view
          rw [List.mem_singleton.1 member]
          exact ⟨⟨function, literal, view⟩, path, rfl⟩
  · cases member

/-- Every turn adds sound entries. -/
theorem turn_sound (path : String) (patterns : Expr) :
    ∀ entry ∈ (turn imports lists path patterns).1, entry.Sound := by
  intro entry member
  cases patterns with
  | binary op left right =>
      cases op with
      | _ => cases member
  | «attribute» value attr =>
      cases value with
      | name owner =>
          simp only [turn] at member
          split at member
          · rw [List.mem_singleton.1 member]
            trivial
          · cases member
      | _ => cases member
  | call func args keywords =>
      rw [turn] at member
      split at member
      · cases member
      · exact ownEntries_sound path ⟨func, args, keywords⟩ entry member
  | _ => cases member

/-- So do all turns until a stack is worked off. -/
theorem Consumes.sound {stack : List (String × Expr)} {entries : List Entry}
    (consumes : Consumes imports lists stack entries) : ∀ entry ∈ entries, entry.Sound := by
  induction consumes with
  | done => simp
  | @next path patterns rest entries _ ih =>
      intro entry member
      rcases List.mem_append.1 member with here | later
      · exact turn_sound path patterns entry here
      · exact ih entry later

/-- All consumptions of a file add sound entries. -/
theorem consumptions_sound {list : List Consumption} {taken : List (List Entry)}
    (consume : List.Forall₂ (fun consumption entries =>
      Consumes imports consumption.lists [("", consumption.patterns)] entries) list taken) :
    ∀ entry ∈ taken.flatten, entry.Sound := by
  induction consume with
  | nil => simp
  | cons consumes _ ih =>
      intro entry member
      rcases List.mem_append.1 (List.flatten_cons ▸ member) with here | later
      · exact consumes.sound entry here
      · exact ih entry later

/-- A call that names a view is an entry of its own. -/
theorem turn_namesView {raw : String} {call : Python.Call} (names : NamesView raw call)
    (path : String) :
    turn imports lists path (.call call.func call.args call.keywords) =
      ([.route (path ++ raw) raw call], []) := by
  have none : includedList? lists call = none := by
    simp [includedList?, names.literal, names.view]
  have own : ownEntries imports lists path call = [.route (path ++ raw) raw call] := by
    rw [ownEntries, callEntries, if_pos names.function, names.literal]
    dsimp only
    rw [names.view]
    rfl
  rw [turn, none, own]

end Turns

/-! ### What entries add -/

/-- What an entry contributes to the routes of the file: a block if it names a view, and else nothing. -/
def Entry.Contributes : Entry → List Route → Prop
  | .route path _ call, block => IsBlock path (handlerOf? call) block
  | .urlsOf _ _, block => block = []
  | .included _, block => block = []

/-- The positions of the views that are to be completed increase, and at each of them there is a route
for `GET` whose path ends with the one of the call that names the view. -/
structure UrlConf.Aligned (routes : List Route) (views : List ImportedView) : Prop where
  increasing : views.Pairwise fun view other => view.route < other.route
  placed : ∀ view ∈ views, ∃ route, routes[view.route]? = some route ∧ route.method = .get ∧
    ∃ front, route.path = front ++ view.rawPath

namespace UrlConf

variable {background : Background} {conf before middle after : UrlConf}
  {routes : List Route} {views : List ImportedView}

/-- A position keeps its route while more routes are added. -/
theorem Aligned.append (aligned : Aligned routes views) (block : List Route) :
    Aligned (routes ++ block) views where
  increasing := aligned.increasing
  placed := by
    intro view member
    obtain ⟨route, there, rest⟩ := aligned.placed view member
    refine ⟨route, ?_, rest⟩
    rw [List.getElem?_append_left (List.getElem?_eq_some_iff.1 there).1, there]

/-- A view that is noted with the position at which a route for `GET` is added is aligned with it. -/
theorem Aligned.push (aligned : Aligned routes views) {view : ImportedView} {route : Route}
    (position : view.route = routes.length) (get : route.method = .get)
    (ends : ∃ front, route.path = front ++ view.rawPath) :
    Aligned (routes ++ [route]) (views ++ [view]) := by
  have earlier := aligned.append [route]
  constructor
  · rw [List.pairwise_append]
    refine ⟨earlier.increasing, List.pairwise_singleton _ _, fun other member new last => ?_⟩
    obtain ⟨_, there, _⟩ := aligned.placed other member
    rw [List.mem_singleton.1 last, position]
    exact (List.getElem?_eq_some_iff.1 there).1
  · intro other member
    rcases List.mem_append.1 member with old | new
    · exact earlier.placed other old
    · rw [List.mem_singleton.1 new, position, List.getElem?_concat_length]
      exact ⟨route, rfl, get, ends⟩

/-- Some entries add their blocks, in order, and keep the positions aligned. -/
structure Adds (entries : List Entry) (before after : UrlConf) : Prop where
  blocks : ∃ blocks, List.Forall₂ Entry.Contributes entries blocks ∧
    after.routes = before.routes ++ blocks.flatten
  aligned : Aligned before.routes before.importedViews → Aligned after.routes after.importedViews

theorem Adds.nothing (routes : after.routes = before.routes)
    (views : after.importedViews = before.importedViews) : Adds [] before after where
  blocks := ⟨[], .nil, by simp [routes]⟩
  aligned := by
    intro aligned
    rwa [routes, views]

theorem Adds.trans {entries others : List Entry} (first : Adds entries before middle)
    (second : Adds others middle after) : Adds (entries ++ others) before after := by
  obtain ⟨blocks, contribute, routes⟩ := first.blocks
  obtain ⟨more, contributeMore, routesMore⟩ := second.blocks
  constructor
  · refine ⟨blocks ++ more, List.rel_append contribute contributeMore, ?_⟩
    rw [routesMore, routes, List.flatten_append, List.append_assoc]
  · intro aligned
    exact second.aligned (first.aligned aligned)

/-- An imported view is noted with the position and the path that it is asked for. -/
theorem importedView?_noted {imports : Python.ImportTable} {position : Nat} {raw : String}
    {view : Expr} {imported : ImportedView}
    (noted : importedView? imports position raw view = some imported) :
    imported.route = position ∧ imported.rawPath = raw := by
  cases view with
  | «attribute» value attr =>
      cases value with
      | name owner =>
          obtain ⟨_, _, rfl⟩ := Option.map_eq_some_iff.1 noted
          exact ⟨rfl, rfl⟩
      | _ => cases noted
  | name id =>
      obtain ⟨_, _, symbol⟩ := Option.bind_eq_some_iff.1 noted
      obtain ⟨_, _, rfl⟩ := Option.map_eq_some_iff.1 symbol
      exact ⟨rfl, rfl⟩
  | _ => cases noted

/-- The route that is added for a call, in the form for `GET`. -/
def routeOf (position : Nat) (path : String) (call : Python.Call) : Route where
  path := path
  method := .get
  operationId := ((handlerOf? call).or ((call.keyword? "name").bind Expr.text?)).getD
    ("op_" ++ toString position)
  description := ""
  handler := handlerOf? call

/-- The methods that this file states for a call. -/
def methodsOf? (background : Background) (call : Python.Call) : Option (List Method) :=
  ((handlerOf? call).bind fun name => KeyMap.find? name background.methods).or
    (statedMethods? call (call.argOrKeyword? 1 "view"))

theorem methodsOf?_stated (stated : ∀ name, AllStated (KeyMap.find? name background.methods))
    (call : Python.Call) : AllStated (methodsOf? background call) := by
  apply AllStated.or
  · exact .bind stated _
  · exact statedMethods?_stated call _

theorem addRoute_routes (path raw : String) (call : Python.Call) :
    (addRoute background conf path raw call).routes =
      conf.routes ++ (routeOf conf.routes.length path call).forMethods raw
        ((methodsOf? background call).getD [.get]) := rfl

/-- A view is noted only where this file states no methods. -/
theorem addRoute_importedViews (path raw : String) (call : Python.Call) :
    (addRoute background conf path raw call).importedViews = conf.importedViews ++
      (match methodsOf? background call with
        | some _ => none
        | none => (call.argOrKeyword? 1 "view").bind
            (importedView? background.imports conf.routes.length raw)).toList := rfl

/-- A route is added as a block. Where a view is noted, the block is a single route for `GET`. -/
theorem addRoute_adds (stated : ∀ name, AllStated (KeyMap.find? name background.methods))
    {path raw : String} (ends : ∃ front, path = front ++ raw) (call : Python.Call) :
    Adds [.route path raw call] conf (addRoute background conf path raw call) := by
  have known := methodsOf?_stated stated call
  constructor
  · rw [addRoute_routes]
    have some : Stated ((methodsOf? background call).getD [.get]) := by
      cases answered : methodsOf? background call with
      | none => exact ⟨by simp, by simp⟩
      | some methods => exact known methods answered
    let block := (routeOf conf.routes.length path call).forMethods raw
      ((methodsOf? background call).getD [.get])
    have isBlock : IsBlock path (handlerOf? call) block :=
      (routeOf conf.routes.length path call).forMethods_isBlock raw some
    exact ⟨[block], .cons isBlock .nil, by rw [List.flatten_singleton]⟩
  · intro aligned
    rw [addRoute_routes, addRoute_importedViews]
    cases methodsOf? background call with
    | some methods =>
        rw [Option.toList_none, List.append_nil]
        exact aligned.append _
    | none =>
        dsimp only
        cases noted : (call.argOrKeyword? 1 "view").bind
            (importedView? background.imports conf.routes.length raw) with
        | none =>
            rw [Option.toList_none, List.append_nil]
            exact aligned.append _
        | some view =>
            obtain ⟨_, _, imported⟩ := Option.bind_eq_some_iff.1 noted
            obtain ⟨position, rawPath⟩ := importedView?_noted imported
            exact aligned.push position rfl (rawPath ▸ ends)

/-- Every sound entry adds what it contributes. -/
theorem place_adds (stated : ∀ name, AllStated (KeyMap.find? name background.methods)) {entry : Entry}
    (sound : entry.Sound) : Adds [entry] conf (conf.place background entry) := by
  have idle : ∀ {after : UrlConf}, after.routes = conf.routes →
      after.importedViews = conf.importedViews → entry.Contributes [] →
      Adds [entry] conf after := by
    intro after routes views contributes
    have nothing := Adds.nothing routes views
    exact ⟨⟨[[]], .cons contributes .nil, by simp [routes]⟩, nothing.aligned⟩
  cases entry with
  | route path raw call => exact addRoute_adds stated sound.2 call
  | urlsOf owner path =>
      simp only [place, addUrlsOf]
      split
      · exact idle rfl rfl rfl
      · exact idle rfl rfl rfl
  | included reference => exact idle rfl rfl rfl

theorem foldl_place_adds (stated : ∀ name, AllStated (KeyMap.find? name background.methods))
    {entries : List Entry} (sound : ∀ entry ∈ entries, entry.Sound) :
    Adds entries conf (entries.foldl (place background) conf) := by
  induction entries generalizing conf with
  | nil => exact .nothing rfl rfl
  | cons entry rest ih =>
      obtain ⟨first, others⟩ := List.forall_mem_cons.1 sound
      rw [List.foldl_cons]
      exact (place_adds stated first).trans (ih others)

/-- Patterns add the entries that are consumed for them. -/
theorem addPatterns_adds (stated : ∀ name, AllStated (KeyMap.find? name background.methods))
    {patterns : Expr} (added : addPatterns background conf patterns = .ok after) :
    ∃ entries, Consumes background.imports conf.lists [("", patterns)] entries ∧
      Adds entries conf after ∧ after.lists = conf.lists := by
  rw [addPatterns] at added
  cases yields : entriesOf background.imports conf.lists patterns with
  | error cycle =>
      rw [yields] at added
      cases added
  | ok entries =>
      rw [yields] at added
      obtain rfl := Except.ok.inj added
      have consumes := entriesOf_eq_ok_iff.1 yields
      exact ⟨entries, consumes, foldl_place_adds stated consumes.sound, foldl_place_lists entries⟩

/-- What is consumed in some nodes, from top to bottom, is what is added until they are read. -/
theorem run_adds (stated : ∀ name, AllStated (KeyMap.find? name background.methods))
    {nodes : List Python.Node} (run : nodes.foldlM (read background) conf = .ok after) :
    ∃ taken, List.Forall₂ (fun consumption entries =>
        Consumes background.imports consumption.lists [("", consumption.patterns)] entries)
      (consumptions conf.lists nodes) taken ∧ Adds taken.flatten conf after := by
  induction nodes generalizing conf with
  | nil =>
      obtain rfl := Except.ok.inj run
      exact ⟨[], .nil, .nothing rfl rfl⟩
  | cons node rest ih =>
      rw [List.foldlM_cons] at run
      rw [consumptions]
      cases consumed : consumed? node with
      | none =>
          obtain ⟨next, reads, quiet⟩ := @read_other background conf node consumed
          rw [reads] at run
          obtain ⟨taken, consume, adds⟩ := ih run
          rw [quiet.lists] at consume
          exact ⟨taken, consume, (Adds.nothing quiet.routes quiet.importedViews).trans adds⟩
      | some patterns =>
          obtain ⟨reads, kept⟩ := @read_consumed background conf node patterns consumed
          rw [reads] at run
          cases added : addPatterns background conf patterns with
          | error cycle =>
              rw [added] at run
              cases run
          | ok next =>
              rw [added] at run
              obtain ⟨entries, consumes, first, lists⟩ := addPatterns_adds stated added
              obtain ⟨taken, consume, adds⟩ := ih run
              rw [lists] at consume
              rw [kept]
              exact ⟨entries :: taken, .cons consumes consume, first.trans adds⟩

end UrlConf

/-- What a URL configuration says about routes, from what is consumed in it. -/
theorem findings_adds {body : Python.Module} {found : Findings} (answered : findings body = .ok found) :
    ∃ taken, List.Forall₂ (fun consumption entries =>
        Consumes (Python.imports body) consumption.lists [("", consumption.patterns)] entries)
      (consumptions [] (Python.nodes body)) taken ∧
    (∀ entry ∈ taken.flatten, entry.Sound) ∧
    (∃ blocks, List.Forall₂ Entry.Contributes taken.flatten blocks ∧
      found.routes = blocks.flatten) ∧
    UrlConf.Aligned found.routes found.importedViews := by
  cases run : (Python.nodes body).foldlM
      (UrlConf.read ⟨Python.imports body, methodTable body⟩) {} with
  | error cycle =>
      rw [findings, run] at answered
      cases answered
  | ok conf =>
      rw [findings, run] at answered
      obtain rfl := Except.ok.inj answered
      obtain ⟨taken, consume, adds⟩ := UrlConf.run_adds (methodTable_stated body) run
      obtain ⟨blocks, contribute, routes⟩ := adds.blocks
      have aligned := adds.aligned ⟨.nil, by simp⟩
      exact ⟨taken, consume, consumptions_sound consume, ⟨blocks, contribute, routes⟩, aligned⟩

end Django

end RouteAtlas
