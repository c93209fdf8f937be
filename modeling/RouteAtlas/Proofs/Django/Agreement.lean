/-
Module: RouteAtlas.Proofs.Django.Agreement
Layer: Proofs
Purpose: The routes that are read of a URL configuration without branches are those that it builds. The
  local lists are kept as they are written and expanded where they are used; what comes out is the
  meaning of the configuration.
Trusted boundary: none
Main exports: Adds, Means, PatternList.means, Defined, Tracks, Tracks.run, Configuration.reads_meaning,
  routes_built
-/
import RouteAtlas.Proofs.Django.Building
import RouteAtlas.Proofs.Django.Cycles

namespace RouteAtlas.Django.StraightLine

open Python (Expr)

/-! ### References and calls -/

/-- A call that neither extends a list nor registers anything. -/
def Idle (call : Python.Call) : Prop :=
  ∀ receiver method, call.method? = some (receiver, method) →
    method ≠ "extend" ∧ method ≠ "append" ∧ method ≠ "register"

namespace Reference

variable (reference : Reference)

theorem calls_expr : reference.expr.calls = [] := by
  induction reference with
  | name id => rfl
  | member owner attr ih => exact ih

theorem simpleName?_expr : reference.expr.simpleName? = some reference.last := by
  cases reference with
  | name id => rfl
  | member owner attr => rfl

theorem asCall?_expr : reference.expr.asCall? = none := by
  cases reference with
  | name id => rfl
  | member owner attr => rfl

theorem handlerName?_expr : handlerName? reference.expr = some reference.last := by
  cases reference with
  | name id => rfl
  | member owner attr => rfl

/-- The method that is called is the last name of what is referred to. -/
theorem idle {args : List Expr} {keywords : List (Option String × Expr)}
    (other : reference.last ∉ ["extend", "append", "register"]) :
    Idle ⟨reference.expr, args, keywords⟩ := by
  intro receiver method named
  cases reference with
  | name id => cases named
  | member owner attr =>
      cases owner with
      | name id =>
          cases named
          simpa [last] using other
      | member owner inner => cases named

end Reference

theorem View.handlerName?_expr (view : View) : handlerName? view.expr = some view.handler := by
  cases view with
  | named reference => exact reference.handlerName?_expr
  | ofClass cls arguments => exact cls.simpleName?_expr

/-- A view includes nothing. -/
theorem View.no_include (view : View) :
    (view.expr.asCall?.filter fun inner => inner.func.simpleName? = some "include") = none := by
  cases view with
  | named reference => rw [View.expr, reference.asCall?_expr, Option.filter_none]
  | ofClass cls arguments => rfl

theorem Target.idle (target : Target) : ∀ call ∈ target.expr.calls, Idle call := by
  intro call member
  cases target with
  | view view =>
      cases view with
      | named reference =>
          rw [Target.expr, View.expr, reference.calls_expr] at member
          cases member
      | ofClass cls arguments =>
          rw [Target.expr, View.expr, Expr.calls, Reference.calls_expr, arguments.quietArgs,
            arguments.quietKeywords] at member
          rw [List.mem_singleton.1 member]
          have apart : "as_view" ∉ ["extend", "append", "register"] := by decide
          exact (Reference.member cls "as_view").idle apart
  | list inclusion =>
      rw [Target.expr, Inclusion.expr, Expr.calls, Reference.calls_expr, Python.callsOf,
        inclusion.arguments.quietArgs, inclusion.arguments.quietKeywords] at member
      rw [List.mem_singleton.1 member]
      refine inclusion.callee.idle ?_
      rw [inclusion.includes]
      decide

theorem RouteCall.idle (route : RouteCall) : ∀ call ∈ route.expr.calls, Idle call := by
  intro call member
  rw [RouteCall.expr, Expr.calls, Reference.calls_expr, List.nil_append, route.quiet] at member
  rcases List.mem_cons.1 member with rfl | inside
  · have apart : ∀ name ∈ ["path", "re_path", "url"], name ∉ ["extend", "append", "register"] := by
      decide
    exact route.callee.idle (apart _ route.routes)
  · exact route.target.idle call inside

theorem display_idle (routes : List RouteCall) :
    ∀ call ∈ Python.callsOf (routes.map RouteCall.expr), Idle call := by
  induction routes with
  | nil => exact fun call member => nomatch member
  | cons route rest ih =>
      intro call member
      rw [List.map_cons, Python.callsOf] at member
      rcases List.mem_append.1 member with here | later
      · exact route.idle call here
      · exact ih call later

/-- All calls in a list of patterns are idle. -/
theorem PatternList.idle (list : PatternList) : ∀ call ∈ list.expr.calls, Idle call := by
  induction list with
  | display routes => exact display_idle routes
  | sum left right first second =>
      intro call member
      rw [PatternList.expr, Expr.calls] at member
      rcases List.mem_append.1 member with here | there
      · exact first call here
      · exact second call there
  | name id => exact fun call member => nomatch member

/-! ### Entries -/

/-- Path, method and handler of a route. -/
def row (route : Route) : String × Method × Option String :=
  (route.path, route.method, route.handler)

/-- Placing some entries adds the routes of some blocks. -/
def Adds (background : Background) (entries : List Entry) (blocks : List Block) : Prop :=
  ∀ conf : UrlConf, (entries.foldl (UrlConf.place background) conf).routes.map row =
    conf.routes.map row ++ blocks.flatMap Block.rows

/-- Patterns are expanded to entries of some blocks, under every path. -/
def Means (background : Background) (lists : ListTable) (patterns : Expr)
    (blocks : String → List Block) : Prop :=
  ∀ path rest more, Consumes background.imports lists rest more →
    ∃ entries, Consumes background.imports lists ((path, patterns) :: rest) (entries ++ more) ∧
      Adds background entries (blocks path)

section Expansion

variable {background : Background} {lists : ListTable}

theorem Adds.nil : Adds background [] [] := fun _ => (List.append_nil _).symm

theorem Adds.append {entries others : List Entry} {blocks more : List Block}
    (first : Adds background entries blocks) (second : Adds background others more) :
    Adds background (entries ++ others) (blocks ++ more) := by
  intro conf
  rw [List.foldl_append, second, first, List.flatMap_append, List.append_assoc]

/-- A route to a view adds its block. -/
theorem Adds.view (plain : background.methods = []) {route : RouteCall} {target : View}
    (leads : route.target = .view target) (path : String) :
    Adds background [.route path route.path route.call] [⟨path, route.methods, target.handler⟩] := by
  intro conf
  have viewed : route.call.argOrKeyword? 1 "view" = some target.expr := by
    rw [RouteCall.call, route.leads, leads]
    rfl
  simp [UrlConf.place, UrlConf.addRoute, viewed, plain, target.handlerName?_expr, KeyMap.find?,
    Route.forMethods, row, Block.rows, RouteCall.methods, leads, Target.expr, Function.comp_def]

/-- A route call with a positional path is expanded to its target. -/
theorem RouteCall.means (plain : background.methods = []) {meaning : Meaning} (route : RouteCall)
    (positional : route.Positional)
    (included : ∀ name, route.included? = some name →
      KeyMap.contains name lists = true ∧ Means background lists (.name name) (meaning name)) :
    Means background lists route.expr fun start => route.blocks meaning start := by
  intro path rest more others
  have routes : route.callee.expr.simpleName?.any ["path", "re_path", "url"].contains = true := by
    rw [route.callee.simpleName?_expr]
    simpa using route.routes
  have raw : route.args.head?.bind Expr.text? = some route.path := by
    rw [positional]
    rfl
  cases leads : route.target with
  | view target =>
      have viewed : (((Python.Call.mk route.callee.expr route.args route.keywords).argOrKeyword? 1
          "view").bind Expr.asCall?).filter (fun inner =>
            inner.func.simpleName? = some "include") = none := by
        rw [route.leads, leads]
        exact target.no_include
      have turns : turn background.imports lists path route.expr =
          ([.route (path ++ route.path) route.path route.call], []) := by
        simp only [RouteCall.expr, turn, includedList?, ownEntries, callEntries, routes, raw, viewed,
          if_true, Option.bind_some, Option.bind_none]
        rfl
      have blocks : route.blocks meaning path =
          [⟨path ++ route.path, route.methods, target.handler⟩] := by rw [RouteCall.blocks, leads]
      refine ⟨_, .of_turn turns others, ?_⟩
      change Adds background _ (route.blocks meaning path)
      rw [blocks]
      exact Adds.view plain leads (path ++ route.path)
  | list inclusion =>
      have names : route.included? = some inclusion.list := by rw [RouteCall.included?, leads]
      obtain ⟨known, expands⟩ := included inclusion.list names
      have included : includedList? lists route.call = some (route.path, inclusion.list) := by
        have viewed : (route.call.argOrKeyword? 1 "view").bind Expr.asCall? =
            some ⟨inclusion.callee.expr, .name inclusion.list :: inclusion.arguments.args,
              inclusion.arguments.keywords⟩ := by
          rw [RouteCall.call, route.leads, leads]
          rfl
        have includes : inclusion.callee.expr.simpleName? = some "include" := by
          rw [inclusion.callee.simpleName?_expr, inclusion.includes]
        rw [includedList?, viewed, Option.filter_some, if_pos (decide_eq_true includes)]
        simp [RouteCall.call, routes, raw, localTarget?, known]
      have turns : turn background.imports lists path route.expr =
          ([], [(path ++ route.path, .name inclusion.list)]) := by
        rw [RouteCall.call] at included
        rw [RouteCall.expr, turn, included]
      have blocks : route.blocks meaning path = meaning inclusion.list (path ++ route.path) := by
        rw [RouteCall.blocks, leads]
      obtain ⟨entries, consumes, adds⟩ := expands (path ++ route.path) rest more others
      refine ⟨entries, .of_parts turns consumes, ?_⟩
      change Adds background entries (route.blocks meaning path)
      rw [blocks]
      exact adds

theorem display_means (plain : background.methods = []) {meaning : Meaning} (routes : List RouteCall)
    (positional : ∀ route ∈ routes, route.Positional)
    (included : ∀ name ∈ (PatternList.display routes).included,
      KeyMap.contains name lists = true ∧ Means background lists (.name name) (meaning name))
    {path : String} {rest : List (String × Expr)} {more : List Entry}
    (others : Consumes background.imports lists rest more) :
    ∃ entries, Consumes background.imports lists
        ((routes.map RouteCall.expr).map (fun item => (path, item)) ++ rest) (entries ++ more) ∧
      Adds background entries (routes.flatMap (RouteCall.blocks meaning path)) := by
  induction routes with
  | nil => exact ⟨[], others, .nil⟩
  | cons route routes ih =>
      obtain ⟨entries, consumes, adds⟩ := ih
        (fun other member => positional other (List.mem_cons_of_mem _ member))
        (fun name member => included name (PatternList.included_tail member))
      obtain ⟨first, consumesFirst, addsFirst⟩ :=
        route.means plain (positional route List.mem_cons_self)
          (fun name leads => included name (PatternList.included_head leads))
          path _ _ consumes
      refine ⟨first ++ entries, ?_, addsFirst.append adds⟩
      rw [List.append_assoc]
      exact consumesFirst

/-- The path of every route in the list is positional. -/
def PatternList.Positional (list : PatternList) : Prop := ∀ route ∈ list.routes, route.Positional

/-- A list is expanded to its blocks, if all that it names or includes is. -/
theorem PatternList.means (plain : background.methods = []) {meaning : Meaning} (list : PatternList)
    (positional : list.Positional)
    (uses : ∀ name, name ∈ list.named ∨ name ∈ list.included →
      KeyMap.contains name lists = true ∧ Means background lists (.name name) (meaning name)) :
    Means background lists list.expr fun start => list.blocks meaning start := by
  induction list with
  | display routes =>
      intro path rest more others
      obtain ⟨entries, consumes, adds⟩ :=
        display_means plain routes positional (fun name member => uses name (.inr member)) others
      exact ⟨entries, .of_parts rfl consumes, adds⟩
  | sum left right first second =>
      intro path rest more others
      have both := PatternList.included_sum left right
      have meansLeft := first (fun route member => positional route (List.mem_append_left _ member))
        fun name used => uses name (used.imp (List.mem_append_left _)
          fun member => both ▸ List.mem_append_left _ member)
      have meansRight := second
        (fun route member => positional route (List.mem_append_right _ member))
        fun name used => uses name (used.imp (List.mem_append_right _)
          fun member => both ▸ List.mem_append_right _ member)
      obtain ⟨back, consumesBack, addsBack⟩ := meansRight path rest more others
      obtain ⟨front, consumesFront, addsFront⟩ := meansLeft path _ _ consumesBack
      refine ⟨front ++ back, ?_, addsFront.append addsBack⟩
      rw [List.append_assoc]
      exact .of_parts rfl consumesFront
  | name id => exact (uses id (.inl (List.mem_singleton.2 rfl))).2

end Expansion

/-! ### Local lists -/

/-- The local lists among some names are noted as they are written, in the order of their assignment,
and stand for the blocks of what is written. -/
inductive Defined (lists : ListTable) (meaning : Meaning) : List String → Prop where
  | nil : Defined lists meaning []
  | patterns {bound : List String} (before : Defined lists meaning bound) :
      Defined lists meaning (patternsName :: bound)
  | list {bound : List String} {name : String} {list : PatternList}
      (before : Defined lists meaning bound) (isLocal : name ≠ patternsName)
      (positional : list.Positional) (noted : KeyMap.find? name lists = some list.expr)
      (known : list.Known bound) (meant : ∀ start, meaning name start = list.blocks meaning start) :
      Defined lists meaning (name :: bound)

namespace Defined

variable {lists next : ListTable} {meaning other : Meaning} {bound : List String}

/-- Local lists stay as they are where their names do. -/
theorem congr (defined : Defined lists meaning bound)
    (noted : ∀ name ∈ bound, name ≠ patternsName → KeyMap.find? name next = KeyMap.find? name lists)
    (meant : ∀ name ∈ bound, name ≠ patternsName → other name = meaning name) :
    Defined next other bound := by
  induction defined with
  | nil => exact .nil
  | patterns _ ih =>
      exact .patterns (ih (fun name member => noted name (List.mem_cons_of_mem _ member))
        fun name member => meant name (List.mem_cons_of_mem _ member))
  | @list bound name list _ isLocal positional was known means ih =>
      have before := ih (fun name member => noted name (List.mem_cons_of_mem _ member))
        fun name member => meant name (List.mem_cons_of_mem _ member)
      have agrees {used : String} (member : used ∈ bound ∧ used ≠ patternsName) :
          meaning used = other used := (meant used (List.mem_cons_of_mem _ member.1) member.2).symm
      refine .list before isLocal positional ?_ known fun start => ?_
      · rw [noted name List.mem_cons_self isLocal, was]
      · rw [meant name List.mem_cons_self isLocal, means start]
        exact list.blocks_congr start (fun used member => agrees (known.named used member))
          fun used member => agrees (known.included used member)

/-- Local lists are expanded to what they stand for. -/
theorem means {background : Background} (plain : background.methods = [])
    (defined : Defined lists meaning bound) {name : String} (member : name ∈ bound)
    (isLocal : name ≠ patternsName) :
    KeyMap.contains name lists = true ∧ Means background lists (.name name) (meaning name) := by
  induction defined generalizing name with
  | nil => cases member
  | patterns _ ih => exact ih ((List.mem_cons.1 member).resolve_left isLocal) isLocal
  | @list bound first list _ _ positional noted known meant ih =>
      rcases List.mem_cons.1 member with rfl | before
      · have means : Means background lists list.expr fun start => list.blocks meaning start := by
          refine list.means plain positional fun used uses => ?_
          rcases uses with named | included
          · exact ih (known.named used named).1 (known.named used named).2
          · exact ih (known.included used included).1 (known.included used included).2
        refine ⟨by rw [KeyMap.contains, noted]; rfl, fun path rest more others => ?_⟩
        obtain ⟨entries, consumes, adds⟩ := means path rest more others
        have turns : turn background.imports lists path (.name name) = ([], [(path, list.expr)]) := by
          simp [turn, noted]
        exact ⟨entries, .of_parts turns consumes, meant path ▸ adds⟩
      · exact ih before isLocal

end Defined

/-! ### Reading -/

section Reading

variable {background : Background} {read : UrlConf} {meaning : Meaning} {bound : List String}

/-- Patterns that are expanded to some blocks add their routes. -/
theorem addPatterns_means {patterns : Expr} {blocks : String → List Block}
    (means : Means background read.lists patterns blocks) :
    ∃ after, read.addPatterns background patterns = .ok after ∧ after.lists = read.lists ∧
      after.routes.map row = read.routes.map row ++ (blocks "").flatMap Block.rows := by
  obtain ⟨entries, consumes, adds⟩ := means "" [] [] .done
  rw [List.append_nil] at consumes
  refine ⟨entries.foldl (UrlConf.place background) read, ?_, UrlConf.foldl_place_lists entries,
    adds read⟩
  rw [UrlConf.addPatterns, entriesOf_eq_ok_iff.2 consumes]
  rfl

/-- Idle calls are read without an effect. -/
theorem foldlM_idle {calls : List Python.Call} (idle : ∀ call ∈ calls, Idle call) :
    (calls.map Python.Node.call).foldlM (UrlConf.read background) read = .ok read := by
  induction calls with
  | nil => rfl
  | cons call rest ih =>
      have passed : UrlConf.read background read (.call call) = .ok read := by
        rw [UrlConf.read, UrlConf.readCall]
        cases named : call.method? with
        | none => rfl
        | some pair =>
            obtain ⟨receiver, method⟩ := pair
            obtain ⟨extend, append, register⟩ := idle call List.mem_cons_self receiver method named
            simp [extend, append, register]
      rw [List.map_cons, List.foldlM_cons, passed]
      exact ih fun other member => idle other (List.mem_cons_of_mem _ member)

/-- A call that extends the patterns by what is expanded. -/
theorem read_growing {method : String} (grows : method = "extend" ∨ method = "append")
    {patterns : Expr} {after : UrlConf} (adds : read.addPatterns background patterns = .ok after)
    (idle : ∀ call ∈ patterns.calls, Idle call) :
    (Python.Stmt.expression (.call (.attribute (.name patternsName) method) [patterns] [])).nodes.foldlM
      (UrlConf.read background) read = .ok after := by
  have calls : (Expr.call (.attribute (.name patternsName) method) [patterns] []).callNodes =
      .call ⟨.attribute (.name patternsName) method, [patterns], []⟩ ::
        patterns.calls.map .call := by
    simp [Expr.callNodes, Expr.calls, Python.callsOf, Python.callsOfKeywords]
  have reads : UrlConf.read background read
      (.call ⟨.attribute (.name patternsName) method, [patterns], []⟩) = .ok after := by
    rcases grows with rfl | rfl
    · exact adds
    · exact adds
  rw [Python.Stmt.nodes, calls, List.foldlM_cons, reads]
  exact foldlM_idle idle

/-- What has been read is what the statements so far mean. -/
structure Tracks (meaning : Meaning) (bound : List String) (read : UrlConf) : Prop where
  defined : Defined read.lists meaning bound
  routes : read.routes.map row = (meaning patternsName "").flatMap Block.rows
  empty : patternsName ∉ bound → ∀ start, meaning patternsName start = []

namespace Tracks

variable {statement : Statement} {list : PatternList}

theorem start : Tracks (fun _ _ => []) [] {} := ⟨.nil, rfl, fun _ _ => rfl⟩

/-- The lists that a list uses are expanded to what they stand for. -/
theorem uses (tracks : Tracks meaning bound read) (plain : background.methods = [])
    (known : list.Known bound) :
    ∀ name, name ∈ list.named ∨ name ∈ list.included → KeyMap.contains name read.lists = true ∧
      Means background read.lists (.name name) (meaning name) := by
  rintro name (named | included)
  · exact tracks.defined.means plain (known.named name named).1 (known.named name named).2
  · exact tracks.defined.means plain (known.included name included).1
      (known.included name included).2

/-- A local list is noted. -/
theorem noted (tracks : Tracks meaning bound read) {name : String} (fresh : name ∉ bound)
    (isLocal : name ≠ patternsName) (plain : list.bare? = none) (known : list.Known bound)
    (positional : list.Positional) :
    Tracks (Function.update meaning name fun start => list.blocks meaning start) (name :: bound)
      (read.noteLocal name list.expr) := by
  have differs {other : String} (member : other ∈ bound) : other ≠ name := fun same =>
    fresh (same ▸ member)
  have notes : read.noteLocal name list.expr =
      { read with lists := KeyMap.insert name list.expr read.lists } := by
    cases list with
    | display routes => rfl
    | sum left right => rfl
    | name id => cases plain
  have before : Defined (KeyMap.insert name list.expr read.lists)
      (Function.update meaning name fun start => list.blocks meaning start) bound :=
    tracks.defined.congr
      (fun other member _ => by rw [KeyMap.find?_insert, if_neg (differs member)])
      (fun other member _ => Function.update_of_ne (differs member) _ _)
  rw [notes]
  refine ⟨?_, ?_, ?_⟩
  · refine before.list isLocal positional ?_ known fun start => ?_
    · rw [KeyMap.find?_insert, if_pos rfl]
    · rw [Function.update_self]
      exact list.blocks_congr start
        (fun used member => (Function.update_of_ne (differs (known.named used member).1) _ _).symm)
        fun used member => (Function.update_of_ne (differs (known.included used member).1) _ _).symm
  · rw [Function.update_of_ne isLocal.symm]
    exact tracks.routes
  · intro unstarted start
    rw [Function.update_of_ne isLocal.symm]
    exact tracks.empty (fun member => unstarted (List.mem_cons_of_mem _ member)) start

/-- The patterns of the file are extended, or assigned if there are none yet. -/
theorem extended (tracks : Tracks meaning bound read) {patterns : Expr}
    {blocks : String → List Block} (means : Means background read.lists patterns blocks)
    {before : List String} (names : Defined read.lists meaning bound → Defined read.lists meaning before)
    (started : patternsName ∈ before) :
    ∃ after, read.addPatterns background patterns = .ok after ∧
      Tracks (Function.update meaning patternsName fun start =>
        meaning patternsName start ++ blocks start) before after := by
  obtain ⟨after, adds, lists, routes⟩ := addPatterns_means means
  refine ⟨after, adds, ?_, ?_, fun unstarted => (unstarted started).elim⟩
  · rw [lists]
    exact (names tracks.defined).congr (fun _ _ _ => rfl)
      fun name _ isLocal => Function.update_of_ne isLocal _ _
  · rw [routes, tracks.routes, Function.update_self, List.flatMap_append]

/-- One statement. -/
theorem step (tracks : Tracks meaning bound read) (plain : background.methods = [])
    (allowed : statement.Allowed bound) (positional : statement.list.Positional) :
    ∃ after, statement.stmt.nodes.foldlM (UrlConf.read background) read = .ok after ∧
      Tracks (statement.meaning meaning) (statement.assigned?.toList ++ bound) after := by
  have means := statement.list.means plain positional (tracks.uses plain allowed.known)
  cases statement with
  | assign name list =>
      obtain ⟨fresh, named⟩ := allowed.fresh name rfl
      rw [Statement.stmt, Python.Stmt.nodes, List.foldlM_cons]
      by_cases patterns : name = patternsName
      · subst patterns
        obtain ⟨after, adds, extended⟩ := tracks.extended means .patterns List.mem_cons_self
        have reads : UrlConf.read background read (.assign [.name patternsName] list.expr) =
            .ok after := adds
        refine ⟨after, ?_, ?_⟩
        · rw [reads]
          exact foldlM_idle list.idle
        · simp only [tracks.empty fresh, List.nil_append] at extended
          exact extended
      · have reads : UrlConf.read background read (.assign [.name name] list.expr) =
            .ok (read.noteLocal name list.expr) := if_neg patterns
        refine ⟨read.noteLocal name list.expr, ?_, ?_⟩
        · rw [reads]
          exact foldlM_idle list.idle
        · exact tracks.noted fresh patterns (named patterns) allowed.known positional
  | add list =>
      obtain ⟨after, adds, extended⟩ := tracks.extended means id (allowed.started rfl)
      have reads : UrlConf.read background read (.augmented (.name patternsName) list.expr) =
          .ok after := adds
      refine ⟨after, ?_, extended⟩
      rw [Statement.stmt, Python.Stmt.nodes, List.foldlM_cons, reads]
      exact foldlM_idle list.idle
  | extend list =>
      obtain ⟨after, adds, extended⟩ := tracks.extended means id (allowed.started rfl)
      exact ⟨after, read_growing (.inl rfl) adds list.idle, extended⟩
  | append route =>
      have single : Means background read.lists route.expr fun start =>
          (PatternList.display [route]).blocks meaning start := by
        have blocks : (fun start => (PatternList.display [route]).blocks meaning start) =
            fun start => route.blocks meaning start := by
          funext start
          rw [PatternList.blocks, List.flatMap_singleton]
        rw [blocks]
        exact route.means plain (positional route List.mem_cons_self) fun name leads =>
          tracks.uses plain allowed.known name
            (.inr (PatternList.included_head leads))
      obtain ⟨after, adds, extended⟩ := tracks.extended single id (allowed.started rfl)
      exact ⟨after, read_growing (.inr rfl) adds route.idle, extended⟩

/-- All statements are read. -/
theorem run {statements : List Statement} (tracks : Tracks meaning bound read)
    (plain : background.methods = []) (inScope : Scoped bound statements)
    (positional : ∀ statement ∈ statements, statement.list.Positional) :
    ∃ after, (Python.nodes (statements.map Statement.stmt)).foldlM (UrlConf.read background) read =
        .ok after ∧
      after.routes.map row =
        (statements.foldl Statement.meaning meaning patternsName "").flatMap Block.rows := by
  induction statements generalizing meaning bound read with
  | nil => exact ⟨read, rfl, tracks.routes⟩
  | cons statement rest ih =>
      obtain ⟨next, reads, tracked⟩ := tracks.step plain inScope.1
        (positional statement List.mem_cons_self)
      obtain ⟨after, readsRest, routes⟩ := ih tracked inScope.2
        fun other member => positional other (List.mem_cons_of_mem _ member)
      refine ⟨after, ?_, routes⟩
      rw [List.map_cons, Python.nodes_cons, List.foldlM_append, reads]
      exact readsRest

end Tracks

end Reading

/-! ### Whole configurations -/

theorem nodes_imports {header : Python.Module} (imports : ∀ stmt ∈ header, IsImport stmt) :
    Python.nodes header = [] := by
  induction header with
  | nil => rfl
  | cons stmt rest ih =>
      have here := imports stmt List.mem_cons_self
      rw [Python.nodes_cons, ih fun other member => imports other (List.mem_cons_of_mem _ member)]
      cases stmt with
      | imports names => rfl
      | importsFrom module level names => rfl
      | _ => exact here.elim

theorem Configuration.nodes_body (conf : Configuration) :
    Python.nodes conf.body = Python.nodes (conf.statements.map Statement.stmt) := by
  rw [Configuration.body, Python.nodes_append, nodes_imports conf.imports, List.nil_append]

theorem Statement.no_function (statement : Statement) (decl : Python.FunctionDecl) :
    .function decl ∉ statement.stmt.nodes := by
  cases statement with
  | assign name list => simp [Statement.stmt, Python.Stmt.nodes, Expr.callNodes]
  | add list => simp [Statement.stmt, Python.Stmt.nodes, Expr.callNodes]
  | extend list => simp [Statement.stmt, Python.Stmt.nodes, Expr.callNodes]
  | append route => simp [Statement.stmt, Python.Stmt.nodes, Expr.callNodes]

/-- No function states methods for the views of a configuration. -/
theorem Configuration.methodTable_body (conf : Configuration) : methodTable conf.body = [] := by
  have none : ∀ decl, .function decl ∉ Python.nodes conf.body := by
    intro decl
    rw [conf.nodes_body]
    induction conf.statements with
    | nil => exact List.not_mem_nil
    | cons statement rest ih =>
        rw [List.map_cons, Python.nodes_cons, List.mem_append]
        rintro (here | later)
        · exact statement.no_function decl here
        · exact ih later
  have functions : Python.functionNodes conf.body = [] := by
    rw [Python.functionNodes, List.filterMap_eq_nil_iff]
    intro node member
    cases node with
    | function decl => exact absurd member (none decl)
    | _ => rfl
  rw [methodTable, functions]
  rfl

/-- The routes that are read are those of the blocks that the patterns stand for. -/
theorem Configuration.reads_meaning (conf : Configuration)
    (positional : ∀ statement ∈ conf.statements, statement.list.Positional) :
    ∃ found, findings conf.body = .ok found ∧
      found.routes.map row = (conf.meaning patternsName "").flatMap Block.rows := by
  have plain : (Background.mk (Python.imports conf.body) (methodTable conf.body)).methods = [] :=
    conf.methodTable_body
  obtain ⟨after, reads, routes⟩ := Tracks.start.run plain conf.inScope positional
  cases answered : findings conf.body with
  | error cycle =>
      rw [findings, conf.nodes_body, reads] at answered
      cases answered
  | ok found =>
      rw [findings, conf.nodes_body, reads] at answered
      obtain rfl := Except.ok.inj answered
      exact ⟨_, rfl, routes⟩

/-- A URL configuration without branches has the routes, with their paths, methods and handlers and in
their order, of the list of patterns that it builds: one block for each pattern, with every list that is
included by its name expanded in place under the path of its route. It is built of assignments of
local lists, one assignment of `urlpatterns`, and extensions of `urlpatterns`. The paths of routes are
positional; and a local list that is also the list `urlpatterns`, by a plain assignment of its name,
is included by no route and not named after an extension of `urlpatterns`, if there is one. -/
theorem routes_built (conf : Configuration)
    (positional : ∀ statement ∈ conf.statements, ∀ route ∈ statement.list.routes, route.Positional)
    (unshared : Unshared conf.statements) :
    ∃ blocks found, conf.Builds blocks ∧ (∀ others, conf.Builds others → others = blocks) ∧
      findings conf.body = .ok found ∧ found.routes.map row = blocks.flatMap Block.rows := by
  have built := conf.builds_meaning unshared
  obtain ⟨found, answers, routes⟩ := conf.reads_meaning positional
  exact ⟨conf.meaning patternsName "", found, built, fun others builds => builds.deterministic built,
    answers, routes⟩

/-- The call of `path` with a literal path and the name of a view. -/
def pathTo (path view : String) : RouteCall where
  callee := .name "path"
  args := [.constant (.text path), .name view]
  keywords := []
  path := path
  target := .view (.named (.name view))
  routes := List.mem_cons_self
  literal := rfl
  leads := rfl
  quiet := rfl

/-- The call of `path` with a literal path that includes a local list. -/
def pathInto (path list : String) : RouteCall where
  callee := .name "path"
  args := [.constant (.text path), .call (.name "include") [.name list] []]
  keywords := []
  path := path
  target := .list ⟨.name "include", list, ⟨[], [], rfl, rfl⟩, rfl⟩
  routes := List.mem_cons_self
  literal := rfl
  leads := rfl
  quiet := rfl

/-- A local list that becomes the list of patterns, and is extended by another one, included twice. -/
def nestedPatterns : Configuration where
  header := [.importsFrom (some "views") 1 [⟨"tasks", none⟩, ⟨"notes", none⟩]]
  statements := [
    .assign "inner" (.display [pathTo "notes/" "notes"]),
    .assign "outer" (.sum (.display [pathTo "tasks/" "tasks"]) (.name "inner")),
    .assign patternsName (.name "outer"),
    .add (.display [pathInto "v1/" "inner", pathInto "v2/" "inner"])]
  imports := by
    intro stmt member
    rw [List.mem_singleton.1 member]
    trivial
  inScope := by decide

theorem nestedPatterns_built :
    (∀ statement ∈ nestedPatterns.statements, ∀ route ∈ statement.list.routes, route.Positional) ∧
      Unshared nestedPatterns.statements ∧
      ∃ blocks found, nestedPatterns.Builds blocks ∧
        (∀ others, nestedPatterns.Builds others → others = blocks) ∧
        findings nestedPatterns.body = .ok found ∧
        found.routes.map row = blocks.flatMap Block.rows := by
  have positional : ∀ statement ∈ nestedPatterns.statements,
      ∀ route ∈ statement.list.routes, route.Positional := by
    simp [nestedPatterns, Statement.list, PatternList.routes, RouteCall.Positional, pathTo, pathInto]
  have unshared : Unshared nestedPatterns.statements := by
    intro name becomes before addition after written growing
    have outer : name = "outer" := by simpa [nestedPatterns, patternsName] using becomes
    subst outer
    refine ⟨by decide, ?_⟩
    -- Only the last statement extends the patterns, so that nothing comes after it.
    have last : after = [] := by
      rcases before with _ | ⟨first, _ | ⟨second, _ | ⟨third, _ | ⟨fourth, before⟩⟩⟩⟩
      · cases written
        cases growing
      · cases written
        cases growing
      · cases written
        cases growing
      · cases written
        rfl
      · have long := congrArg List.length written
        simp [nestedPatterns] at long
    rw [last]
    exact fun _ member => nomatch member
  exact ⟨positional, unshared, routes_built nestedPatterns positional unshared⟩

/-- A local list becomes the list of patterns, which is extended by a route and then by itself. -/
def sharedPatterns : Configuration where
  header := []
  statements := [
    .assign "xs" (.display [pathTo "a/" "first"]),
    .assign patternsName (.name "xs"),
    .add (.display [pathTo "b/" "second"]),
    .add (.name "xs")]
  imports := fun _ member => nomatch member
  inScope := by decide

/-- A list with one route, whose path and view are keyword arguments. -/
def keywordPatterns : Configuration where
  header := []
  statements := [.assign patternsName (.display [{
    callee := .name "path"
    args := []
    keywords := [(some "route", .constant (.text "a/")), (some "view", .name "first")]
    path := "a/"
    target := .view (.named (.name "first"))
    routes := List.mem_cons_self
    literal := rfl
    leads := rfl
    quiet := rfl }])]
  imports := fun _ member => nomatch member
  inScope := by decide

/-- Where a list is named after it was extended as the list of patterns, it is built with what was added
and read without; and a route whose path is a keyword argument is built but not read. -/
theorem patterns_differ :
    (∃ blocks found, sharedPatterns.Builds blocks ∧ findings sharedPatterns.body = .ok found ∧
      blocks.flatMap Block.rows = [("a/", .get, some "first"), ("b/", .get, some "second"),
        ("a/", .get, some "first"), ("b/", .get, some "second")] ∧
      found.routes.map row = [("a/", .get, some "first"), ("b/", .get, some "second"),
        ("a/", .get, some "first")]) ∧
    ∃ blocks found, keywordPatterns.Builds blocks ∧ findings keywordPatterns.body = .ok found ∧
      blocks.flatMap Block.rows = [("a/", .get, some "first")] ∧ found.routes.map row = [] := by
  constructor
  · refine ⟨[⟨"a/", [.get], "first"⟩, ⟨"b/", [.get], "second"⟩, ⟨"a/", [.get], "first"⟩,
      ⟨"b/", [.get], "second"⟩], _, ⟨_, 0, rfl, rfl, ?unrolls⟩, rfl, ?built, ?extracted⟩
    case unrolls => exact .view (.view (.view (.view .nil)))
    case built => decide
    case extracted => decide
  · refine ⟨[⟨"a/", [.get], "first"⟩], _, ⟨_, 0, rfl, rfl, ?unrolls⟩, rfl, ?built, ?extracted⟩
    case unrolls => exact .view .nil
    case built => decide
    case extracted => decide

end RouteAtlas.Django.StraightLine
