/-
Module: RouteAtlas.Proofs.Django.Cycles
Layer: Proofs
Purpose: When the patterns of a file can be worked off. The expansion of pattern lists with its bound
  has a result exactly where consumption without any bound has one, and then the same; and that is
  so exactly if no local list is reached that leads to itself.
Trusted boundary: none
Main exports: consumes_of_entriesWith, expandList_sound, circular_of_entriesOf, entriesOf_eq_ok_iff,
  consumes_iff, Consumption, consumptions, UrlConf.read_ends_iff, findings_iff
-/
import RouteAtlas.Django.UrlConf
import RouteAtlas.Proofs.Django.Consumption

namespace RouteAtlas.Django

open Python (Expr)

/-! ### What the expansion yields -/

section Append

variable {first second : Expansion}

theorem append_eq_ok {entries : List Entry}
    (both : (do let front ← first; let back ← second; return front ++ back) = .ok entries) :
    ∃ front back, first = .ok front ∧ second = .ok back ∧ entries = front ++ back := by
  cases first with
  | error cycle => cases both
  | ok front =>
      cases second with
      | error cycle => cases both
      | ok back => exact ⟨front, back, rfl, rfl, (Except.ok.inj both).symm⟩

theorem append_eq_error {cycle : CyclicPatterns}
    (either : (do let front ← first; let back ← second; return front ++ back) = .error cycle) :
    first = .error cycle ∨ second = .error cycle := by
  cases first with
  | error other => exact .inl either
  | ok front =>
      cases second with
      | error other => exact .inr either
      | ok back => cases either

end Append

/-- Names of local lists are expanded to what is consumed for them. -/
def Surroundings.Sound (names : Surroundings) : Prop :=
  ∀ {id path : String} {entries more : List Entry} {rest : List (String × Expr)},
    names.expand id path = .ok entries → Consumes names.imports names.lists rest more →
      Consumes names.imports names.lists ((path, .name id) :: rest) (entries ++ more)

mutual

/-- The entries of patterns are what is consumed for them, whatever is left to consume. -/
theorem consumes_of_entriesWith {names : Surroundings} (sound : names.Sound) (path : String)
    (patterns : Expr) {entries more : List Entry} {rest : List (String × Expr)}
    (yields : entriesWith names path patterns = .ok entries)
    (others : Consumes names.imports names.lists rest more) :
    Consumes names.imports names.lists ((path, patterns) :: rest) (entries ++ more) := by
  cases patterns with
  | list items =>
      rw [entriesWith] at yields
      exact .next (consumes_of_entriesOfItems sound path items yields others)
  | tuple items =>
      rw [entriesWith] at yields
      exact .next (consumes_of_entriesOfItems sound path items yields others)
  | binary op left right =>
      cases op with
      | add =>
          rw [entriesWith] at yields
          obtain ⟨front, back, yieldsFront, yieldsBack, rfl⟩ := append_eq_ok yields
          have last := consumes_of_entriesWith sound path right yieldsBack others
          have all := consumes_of_entriesWith sound path left yieldsFront last
          rw [List.append_assoc]
          exact .next all
      | _ =>
          obtain rfl := Except.ok.inj yields
          exact .next others
  | «attribute» value attr =>
      cases value with
      | name owner =>
          obtain rfl := Except.ok.inj yields
          exact .next others
      | _ =>
          obtain rfl := Except.ok.inj yields
          exact .next others
  | name id =>
      rw [entriesWith] at yields
      cases known : KeyMap.contains id names.lists with
      | true =>
          rw [known, if_pos rfl] at yields
          exact sound yields others
      | false =>
          rw [known, if_neg Bool.false_ne_true] at yields
          obtain rfl := Except.ok.inj yields
          have unknown : KeyMap.find? id names.lists = none := by
            simpa [KeyMap.contains] using known
          have turns : turn names.imports names.lists path (.name id) = ([], []) := by
            rw [turn, unknown]
            rfl
          exact .of_turn turns others
  | call func args keywords =>
      rw [entriesWith, callEntries_eq] at yields
      cases included : includedList? names.lists ⟨func, args, keywords⟩ with
      | some target =>
          obtain ⟨raw, id⟩ := target
          rw [included] at yields
          have turns : turn names.imports names.lists path (.call func args keywords) =
              ([], [(path ++ raw, .name id)]) := by
            rw [turn, included]
          have consumes := Consumes.of_turn turns (sound yields others)
          exact consumes
      | none =>
          rw [included] at yields
          obtain rfl := Except.ok.inj yields
          have turns : turn names.imports names.lists path (.call func args keywords) =
              (ownEntries names.imports names.lists path ⟨func, args, keywords⟩, []) := by
            rw [turn, included]
          exact .of_turn turns others
  | _ =>
      obtain rfl := Except.ok.inj yields
      exact .next others
termination_by sizeOf patterns

/-- The entries of several lists are what is consumed for them one after the other. -/
theorem consumes_of_entriesOfItems {names : Surroundings} (sound : names.Sound) (path : String)
    (items : List Expr) {entries more : List Entry} {rest : List (String × Expr)}
    (yields : entriesOfItems names path items = .ok entries)
    (others : Consumes names.imports names.lists rest more) :
    Consumes names.imports names.lists (items.map (fun item => (path, item)) ++ rest)
      (entries ++ more) := by
  cases items with
  | nil =>
      obtain rfl := Except.ok.inj yields
      exact others
  | cons item items =>
      rw [entriesOfItems] at yields
      obtain ⟨front, back, yieldsFront, yieldsBack, rfl⟩ := append_eq_ok yields
      have last := consumes_of_entriesOfItems sound path items yieldsBack others
      rw [List.append_assoc]
      exact consumes_of_entriesWith sound path item yieldsFront last
termination_by sizeOf items

end

/-- However deep lists may be nested, what is expanded is what is consumed. The induction is on the
depth, since the list that a name stands for is no part of the name. -/
theorem expandList_sound (imports : Python.ImportTable) (lists : ListTable) (depth : Nat) :
    Surroundings.Sound ⟨imports, lists, expandList imports lists depth⟩ := by
  induction depth with
  | zero =>
      intro id path entries more rest yields _
      cases yields
  | succ depth ih =>
      intro id path entries more rest yields others
      simp only [expandList] at yields
      cases found : KeyMap.find? id lists with
      | none =>
          rw [found] at yields
          obtain rfl := Except.ok.inj yields
          have turns : turn imports lists path (.name id) = ([], []) := by
            rw [turn, found]
            rfl
          exact .of_turn turns others
      | some list =>
          rw [found] at yields
          have turns : turn imports lists path (.name id) = ([], [(path, list)]) := by
            rw [turn, found]
            rfl
          have inner := consumes_of_entriesWith ih path list yields others
          have consumes := Consumes.of_turn turns inner
          exact consumes

/-! ### Where the expansion fails -/

mutual

/-- The expansion of patterns fails only at a local list that they refer to. -/
theorem mention_of_entriesWith {names : Surroundings} (path : String) (patterns : Expr)
    {cycle : CyclicPatterns} (fails : entriesWith names path patterns = .error cycle) :
    ∃ name ∈ mentions names.lists patterns, KeyMap.contains name names.lists = true ∧
      ∃ place, names.expand name place = .error cycle := by
  cases patterns with
  | list items =>
      rw [entriesWith] at fails
      exact mention_of_entriesOfItems path items fails
  | tuple items =>
      rw [entriesWith] at fails
      exact mention_of_entriesOfItems path items fails
  | binary op left right =>
      cases op with
      | add =>
          rw [entriesWith] at fails
          rw [mentions]
          rcases append_eq_error fails with front | back
          · obtain ⟨name, mentioned, failed⟩ := mention_of_entriesWith path left front
            exact ⟨name, List.mem_append_left _ mentioned, failed⟩
          · obtain ⟨name, mentioned, failed⟩ := mention_of_entriesWith path right back
            exact ⟨name, List.mem_append_right _ mentioned, failed⟩
      | _ => cases fails
  | «attribute» value attr =>
      cases value with
      | _ => cases fails
  | name id =>
      rw [entriesWith] at fails
      rw [mentions]
      cases known : KeyMap.contains id names.lists with
      | true =>
          rw [known, if_pos rfl] at fails
          exact ⟨id, List.mem_singleton.2 rfl, known, path, fails⟩
      | false =>
          rw [known, if_neg Bool.false_ne_true] at fails
          cases fails
  | call func args keywords =>
      rw [entriesWith, callEntries_eq] at fails
      rw [mentions]
      cases included : includedList? names.lists ⟨func, args, keywords⟩ with
      | some target =>
          rw [included] at fails
          exact ⟨target.2, List.mem_singleton.2 rfl, includedList?_known included, _, fails⟩
      | none =>
          rw [included] at fails
          cases fails
  | _ => cases fails
termination_by sizeOf patterns

/-- The expansion of several lists fails only at a local list that they refer to. -/
theorem mention_of_entriesOfItems {names : Surroundings} (path : String) (items : List Expr)
    {cycle : CyclicPatterns} (fails : entriesOfItems names path items = .error cycle) :
    ∃ name ∈ mentionsOfItems names.lists items, KeyMap.contains name names.lists = true ∧
      ∃ place, names.expand name place = .error cycle := by
  cases items with
  | nil => cases fails
  | cons item items =>
      rw [entriesOfItems] at fails
      rw [mentionsOfItems]
      rcases append_eq_error fails with front | back
      · obtain ⟨name, mentioned, failed⟩ := mention_of_entriesWith path item front
        exact ⟨name, List.mem_append_left _ mentioned, failed⟩
      · obtain ⟨name, mentioned, failed⟩ := mention_of_entriesOfItems path items back
        exact ⟨name, List.mem_append_right _ mentioned, failed⟩
termination_by sizeOf items

end

section Failure

variable {imports : Python.ImportTable} {lists : ListTable}

/-- A failure in the depth is met along references, one for each level. -/
theorem chain_of_expandList {depth : Nat} {name place : String} {cycle : CyclicPatterns}
    (known : KeyMap.contains name lists = true)
    (fails : expandList imports lists depth name place = .error cycle) :
    ∃ chain : List String, chain.length = depth ∧
      (name :: chain).Pairwise (Relation.TransGen (Refers lists)) ∧
      ∀ other ∈ name :: chain, KeyMap.contains other lists = true := by
  induction depth generalizing name place with
  | zero => exact ⟨[], rfl, List.pairwise_singleton _ _, by simpa using known⟩
  | succ depth ih =>
      rw [expandList] at fails
      cases found : KeyMap.find? name lists with
      | none => simp [found] at fails
      | some list =>
          rw [found] at fails
          obtain ⟨next, mentioned, knownNext, _, failsNext⟩ := mention_of_entriesWith place list fails
          obtain ⟨chain, length, leads, allKnown⟩ := ih knownNext failsNext
          have refers : Refers lists name next := ⟨list, found, mentioned⟩
          refine ⟨next :: chain, congrArg Nat.succ length, ?_, ?_⟩
          · refine List.pairwise_cons.2 ⟨fun other member => ?_, leads⟩
            rcases List.mem_cons.1 member with rfl | later
            · exact .single refers
            · exact .head refers ((List.pairwise_cons.1 leads).1 other later)
          · intro other member
            rcases List.mem_cons.1 member with rfl | later
            · exact known
            · exact allKnown other later

/-- A chain of more lists than there are leads to one that leads to itself. -/
theorem loops_of_chain {name : String} {chain : List String} (long : lists.length ≤ chain.length)
    (leads : (name :: chain).Pairwise (Relation.TransGen (Refers lists)))
    (known : ∀ other ∈ name :: chain, KeyMap.contains other lists = true) : Loops lists name := by
  refine Classical.byContradiction fun straight => ?_
  have acyclic : ∀ other ∈ name :: chain, ¬ Relation.TransGen (Refers lists) other other := by
    intro other member cycle
    rcases List.mem_cons.1 member with rfl | later
    · exact straight ⟨other, .refl, cycle⟩
    · have onward := (List.pairwise_cons.1 leads).1 other later
      exact straight ⟨other, onward.to_reflTransGen, cycle⟩
  have distinct : (name :: chain).Nodup := by
    refine leads.imp_of_mem fun {first second} member _ onward same => ?_
    exact acyclic first member (same ▸ onward)
  have within : name :: chain ⊆ lists.keys := by
    intro other member
    obtain ⟨list, found⟩ := Option.isSome_iff_exists.1 (known other member)
    exact List.mem_map_of_mem (KeyMap.mem_of_find? found)
  have fits := distinct.length_le_of_subset within
  rw [KeyMap.keys, List.length_map, List.length_cons] at fits
  exact Nat.not_succ_le_self _ (Nat.le_trans fits long)

/-- The expansion of patterns fails only if they are circular. -/
theorem circular_of_entriesOf {patterns : Expr} {cycle : CyclicPatterns}
    (fails : entriesOf imports lists patterns = .error cycle) : Circular lists patterns := by
  obtain ⟨name, mentioned, known, place, failed⟩ := mention_of_entriesWith "" patterns fails
  obtain ⟨chain, length, leads, allKnown⟩ := chain_of_expandList known failed
  exact ⟨name, mentioned, loops_of_chain (Nat.le_of_eq length.symm) leads allKnown⟩

/-- Patterns are expanded to what is consumed for them. -/
theorem entriesOf_eq_ok_iff {patterns : Expr} {entries : List Entry} :
    entriesOf imports lists patterns = .ok entries ↔
      Consumes imports lists [("", patterns)] entries := by
  constructor
  · intro yields
    have consumes := consumes_of_entriesWith (expandList_sound imports lists lists.length) ""
      patterns yields .done
    rwa [List.append_nil] at consumes
  · intro consumes
    cases yields : entriesOf imports lists patterns with
    | error cycle =>
        exact absurd (circular_of_entriesOf yields)
          (consumes.not_circular _ (List.mem_singleton.2 rfl))
    | ok others =>
        have same := consumes_of_entriesWith (expandList_sound imports lists lists.length) ""
          patterns yields .done
        rw [List.append_nil] at same
        rw [same.deterministic consumes]

/-- Patterns are consumed to the end unless they are circular. -/
theorem consumes_iff {patterns : Expr} :
    (∃ entries, Consumes imports lists [("", patterns)] entries) ↔ ¬ Circular lists patterns := by
  constructor
  · rintro ⟨entries, consumes⟩
    exact consumes.not_circular _ (List.mem_singleton.2 rfl)
  · intro straight
    cases yields : entriesOf imports lists patterns with
    | error cycle => exact absurd (circular_of_entriesOf yields) straight
    | ok entries => exact ⟨entries, entriesOf_eq_ok_iff.1 yields⟩

end Failure

/-! ### The patterns of a file -/

/-- Patterns that are consumed, and the local lists that were assigned before. -/
structure Consumption where
  lists : ListTable
  patterns : Expr

/-- The patterns that a node adds to those of the file. -/
def consumed? : Python.Node → Option Expr
  | .assign targets value =>
      if targets.head?.bind Expr.nameId? = some patternsName then some value else none
  | .augmented target value => if target.nameId? = some patternsName then some value else none
  | .call call =>
      call.method?.bind fun (receiver, method) =>
        if (method = "extend" || method = "append") && receiver = patternsName then
          call.args.head?
        else none
  | _ => none

/-- The local lists after an assignment to a name. -/
def noteList (lists : ListTable) (target : String) (value : Expr) : ListTable :=
  match value with
  | .list _ => KeyMap.insert target value lists
  | .tuple _ => KeyMap.insert target value lists
  | .binary _ _ _ => KeyMap.insert target value lists
  | _ => lists

/-- The local lists after a node. -/
def listsAfter (lists : ListTable) : Python.Node → ListTable
  | .assign targets value =>
      match targets.head?.bind Expr.nameId? with
      | some target => if target = patternsName then lists else noteList lists target value
      | none => lists
  | _ => lists

/-- All patterns that are consumed in a file, from top to bottom. -/
def consumptions (lists : ListTable) : List Python.Node → List Consumption
  | [] => []
  | node :: rest =>
      ((consumed? node).map fun patterns => ⟨lists, patterns⟩).toList ++
        consumptions (listsAfter lists node) rest

namespace UrlConf

variable {background : Background} {conf : UrlConf}

/-- Local lists and routers have nothing to do with the routes. -/
theorem noteLocal_routes (target : String) (value : Expr) :
    (conf.noteLocal target value).routes = conf.routes ∧
      (conf.noteLocal target value).importedViews = conf.importedViews := by
  cases value with
  | call func args keywords =>
      rw [noteLocal]
      split
      · exact ⟨rfl, rfl⟩
      · exact ⟨rfl, rfl⟩
  | _ => exact ⟨rfl, rfl⟩

theorem noteLocal_lists (target : String) (value : Expr) :
    (conf.noteLocal target value).lists = noteList conf.lists target value := by
  cases value with
  | call func args keywords =>
      rw [noteLocal]
      split
      · rfl
      · rfl
  | _ => rfl

/-- Entries leave the local lists as they are. -/
theorem place_lists (entry : Entry) : (conf.place background entry).lists = conf.lists := by
  cases entry with
  | route path raw call => rfl
  | urlsOf owner path =>
      simp only [place, addUrlsOf]
      split
      · rfl
      · rfl
  | included reference => rfl

theorem foldl_place_lists (entries : List Entry) :
    (entries.foldl (place background) conf).lists = conf.lists := by
  induction entries generalizing conf with
  | nil => rfl
  | cons entry rest ih => rw [List.foldl_cons, ih, place_lists]

/-- Patterns are added unless they are circular, and leave the local lists as they are. -/
theorem addPatterns_ends {patterns : Expr} (straight : ¬ Circular conf.lists patterns) :
    ∃ after, addPatterns background conf patterns = .ok after ∧ after.lists = conf.lists := by
  rw [addPatterns]
  cases yields : entriesOf background.imports conf.lists patterns with
  | error cycle => exact absurd (circular_of_entriesOf yields) straight
  | ok entries => exact ⟨_, rfl, foldl_place_lists entries⟩

theorem addPatterns_fails {patterns : Expr} (circular : Circular conf.lists patterns) :
    ∃ cycle, addPatterns background conf patterns = .error cycle := by
  rw [addPatterns]
  cases yields : entriesOf background.imports conf.lists patterns with
  | error cycle => exact ⟨cycle, rfl⟩
  | ok entries =>
      have consumes := entriesOf_eq_ok_iff.1 yields
      exact absurd circular (consumes.not_circular _ (List.mem_singleton.2 rfl))

/-- A node with patterns adds them, and does nothing else. -/
theorem read_consumed {node : Python.Node} {patterns : Expr}
    (consumed : consumed? node = some patterns) :
    read background conf node = addPatterns background conf patterns ∧
      listsAfter conf.lists node = conf.lists := by
  cases node with
  | assign targets value =>
      obtain ⟨named, same⟩ := Option.ite_none_right_eq_some.1 consumed
      obtain rfl := Option.some.inj same
      simp [read, listsAfter, named]
  | augmented target value =>
      obtain ⟨named, same⟩ := Option.ite_none_right_eq_some.1 consumed
      obtain rfl := Option.some.inj same
      simp [read, listsAfter, named]
  | call call =>
      obtain ⟨⟨receiver, method⟩, named, first⟩ := Option.bind_eq_some_iff.1 consumed
      obtain ⟨adds, first⟩ := Option.ite_none_right_eq_some.1 first
      refine ⟨?_, rfl⟩
      simp only [read, readCall, named, if_pos adds, first]
  | class_ decl => cases consumed
  | function decl => cases consumed

/-- The routes, and the views that are to be completed, are as before, and the local lists are given
ones. -/
structure Quiet (conf after : UrlConf) (lists : ListTable) : Prop where
  lists : after.lists = lists
  routes : after.routes = conf.routes
  importedViews : after.importedViews = conf.importedViews

/-- A call without patterns leaves the local lists as they are. -/
theorem readCall_other {call : Python.Call} (other : consumed? (.call call) = none) :
    ∃ after, readCall background conf call = .ok after ∧ Quiet conf after conf.lists := by
  have same : Quiet conf conf conf.lists := ⟨rfl, rfl, rfl⟩
  rw [consumed?] at other
  rw [readCall]
  cases named : call.method? with
  | none => exact ⟨conf, rfl, same⟩
  | some pair =>
      obtain ⟨receiver, method⟩ := pair
      rw [named, Option.bind_some] at other
      simp only at other ⊢
      split at other
      · rename_i adds
        rw [if_pos adds, other]
        exact ⟨conf, rfl, same⟩
      · rename_i adds
        rw [if_neg adds]
        split
        · cases registration? call with
          | none => exact ⟨conf, rfl, same⟩
          | some registration => exact ⟨_, rfl, rfl, rfl, rfl⟩
        · exact ⟨conf, rfl, same⟩

/-- A node without patterns is always read. -/
theorem read_other {node : Python.Node} (other : consumed? node = none) :
    ∃ after, read background conf node = .ok after ∧
      Quiet conf after (listsAfter conf.lists node) := by
  have same : Quiet conf conf conf.lists := ⟨rfl, rfl, rfl⟩
  cases node with
  | assign targets value =>
      rw [consumed?] at other
      rw [read, listsAfter]
      cases named : targets.head?.bind Expr.nameId? with
      | none => exact ⟨conf, rfl, same⟩
      | some target =>
          have differs : target ≠ patternsName := by
            rintro rfl
            simp [named] at other
          simp only [if_neg differs]
          obtain ⟨routes, importedViews⟩ := @noteLocal_routes conf target value
          exact ⟨_, rfl, noteLocal_lists target value, routes, importedViews⟩
  | augmented target value =>
      rw [consumed?] at other
      rw [read]
      split at other
      · cases other
      · rename_i differs
        rw [if_neg differs]
        exact ⟨conf, rfl, same⟩
  | call call => exact readCall_other other
  | class_ decl => exact ⟨conf, rfl, same⟩
  | function decl => exact ⟨conf, rfl, same⟩

/-- Some nodes are read to the end unless circular patterns are consumed among them. -/
theorem read_ends_iff (nodes : List Python.Node) :
    (∃ after, nodes.foldlM (read background) conf = .ok after) ↔
      ∀ consumption ∈ consumptions conf.lists nodes,
        ¬ Circular consumption.lists consumption.patterns := by
  induction nodes generalizing conf with
  | nil => simp [consumptions, pure, Except.pure]
  | cons node rest ih =>
      rw [List.foldlM_cons, consumptions]
      cases consumed : consumed? node with
      | none =>
          obtain ⟨after, reads, quiet⟩ := @read_other background conf node consumed
          rw [reads, ← quiet.lists]
          exact ih
      | some patterns =>
          obtain ⟨reads, lists⟩ := @read_consumed background conf node patterns consumed
          rw [reads, lists]
          by_cases circular : Circular conf.lists patterns
          · obtain ⟨cycle, fails⟩ := @addPatterns_fails background conf patterns circular
            rw [fails]
            constructor
            · rintro ⟨after, ends⟩
              cases ends
            · intro straight
              exact absurd circular (straight ⟨conf.lists, patterns⟩ (by simp))
          · obtain ⟨after, ends, kept⟩ := @addPatterns_ends background conf patterns circular
            rw [ends, ← kept]
            refine ih.trans ?_
            constructor
            · intro straight consumption member
              rcases List.mem_append.1 member with here | later
              · obtain rfl := List.mem_singleton.1 here
                rwa [kept]
              · exact straight consumption later
            · intro straight consumption member
              exact straight consumption (List.mem_append_right _ member)

end UrlConf

/-- When the patterns of a file can be worked off. Whatever is assigned, added, appended or extended to
the patterns of the file is consumed, along the names of the local lists that were assigned before.
Consumption comes to an end, without any bound on it, exactly if no local list is reached that leads
to itself; and the file has findings exactly if all of its consumptions come to an end. -/
theorem findings_iff (body : Python.Module) :
    ((∃ found, findings body = .ok found) ↔
      ∀ consumption ∈ consumptions [] (Python.nodes body),
        ¬ Circular consumption.lists consumption.patterns) ∧
    ∀ consumption ∈ consumptions [] (Python.nodes body),
      ((∃ entries, Consumes (Python.imports body) consumption.lists
          [("", consumption.patterns)] entries) ↔
        ¬ Circular consumption.lists consumption.patterns) := by
  refine ⟨?_, fun consumption _ => consumes_iff⟩
  have run := @UrlConf.read_ends_iff ⟨Python.imports body, methodTable body⟩ {}
    (Python.nodes body)
  refine Iff.trans ⟨?_, ?_⟩ run
  · rintro ⟨found, answered⟩
    cases ends : (Python.nodes body).foldlM
        (UrlConf.read ⟨Python.imports body, methodTable body⟩) {} with
    | error cycle =>
        rw [findings, ends] at answered
        cases answered
    | ok after => exact ⟨after, rfl⟩
  · rintro ⟨after, ends⟩
    exact ⟨_, by rw [findings, ends]; rfl⟩

/-- A file whose one local list is a list of itself, and is its list of patterns. -/
def selfList : Python.Module :=
  [.assign [.name "xs"] (.list [.name "xs"]), .assign [.name "urlpatterns"] (.name "xs")]

/-- The consumption of such a list has no end, so that the file has no findings. -/
theorem selfList_unending :
    findings selfList = .error ⟨"xs"⟩ ∧
      ¬ ∃ entries, Consumes [] [("xs", .list [.name "xs"])] [("", .name "xs")] entries := by
  refine ⟨rfl, fun ⟨entries, consumes⟩ => ?_⟩
  have refers : Refers [("xs", .list [.name "xs"])] "xs" "xs" := ⟨_, rfl, List.mem_cons_self⟩
  have circular : Circular [("xs", .list [.name "xs"])] (.name "xs") :=
    ⟨"xs", List.mem_cons_self, "xs", .refl, .single refers⟩
  exact consumes.not_circular _ List.mem_cons_self circular

end RouteAtlas.Django
