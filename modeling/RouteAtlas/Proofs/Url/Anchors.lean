/-
Module: RouteAtlas.Proofs.Url.Anchors
Layer: Proofs
Purpose: What the removal of anchors does to the escapes of a regular expression. Anchors are taken away
  before escapes are read, those after a backslash as well; the backslash then belongs to what comes
  next. Before a plain character that does no harm but for the loss of the anchor. Before anything else,
  or in a pattern where a parenthesis comes to stand after it, the path is read as a different one.
Trusted boundary: none
Main exports: IsAnchor, unanchored, Item, regexPath, Translates, Steady, Harmless,
  replaceGroups_harmless, replaceGroups_spoiled, template_unanchored, anchors_disturb_iff
-/
import RouteAtlas.Proofs.Url.Groups

namespace RouteAtlas.Url

/-! ### Paths with anchors -/

/-- The marks for the beginning and the end of a text. -/
def IsAnchor (c : Char) : Prop := c = '^' ∨ c = '$'

instance : DecidablePred IsAnchor := fun c => inferInstanceAs (Decidable (c = '^' ∨ c = '$'))

/-- A text without the marks, wherever they stand. -/
def unanchored (chars : List Char) : List Char := chars.filter fun c => c ≠ '^' && c ≠ '$'

/-- The characters that are escaped in a path because they mean something in a regular expression. -/
def escapables : List Char := ['.', '-', '+', '*', '?', '(', ')', '[', ']', '^', '$']

/-- An item of a path that is a regular expression. -/
inductive Item where
  | plain (c : Char) (unmarked : Avoids ['<', '>', '{', '}', '(', ')', '\\', '^', '$'] [c])
  | anchor (mark : Char) (isAnchor : IsAnchor mark)
  | escaped (c : Char) (escapable : c ∈ escapables)
  | group (name : Name) (pattern : List Char) (balanced : Balanced pattern)

namespace Item

/-- How the item is written. -/
def written : Item → List Char
  | .plain c _ => [c]
  | .anchor mark _ => [mark]
  | .escaped c _ => ['\\', c]
  | .group name pattern _ => groupText name.chars pattern

/-- What the item stands for in a template: an anchor for nothing, an escaped character for itself, and a
group for a placeholder. -/
def meant : Item → List Char
  | .plain c _ => [c]
  | .anchor _ _ => []
  | .escaped c _ => [c]
  | .group name _ _ => placeholder name.chars

/-- What it stands for if escaped anchors are lost. -/
def left (item : Item) : List Char := unanchored item.meant

/-- The name of the parameter, if the item is a group. -/
def name? : Item → Option (List Char)
  | .group name _ _ => some name.chars
  | _ => none

/-- The pattern, if the item is a group. -/
def pattern? : Item → Option (List Char)
  | .group _ pattern _ => some pattern
  | _ => none

/-- The item is an escaped anchor. -/
def IsLost : Item → Prop
  | .escaped c _ => IsAnchor c
  | _ => False

end Item

/-- The path of some items. -/
def regexPath (items : List Item) : String := String.ofList (items.flatMap Item.written)

/-- The path of some items is translated item by item: its template has what every item shows, with single
slashes, its parameters are the names of the groups, and in the text without anchors each group still ends
at its own parenthesis, however the path goes on. -/
structure Translates (shown : Item → List Char) (items : List Item) : Prop where
  text : (template (regexPath items)).toList =
    '/' :: ((items.flatMap shown).destutter Apart).dropWhile (· = '/')
  parameters : parametersOf (template (regexPath items)) =
    (items.filterMap Item.name?).eraseDups.map String.ofList
  ends : ∀ item ∈ items, ∀ pattern ∈ item.pattern?, ∀ rest,
    afterGroup 1 (unanchored pattern ++ ')' :: rest) = rest

/-- Every pattern is balanced without its anchors, too. -/
def Steady (items : List Item) : Prop :=
  ∀ item ∈ items, ∀ pattern ∈ item.pattern?, Balanced (unanchored pattern)

/-- Anchors aside, the first item is a plain character. -/
def BeginsPlain : List Item → Prop
  | .plain _ _ :: _ => True
  | .anchor _ _ :: rest => BeginsPlain rest
  | _ => False

/-- Anchors aside, every escaped anchor comes before a plain character. -/
def Harmless : List Item → Prop
  | [] => True
  | item :: rest => (item.IsLost → BeginsPlain rest) ∧ Harmless rest

/-! ### Reading the text without anchors -/

theorem unanchored_append (front rest : List Char) :
    unanchored (front ++ rest) = unanchored front ++ unanchored rest :=
  List.filter_append ..

theorem unanchored_eq_self {chars : List Char} (plain : Avoids ['^', '$'] chars) :
    unanchored chars = chars := by
  rw [unanchored, List.filter_eq_self]
  intro c member
  simpa using plain c member

theorem unanchored_mark {mark : Char} (isAnchor : IsAnchor mark) : unanchored [mark] = [] := by
  rcases isAnchor with rfl | rfl
  · rfl
  · rfl

/-- Any other character stays. -/
theorem unanchored_single {c : Char} (other : ¬ IsAnchor c) : unanchored [c] = [c] := by
  apply unanchored_eq_self
  intro d member
  obtain rfl := List.mem_singleton.1 member
  simpa [IsAnchor] using other

theorem unanchored_groupText (name : Name) (pattern : List Char) :
    unanchored (groupText name.chars pattern) = groupText name.chars (unanchored pattern) := by
  have named : unanchored name.chars = name.chars := unanchored_eq_self (name.plain.fewer (by simp))
  have close : unanchored ('>' :: (pattern ++ [')'])) = '>' :: (unanchored pattern ++ [')']) := by
    simp [unanchored]
  rw [groupText, unanchored_append, unanchored_append, named, close]
  rfl

/-- The path of some items without its anchors. -/
def stripped (items : List Item) : List Char := items.flatMap fun item => unanchored item.written

theorem unanchored_regexPath (items : List Item) :
    unanchored (regexPath items).toList = stripped items := by
  rw [regexPath, String.toList_ofList, stripped]
  induction items with
  | nil => rfl
  | cons item rest ih => rw [List.flatMap_cons, unanchored_append, ih, List.flatMap_cons]

theorem escapables_avoid (c : Char) (escapable : c ∈ escapables) :
    Avoids ['<', '{', '\\', '/'] [c] := by
  have all : escapables.all fun c => decide (Avoids ['<', '{', '\\', '/'] [c]) := by decide
  exact of_decide_eq_true (List.all_eq_true.1 all c escapable)

namespace Item

/-- No bracket and no backslash is left of an item. -/
theorem left_avoids (item : Item) : Avoids ['<', '\\'] item.left := by
  have meant : Avoids ['<', '\\'] item.meant := by
    cases item with
    | plain c unmarked => exact unmarked.fewer (by simp)
    | anchor mark isAnchor => exact fun _ member => nomatch member
    | escaped c escapable => exact (escapables_avoid c escapable).fewer (by simp)
    | group name pattern balanced =>
        have opening : Avoids ['<', '\\'] ['{'] := by decide
        have named : Avoids ['<', '\\'] name.chars := name.plain.fewer (by simp)
        exact (opening.append named).append (by decide)
  intro c member
  exact meant c (List.mem_of_mem_filter member)

theorem left_group (name : Name) (pattern : List Char) (balanced : Balanced pattern) :
    (group name pattern balanced).left = placeholder name.chars := by
  have opening : Avoids ['^', '$'] ['{'] := by decide
  have named : Avoids ['^', '$'] name.chars := name.plain.fewer (by simp)
  exact unanchored_eq_self ((opening.append named).append (by decide))

/-- An item that is no escaped anchor is replaced on its own, by what it stands for. -/
theorem replaceGroups_item {item : Item} (kept : ¬ item.IsLost)
    (steady : ∀ pattern ∈ item.pattern?, Balanced (unanchored pattern)) (rest : List Char) :
    replaceGroups (unanchored item.written ++ rest) = item.left ++ replaceGroups rest := by
  cases item with
  | plain c unmarked =>
      have itself : unanchored [c] = [c] := unanchored_eq_self (unmarked.fewer (by simp))
      have member : c ∈ [c] := List.mem_singleton_self c
      rw [written, left, meant, itself]
      exact replaceGroups_plain (unmarked.ne (by simp) c member) (unmarked.ne (by simp) c member) rest
  | anchor mark isAnchor =>
      rw [written, left, meant, unanchored_mark isAnchor]
      rfl
  | escaped c escapable =>
      have itself : unanchored [c] = [c] := unanchored_single kept
      have both : unanchored ['\\', c] = ['\\', c] := congrArg ('\\' :: ·) itself
      rw [written, left, meant, itself, both]
      exact replaceGroups_escape c rest
  | group name pattern balanced =>
      have ends := afterGroup_balanced (steady pattern rfl) rest
      rw [written, left_group, unanchored_groupText]
      exact replaceGroups_groupText (name.plain.absent (by simp)) ends

/-- Of an escaped anchor only the backslash stays in the text, and nothing is left of what it stands for. -/
theorem IsLost.stripped {item : Item} (lost : item.IsLost) :
    unanchored item.written = ['\\'] ∧ item.left = [] := by
  cases item with
  | escaped c escapable =>
      rcases lost with rfl | rfl
      · exact ⟨rfl, rfl⟩
      · exact ⟨rfl, rfl⟩
  | plain | anchor | group => cases lost

end Item

theorem stripped_cons (item : Item) (rest : List Item) :
    stripped (item :: rest) = unanchored item.written ++ stripped rest :=
  List.flatMap_cons

/-- A backslash that is left over does nothing before a plain character. -/
theorem replaceGroups_leftOver {items : List Item} (begins : BeginsPlain items) :
    replaceGroups ('\\' :: stripped items) = replaceGroups (stripped items) := by
  induction items with
  | nil => cases begins
  | cons item rest ih =>
      cases item with
      | plain c unmarked =>
          have itself : unanchored [c] = [c] := unanchored_eq_self (unmarked.fewer (by simp))
          have member : c ∈ [c] := List.mem_singleton_self c
          rw [stripped_cons, Item.written, itself, List.singleton_append, replaceGroups_escape,
            replaceGroups_plain (unmarked.ne (by simp) c member) (unmarked.ne (by simp) c member)]
      | anchor mark isAnchor =>
          rw [stripped_cons, Item.written, unanchored_mark isAnchor]
          exact ih begins
      | escaped | group => cases begins

/-- Where no escape is harmed, every item is replaced by what is left of what it stands for. -/
theorem replaceGroups_harmless {items : List Item} (steady : Steady items)
    (harmless : Harmless items) : replaceGroups (stripped items) = items.flatMap Item.left := by
  induction items with
  | nil => rfl
  | cons item rest ih =>
      obtain ⟨steadyItem, steadyRest⟩ := List.forall_mem_cons.1 steady
      obtain ⟨begins, harmlessRest⟩ := harmless
      have later := ih steadyRest harmlessRest
      rw [stripped_cons, List.flatMap_cons]
      by_cases lost : item.IsLost
      · rw [lost.stripped.1, lost.stripped.2, List.singleton_append,
          replaceGroups_leftOver (begins lost), later]
        rfl
      · rw [Item.replaceGroups_item lost steadyItem, later]

/-- A text begins with what it should until a mark comes that should not: a backslash, or a parenthesis in
the place of a brace. -/
def Spoiled (text expected : List Char) : Prop :=
  ∃ front mark more, text = front ++ mark :: more ∧ Avoids ['<'] front ∧
    (mark = '\\' ∨ mark = '(' ∧ ∃ others, expected = front ++ '{' :: others)

theorem spoiled_escape (more expected : List Char) : Spoiled ('\\' :: more) expected :=
  ⟨[], '\\', more, rfl, by decide, .inl rfl⟩

theorem spoiled_group (more others : List Char) : Spoiled ('(' :: more) ('{' :: others) :=
  ⟨[], '(', more, rfl, by decide, .inr ⟨rfl, others, rfl⟩⟩

theorem Spoiled.after {text expected start : List Char} (avoids : Avoids ['<'] start)
    (spoiled : Spoiled text expected) : Spoiled (start ++ text) (start ++ expected) := by
  obtain ⟨front, mark, more, rfl, avoidsToo, why⟩ := spoiled
  refine ⟨start ++ front, mark, more, (List.append_assoc _ _ _).symm, avoids.append avoidsToo, ?_⟩
  rcases why with escape | ⟨opens, others, rfl⟩
  · exact .inl escape
  · exact .inr ⟨opens, others, (List.append_assoc _ _ _).symm⟩

/-- Before anything else a backslash that is left over comes out, or takes away the parenthesis that opens a
group. -/
theorem spoiled_leftOver {items : List Item} (other : ¬ BeginsPlain items) :
    Spoiled (replaceGroups ('\\' :: stripped items)) (items.flatMap Item.left) := by
  induction items with
  | nil => exact spoiled_escape [] []
  | cons item rest ih =>
      rw [stripped_cons, List.flatMap_cons]
      cases item with
      | plain => exact absurd trivial other
      | anchor mark isAnchor =>
          rw [Item.left, Item.written, Item.meant, unanchored_mark isAnchor]
          exact ih other
      | escaped c escapable =>
          have escapes : ∃ more, unanchored ['\\', c] ++ stripped rest = '\\' :: more := ⟨_, rfl⟩
          obtain ⟨more, text⟩ := escapes
          rw [Item.written, text, replaceGroups_escape]
          exact spoiled_escape _ _
      | group name pattern balanced =>
          have opens : ∃ more, unanchored (groupText name.chars pattern) ++ stripped rest =
            '(' :: more := ⟨_, rfl⟩
          obtain ⟨more, text⟩ := opens
          rw [Item.written, text, replaceGroups_escape, Item.left_group]
          exact spoiled_group _ _

/-- Where an escape is harmed, the text is spoiled. -/
theorem replaceGroups_spoiled {items : List Item} (steady : Steady items)
    (harmed : ¬ Harmless items) :
    Spoiled (replaceGroups (stripped items)) (items.flatMap Item.left) := by
  induction items with
  | nil => exact absurd trivial harmed
  | cons item rest ih =>
      obtain ⟨steadyItem, steadyRest⟩ := List.forall_mem_cons.1 steady
      rw [stripped_cons, List.flatMap_cons]
      by_cases lost : item.IsLost
      · rw [lost.stripped.1, lost.stripped.2, List.singleton_append, List.nil_append]
        by_cases begins : BeginsPlain rest
        · rw [replaceGroups_leftOver begins]
          exact ih steadyRest fun harmless => harmed ⟨fun _ => begins, harmless⟩
        · exact spoiled_leftOver begins
      · rw [Item.replaceGroups_item lost steadyItem]
        apply Spoiled.after (item.left_avoids.fewer (by simp))
        exact ih steadyRest fun harmless => harmed ⟨fun isLost => absurd isLost lost, harmless⟩

/-! ### Templates -/

/-- What stands before a mark that is no slash becomes what it becomes alone, where runs of slashes become
one. -/
theorem collapseSlashes_append_cons {mark : Char} (noSlash : mark ≠ '/') (front rest : List Char) :
    collapseSlashes (front ++ mark :: rest) = collapseSlashes front ++ mark :: collapseSlashes rest := by
  induction front with
  | nil => simp [collapseSlashes, noSlash]
  | cons c front ih =>
      have next : (front ++ mark :: rest).head? = some '/' ↔ front.head? = some '/' := by
        cases front with
        | nil => simp [noSlash]
        | cons d front => rfl
      rw [List.cons_append, collapseSlashes, collapseSlashes, ih]
      simp only [Bool.and_eq_true, decide_eq_true_eq, next]
      split
      · rfl
      · rfl

theorem dropSlashes_append_cons {mark : Char} (noSlash : mark ≠ '/') (front rest : List Char) :
    (front ++ mark :: rest).dropWhile (· = '/') = front.dropWhile (· = '/') ++ mark :: rest := by
  induction front with
  | nil => simp [noSlash]
  | cons c front ih =>
      by_cases slash : c = '/'
      · simp [slash, ih]
      · simp [slash]

/-- What is there besides slashes stays, and nothing else comes. -/
theorem mem_singleSlashes_iff {c : Char} (noSlash : c ≠ '/') (chars : List Char) :
    c ∈ '/' :: (collapseSlashes chars).dropWhile (· = '/') ↔ c ∈ chars := by
  rw [List.mem_cons, or_iff_right noSlash]
  constructor
  · intro member
    have collapsed := (List.dropWhile_sublist _).mem member
    rw [collapseSlashes_eq_destutter] at collapsed
    exact (List.destutter_sublist _ _).mem collapsed
  · intro member
    obtain ⟨front, rest, rfl⟩ := List.append_of_mem member
    rw [collapseSlashes_append_cons noSlash, dropSlashes_append_cons noSlash]
    exact List.mem_append_right _ List.mem_cons_self

/-- Replace parameters in angle brackets, those with a built-in converter first. -/
def replaceBrackets (chars : List Char) : List Char :=
  Text.replace angleRule (Text.replace converterRule chars)

/-- Nothing is replaced before the first angle bracket. -/
theorem replaceBrackets_append {front : List Char} (avoids : Avoids ['<'] front) (rest : List Char) :
    replaceBrackets (front ++ rest) = front ++ replaceBrackets rest := by
  rw [replaceBrackets, replace_unopened (fun _ _ => converterRule_idle) avoids,
    replace_unopened (fun _ _ => angleRule_idle) avoids]
  rfl

theorem toList_template_regexPath (items : List Item) :
    (template (regexPath items)).toList =
      '/' :: (collapseSlashes (replaceBrackets (replaceGroups (stripped items)))).dropWhile (· = '/') := by
  rw [template, String.toList_ofList, templateChars, ← unanchored_regexPath]
  rfl

/-- A spoiled text shows in the template. -/
theorem Spoiled.shows {text expected : List Char} (spoiled : Spoiled text expected)
    (avoids : Avoids ['\\'] expected) :
    '/' :: (collapseSlashes (replaceBrackets text)).dropWhile (· = '/') ≠
      '/' :: (collapseSlashes expected).dropWhile (· = '/') := by
  obtain ⟨front, mark, more, rfl, unopened, why⟩ := spoiled
  have kept : ∃ others, replaceBrackets (front ++ mark :: more) = front ++ mark :: others := by
    have opening : Avoids ['<'] (front ++ [mark]) := by
      apply unopened.append
      rcases why with rfl | ⟨rfl, _⟩
      · decide
      · decide
    have same := replaceBrackets_append opening more
    rw [List.append_assoc, List.append_assoc] at same
    exact ⟨_, same⟩
  obtain ⟨others, same⟩ := kept
  rw [same]
  intro equal
  rcases why with rfl | ⟨rfl, rest, rfl⟩
  · have there : '\\' ∈ front ++ '\\' :: others := List.mem_append_right _ List.mem_cons_self
    rw [← mem_singleSlashes_iff (by decide), equal, mem_singleSlashes_iff (by decide)] at there
    exact avoids _ there List.mem_cons_self
  · rw [collapseSlashes_append_cons (by decide), dropSlashes_append_cons (by decide),
      collapseSlashes_append_cons (by decide), dropSlashes_append_cons (by decide)] at equal
    have marks := List.append_cancel_left (List.tail_eq_of_cons_eq equal)
    exact absurd (List.head_eq_of_cons_eq marks) (by decide)

/-- Every find of a rule is made of characters of the text and of braces. -/
def Draws (rule : Text.Rule (List Char)) : Prop :=
  ∀ chars extra found, rule chars = some (extra, found) → ∀ c ∈ found, c ∈ chars ∨ c = '{' ∨ c = '}'

theorem mem_placeholder {c : Char} {name : List Char} (member : c ∈ placeholder name) :
    c ∈ name ∨ c = '{' ∨ c = '}' := by
  simp only [placeholder, List.mem_append, List.mem_singleton] at member
  tauto

theorem mem_of_inside? {close c : Char} {chars inner : List Char}
    (inside : Text.inside? close chars = some inner) (member : c ∈ inner) : c ∈ chars := by
  rw [Text.inside?] at inside
  split at inside
  · cases inside
  · obtain rfl := Option.some.inj inside
    exact (List.takeWhile_sublist _).mem member

theorem groupRule_draws : Draws groupRule := by
  intro chars extra found applies c member
  unfold groupRule at applies
  split at applies
  · obtain ⟨_, rfl⟩ := Prod.mk.inj (Option.some.inj applies)
    obtain rfl := List.mem_singleton.1 member
    exact .inl (by simp)
  · next rest =>
      dsimp only at applies
      split at applies
      · cases applies
      · obtain ⟨_, rfl⟩ := Prod.mk.inj (Option.some.inj applies)
        rcases mem_placeholder member with named | brace
        · have inside := (List.takeWhile_sublist _).mem named
          exact .inl (by simp [inside])
        · exact .inr brace
  · cases applies

theorem converterRule_draws : Draws converterRule := by
  intro chars extra found applies c member
  unfold converterRule at applies
  split at applies
  · next rest =>
      obtain ⟨converter, _, applies⟩ := List.exists_of_findSome?_eq_some applies
      split at applies
      · cases applies
      · next named dropped =>
          obtain ⟨name, inside, same⟩ := Option.map_eq_some_iff.1 applies
          obtain ⟨_, rfl⟩ := Prod.mk.inj same
          rw [Text.dropPrefix?_eq_some_iff] at dropped
          rcases mem_placeholder member with nameChar | brace
          · have there := mem_of_inside? inside nameChar
            exact .inl (by simp [dropped, there])
          · exact .inr brace
  · cases applies

theorem angleRule_draws : Draws angleRule := by
  intro chars extra found applies c member
  unfold angleRule at applies
  split at applies
  · next rest =>
      obtain ⟨parameter, inside, same⟩ := Option.map_eq_some_iff.1 applies
      obtain ⟨_, rfl⟩ := Prod.mk.inj same
      rcases mem_placeholder member with nameChar | brace
      · have part : c ∈ parameter := by
          rw [withoutConverter] at nameChar
          split at nameChar
          · exact nameChar
          · exact List.mem_of_mem_drop nameChar
        exact .inl (List.mem_cons_of_mem _ (mem_of_inside? inside part))
      · exact .inr brace
  · cases applies

/-- A rule that draws on the text and on braces brings no anchors in. -/
theorem Draws.unanchored {rule : Text.Rule (List Char)} (draws : Draws rule) {chars : List Char}
    (free : ∀ c ∈ chars, ¬ IsAnchor c) : ∀ c ∈ Text.replace rule chars, ¬ IsAnchor c := by
  refine Text.replace_forall (fun chars extra found free applies c member => ?_) free
  rcases draws chars extra found applies c member with there | rfl | rfl
  · exact free c there
  · decide
  · decide

/-- There are no anchors in a template, whatever the path is. -/
theorem template_unanchored (path : String) : ∀ c ∈ (template path).toList, ¬ IsAnchor c := by
  have free : ∀ c ∈ unanchored path.toList, ¬ IsAnchor c := by
    intro c member
    have kept := (List.mem_filter.1 member).2
    simpa [IsAnchor] using kept
  have replaced : ∀ c ∈ replaceBrackets (replaceGroups (unanchored path.toList)), ¬ IsAnchor c :=
    angleRule_draws.unanchored (converterRule_draws.unanchored (groupRule_draws.unanchored free))
  rw [template, String.toList_ofList]
  intro c member isAnchor
  have noSlash : c ≠ '/' := by
    rintro rfl
    revert isAnchor
    decide
  exact replaced c ((mem_singleSlashes_iff noSlash _).1 member) isAnchor

/-! ### Escapes and anchors -/

/-- The placeholders that are met in what is left of some items are the names of the groups. -/
theorem scans_left (items : List Item) :
    Scans (items.flatMap Item.left) (items.filterMap Item.name?) := by
  induction items with
  | nil => exact .done
  | cons item rest ih =>
      have braceless : ∀ c, Avoids ['{'] [c] → '{' ∉ unanchored [c] := fun c avoids member =>
        avoids.absent (by simp) (List.mem_of_mem_filter member)
      rw [List.flatMap_cons]
      cases item with
      | plain c unmarked => exact ih.append_braceless (braceless c (unmarked.fewer (by simp)))
      | anchor mark isAnchor => exact ih
      | escaped c escapable =>
          have avoids := escapables_avoid c escapable
          exact ih.append_braceless (braceless c (avoids.fewer (by simp)))
      | group name pattern balanced =>
          rw [Item.left_group]
          exact ih.placeholder_append name

/-- Where no escape is harmed, the path is translated item by item, but for the escaped anchors. -/
theorem translates_left {items : List Item} (steady : Steady items) (harmless : Harmless items) :
    Translates Item.left items := by
  have unopened : Avoids ['<'] (items.flatMap Item.left) := by
    intro c member
    obtain ⟨item, _, inside⟩ := List.mem_flatMap.1 member
    exact item.left_avoids.fewer (by simp) c inside
  have replaced : replaceBrackets (items.flatMap Item.left) = items.flatMap Item.left := by
    have same := replaceBrackets_append unopened []
    rw [List.append_nil] at same
    exact same.trans (List.append_nil _)
  have text : (template (regexPath items)).toList =
      '/' :: (collapseSlashes (items.flatMap Item.left)).dropWhile (· = '/') := by
    rw [toList_template_regexPath, replaceGroups_harmless steady harmless, replaced]
  constructor
  · rw [text, collapseSlashes_eq_destutter]
  · apply parametersOf_scans
    rw [text]
    exact (scans_left items).collapse.dropSlashes.cons_slash
  · intro item member pattern named
    exact afterGroup_exact_iff.2 (steady item member pattern named)

/-- Where one is harmed, it is not. -/
theorem harmless_of_translates {items : List Item} (translates : Translates Item.left items)
    (steady : Steady items) : Harmless items := by
  by_contra harmed
  have avoids : Avoids ['\\'] (items.flatMap Item.left) := by
    intro c member
    obtain ⟨item, _, inside⟩ := List.mem_flatMap.1 member
    exact item.left_avoids.fewer (by simp) c inside
  have text := translates.text
  rw [toList_template_regexPath, ← collapseSlashes_eq_destutter] at text
  exact (replaceGroups_spoiled steady harmed).shows avoids text

theorem Translates.steady {shown : Item → List Char} {items : List Item}
    (translates : Translates shown items) : Steady items := by
  intro item member pattern named
  exact afterGroup_exact_iff.1 (translates.ends item member pattern named)

/-- An escaped anchor stands for itself, and a template has none. -/
theorem Translates.keeps {items : List Item} (translates : Translates Item.meant items) :
    ∀ item ∈ items, ¬ item.IsLost := by
  intro item member lost
  cases item with
  | escaped c escapable =>
      have noSlash : c ≠ '/' := (escapables_avoid c escapable).ne (by simp) c List.mem_cons_self
      have shown : c ∈ items.flatMap Item.meant :=
        List.mem_flatMap.2 ⟨_, member, List.mem_cons_self⟩
      have text := translates.text
      rw [← collapseSlashes_eq_destutter] at text
      have there : c ∈ (template (regexPath items)).toList := by
        rw [text]
        exact (mem_singleSlashes_iff noSlash _).2 shown
      exact template_unanchored _ c there lost
  | plain | anchor | group => cases lost

theorem harmless_of_kept {items : List Item} (kept : ∀ item ∈ items, ¬ item.IsLost) :
    Harmless items := by
  induction items with
  | nil => trivial
  | cons item rest ih =>
      obtain ⟨keptItem, keptRest⟩ := List.forall_mem_cons.1 kept
      exact ⟨fun lost => absurd lost keptItem, ih keptRest⟩

theorem Item.left_eq_meant {item : Item} (kept : ¬ item.IsLost) : item.left = item.meant := by
  cases item with
  | plain c unmarked => exact unanchored_eq_self (unmarked.fewer (by simp))
  | anchor mark isAnchor => rfl
  | escaped c escapable => exact unanchored_single kept
  | group name pattern balanced => exact left_group name pattern balanced

theorem flatMap_left_of_kept {items : List Item} (kept : ∀ item ∈ items, ¬ item.IsLost) :
    items.flatMap Item.left = items.flatMap Item.meant := by
  rw [List.flatMap_def, List.flatMap_def]
  exact congrArg _ (List.map_congr_left fun item member => Item.left_eq_meant (kept item member))

/-- When the removal of anchors does no harm to escapes. That every item of a path shows in its template as
what it stands for, with a placeholder for every group, that the parameters are the names of the groups,
and that every group ends at its own parenthesis, is true exactly if no anchor is escaped outside the
groups and every pattern is balanced still when its anchors are gone. If escaped anchors may be lost, then
it is true exactly if each of them that stands outside the groups comes, anchors aside, before a plain
character, and again every pattern is balanced without its anchors. -/
theorem anchors_disturb_iff (items : List Item) :
    (Translates Item.meant items ↔ Steady items ∧ ∀ item ∈ items, ¬ item.IsLost) ∧
      (Translates Item.left items ↔ Steady items ∧ Harmless items) := by
  constructor
  · constructor
    · intro translates
      exact ⟨translates.steady, translates.keeps⟩
    · rintro ⟨steady, kept⟩
      obtain ⟨text, parameters, ends⟩ := translates_left steady (harmless_of_kept kept)
      rw [flatMap_left_of_kept kept] at text
      exact ⟨text, parameters, ends⟩
  · constructor
    · intro translates
      exact ⟨translates.steady, harmless_of_translates translates translates.steady⟩
    · rintro ⟨steady, harmless⟩
      exact translates_left steady harmless

example : template "^articles/(?P<year>[0-9]{4})\\.(?P<slug>[\\w-]+)/$" =
    "/articles/\x7byear\x7d.\x7bslug\x7d/" := by
  decide +kernel

/-- The name of the group in the paths below. -/
def priceName : Name := ⟨"price".toList, by decide, by decide⟩

/-- A path with an escaped anchor at the end of a pattern. -/
def pricedItems : List Item :=
  [.group priceName "\\d+\\$".toList
      (.escaped 'd' (.plain (by decide) (.escaped '$' (.done 0)))),
    .plain '/' (by decide), .plain 'b' (by decide), .plain 'u' (by decide), .plain 'y' (by decide)]

/-- A path with an escaped anchor in front of a group. -/
def dollarItems : List Item :=
  [.escaped '$' (by decide),
    .group priceName "\\d+".toList (.escaped 'd' (.plain (by decide) (.done 0)))]

/-- In the first path the parenthesis of the group comes to stand after the backslash, and the text after
the group is lost. In the second one it is the parenthesis that opens the group, which is no group then. -/
theorem escapedAnchors_disturb :
    regexPath pricedItems = "(?P<price>\\d+\\$)/buy" ∧
      template (regexPath pricedItems) = "/\x7bprice\x7d" ∧
      ¬ Translates Item.meant pricedItems ∧ ¬ Translates Item.left pricedItems ∧
    regexPath dollarItems = "\\$(?P<price>\\d+)" ∧
      template (regexPath dollarItems) = "/(?P\x7bprice\x7dd+)" ∧
      ¬ Translates Item.meant dollarItems ∧ ¬ Translates Item.left dollarItems := by
  refine ⟨by decide +kernel, by decide +kernel, ?_, ?_, by decide +kernel, by decide +kernel, ?_, ?_⟩
  · intro translates
    exact absurd translates.text (by decide +kernel)
  · intro translates
    exact absurd translates.text (by decide +kernel)
  · intro translates
    exact absurd translates.text (by decide +kernel)
  · intro translates
    exact absurd translates.text (by decide +kernel)

end RouteAtlas.Url
