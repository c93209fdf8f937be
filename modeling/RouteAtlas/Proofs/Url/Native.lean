/-
Module: RouteAtlas.Proofs.Url.Native
Layer: Proofs
Purpose: Native paths that are put together of literal texts and parameters, some of them in angle
  brackets, with a converter or without, and some as placeholders already. The template of such a
  path has the literal texts and a placeholder for every parameter, with single slashes; its
  parameters are their names. No pass over the path goes over the end of a piece, so that neither the
  converters nor the places where the path was cut make a difference.
Trusted boundary: none
Main exports: Literal, Name, Converter, Piece, nativePath, skeleton, replaceGroups_native,
  replace_converterRule_native, replace_angleRule_native, Scans.placeholder_append, scans_skeleton,
  template_nativePath
-/
import Mathlib.Data.List.Basic
import Mathlib.Data.List.Destutter
import Mathlib.Data.List.TakeWhile
import RouteAtlas.Proofs.Text.Replacement
import RouteAtlas.Proofs.Url.Shape
import RouteAtlas.Route

namespace RouteAtlas.Url

/-- None of some characters stands in a text. -/
def Avoids (barred text : List Char) : Prop := ∀ c ∈ text, c ∉ barred

instance (barred text : List Char) : Decidable (Avoids barred text) :=
  decidable_of_iff (text.all (fun c => !barred.contains c) = true) (by simp [Avoids])

theorem Avoids.append {barred text other : List Char} (avoids : Avoids barred text)
    (others : Avoids barred other) : Avoids barred (text ++ other) := by
  intro c member
  rcases List.mem_append.1 member with member | member
  · exact avoids c member
  · exact others c member

theorem Avoids.absent {barred text : List Char} (avoids : Avoids barred text) {mark : Char}
    (bars : mark ∈ barred) : mark ∉ text := fun member => avoids mark member bars

theorem Avoids.ne {barred text : List Char} (avoids : Avoids barred text) {mark : Char}
    (bars : mark ∈ barred) : ∀ c ∈ text, c ≠ mark := fun c member same =>
  avoids c member (same ▸ bars)

theorem Avoids.fewer {barred others text : List Char} (avoids : Avoids barred text)
    (fewer : others ⊆ barred) : Avoids others text := fun c member there =>
  avoids c member (fewer there)

/-- A literal text, in which nothing has a meaning of its own. -/
structure Literal where
  chars : List Char
  plain : Avoids ['<', '>', '{', '}', '(', '\\', '^', '$'] chars

/-- The name of a parameter. -/
structure Name where
  chars : List Char
  nonempty : chars ≠ []
  plain : Avoids [':', '<', '>', '{', '}', '/', '\\', '^', '$'] chars

/-- A converter, built-in or not. -/
structure Converter where
  chars : List Char
  nonempty : chars ≠ []
  plain : Avoids [':', '<', '>', '{', '}', '\\', '^', '$'] chars

/-- A piece of a native path. -/
inductive Piece where
  | literal (text : Literal)
  | angle (converter : Option Converter) (name : Name)
  | ready (name : Name)

/-- What stands between angle brackets. -/
def label : Option Converter → Name → List Char
  | none, name => name.chars
  | some converter, name => converter.chars ++ ':' :: name.chars

namespace Piece

/-- How the piece is written in a native path. -/
def written : Piece → List Char
  | .literal text => text.chars
  | .angle converter name => '<' :: (label converter name ++ ['>'])
  | .ready name => placeholder name.chars

/-- How the piece is written in a template. -/
def templated : Piece → List Char
  | .literal text => text.chars
  | .angle _ name => placeholder name.chars
  | .ready name => placeholder name.chars

/-- The name of the parameter, if the piece is one. -/
def name? : Piece → Option (List Char)
  | .literal _ => none
  | .angle _ name => some name.chars
  | .ready name => some name.chars

end Piece

/-- The native path of some pieces. -/
def nativePath (pieces : List Piece) : String := String.ofList (pieces.flatMap Piece.written)

/-- The literal texts and placeholders of some pieces, before anything is done about slashes. -/
def skeleton (pieces : List Piece) : List Char := pieces.flatMap Piece.templated

/-! ### Pieces -/

section Pieces

variable {converter : Option Converter} {name : Name}

theorem label_ne_nil : label converter name ≠ [] := by
  cases converter with
  | none => exact name.nonempty
  | some converter => exact List.append_ne_nil_of_left_ne_nil converter.nonempty _

theorem label_avoids : Avoids ['<', '>', '{', '}', '\\', '^', '$'] (label converter name) := by
  have named : Avoids ['<', '>', '{', '}', '\\', '^', '$'] name.chars := name.plain.fewer (by simp)
  cases converter with
  | none => exact named
  | some converter =>
      have colon : Avoids ['<', '>', '{', '}', '\\', '^', '$'] [':'] := by decide
      exact (converter.plain.fewer (by simp)).append (colon.append named)

/-- The name is what is left of a label without its converter. -/
theorem withoutConverter_label : withoutConverter (label converter name) = name.chars := by
  have named : ∀ c ∈ name.chars, c ≠ ':' := name.plain.ne (by simp)
  have nonempty := name.nonempty
  cases converter with
  | none =>
      have all : (name.chars.takeWhile (· ≠ ':')) = name.chars :=
        List.takeWhile_eq_self_iff.2 fun c member => by simpa using named c member
      simp only [withoutConverter, label, all]
      simp
  | some converter =>
      have colonless : ∀ c ∈ converter.chars, c ≠ ':' := converter.plain.ne (by simp)
      have start : ((converter.chars ++ ':' :: name.chars).takeWhile (· ≠ ':')) =
          converter.chars := by
        rw [List.takeWhile_append_of_pos fun c member => by simpa using colonless c member]
        simp
      have rest : (converter.chars ++ ':' :: name.chars).drop (converter.chars.length + 1) =
          name.chars := by
        rw [List.drop_append]
        simp
      simp only [withoutConverter, label, start, rest]
      simp [nonempty, converter.nonempty]

/-- What is in brackets is found if there is something and the bracket does not close before. -/
theorem inside?_closed {close : Char} {inner rest : List Char} (nonempty : inner ≠ [])
    (unclosed : close ∉ inner) : Text.inside? close (inner ++ close :: rest) = some inner := by
  have start : ((inner ++ close :: rest).takeWhile (· ≠ close)) = inner := by
    rw [List.takeWhile_append_of_pos fun c member => by
      simpa using fun same : c = close => unclosed (same ▸ member)]
    simp
  simp only [Text.inside?, start]
  simp [nonempty]

end Pieces

/-! ### Anchors and groups -/

/-- There are no anchors in a piece. -/
theorem written_avoids (piece : Piece) : Avoids ['^', '$'] piece.written := by
  cases piece with
  | literal text => exact text.plain.fewer (by simp)
  | angle converter name =>
      have opening : Avoids ['^', '$'] ['<'] := by decide
      have inside : Avoids ['^', '$'] (label converter name) := label_avoids.fewer (by simp)
      exact opening.append (inside.append (by decide))
  | ready name =>
      have opening : Avoids ['^', '$'] ['{'] := by decide
      have inside : Avoids ['^', '$'] name.chars := name.plain.fewer (by simp)
      exact (opening.append inside).append (by decide)

/-- There are no anchors in a native path. -/
theorem filter_anchors_native (pieces : List Piece) :
    (pieces.flatMap Piece.written).filter (fun c => c ≠ '^' && c ≠ '$') =
      pieces.flatMap Piece.written := by
  rw [List.filter_eq_self]
  intro c member
  obtain ⟨piece, _, inside⟩ := List.mem_flatMap.1 member
  simpa using written_avoids piece c inside

/-- A group or an escape begins with a parenthesis or a backslash. -/
theorem groupRule_idle {c : Char} {rest : List Char} (plain : c ≠ '(') (unescaped : c ≠ '\\') :
    groupRule (c :: rest) = none := by
  cases rest with
  | nil => simp [groupRule]
  | cons d rest => simp [groupRule, plain, unescaped]

/-- No group begins in a text without angle brackets that is followed by the end of a placeholder. -/
theorem groupRule_idle_of_closed {c close : Char} {after rest : List Char}
    (plain : Avoids ['<', '\\'] (c :: after)) (closes : close ∉ ['(', '?', 'P', '<']) :
    groupRule (c :: (after ++ close :: rest)) = none := by
  have unescaped : c ≠ '\\' := fun same => plain c List.mem_cons_self (by simp [same])
  -- A parenthesis may stand in a name, so what follows it must be looked at. Wherever the closing
  -- character is, it comes before `?P<` is complete, or the angle bracket stands in the name.
  have notOpened : ¬ ['?', 'P', '<'] <+: after ++ close :: rest := by
    rintro ⟨tail, split⟩
    match after with
    | [] =>
        obtain ⟨rfl, _⟩ := List.cons_eq_cons.1 split
        exact closes (by decide)
    | [_] =>
        obtain ⟨rfl, _⟩ : 'P' = close ∧ _ := by simpa using (List.cons_eq_cons.1 split).2
        exact closes (by decide)
    | [_, _] =>
        obtain ⟨_, rfl, _⟩ : 'P' = _ ∧ '<' = close ∧ _ := by
          simpa using (List.cons_eq_cons.1 split).2
        exact closes (by decide)
    | _ :: _ :: third :: _ =>
        obtain ⟨_, rfl, _⟩ : 'P' = _ ∧ '<' = third ∧ _ := by
          simpa using (List.cons_eq_cons.1 split).2
        exact plain '<' (by simp) (by simp)
  by_cases paren : c = '('
  · subst paren
    cases applies : groupRule ('(' :: (after ++ close :: rest)) with
    | none => rfl
    | some find =>
        exfalso
        unfold groupRule at applies
        split at applies
        · next escaped => cases escaped
        · next opened =>
            apply notOpened
            exact ⟨_, (List.tail_eq_of_cons_eq opened).symm⟩
        · cases applies
  · exact groupRule_idle paren unescaped

/-- What stands in a placeholder stays, as does the end of it. -/
theorem replaceGroups_closed {close : Char} {inner rest : List Char}
    (plain : Avoids ['<', '\\'] inner) (closes : close ∉ ['(', '?', 'P', '<', '\\']) :
    Text.replace groupRule (inner ++ close :: rest) =
      inner ++ close :: Text.replace groupRule rest := by
  have ends : groupRule (close :: rest) = none := by
    apply groupRule_idle
    · intro same
      exact closes (by simp [same])
    · intro same
      exact closes (by simp [same])
  rw [← Text.replace_cons_of_none ends]
  apply Text.replace_append_of_idle
  intro before c after split
  apply groupRule_idle_of_closed
  · intro d member
    exact plain d (by rw [split]; exact List.mem_append_right _ member)
  · intro member
    exact closes (by simp_all)

/-- There are no groups and no escapes in a native path. -/
theorem replaceGroups_native (pieces : List Piece) :
    replaceGroups (pieces.flatMap Piece.written) = pieces.flatMap Piece.written := by
  apply Text.replace_flatMap
  intro piece rest
  cases piece with
  | literal text =>
      apply Text.replace_append_of_absent
      intro c member after
      apply groupRule_idle
      · exact text.plain.ne (by simp) c member
      · exact text.plain.ne (by simp) c member
  | angle converter name =>
      have plain : Avoids ['<', '\\'] (label converter name) := label_avoids.fewer (by simp)
      have opens : ∀ after, groupRule ('<' :: after) = none := fun _ =>
        groupRule_idle (by decide) (by decide)
      have closed := @replaceGroups_closed '>' _ rest plain (by decide)
      simp only [Piece.written, List.cons_append, List.append_assoc, List.nil_append]
      rw [Text.replace_cons_of_none (opens _), closed]
  | ready name =>
      have plain : Avoids ['<', '\\'] name.chars := name.plain.fewer (by simp)
      have opens : ∀ after, groupRule ('{' :: after) = none := fun _ =>
        groupRule_idle (by decide) (by decide)
      have closed := @replaceGroups_closed '}' _ rest plain (by decide)
      simp only [Piece.written, placeholder, List.cons_append, List.append_assoc, List.nil_append]
      rw [Text.replace_cons_of_none (opens _), closed]

/-! ### Converters -/

/-- Two ways to cut a text in front of a mark are the same, if neither mark stands before the other. -/
theorem eq_of_append_cons_eq {α : Type} {front other rest more : List α} {mark another : α}
    (absent : another ∉ front) (absentOther : mark ∉ other)
    (same : front ++ mark :: rest = other ++ another :: more) : front = other ∧ mark = another := by
  induction front generalizing other with
  | nil =>
      cases other with
      | nil => exact ⟨rfl, List.head_eq_of_cons_eq same⟩
      | cons head tail =>
          have first : mark = head := List.head_eq_of_cons_eq same
          exact absurd (first ▸ List.mem_cons_self) absentOther
  | cons head tail ih =>
      cases other with
      | nil =>
          have first : head = another := List.head_eq_of_cons_eq same
          exact absurd (first ▸ List.mem_cons_self) absent
      | cons first others =>
          obtain ⟨heads, tails⟩ := List.cons_eq_cons.1 same
          obtain ⟨fronts, marks⟩ := ih (fun member => absent (List.mem_cons_of_mem _ member))
            (fun member => absentOther (List.mem_cons_of_mem _ member)) tails
          exact ⟨by rw [heads, fronts], marks⟩

/-- A search that answers the same for all members with a property, and nothing for the others. -/
theorem findSome?_of_agree {α β : Type} {p : α → Prop} [DecidablePred p] {f : α → Option β}
    {list : List α} (value : β) (agree : ∀ a ∈ list, f a = if p a then some value else none) :
    list.findSome? f = if ∃ a ∈ list, p a then some value else none := by
  induction list with
  | nil => simp
  | cons head rest ih =>
      have others := ih fun a member => agree a (List.mem_cons_of_mem _ member)
      rw [List.findSome?_cons, agree head List.mem_cons_self]
      by_cases here : p head
      · simp [here]
      · simp [here, others]

/-- The converter is one of the built-in ones. -/
def Converter.IsBuiltIn (converter : Converter) : Prop :=
  ∃ known ∈ converters, known.toList = converter.chars

instance (converter : Converter) : Decidable converter.IsBuiltIn :=
  inferInstanceAs (Decidable (∃ known ∈ converters, known.toList = converter.chars))

theorem converters_colonless : ∀ known ∈ converters, ':' ∉ known.toList := by decide

theorem converters_bracketless : ∀ known ∈ converters, '>' ∉ known.toList := by decide

/-- Only an angle bracket opens a parameter. -/
theorem converterRule_idle {c : Char} {rest : List Char} (plain : c ≠ '<') :
    converterRule (c :: rest) = none := by
  simp [converterRule, plain]

/-- No converter is found where there is none. -/
theorem converterRule_bare (name : Name) (rest : List Char) :
    converterRule ('<' :: (name.chars ++ '>' :: rest)) = none := by
  have colonless : ':' ∉ name.chars := name.plain.absent (by simp)
  rw [converterRule, List.findSome?_eq_none_iff]
  intro known member
  have absent : Text.dropPrefix? (known.toList ++ [':']) (name.chars ++ '>' :: rest) = none := by
    rw [Option.eq_none_iff_forall_ne_some]
    intro named found
    have split := (Text.dropPrefix?_eq_some_iff _ _ _).1 found
    rw [List.append_assoc, List.singleton_append] at split
    have marks := (eq_of_append_cons_eq colonless (converters_bracketless known member) split).2
    exact absurd marks (by decide)
  rw [absent]

/-- A parameter is found if its converter is a built-in one. -/
theorem converterRule_converted (converter : Converter) (name : Name) (rest : List Char) :
    converterRule ('<' :: (label (some converter) name ++ '>' :: rest)) =
      if converter.IsBuiltIn then
        some ((label (some converter) name ++ ['>']).length, placeholder name.chars)
      else none := by
  have colonless : ':' ∉ converter.chars := converter.plain.absent (by simp)
  have unclosed : '>' ∉ name.chars := name.plain.absent (by simp)
  refine findSome?_of_agree _ fun known member => ?_
  by_cases same : known.toList = converter.chars
  · have found : Text.dropPrefix? (known.toList ++ [':'])
        (label (some converter) name ++ '>' :: rest) = some (name.chars ++ '>' :: rest) := by
      rw [Text.dropPrefix?_eq_some_iff]
      simp [label, same]
    have long : known.length = converter.chars.length := by
      rw [← same, String.length_toList]
    simp only [found, inside?_closed name.nonempty unclosed, Option.map_some, if_pos same, long]
    simp [label]
    omega
  · have absent : Text.dropPrefix? (known.toList ++ [':'])
        (label (some converter) name ++ '>' :: rest) = none := by
      rw [Option.eq_none_iff_forall_ne_some]
      intro named found
      have split := (Text.dropPrefix?_eq_some_iff _ _ _).1 found
      simp only [label, List.append_assoc, List.cons_append] at split
      have fronts := (eq_of_append_cons_eq colonless (converters_colonless known member) split).1
      exact same fronts.symm
    simp only [absent, if_neg same]

/-- A piece after the built-in converters have been dealt with. -/
def Piece.settled : Piece → Piece
  | .literal text => .literal text
  | .angle none name => .angle none name
  | .angle (some converter) name =>
      if converter.IsBuiltIn then .ready name else .angle (some converter) name
  | .ready name => .ready name

/-- A rule that needs an angle bracket leaves literal texts and placeholders as they are. -/
theorem replace_unopened {rule : Text.Rule (List Char)} {front rest : List Char}
    (idle : ∀ c after, c ≠ '<' → rule (c :: after) = none) (unopened : Avoids ['<'] front) :
    Text.replace rule (front ++ rest) = front ++ Text.replace rule rest := by
  apply Text.replace_append_of_absent
  intro c member after
  exact idle c after (unopened.ne (by simp) c member)

theorem placeholder_avoids (name : Name) : Avoids ['<'] (placeholder name.chars) := by
  have opening : Avoids ['<'] ['{'] := by decide
  have inside : Avoids ['<'] name.chars := name.plain.fewer (by simp)
  exact (opening.append inside).append (by decide)

/-- Parameters with a built-in converter become placeholders, and no others. -/
theorem replace_converterRule_native (pieces : List Piece) :
    Text.replace converterRule (pieces.flatMap Piece.written) =
      (pieces.map Piece.settled).flatMap Piece.written := by
  rw [List.flatMap_map]
  apply Text.replace_flatMap
  intro piece rest
  have idle : ∀ c after, c ≠ '<' → converterRule (c :: after) = none := fun _ _ plain =>
    converterRule_idle plain
  cases piece with
  | literal text => exact replace_unopened idle (text.plain.fewer (by simp))
  | ready name => exact replace_unopened idle (placeholder_avoids name)
  | angle converter name =>
      have kept : ∀ {inner : List Char}, Avoids ['<'] inner →
          Text.replace converterRule (inner ++ '>' :: rest) =
            inner ++ '>' :: Text.replace converterRule rest := fun unopened => by
        rw [replace_unopened idle unopened, Text.replace_cons_of_none (idle _ _ (by decide))]
      simp only [Piece.written, List.cons_append, List.append_assoc, List.nil_append]
      cases converter with
      | none =>
          have bare := converterRule_bare name rest
          rw [label, Text.replace_cons_of_none bare, kept (name.plain.fewer (by simp))]
          simp [Piece.settled, label]
      | some converter =>
          have converted := converterRule_converted converter name rest
          by_cases builtIn : converter.IsBuiltIn
          · rw [if_pos builtIn] at converted
            rw [Text.replace_cons_of_some converted]
            simp [Piece.settled, builtIn]
          · rw [if_neg builtIn] at converted
            rw [Text.replace_cons_of_none converted, kept (label_avoids.fewer (by simp))]
            simp [Piece.settled, builtIn]

/-! ### Angle brackets -/

/-- Only an angle bracket opens a parameter. -/
theorem angleRule_idle {c : Char} {rest : List Char} (plain : c ≠ '<') :
    angleRule (c :: rest) = none := by
  simp [angleRule, plain]

/-- Everything in angle brackets becomes a placeholder. -/
theorem replace_angleRule_native (pieces : List Piece) :
    Text.replace angleRule (pieces.flatMap Piece.written) = skeleton pieces := by
  apply Text.replace_flatMap
  intro piece rest
  have idle : ∀ c after, c ≠ '<' → angleRule (c :: after) = none := fun _ _ plain =>
    angleRule_idle plain
  cases piece with
  | literal text => exact replace_unopened idle (text.plain.fewer (by simp))
  | ready name => exact replace_unopened idle (placeholder_avoids name)
  | angle converter name =>
      have found : angleRule ('<' :: (label converter name ++ '>' :: rest)) =
          some ((label converter name ++ ['>']).length, placeholder name.chars) := by
        have unclosed : '>' ∉ label converter name := label_avoids.absent (by simp)
        simp [angleRule, inside?_closed label_ne_nil unclosed, withoutConverter_label]
      simp only [Piece.written, List.cons_append, List.append_assoc, List.nil_append]
      rw [Text.replace_cons_of_some found]
      simp [Piece.templated]

/-- What became a placeholder earlier stays one. -/
theorem skeleton_settled (pieces : List Piece) :
    skeleton (pieces.map Piece.settled) = skeleton pieces := by
  rw [skeleton, skeleton, List.flatMap_map]
  congr 1
  funext piece
  cases piece with
  | literal text => rfl
  | ready name => rfl
  | angle converter name =>
      cases converter with
      | none => rfl
      | some converter =>
          by_cases builtIn : converter.IsBuiltIn
          · simp [Piece.settled, Piece.templated, builtIn]
          · simp [Piece.settled, Piece.templated, builtIn]

/-! ### Templates -/

/-- A placeholder is met, and then what is met after it. -/
theorem Scans.placeholder_append (name : Name) {rest : List Char} {names : List (List Char)}
    (scans : Scans rest names) : Scans (placeholder name.chars ++ rest) (name.chars :: names) := by
  refine .found ⟨name.nonempty, fun c member => ?_, by simp [placeholder]⟩ scans
  exact ⟨name.plain.ne (by simp) c member, name.plain.ne (by simp) c member⟩

/-- The placeholders that are met in the skeleton are the names of the parameters. -/
theorem scans_skeleton (pieces : List Piece) :
    Scans (skeleton pieces) (pieces.filterMap Piece.name?) := by
  induction pieces with
  | nil => exact .done
  | cons piece rest ih =>
      cases piece with
      | angle converter name => exact ih.placeholder_append name
      | ready name => exact ih.placeholder_append name
      | literal text => exact ih.append_braceless (text.plain.absent (by simp))

/-- The template of a native path is its skeleton with single slashes. -/
theorem toList_template_nativePath (pieces : List Piece) :
    (template (nativePath pieces)).toList =
      '/' :: ((skeleton pieces).destutter Apart).dropWhile (· = '/') := by
  rw [template, String.toList_ofList, templateChars, nativePath, String.toList_ofList]
  simp only [filter_anchors_native, replaceGroups_native, replace_converterRule_native,
    replace_angleRule_native, skeleton_settled, collapseSlashes_eq_destutter]

/-- A path of literal texts and placeholders that begins with a slash and has no slashes in a row is its
own template. -/
theorem template_eq_self {pieces : List Piece} {rest : List Char}
    (settled : skeleton pieces = pieces.flatMap Piece.written)
    (split : skeleton pieces = '/' :: rest) (apart : (skeleton pieces).IsChain Apart) :
    template (nativePath pieces) = nativePath pieces := by
  apply String.toList_inj.1
  rw [toList_template_nativePath, List.destutter_of_isChain _ _ apart, nativePath,
    String.toList_ofList, ← settled, split]
  rw [split] at apart
  cases rest with
  | nil => rfl
  | cons next rest =>
      have single : next ≠ '/' := fun same => (List.isChain_cons.1 apart).1 next rfl ⟨rfl, same⟩
      simp [single]

theorem parametersOf_nativePath (pieces : List Piece) :
    parametersOf (template (nativePath pieces)) =
      (pieces.filterMap Piece.name?).eraseDups.map String.ofList := by
  apply parametersOf_scans
  rw [toList_template_nativePath, ← collapseSlashes_eq_destutter]
  exact (scans_skeleton pieces).collapse.dropSlashes.cons_slash

/-- A route under some paths has the path that these make together with its own one. -/
theorem path_foldr_under (starts : List String) (route : Route) :
    (starts.foldr Route.under route).path = String.join starts ++ route.path := by
  induction starts with
  | nil => simp
  | cons start rest ih =>
      rw [List.foldr_cons, Route.under_path, ih, String.join_cons, String.append_assoc]

/-- The template of a native path that is put together of literal texts, parameters in angle brackets
and placeholders begins with a slash, after which come the literal texts and a placeholder for every
parameter, without the slashes at the beginning and with one slash for every run of them. Its
parameters are the names, each once, in order of first occurrence. So it is the same for all
converters, and for all ways in which the path comes about by putting a route under other paths. -/
theorem template_nativePath (pieces : List Piece) :
    (template (nativePath pieces)).toList =
        '/' :: ((pieces.flatMap Piece.templated).destutter Apart).dropWhile (· = '/') ∧
      parametersOf (template (nativePath pieces)) =
        (pieces.filterMap Piece.name?).eraseDups.map String.ofList ∧
      (∀ others : List Piece, others.map Piece.templated = pieces.map Piece.templated →
        template (nativePath others) = template (nativePath pieces)) ∧
      ∀ (starts : List String) (route : Route), String.join starts ++ route.path = nativePath pieces →
        template (starts.foldr Route.under route).path = template (nativePath pieces) := by
  refine ⟨toList_template_nativePath pieces, parametersOf_nativePath pieces, ?_, ?_⟩
  · intro others same
    have skeletons : skeleton others = skeleton pieces := by
      rw [skeleton, skeleton, List.flatMap_def, List.flatMap_def, same]
    apply String.toList_inj.1
    rw [toList_template_nativePath, toList_template_nativePath, skeletons]
  · intro starts route path
    rw [path_foldr_under, path]

example : template "blog//<yyyy:year>/<int:pk>/{tag}" = "/blog/{year}/{pk}/{tag}" := by
  decide +kernel

/-- The pieces of a path with a converter in it. -/
def taggedPieces (converter : Converter) : List Piece :=
  [.literal ⟨"blog//".toList, by decide⟩,
    .angle (some converter) ⟨"pk".toList, by decide, by decide⟩,
    .ready ⟨"tag".toList, by decide, by decide⟩]

/-- A built-in converter. -/
def slugConverter : Converter := ⟨"slug".toList, by decide, by decide⟩

/-- A converter of a project. -/
def codeConverter : Converter := ⟨"code".toList, by decide, by decide⟩

/-- A route of which the path is only the rest of one. -/
def taggedRoute : Route := ⟨"/<code:pk>\x7btag\x7d", .get, "tagged", "GET", [], none⟩

theorem taggedPieces_template :
    (taggedPieces slugConverter).map Piece.templated =
        (taggedPieces codeConverter).map Piece.templated ∧
      template (nativePath (taggedPieces slugConverter)) =
        template (nativePath (taggedPieces codeConverter)) ∧
      String.join ["blog", "/"] ++ taggedRoute.path = nativePath (taggedPieces codeConverter) ∧
      template (["blog", "/"].foldr Route.under taggedRoute).path =
        template (nativePath (taggedPieces codeConverter)) := by
  obtain ⟨_, _, converted, placed⟩ := template_nativePath (taggedPieces codeConverter)
  have same : (taggedPieces slugConverter).map Piece.templated =
      (taggedPieces codeConverter).map Piece.templated := by
    decide
  have split : String.join ["blog", "/"] ++ taggedRoute.path =
      nativePath (taggedPieces codeConverter) := by
    decide +kernel
  exact ⟨same, converted _ same, split, placed _ _ split⟩

end RouteAtlas.Url
