/-
Module: RouteAtlas.Proofs.Url.Joining
Layer: Proofs
Purpose: Paths that are continued. Nothing that is done to a path goes over the end of a literal text or
  of a whole placeholder, so the template of a path that is made of these is the beginning of the template
  of every plain continuation of it. Slashes at the end of such a path can be taken away.
Trusted boundary: none
Main exports: rewritten, Closed, Closed.append, Settles, Settles.replace, closed_angle, closed_braced,
  Whole, Whole.closed, Whole.append, Whole.trimEnd, whole_nativePath, template_append
-/
import RouteAtlas.Proofs.Url.Anchors
import RouteAtlas.Text.Blank

namespace RouteAtlas.Url

/-! ### Texts that are rewritten on their own -/

/-- A path after everything that is done to it but for slashes. -/
def rewritten (path : List Char) : List Char := replaceBrackets (replaceGroups (unanchored path))

/-- A text is rewritten on its own, whatever follows it. -/
def Closed (text : List Char) : Prop :=
  ∀ rest, rewritten (text ++ rest) = rewritten text ++ rewritten rest

theorem templateChars_eq (path : List Char) :
    templateChars path = '/' :: (collapseSlashes (rewritten path)).dropWhile (· = '/') := rfl

/-- What a closed text becomes need not be known: it is enough that it does not depend on the rest. -/
theorem closed_of_shown {text : List Char} (shown : List Char)
    (same : ∀ rest, rewritten (text ++ rest) = shown ++ rewritten rest) : Closed text := by
  have alone : rewritten text = shown := by
    have empty := same []
    rwa [List.append_nil, show rewritten [] = [] from rfl, List.append_nil] at empty
  intro rest
  rw [same, alone]

theorem closed_nil : Closed [] := fun _ => rfl

theorem Closed.append {text other : List Char} (closed : Closed text) (also : Closed other) :
    Closed (text ++ other) := by
  intro rest
  rw [List.append_assoc, closed, also, closed, List.append_assoc]

/-- A text in which nothing has a meaning of its own stays as it is. -/
theorem rewritten_plain {text : List Char} (plain : Avoids ['<', '(', '\\', '^', '$'] text)
    (rest : List Char) : rewritten (text ++ rest) = text ++ rewritten rest := by
  have kept : replaceGroups (text ++ unanchored rest) = text ++ replaceGroups (unanchored rest) := by
    apply Text.replace_append_of_absent
    intro c member after
    exact groupRule_idle (plain.ne (by simp) c member) (plain.ne (by simp) c member)
  rw [rewritten, unanchored_append, unanchored_eq_self (plain.fewer (by simp)), kept,
    replaceBrackets_append (plain.fewer (by simp))]
  rfl

theorem rewritten_eq_self {text : List Char} (plain : Avoids ['<', '(', '\\', '^', '$'] text) :
    rewritten text = text := by
  have alone := rewritten_plain plain []
  rwa [List.append_nil, show rewritten [] = [] from rfl, List.append_nil] at alone

theorem closed_plain {text : List Char} (plain : Avoids ['<', '(', '\\', '^', '$'] text) :
    Closed text := closed_of_shown text (rewritten_plain plain)

/-! ### Placeholders -/

section Bracket

variable {inner : List Char}

/-- A beginning that does not reach a mark is looked for before the mark alone. -/
theorem dropPrefix?_append_cons {start : List Char} {mark : Char} (absent : mark ∉ start)
    (inner rest : List Char) :
    Text.dropPrefix? start (inner ++ mark :: rest) =
      (Text.dropPrefix? start inner).map (· ++ mark :: rest) := by
  induction start generalizing inner with
  | nil => rfl
  | cons s start ih =>
      obtain ⟨other, later⟩ : s ≠ mark ∧ mark ∉ start := by
        constructor
        · rintro rfl
          exact absent List.mem_cons_self
        · exact fun member => absent (List.mem_cons_of_mem s member)
      cases inner with
      | nil => simp [Text.dropPrefix?, other]
      | cons c inner =>
          rw [List.cons_append, Text.dropPrefix?, Text.dropPrefix?, ih later]
          split
          · rfl
          · rfl

/-- What a rule for angle brackets makes of a bracket does not depend on what follows it: either nothing,
or a placeholder in the place of all of it. -/
def Settles (rule : Text.Rule (List Char)) (inner : List Char) : Prop :=
  (∀ rest, rule ('<' :: (inner ++ '>' :: rest)) = none) ∨
    ∃ name, '<' ∉ name ∧ ∀ rest,
      rule ('<' :: (inner ++ '>' :: rest)) = some (inner.length + 1, placeholder name)

/-- What is inside a bracket is found unless there is nothing. -/
theorem inside?_bracket (unclosed : '>' ∉ inner) (rest : List Char) :
    Text.inside? '>' (inner ++ '>' :: rest) = if inner = [] then none else some inner := by
  by_cases empty : inner = []
  · subst empty
    simp [Text.inside?]
  · rw [if_neg empty, inside?_closed empty unclosed]

/-- The part of the rule for converters that is about one of them. -/
theorem converter_settles {converter : String} (bracketless : '>' ∉ converter.toList)
    (unclosed : '>' ∉ inner) (rest : List Char) :
    (match Text.dropPrefix? (converter.toList ++ [':']) (inner ++ '>' :: rest) with
      | none => none
      | some named => (Text.inside? '>' named).map fun name =>
          (converter.length + 1 + name.length + 1, placeholder name)) =
      (Text.dropPrefix? (converter.toList ++ [':']) inner).bind fun name =>
        if name = [] then none else some (inner.length + 1, placeholder name) := by
  have absent : '>' ∉ converter.toList ++ [':'] := by simpa using bracketless
  rw [dropPrefix?_append_cons absent]
  cases found : Text.dropPrefix? (converter.toList ++ [':']) inner with
  | none => rfl
  | some name =>
      have split := (Text.dropPrefix?_eq_some_iff _ _ _).1 found
      have size : inner.length = converter.length + 1 + name.length := by
        rw [split, List.length_append, List.length_append, String.length_toList]
        rfl
      have unclosedName : '>' ∉ name := fun member =>
        unclosed (split ▸ List.mem_append_right _ member)
      rw [Option.map_some, Option.bind_some]
      dsimp only
      rw [inside?_bracket unclosedName, size]
      split
      · rfl
      · rfl

theorem converterRule_settles (plain : Avoids ['<', '>'] inner) : Settles converterRule inner := by
  have settled : ∀ rest, converterRule ('<' :: (inner ++ '>' :: rest)) =
      (converters.filterMap fun converter =>
        (Text.dropPrefix? (converter.toList ++ [':']) inner).bind fun name =>
          if name = [] then none else some (inner.length + 1, placeholder name)).head? := by
    intro rest
    rw [converterRule, ← List.head?_filterMap]
    congr 1
    exact List.filterMap_congr fun converter member =>
      converter_settles (converters_bracketless converter member) (plain.absent (by simp)) rest
  cases answer : (converters.filterMap fun converter =>
      (Text.dropPrefix? (converter.toList ++ [':']) inner).bind fun name =>
        if name = [] then none else some (inner.length + 1, placeholder name)).head? with
  | none => exact .inl fun rest => (settled rest).trans answer
  | some find =>
      obtain ⟨converter, _, found⟩ := List.mem_filterMap.1 (List.mem_of_head? answer)
      obtain ⟨name, dropped, same⟩ := Option.bind_eq_some_iff.1 found
      obtain ⟨_, same⟩ := Option.ite_none_left_eq_some.1 same
      have split := (Text.dropPrefix?_eq_some_iff _ _ _).1 dropped
      refine .inr ⟨name, fun member => ?_, fun rest => ?_⟩
      · exact plain.absent (by simp) (split ▸ List.mem_append_right _ member)
      · rw [settled, answer, ← same]

theorem angleRule_settles (plain : Avoids ['<', '>'] inner) : Settles angleRule inner := by
  have settled : ∀ rest, angleRule ('<' :: (inner ++ '>' :: rest)) =
      if inner = [] then none else some (inner.length + 1, placeholder (withoutConverter inner)) := by
    intro rest
    rw [angleRule, inside?_bracket (plain.absent (by simp))]
    split
    · rfl
    · rfl
  by_cases empty : inner = []
  · exact .inl fun rest => by rw [settled, if_pos empty]
  · refine .inr ⟨withoutConverter inner, fun member => ?_, fun rest => by rw [settled, if_neg empty]⟩
    have there : '<' ∈ inner := by
      rw [withoutConverter] at member
      split at member
      · exact member
      · exact List.mem_of_mem_drop member
    exact plain.absent (by simp) there

/-- Such a rule leaves the bracket or puts something without brackets in its place, and then goes on with
what follows it. -/
theorem Settles.replace {rule : Text.Rule (List Char)} (settles : Settles rule inner)
    (idle : ∀ c after, c ≠ '<' → rule (c :: after) = none) (plain : Avoids ['<'] inner) :
    ∃ shown, (shown = '<' :: (inner ++ ['>']) ∨ Avoids ['<'] shown) ∧ ∀ rest,
      Text.replace rule ('<' :: (inner ++ '>' :: rest)) = shown ++ Text.replace rule rest := by
  rcases settles with nothing | ⟨name, unopened, found⟩
  · refine ⟨_, .inl rfl, fun rest => ?_⟩
    have inside := @replace_unopened rule (inner ++ ['>']) rest idle (plain.append (by decide))
    rw [List.append_assoc, List.singleton_append] at inside
    rw [Text.replace_cons_of_none (nothing rest), inside, List.cons_append]
  · refine ⟨placeholder name, .inr fun c member => ?_, fun rest => ?_⟩
    · rcases mem_placeholder member with inside | rfl | rfl
      · exact fun bracket => unopened (List.mem_singleton.1 bracket ▸ inside)
      · decide
      · decide
    · have behind : (inner ++ '>' :: rest).drop (inner.length + 1) = rest := by
        rw [List.drop_append]
        simp
      rw [Text.replace_cons_of_some (found rest), behind]

theorem exists_replaceBrackets (plain : Avoids ['<', '>'] inner) :
    ∃ shown, ∀ rest,
      replaceBrackets ('<' :: (inner ++ '>' :: rest)) = shown ++ replaceBrackets rest := by
  have noOpening : Avoids ['<'] inner := plain.fewer (by simp)
  obtain ⟨first, kept, converted⟩ := (converterRule_settles plain).replace
    (fun _ _ => converterRule_idle) noOpening
  obtain ⟨last, _, replaced⟩ := (angleRule_settles plain).replace
    (fun _ _ => angleRule_idle) noOpening
  rcases kept with rfl | unopened
  · refine ⟨last, fun rest => ?_⟩
    rw [replaceBrackets, converted, List.cons_append, List.append_assoc, List.singleton_append,
      replaced]
    rfl
  · refine ⟨first, fun rest => ?_⟩
    rw [replaceBrackets, converted, replace_unopened (fun _ _ => angleRule_idle) unopened]
    rfl

theorem unanchored_avoids {barred : List Char} (plain : Avoids barred inner) :
    Avoids barred (unanchored inner) := fun c member => plain c (List.mem_of_mem_filter member)

/-- A parameter in angle brackets is rewritten on its own. -/
theorem closed_angle (plain : Avoids ['<', '>', '\\'] inner) : Closed ('<' :: (inner ++ ['>'])) := by
  have bare : Avoids ['<', '>', '\\'] (unanchored inner) := unanchored_avoids plain
  obtain ⟨shown, replaced⟩ := exists_replaceBrackets (bare.fewer (by simp))
  refine closed_of_shown shown fun rest => ?_
  have text : unanchored ('<' :: (inner ++ ['>']) ++ rest) =
      '<' :: (unanchored inner ++ '>' :: unanchored rest) := by
    rw [unanchored_append, ← List.singleton_append, unanchored_append, unanchored_append]
    simp [unanchored]
  have groups : replaceGroups ('<' :: (unanchored inner ++ '>' :: unanchored rest)) =
      '<' :: (unanchored inner ++ '>' :: replaceGroups (unanchored rest)) := by
    rw [replaceGroups_plain (by decide) (by decide)]
    exact congrArg _ (replaceGroups_closed (bare.fewer (by simp)) (by decide))
  rw [rewritten, text, groups, replaced]
  rfl

/-- A placeholder in braces is rewritten on its own. -/
theorem closed_braced (plain : Avoids ['<', '\\'] inner) : Closed ('{' :: (inner ++ ['}'])) := by
  have bare : Avoids ['<', '\\'] (unanchored inner) := unanchored_avoids plain
  have unopened : Avoids ['<'] ('{' :: (unanchored inner ++ ['}'])) := by
    have opening : Avoids ['<'] ['{'] := by decide
    exact opening.append ((bare.fewer (by simp)).append (by decide))
  refine closed_of_shown ('{' :: (unanchored inner ++ ['}'])) fun rest => ?_
  have text : unanchored ('{' :: (inner ++ ['}']) ++ rest) =
      '{' :: (unanchored inner ++ '}' :: unanchored rest) := by
    rw [unanchored_append, ← List.singleton_append, unanchored_append, unanchored_append]
    simp [unanchored]
  have groups : replaceGroups ('{' :: (unanchored inner ++ '}' :: unanchored rest)) =
      '{' :: (unanchored inner ++ ['}']) ++ replaceGroups (unanchored rest) := by
    have inside := @replaceGroups_closed '}' _ (unanchored rest) bare (by decide)
    rw [replaceGroups_plain (by decide) (by decide), replaceGroups, inside]
    simp [replaceGroups]
  rw [rewritten, text, groups, replaceBrackets_append unopened]
  rfl

end Bracket

/-! ### Whole paths -/

/-- A path of literal characters and whole placeholders, which stand in angle brackets, with a converter or
without, or in braces. -/
inductive Whole : List Char → Prop where
  | done : Whole []
  | literal {c : Char} {rest : List Char}
      (plain : Avoids ['<', '>', '{', '}', '(', '\\', '^', '$'] [c]) (others : Whole rest) :
      Whole (c :: rest)
  | angle {inner rest : List Char} (plain : Avoids ['<', '>', '\\'] inner) (others : Whole rest) :
      Whole ('<' :: (inner ++ '>' :: rest))
  | braced {inner rest : List Char} (plain : Avoids ['<', '{', '}', '\\'] inner)
      (others : Whole rest) : Whole ('{' :: (inner ++ '}' :: rest))

namespace Whole

variable {path other : List Char}

theorem closed (whole : Whole path) : Closed path := by
  induction whole with
  | done => exact closed_nil
  | literal plain _ ih => exact (closed_plain (plain.fewer (by simp))).append ih
  | angle plain _ ih =>
      have both := (closed_angle plain).append ih
      rwa [List.cons_append, List.append_assoc, List.singleton_append] at both
  | braced plain _ ih =>
      have both := (closed_braced (plain.fewer (by simp))).append ih
      rwa [List.cons_append, List.append_assoc, List.singleton_append] at both

theorem append (whole : Whole path) (also : Whole other) : Whole (path ++ other) := by
  induction whole with
  | done => exact also
  | literal plain _ ih => exact .literal plain ih
  | angle plain _ ih =>
      rw [List.cons_append, List.append_assoc, List.cons_append]
      exact .angle plain ih
  | braced plain _ ih =>
      rw [List.cons_append, List.append_assoc, List.cons_append]
      exact .braced plain ih

/-- A slash at the end of a text is at the end of what stands behind any other mark. -/
theorem exists_behind {mark : Char} (noSlash : mark ≠ '/') (start : List Char) {rest : List Char}
    (together : path ++ ['/'] = start ++ mark :: rest) :
    ∃ less, path = start ++ mark :: less ∧ rest = less ++ ['/'] := by
  rcases List.eq_nil_or_concat rest with rfl | ⟨less, last, rfl⟩
  · have lasts := (List.append_inj' together rfl).2
    exact absurd (List.head_eq_of_cons_eq lasts).symm noSlash
  · rw [List.concat_eq_append, ← List.cons_append, ← List.append_assoc] at together
    obtain ⟨same, lasts⟩ := List.append_inj' together rfl
    exact ⟨less, same, by rw [List.concat_eq_append, lasts]⟩

/-- A path stays whole without a slash at its end. -/
theorem of_append_slash (whole : Whole (path ++ ['/'])) : Whole path := by
  generalize together : path ++ ['/'] = text at whole
  induction whole generalizing path with
  | done => exact absurd together (by simp)
  | @literal c rest plain others ih =>
      rcases List.append_eq_cons_iff.1 together with ⟨rfl, _⟩ | ⟨front, rfl, behind⟩
      · exact .done
      · exact .literal plain (ih behind.symm)
  | @angle inner rest plain others ih =>
      obtain ⟨less, rfl, behind⟩ := exists_behind (by decide) ('<' :: inner) together
      exact .angle plain (ih behind.symm)
  | @braced inner rest plain others ih =>
      obtain ⟨less, rfl, behind⟩ := exists_behind (by decide) ('{' :: inner) together
      exact .braced plain (ih behind.symm)

/-- A path stays whole without any of the slashes at its end. -/
theorem trimEnd (whole : Whole path) : Whole (Text.trimEndWhere (· = '/') path) := by
  induction path using List.reverseRecOn with
  | nil => exact whole
  | append_singleton front last ih =>
      rw [Text.trimEndWhere, List.reverse_append, List.reverse_singleton, List.singleton_append]
      by_cases slash : last = '/'
      · subst slash
        rw [List.dropWhile_cons_of_pos (by simp)]
        exact ih whole.of_append_slash
      · rw [List.dropWhile_cons_of_neg (by simpa using slash), List.reverse_cons, List.reverse_reverse]
        exact whole

theorem of_literal {text : List Char}
    (plain : Avoids ['<', '>', '{', '}', '(', '\\', '^', '$'] text) : Whole text := by
  induction text with
  | nil => exact .done
  | cons c rest ih =>
      refine .literal (fun d member => ?_) (ih fun d member => plain d (List.mem_cons_of_mem c member))
      exact plain d (List.mem_singleton.1 member ▸ List.mem_cons_self)

end Whole

/-- A native path of literal texts and parameters is whole. -/
theorem whole_nativePath (pieces : List Piece) : Whole (nativePath pieces).toList := by
  rw [nativePath, String.toList_ofList]
  induction pieces with
  | nil => exact .done
  | cons piece rest ih =>
      rw [List.flatMap_cons]
      cases piece with
      | literal text => exact .append (Whole.of_literal text.plain) ih
      | angle converter name =>
          rw [Piece.written, List.cons_append, List.append_assoc, List.singleton_append]
          exact .angle (label_avoids.fewer (by simp)) ih
      | ready name =>
          rw [Piece.written, placeholder, List.append_assoc, List.append_assoc, List.singleton_append]
          exact .braced (name.plain.fewer (by simp)) ih

/-! ### Continuations -/

/-- The template of a closed path is the beginning of the template of its continuation, if this begins
with no slash and has no slashes in a row. -/
theorem template_append {front tail : List Char} (closed : Closed front)
    (plain : Avoids ['<', '(', '\\', '^', '$'] tail) (apart : tail.IsChain Apart)
    (begins : tail.head? ≠ some '/') :
    templateChars (front ++ tail) = templateChars front ++ tail := by
  rw [templateChars_eq, templateChars_eq, closed tail, rewritten_eq_self plain]
  cases tail with
  | nil => rw [List.append_nil, List.append_nil]
  | cons mark rest =>
      have noSlash : mark ≠ '/' := fun same => begins (congrArg some same)
      have settled : collapseSlashes rest = rest := by
        rw [collapseSlashes_eq_destutter]
        exact List.destutter_of_isChain _ _ (List.isChain_cons.1 apart).2
      rw [collapseSlashes_append_cons noSlash, dropSlashes_append_cons noSlash, settled,
        List.cons_append]

end RouteAtlas.Url
