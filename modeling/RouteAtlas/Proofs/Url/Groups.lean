/-
Module: RouteAtlas.Proofs.Url.Groups
Layer: Proofs
Purpose: Named groups in regular expressions. Where parentheses are balanced in the pattern of a group, the
  group ends at the parenthesis that closes it, however deep others are nested in it and whatever stands
  after a backslash; and nowhere else does a group end there whatever follows. So a path of plain
  characters, escapes and such groups is replaced part by part.
Trusted boundary: none
Main exports: Nests, Balanced, afterGroup_nests, afterGroup_exact_iff, afterGroup_suffix, Group, Part,
  replaceGroups_escape, replaceGroups_plain, groupRule_unopened, groupRule_unclosed, replaceGroups_opened,
  replaceGroups_groupText, replaceGroups_parts
-/
import RouteAtlas.Proofs.Url.Native

namespace RouteAtlas.Url

/-! ### Nesting -/

/-- Reading a text, with some parentheses open before it, leaves some open after it. None is closed that is
not open, and a character after a backslash neither opens nor closes any. -/
inductive Nests : Nat → List Char → Nat → Prop where
  | done (depth : Nat) : Nests depth [] depth
  | escaped {depth final : Nat} {rest : List Char} (c : Char) (more : Nests depth rest final) :
      Nests depth ('\\' :: c :: rest) final
  | opened {depth final : Nat} {rest : List Char} (more : Nests (depth + 1) rest final) :
      Nests depth ('(' :: rest) final
  | closed {depth final : Nat} {rest : List Char} (more : Nests depth rest final) :
      Nests (depth + 1) (')' :: rest) final
  | plain {depth final : Nat} {c : Char} {rest : List Char} (unmarked : c ∉ ['\\', '(', ')'])
      (more : Nests depth rest final) : Nests depth (c :: rest) final

/-- Every parenthesis of a pattern that is opened is closed, and the other way round. -/
def Balanced (pattern : List Char) : Prop := Nests 0 pattern 0

section Equations

variable {depth : Nat} {c : Char} {rest : List Char}

theorem afterGroup_escape : afterGroup depth ('\\' :: c :: rest) = afterGroup depth rest := by
  rw [afterGroup]

theorem afterGroup_open : afterGroup depth ('(' :: rest) = afterGroup (depth + 1) rest := by
  rw [afterGroup]

theorem afterGroup_close : afterGroup (depth + 2) (')' :: rest) = afterGroup (depth + 1) rest := by
  rw [afterGroup]
  simp

theorem afterGroup_last : afterGroup 1 (')' :: rest) = rest := by
  rw [afterGroup]
  simp

theorem afterGroup_plain (unmarked : c ∉ ['\\', '(', ')']) :
    afterGroup depth (c :: rest) = afterGroup depth rest := by
  simp only [List.mem_cons, List.not_mem_nil, or_false, not_or] at unmarked
  obtain ⟨unescaped, notOpen, notClosed⟩ := unmarked
  rw [afterGroup]
  · intro escape
    exact absurd escape unescaped
  · intro _ _ escape
    exact absurd escape unescaped
  · exact notOpen
  · exact notClosed

/-- A parenthesis that stands alone leaves nothing after it, whether it closes the group or not. -/
theorem afterGroup_lone : afterGroup (depth + 1) [')'] = [] := by
  cases depth with
  | zero => exact afterGroup_last
  | succ depth =>
      rw [afterGroup_close]
      rfl

end Equations

/-- Looking for the end of a group goes through a text as the parentheses nest in it. -/
theorem afterGroup_nests {depth final : Nat} {text : List Char} (nests : Nests depth text final)
    (rest : List Char) : afterGroup (depth + 1) (text ++ rest) = afterGroup (final + 1) rest := by
  induction nests with
  | done depth => rfl
  | escaped c more ih => rw [List.cons_append, List.cons_append, afterGroup_escape, ih]
  | opened more ih => rw [List.cons_append, afterGroup_open, ih]
  | closed more ih => rw [List.cons_append, afterGroup_close, ih]
  | plain unmarked more ih => rw [List.cons_append, afterGroup_plain unmarked, ih]

/-- What can come of reading a text: it comes to its end, or it closes a parenthesis too many, or a
backslash is left over. -/
def Readable (depth : Nat) (text : List Char) : Prop :=
  (∃ final, Nests depth text final) ∨
    (∃ front rest, text = front ++ ')' :: rest ∧ Nests depth front 0) ∨
    ∃ front final, text = front ++ ['\\'] ∧ Nests depth front final

/-- What comes of a text comes of it after a beginning that can be read, too. -/
theorem Readable.after {depth next : Nat} (start : List Char) {text : List Char}
    (step : ∀ front final, Nests next front final → Nests depth (start ++ front) final)
    (readable : Readable next text) : Readable depth (start ++ text) := by
  rcases readable with ⟨final, nests⟩ | ⟨front, rest, rfl, nests⟩ | ⟨front, final, rfl, nests⟩
  · exact .inl ⟨final, step _ _ nests⟩
  · exact .inr (.inl ⟨start ++ front, rest, (List.append_assoc _ _ _).symm, step _ _ nests⟩)
  · exact .inr (.inr ⟨start ++ front, final, (List.append_assoc _ _ _).symm, step _ _ nests⟩)

/-- There is nothing else that can come of it. -/
theorem readable : ∀ (depth : Nat) (text : List Char), Readable depth text
  | depth, [] => .inl ⟨depth, .done depth⟩
  | depth, c :: rest => by
      by_cases escape : c = '\\'
      · subst escape
        cases rest with
        | nil => exact .inr (.inr ⟨[], depth, rfl, .done depth⟩)
        | cons d rest =>
            exact Readable.after ['\\', d] (fun _ _ => .escaped d) (readable depth rest)
      · by_cases opens : c = '('
        · subst opens
          exact Readable.after ['('] (fun _ _ => .opened) (readable (depth + 1) rest)
        · by_cases closes : c = ')'
          · subst closes
            cases depth with
            | zero => exact .inr (.inl ⟨[], rest, rfl, .done 0⟩)
            | succ depth =>
                exact Readable.after [')'] (fun _ _ => .closed) (readable depth rest)
          · have unmarked : c ∉ ['\\', '(', ')'] := by simp [escape, opens, closes]
            exact Readable.after [c] (fun _ _ => .plain unmarked) (readable depth rest)

/-- The group ends at its own parenthesis, where those in its pattern are balanced. -/
theorem afterGroup_balanced {pattern : List Char} (balanced : Balanced pattern) (rest : List Char) :
    afterGroup 1 (pattern ++ ')' :: rest) = rest := by
  rw [afterGroup_nests balanced, afterGroup_last]

/-- Only then does it end there whatever follows. If a parenthesis too many is closed the group ends before,
and if one is left open, or the own one is escaped, it goes beyond. -/
theorem afterGroup_exact_iff {pattern : List Char} :
    (∀ rest, afterGroup 1 (pattern ++ ')' :: rest) = rest) ↔ Balanced pattern := by
  constructor
  · intro exactly
    rcases readable 0 pattern with
      ⟨final, nests⟩ | ⟨front, more, rfl, nests⟩ | ⟨front, final, rfl, nests⟩
    · cases final with
      | zero => exact nests
      | succ final =>
          have ends := exactly [')']
          rw [afterGroup_nests nests, afterGroup_close, afterGroup_lone] at ends
          cases ends
    · have ends := congrArg List.length (exactly [])
      rw [List.append_assoc, List.cons_append, afterGroup_nests nests, afterGroup_last] at ends
      simp at ends
    · have ends := exactly [')']
      rw [List.append_assoc, List.singleton_append, afterGroup_nests nests, afterGroup_escape,
        afterGroup_lone] at ends
      cases ends
  · intro balanced
    exact afterGroup_balanced balanced

/-- What comes after a group is the end of the text that it is looked for in. -/
theorem afterGroup_suffix (depth : Nat) (text : List Char) : afterGroup depth text <:+ text := by
  fun_induction afterGroup depth text with
  | case1 => exact List.suffix_rfl
  | case2 => exact List.nil_suffix
  | case3 depth c rest ih => exact ih.trans (List.suffix_append ['\\', c] rest)
  | case4 depth rest ih => exact ih.trans (List.suffix_cons _ _)
  | case5 depth rest last => exact List.suffix_cons _ _
  | case6 depth rest more ih => exact ih.trans (List.suffix_cons _ _)
  | case7 depth c rest _ _ _ _ ih => exact ih.trans (List.suffix_cons _ _)

/-! ### Groups in a path -/

/-- A named group. Its name ends where an angle bracket closes. -/
structure Group where
  name : List Char
  pattern : List Char
  unclosed : '>' ∉ name
  balanced : Balanced pattern

/-- How a group of some name and pattern is written. -/
def groupText (name pattern : List Char) : List Char :=
  "(?P<".toList ++ (name ++ '>' :: (pattern ++ [')']))

/-- A part of a path that is a regular expression. -/
inductive Part where
  | plain (c : Char) (unmarked : c ≠ '\\' ∧ c ≠ '(')
  | escaped (c : Char)
  | group (group : Group)

namespace Part

/-- How the part is written. -/
def written : Part → List Char
  | .plain c _ => [c]
  | .escaped c => ['\\', c]
  | .group named => groupText named.name named.pattern

/-- What stands in its place when groups are replaced. -/
def replaced : Part → List Char
  | .plain c _ => [c]
  | .escaped c => [c]
  | .group named => placeholder named.name

end Part

theorem replaceGroups_plain {c : Char} (unescaped : c ≠ '\\') (notOpen : c ≠ '(') (rest : List Char) :
    replaceGroups (c :: rest) = c :: replaceGroups rest :=
  Text.replace_cons_of_none (groupRule_idle notOpen unescaped)

theorem replaceGroups_escape (c : Char) (rest : List Char) :
    replaceGroups ('\\' :: c :: rest) = c :: replaceGroups rest := by
  have applies : groupRule ('\\' :: c :: rest) = some (1, [c]) := rfl
  exact Text.replace_cons_of_some applies

/-- No group begins where a text does not begin as one. -/
theorem groupRule_unopened {text : List Char} (unescaped : ∀ c rest, text ≠ '\\' :: c :: rest)
    (other : text.take 4 ≠ "(?P<".toList) : groupRule text = none := by
  unfold groupRule
  split
  · next c rest => exact absurd rfl (unescaped c rest)
  · exact absurd rfl other
  · rfl

/-- No group begins where the bracket of its name is never closed. -/
theorem groupRule_unclosed {rest : List Char} (unclosed : '>' ∉ rest) :
    groupRule ("(?P<".toList ++ rest) = none := by
  have all : rest.takeWhile (· ≠ '>') = rest := by
    rw [List.takeWhile_eq_self_iff]
    intro c member
    simpa using fun same : c = '>' => unclosed (same ▸ member)
  change groupRule ('(' :: '?' :: 'P' :: '<' :: rest) = none
  simp only [groupRule, all, List.drop_length]

/-- What the rule for groups finds where a group begins: all that stands before what comes after the group. -/
theorem groupRule_opened {name : List Char} (unclosed : '>' ∉ name) (body : List Char) :
    groupRule ("(?P<".toList ++ (name ++ '>' :: body)) =
      some (("(?P<".toList ++ (name ++ '>' :: body)).length - (afterGroup 1 body).length - 1,
        placeholder name) := by
  have start : (name ++ '>' :: body).takeWhile (· ≠ '>') = name := by
    rw [List.takeWhile_append_of_pos fun c member => by
      simpa using fun same : c = '>' => unclosed (same ▸ member)]
    simp
  have split : (name ++ '>' :: body).drop name.length = '>' :: body := List.drop_left
  change groupRule ('(' :: '?' :: 'P' :: '<' :: (name ++ '>' :: body)) = _
  simp only [groupRule, start, split]
  rfl

/-- A group whose name ends is replaced by a placeholder, whether its pattern ends or not. -/
theorem replaceGroups_opened {name body : List Char} (unclosed : '>' ∉ name) :
    replaceGroups ("(?P<".toList ++ (name ++ '>' :: body)) =
      placeholder name ++ replaceGroups (afterGroup 1 body) := by
  obtain ⟨pattern, split⟩ := afterGroup_suffix 1 body
  have whole : "(?P<".toList ++ (name ++ '>' :: body) =
      ("(?P<".toList ++ (name ++ '>' :: pattern)) ++ afterGroup 1 body := by
    rw [List.append_assoc, List.append_assoc, List.cons_append, split]
  have applies := groupRule_opened unclosed body
  rw [whole, List.length_append, Nat.add_sub_cancel] at applies
  rw [whole]
  exact Text.replace_append_of_some (List.append_ne_nil_of_left_ne_nil (by decide) _) applies

/-- If the group ends at its own parenthesis, the rule takes all of it and nothing else. -/
theorem groupRule_groupText {name pattern rest : List Char} (unclosed : '>' ∉ name)
    (ends : afterGroup 1 (pattern ++ ')' :: rest) = rest) :
    groupRule (groupText name pattern ++ rest) =
      some ((groupText name pattern).length - 1, placeholder name) := by
  have split : groupText name pattern ++ rest =
      "(?P<".toList ++ (name ++ '>' :: (pattern ++ ')' :: rest)) := by
    simp [groupText]
  have length : (groupText name pattern ++ rest).length - rest.length - 1 =
      (groupText name pattern).length - 1 := by
    rw [List.length_append, Nat.add_sub_cancel]
  rw [split, groupRule_opened unclosed, ends, ← split, length]

/-- Such a group is replaced by a placeholder, and what follows it is replaced on its own. -/
theorem replaceGroups_groupText {name pattern rest : List Char} (unclosed : '>' ∉ name)
    (ends : afterGroup 1 (pattern ++ ')' :: rest) = rest) :
    replaceGroups (groupText name pattern ++ rest) = placeholder name ++ replaceGroups rest := by
  have split : groupText name pattern ++ rest =
      "(?P<".toList ++ (name ++ '>' :: (pattern ++ ')' :: rest)) := by
    simp [groupText]
  rw [split, replaceGroups_opened unclosed, ends]

/-- A path of plain characters, escapes and named groups is replaced part by part: a plain character stays,
an escaped one loses its backslash, and a group becomes a placeholder of its name. Whatever follows a
group, it is taken with all that is nested in it, to the parenthesis that closes it and no further. -/
theorem replaceGroups_parts (parts : List Part) :
    replaceGroups (parts.flatMap Part.written) = parts.flatMap Part.replaced ∧
      ∀ (group : Group) (rest : List Char),
        groupRule (groupText group.name group.pattern ++ rest) =
            some ((groupText group.name group.pattern).length - 1, placeholder group.name) ∧
          afterGroup 1 (group.pattern ++ ')' :: rest) = rest := by
  constructor
  · apply Text.replace_flatMap
    intro part rest
    cases part with
    | plain c unmarked => exact replaceGroups_plain unmarked.1 unmarked.2 rest
    | escaped c => exact replaceGroups_escape c rest
    | group named =>
        exact replaceGroups_groupText named.unclosed (afterGroup_balanced named.balanced rest)
  · intro group rest
    have ends := afterGroup_balanced group.balanced rest
    exact ⟨groupRule_groupText group.unclosed ends, ends⟩

example : replaceGroups "files/(?P<kind>(img|doc)\\))\\.zip".toList = "files/\x7bkind\x7d.zip".toList := by
  decide +kernel

end RouteAtlas.Url
