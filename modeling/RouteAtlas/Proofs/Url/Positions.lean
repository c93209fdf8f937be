/-
Module: RouteAtlas.Proofs.Url.Positions
Layer: Proofs
Purpose: Templates when the text of a path is read by position. Every reading is of a character that is
  there, also where a group is never closed or a backslash is the last character, and the readings come
  to an end. So each text has a template, and what can be said of templates holds for all of them.
Trusted boundary: none
Main exports: Input, Input.slice?, Input.groupEnd?, Input.groupAt?, Input.replaceFrom?, Input.findsEnd,
  Input.groupAt?_eq, Input.replaces, template?, template?_eq, template_wellFormed
-/
import RouteAtlas.Proofs.Url.Anchors

namespace RouteAtlas.Url

/-! ### Reading by position -/

/-- A text that is read by position. -/
abbrev Input := List Char

namespace Input

/-- The characters from one position up to another; nothing if one of them lies beyond the end. -/
def slice? (chars : Input) (first last : Nat) : Option (List Char) :=
  if first ≤ last ∧ last ≤ chars.length then some ((chars.drop first).take (last - first)) else none

-- The calls below are piped, because a call of another form would leave its place in the file inside
-- the fixed point.

/-- The position after the parenthesis that closes a group, `depth` parentheses being open. A backslash is
passed over with what follows it, even if that is beyond the end. -/
def groupEnd? (chars : Input) (depth position : Nat) : Option Nat :=
  if position < chars.length ∧ 0 < depth then do
    let c ← chars[position]?
    if c = '\\' then chars |>.groupEnd? depth (position + 2)
    else if c = '(' then chars |>.groupEnd? (depth + 1) (position + 1)
    else if c = ')' then chars |>.groupEnd? (depth - 1) (position + 1)
    else chars |>.groupEnd? depth (position + 1)
  else some position
partial_fixpoint

/-- The name of the group that begins at a position, and the position after the group, if one begins. -/
def groupAt? (chars : Input) (position : Nat) : Option (Option (List Char × Nat)) :=
  if chars.length ≤ position + 3 then some none
  else do
    let opening ← chars.slice? position (position + 4)
    if opening = "(?P<".toList then
      let rest ← chars.slice? (position + 4) chars.length
      match rest.findIdx? (· = '>') with
      | none => some none
      | some length =>
          let name ← chars.slice? (position + 4) (position + 4 + length)
          let after ← chars.groupEnd? 1 (position + 4 + length + 1)
          some (some (name, after))
    else some none

/-- Replace groups and drop backslashes from a position on, with what has been written already. -/
def replaceFrom? (chars : Input) (position : Nat) (written : List Char) : Option (List Char) :=
  if position < chars.length then do
    let c ← chars[position]?
    if c = '\\' ∧ position + 1 < chars.length then
      let next ← chars[position + 1]?
      chars |>.replaceFrom? (position + 2) (written ++ [next])
    else
      match ← chars.groupAt? position with
      | some (name, after) => chars |>.replaceFrom? after (written ++ placeholder name)
      | none => chars |>.replaceFrom? (position + 1) (written ++ [c])
  else some written
partial_fixpoint

variable {chars : Input} {position : Nat}

/-- What is read at a position is where the rest of the text begins. -/
theorem read_of_lt (inside : position < chars.length) :
    ∃ c, chars[position]? = some c ∧ chars.drop position = c :: chars.drop (position + 1) :=
  ⟨chars[position], List.getElem?_eq_getElem inside, List.drop_eq_getElem_cons inside⟩

/-- A slice that lies inside the text is the beginning of the rest from its first position on. -/
theorem slice?_of_le {first last : Nat} (ordered : first ≤ last) (inside : last ≤ chars.length) :
    chars.slice? first last = some ((chars.drop first).take (last - first)) :=
  if_pos ⟨ordered, inside⟩

/-- The rest from a position to the end is a slice. -/
theorem slice?_rest (inside : position ≤ chars.length) :
    chars.slice? position chars.length = some (chars.drop position) := by
  rw [slice?_of_le inside (Nat.le_refl _), List.take_of_length_le (by simp)]

/-- At a character that is there, looking for the end of a group goes on as the character says. -/
theorem groupEnd?_read {depth : Nat} {c : Char} (inside : position < chars.length)
    (here : chars[position]? = some c) :
    chars.groupEnd? (depth + 1) position =
      if c = '\\' then chars.groupEnd? (depth + 1) (position + 2)
      else if c = '(' then chars.groupEnd? (depth + 2) (position + 1)
      else if c = ')' then chars.groupEnd? depth (position + 1)
      else chars.groupEnd? (depth + 1) (position + 1) := by
  rw [groupEnd?, if_pos ⟨inside, Nat.succ_pos _⟩, here]
  rfl

/-- The end of a group is found from a position on, and the text after it is what comes after the group. -/
def FindsEnd (chars : Input) (depth position : Nat) : Prop :=
  ∃ after, chars.groupEnd? (depth + 1) position = some after ∧ position ≤ after ∧
    chars.drop after = afterGroup (depth + 1) (chars.drop position)

/-- The end of a group is found from a character on if it is found from all later positions on. -/
theorem FindsEnd.step (inside : position < chars.length)
    (later : ∀ next, position < next → ∀ depth, chars.FindsEnd depth next) (depth : Nat) :
    chars.FindsEnd depth position := by
  have beyond : ∀ next, position < next → ∀ depth, ∃ after,
      chars.groupEnd? (depth + 1) next = some after ∧ position ≤ after ∧
        chars.drop after = afterGroup (depth + 1) (chars.drop next) := by
    intro next ahead depth
    obtain ⟨after, ends, further, same⟩ := later next ahead depth
    exact ⟨after, ends, by omega, same⟩
  obtain ⟨c, here, rest⟩ := read_of_lt inside
  rw [FindsEnd, groupEnd?_read inside here, rest]
  by_cases escape : c = '\\'
  case pos =>
    subst escape
    obtain ⟨after, ends, further, same⟩ := beyond (position + 2) (by omega) depth
    refine ⟨after, ends, further, same.trans ?_⟩
    -- A backslash at the end of the text leads one position beyond it.
    by_cases more : position + 1 < chars.length
    · obtain ⟨d, _, next⟩ := read_of_lt more
      rw [next, afterGroup_escape]
    · rw [List.drop_eq_nil_of_le (by omega), List.drop_eq_nil_of_le (by omega)]
      rfl
  rw [if_neg escape]
  by_cases opens : c = '('
  case pos =>
    subst opens
    rw [if_pos rfl, afterGroup_open]
    exact beyond (position + 1) (by omega) (depth + 1)
  rw [if_neg opens]
  by_cases closes : c = ')'
  case neg =>
    rw [if_neg closes, afterGroup_plain (by simp [escape, opens, closes])]
    exact beyond (position + 1) (by omega) depth
  subst closes
  rw [if_pos rfl]
  cases depth with
  | zero =>
      refine ⟨position + 1, ?_, by omega, afterGroup_last.symm⟩
      rw [groupEnd?, if_neg (by simp)]
  | succ depth =>
      rw [afterGroup_close]
      exact beyond (position + 1) (by omega) depth

/-- The end of a group is always found. The induction is on what is left of the text. -/
theorem findsEnd (chars : Input) (depth position : Nat) : chars.FindsEnd depth position := by
  induction left : chars.length - position using Nat.strongRecOn generalizing depth position with
  | ind bound ih =>
      by_cases inside : position < chars.length
      · exact FindsEnd.step inside (fun next ahead depth => ih _ (by omega) depth next rfl) depth
      · refine ⟨position, ?_, Nat.le_refl _, ?_⟩
        · rw [groupEnd?, if_neg fun both => inside both.1]
        · rw [List.drop_eq_nil_of_le (by omega)]
          rfl

/-- The first place of a mark splits a text: the mark does not stand before it. -/
theorem split_of_findIdx? {text : List Char} {mark : Char} {length : Nat}
    (found : text.findIdx? (· = mark) = some length) :
    text = text.take length ++ mark :: text.drop (length + 1) ∧ mark ∉ text.take length ∧
      length < text.length := by
  obtain ⟨bounded, here, before⟩ := List.findIdx?_eq_some_iff_getElem.1 found
  refine ⟨?_, fun member => ?_, bounded⟩
  · rw [← of_decide_eq_true here, ← List.drop_eq_getElem_cons bounded, List.take_append_drop]
  · obtain ⟨index, inside, same⟩ := List.mem_take_iff_getElem.1 member
    exact before index (by omega) (decide_eq_true same)

/-- What is found out about a group at a position: its name, and where it ends, or that there is none. Then
the rest of the text is replaced as it says. -/
theorem groupAt?_eq (inside : position < chars.length)
    (unescaped : ∀ c rest, chars.drop position ≠ '\\' :: c :: rest) :
    (∃ name after, chars.groupAt? position = some (some (name, after)) ∧ position < after ∧
        replaceGroups (chars.drop position) = placeholder name ++ replaceGroups (chars.drop after)) ∨
      chars.groupAt? position = some none ∧ groupRule (chars.drop position) = none := by
  rw [groupAt?]
  by_cases short : chars.length ≤ position + 3
  · rw [if_pos short]
    refine .inr ⟨rfl, groupRule_unopened unescaped fun opening => ?_⟩
    have length := congrArg List.length opening
    simp at length
    omega
  rw [if_neg short, slice?_of_le (by omega) (by omega), Nat.add_sub_cancel_left,
    Option.bind_eq_bind, Option.bind_some]
  by_cases opening : (chars.drop position).take 4 = "(?P<".toList
  case neg =>
    rw [if_neg opening]
    exact .inr ⟨rfl, groupRule_unopened unescaped opening⟩
  have split : chars.drop position = "(?P<".toList ++ chars.drop (position + 4) := by
    rw [← opening, ← List.drop_drop, List.take_append_drop]
  rw [if_pos opening, slice?_rest (by omega), Option.bind_eq_bind, Option.bind_some, split]
  cases found : (chars.drop (position + 4)).findIdx? (· = '>') with
  | none =>
      refine .inr ⟨rfl, groupRule_unclosed fun member => ?_⟩
      have absent := List.findIdx?_eq_none_iff.1 found _ member
      simp at absent
  | some length =>
      obtain ⟨named, unclosed, bounded⟩ := split_of_findIdx? found
      rw [List.length_drop] at bounded
      obtain ⟨after, ends, further, same⟩ := findsEnd chars 0 (position + 4 + length + 1)
      refine .inl ⟨(chars.drop (position + 4)).take length, after, ?_, by omega, ?_⟩
      · dsimp only
        rw [slice?_of_le (by omega) (by omega), Nat.add_sub_cancel_left, Option.bind_some, ends]
        rfl
      · rw [List.drop_drop] at named
        conv_lhs => rw [named]
        rw [replaceGroups_opened unclosed, same]
        rfl

/-- The groups of a text are replaced from a position on as in the rest of the text, and no reading fails. -/
def Replaces (chars : Input) (position : Nat) : Prop :=
  ∀ written, chars.replaceFrom? position written = some (written ++ replaceGroups (chars.drop position))

/-- Groups are replaced from a character on if they are from all later positions on. -/
theorem Replaces.step (inside : position < chars.length)
    (later : ∀ next, position < next → chars.Replaces next) : chars.Replaces position := by
  intro written
  obtain ⟨c, here, rest⟩ := read_of_lt inside
  rw [replaceFrom?, if_pos inside, here, Option.bind_eq_bind, Option.bind_some]
  by_cases escape : c = '\\' ∧ position + 1 < chars.length
  case pos =>
    obtain ⟨rfl, more⟩ := escape
    obtain ⟨d, there, next⟩ := read_of_lt more
    rw [if_pos ⟨rfl, more⟩, there, Option.bind_some, later (position + 2) (by omega), rest, next,
      replaceGroups_escape]
    simp
  rw [if_neg escape]
  have unescaped : ∀ d others, chars.drop position ≠ '\\' :: d :: others := by
    intro d others same
    rw [rest] at same
    refine escape ⟨List.head_eq_of_cons_eq same, ?_⟩
    have length := congrArg List.length (List.tail_eq_of_cons_eq same)
    simp at length
    omega
  rcases groupAt?_eq inside unescaped with ⟨name, after, group, ahead, same⟩ | ⟨noGroup, idle⟩
  · rw [group, Option.bind_eq_bind, Option.bind_some, same]
    dsimp only
    rw [later after ahead, List.append_assoc]
  · rw [noGroup, Option.bind_eq_bind, Option.bind_some]
    dsimp only
    rw [later (position + 1) (Nat.lt_succ_self _)]
    rw [rest] at idle ⊢
    have stays : replaceGroups (c :: chars.drop (position + 1)) =
        c :: replaceGroups (chars.drop (position + 1)) := Text.replace_cons_of_none idle
    rw [stays, List.append_assoc, List.singleton_append]

/-- Groups are replaced from any position on. The induction is on what is left of the text. -/
theorem replaces (chars : Input) (position : Nat) : chars.Replaces position := by
  induction left : chars.length - position using Nat.strongRecOn generalizing position with
  | ind bound ih =>
      by_cases inside : position < chars.length
      · exact Replaces.step inside fun next ahead => ih _ (by omega) next rfl
      · intro written
        rw [replaceFrom?, if_neg inside, List.drop_eq_nil_of_le (by omega)]
        exact congrArg some (List.append_nil written).symm

end Input

/-! ### Templates -/

/-- The template of a path whose text is read by position. There is none if a reading fails, or if the
readings never come to an end. -/
def template? (path : String) : Option String :=
  (Input.replaceFrom? (unanchored path.toList) 0 []).map fun replaced =>
    String.ofList ('/' :: (collapseSlashes (replaceBrackets replaced)).dropWhile (· = '/'))

theorem template?_eq (path : String) : template? path = some (template path) := by
  rw [template?, Input.replaces]
  rfl

/-- Every text has a template, which is reached without reading beyond the text: it begins with one slash,
has no two slashes in a row and no anchors. Its parameters are the names in braces that are met in it,
each once: no name is empty or has a closing brace or a slash, and each stands in the template in braces. -/
theorem template_wellFormed (path : String) :
    template? path = some (template path) ∧
      SingleSlashes (template path).toList ∧
      '^' ∉ (template path).toList ∧ '$' ∉ (template path).toList ∧
      (∃ names, Scans (template path).toList names ∧
        parametersOf (template path) = names.eraseDups.map String.ofList) ∧
      (parametersOf (template path)).Nodup ∧
      ∀ name ∈ parametersOf (template path),
        name ≠ "" ∧ '}' ∉ name.toList ∧ '/' ∉ name.toList ∧
          placeholder name.toList <:+: (template path).toList := by
  have scans := finds_scans (template path).toList
  have parameters := parametersOf_scans scans
  refine ⟨template?_eq path, template_singleSlashes path,
    fun member => template_unanchored path _ member (.inl rfl),
    fun member => template_unanchored path _ member (.inr rfl), ⟨_, scans, parameters⟩, ?_, ?_⟩
  · rw [parameters]
    exact (nodup_eraseDups _).map fun _ _ same => String.ofList_injective same
  · intro name member
    rw [parameters] at member
    obtain ⟨chars, met, rfl⟩ := List.mem_map.1 member
    obtain ⟨nonempty, braceless, slashless, stands⟩ := scans.named (List.mem_eraseDups.1 met)
    rw [String.toList_ofList]
    refine ⟨fun empty => nonempty ?_, braceless, slashless, stands⟩
    rw [← String.toList_ofList (l := chars), empty]
    rfl

/-- A path with a group that is never closed, a backslash at its end. -/
def unclosedPath : String := "^shop//(?P<id>[^/]+\\"

theorem unclosedPath_wellFormed :
    template? unclosedPath = some "/shop/\x7bid\x7d" ∧ "id" ∈ parametersOf (template unclosedPath) ∧
      "id" ≠ "" ∧ '}' ∉ "id".toList ∧ '/' ∉ "id".toList ∧
      placeholder "id".toList <:+: (template unclosedPath).toList := by
  obtain ⟨read, _, _, _, _, _, named⟩ := template_wellFormed unclosedPath
  have text : template unclosedPath = "/shop/\x7bid\x7d" := by decide +kernel
  have member : "id" ∈ parametersOf (template unclosedPath) := by decide +kernel
  exact ⟨text ▸ read, member, named "id" member⟩

end RouteAtlas.Url
