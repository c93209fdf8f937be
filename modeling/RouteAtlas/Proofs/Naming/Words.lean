/-
Module: RouteAtlas.Proofs.Naming.Words
Layer: Proofs
Purpose: The words of a name that is written in one piece. Two passes part them with hyphens, and neither
  looks at a place again that belongs to a find; still, together they put one hyphen before every
  character at which a word begins, and no other. So the path segment of a resource whose name is an
  ASCII identifier is made of words with single hyphens between them.
Trusted boundary: none
Main exports: WordBegins, hyphenated, hyphenatedAfter, hyphenated_cons, replace_caseBoundary_cons,
  Passes, passes, hyphenate_eq, Parted, hyphenated_parted, Parted.plural, endpointName_words
-/
import Mathlib.Data.List.Basic
import RouteAtlas.Proofs.Naming.Ascii

namespace RouteAtlas.Naming

open Text (IsNameChar IsWordChar)

/-! ### Where words begin -/

/-- A word begins at a position of a name that is not the first: a capital stands there, and before it a
small letter or a digit, or after it a small letter. -/
def WordBegins (name : List Char) (position : Nat) : Prop :=
  0 < position ∧ name[position]?.any Char.isUpper = true ∧
    (name[position - 1]?.any (fun c => c.isLower || c.isDigit) = true ∨
      name[position + 1]?.any Char.isLower = true)

instance (name : List Char) : DecidablePred (WordBegins name) := fun position =>
  inferInstanceAs (Decidable (0 < position ∧ name[position]?.any Char.isUpper = true ∧
    (name[position - 1]?.any (fun c => c.isLower || c.isDigit) = true ∨
      name[position + 1]?.any Char.isLower = true)))

/-- A character of a name at its position, with a hyphen before it if a word begins there. -/
def spelled (name : List Char) (entry : Char × Nat) : List Char :=
  if WordBegins name entry.2 then ['-', entry.1] else [entry.1]

/-- A name with one hyphen before every character at which a word begins. -/
def hyphenated (name : List Char) : List Char := name.zipIdx.flatMap (spelled name)

/-- A capital begins a word, after one character and before others. -/
def Begins (before c : Char) (rest : List Char) : Prop :=
  c.isUpper = true ∧ ((before.isLower || before.isDigit) = true ∨ rest.head?.any Char.isLower = true)

instance (before c : Char) (rest : List Char) : Decidable (Begins before c rest) :=
  inferInstanceAs (Decidable (c.isUpper = true ∧
    ((before.isLower || before.isDigit) = true ∨ rest.head?.any Char.isLower = true)))

/-- What follows a character of a name, with the hyphens. -/
def hyphenatedAfter (before : Char) : List Char → List Char
  | [] => []
  | c :: rest =>
      if Begins before c rest then '-' :: c :: hyphenatedAfter c rest
      else c :: hyphenatedAfter c rest

theorem wordBegins_append_iff (front : List Char) (before c : Char) (rest : List Char) :
    WordBegins (front ++ before :: c :: rest) (front.length + 1) ↔ Begins before c rest := by
  have here : (front ++ before :: c :: rest)[front.length + 1]? = some c := by
    rw [List.getElem?_append_right (by omega)]
    simp
  have previous : (front ++ before :: c :: rest)[front.length + 1 - 1]? = some before := by
    simp
  have next : (front ++ before :: c :: rest)[front.length + 1 + 1]? = rest.head? := by
    rw [List.getElem?_append_right (by omega), List.head?_eq_getElem?]
    simp [Nat.add_assoc]
  rw [WordBegins, here, previous, next, Begins]
  simp

/-- The hyphens of a name are put in by one reading from left to right. -/
theorem flatMap_spelled (front : List Char) (before : Char) (rest : List Char) :
    (rest.zipIdx (front.length + 1)).flatMap (spelled (front ++ before :: rest)) =
      hyphenatedAfter before rest := by
  induction rest generalizing front before with
  | nil => rfl
  | cons c rest ih =>
      have later := ih (front ++ [before]) c
      rw [List.length_append, List.length_singleton, List.append_assoc, List.singleton_append] at later
      rw [List.zipIdx_cons, List.flatMap_cons, later, hyphenatedAfter, spelled]
      by_cases begins : Begins before c rest
      · rw [if_pos begins, if_pos ((wordBegins_append_iff ..).2 begins)]
        rfl
      · rw [if_neg begins, if_neg fun here => begins ((wordBegins_append_iff ..).1 here)]
        rfl

theorem hyphenated_cons (first : Char) (rest : List Char) :
    hyphenated (first :: rest) = first :: hyphenatedAfter first rest := by
  have start : ¬ WordBegins (first :: rest) 0 := fun begins => absurd begins.1 (Nat.lt_irrefl 0)
  rw [hyphenated, List.zipIdx_cons, List.flatMap_cons, spelled, if_neg start]
  exact congrArg (first :: ·) (flatMap_spelled [] first rest)

/-! ### Two passes over a name -/

/-- A boundary begins with a small letter or a digit. -/
theorem caseBoundary_idle (mark : Char) {c : Char} (other : (c.isLower || c.isDigit) = false)
    (rest : List Char) : caseBoundary mark (c :: rest) = none := by
  cases rest with
  | nil => rfl
  | cons d rest => simp only [caseBoundary, other, Bool.false_and, Bool.false_eq_true, if_false]

/-- Boundaries do not overlap, so that none is passed over: a mark comes after the first of two characters
exactly if there is one between them. -/
theorem replace_caseBoundary_cons (mark before c : Char) (rest : List Char) :
    Text.replace (caseBoundary mark) (before :: c :: rest) =
      (if ((before.isLower || before.isDigit) && c.isUpper) = true then [before, mark] else [before]) ++
        Text.replace (caseBoundary mark) (c :: rest) := by
  by_cases boundary : ((before.isLower || before.isDigit) && c.isUpper) = true
  · have applies : caseBoundary mark (before :: c :: rest) = some (1, [before, mark, c]) :=
      if_pos boundary
    have upper := (Bool.and_eq_true_iff.1 boundary).2
    have idle := caseBoundary_idle mark (Text.isUpper_alone upper) rest
    rw [if_pos boundary, Text.replace_cons_of_some applies, Text.replace_cons_of_none idle]
    rfl
  · have idle : caseBoundary mark (before :: c :: rest) = none := if_neg boundary
    rw [if_neg boundary, Text.replace_cons_of_none idle]
    rfl

/-- Small letters at the beginning of a text, as many as there are, and what follows them. -/
theorem exists_small (chars : List Char) :
    ∃ small tail, chars = small ++ tail ∧ (∀ c ∈ small, c.isLower = true) ∧
      tail.head?.any Char.isLower = false := by
  refine ⟨chars.takeWhile Char.isLower, chars.dropWhile Char.isLower,
    List.takeWhile_append_dropWhile.symm, List.all_eq_true.1 List.all_takeWhile, ?_⟩
  have stops := List.head?_dropWhile_not Char.isLower chars
  cases head : (chars.dropWhile Char.isLower).head? with
  | none => rfl
  | some c => simpa [head] using stops

section Words

variable {before c : Char} {small tail : List Char}

/-- How far the small letters go. -/
theorem takeWhile_small (lower : ∀ d ∈ small, d.isLower = true)
    (ends : tail.head?.any Char.isLower = false) : (small ++ tail).takeWhile Char.isLower = small := by
  rw [List.takeWhile_append_of_pos lower]
  cases tail with
  | nil => exact List.append_nil small
  | cons d tail =>
      have stops : d.isLower = false := ends
      rw [List.takeWhile_cons_of_neg (by simp [stops]), List.append_nil]

/-- A hyphen comes before a capital with small letters after it, and reading goes on after these. -/
theorem replace_capitalWord_word (noBreak : before ≠ '\n') (upper : c.isUpper = true)
    (nonempty : small ≠ []) (lower : ∀ d ∈ small, d.isLower = true)
    (ends : tail.head?.any Char.isLower = false) :
    Text.replace capitalWord (before :: c :: (small ++ tail)) =
      before :: '-' :: c :: (small ++ Text.replace capitalWord tail) := by
  have applies : capitalWord (before :: c :: (small ++ tail)) =
      some (small.length + 1, before :: '-' :: c :: small) := by
    simp only [capitalWord, takeWhile_small lower ends]
    exact if_pos (by simp [noBreak, upper, nonempty])
  rw [Text.replace_cons_of_some applies, List.drop_succ_cons, List.drop_left]
  rfl

/-- Anywhere else a character stays. -/
theorem capitalWord_idle (other : ¬ (c.isUpper = true ∧ tail.head?.any Char.isLower = true)) :
    capitalWord (before :: c :: tail) = none := by
  refine if_neg fun word => ?_
  simp only [Bool.and_eq_true, Bool.not_eq_true', List.isEmpty_eq_false_iff] at word
  obtain ⟨⟨_, upper⟩, nonempty⟩ := word
  refine other ⟨upper, ?_⟩
  cases tail with
  | nil => exact absurd rfl nonempty
  | cons d tail =>
      by_contra none
      exact nonempty (List.takeWhile_cons_of_neg none)

end Words

/-- The first pass keeps the first character. -/
theorem replace_capitalWord_head (first : Char) (rest : List Char) :
    ∃ others, Text.replace capitalWord (first :: rest) = first :: others := by
  cases applies : capitalWord (first :: rest) with
  | none => exact ⟨_, Text.replace_cons_of_none applies⟩
  | some find =>
      obtain ⟨extra, found⟩ := find
      rw [Text.replace_cons_of_some applies]
      cases rest with
      | nil => cases applies
      | cons c rest =>
          obtain ⟨_, same⟩ := Option.ite_none_right_eq_some.1 applies
          obtain ⟨_, rfl⟩ := Prod.mk.inj (Option.some.inj same)
          exact ⟨_, rfl⟩

/-- Two passes over a text put in the hyphens that one reading puts in. -/
def Passes : List Char → Prop
  | [] => True
  | first :: rest =>
      Text.replace (caseBoundary '-') (Text.replace capitalWord (first :: rest)) =
        first :: hyphenatedAfter first rest

/-- Both passes go on with one more character that the first one has left alone. -/
theorem passes_step {before c : Char} {rest : List Char} (later : Passes (c :: rest))
    (agree : Begins before c rest ↔ ((before.isLower || before.isDigit) && c.isUpper) = true) :
    Text.replace (caseBoundary '-') (before :: Text.replace capitalWord (c :: rest)) =
      before :: hyphenatedAfter before (c :: rest) := by
  obtain ⟨others, same⟩ := replace_capitalWord_head c rest
  rw [Passes, same] at later
  rw [same, replace_caseBoundary_cons, later, hyphenatedAfter]
  by_cases begins : Begins before c rest
  · rw [if_pos begins, if_pos (agree.1 begins)]
    rfl
  · rw [if_neg begins, if_neg fun boundary => begins (agree.2 boundary)]
    rfl

/-- Both passes go on from the end of a word, where the first one could not see whether another begins. It
ends in a small letter, so that the second one sees it. -/
theorem passes_after_word {before : Char} {small rest : List Char}
    (ends : before.isLower = true ∨ small ≠ []) (lower : ∀ d ∈ small, d.isLower = true)
    (later : Passes rest) :
    Text.replace (caseBoundary '-') (before :: (small ++ Text.replace capitalWord rest)) =
      before :: hyphenatedAfter before (small ++ rest) := by
  induction small generalizing before with
  | nil =>
      have small := ends.resolve_right fun nonempty => nonempty rfl
      cases rest with
      | nil => rfl
      | cons c others => exact passes_step later (by simp [Begins, small])
  | cons d small ih =>
      have lowerD := lower d List.mem_cons_self
      have other : ¬ d.isUpper = true := by
        intro upper
        have alone := Text.isUpper_alone upper
        rw [lowerD] at alone
        cases alone
      have tail := ih (.inl lowerD) fun e member => lower e (List.mem_cons_of_mem d member)
      rw [List.cons_append, List.cons_append, replace_caseBoundary_cons, tail, hyphenatedAfter,
        if_neg (by simp [other]), if_neg fun begins => other begins.1]
      rfl

/-- A word that begins with a capital is passed as a whole. -/
theorem Passes.word {first c : Char} {rest : List Char} (noBreak : first ≠ '\n')
    (upper : c.isUpper = true) (head : rest.head?.any Char.isLower = true)
    (later : ∀ tail, tail <:+ rest → Passes tail) : Passes (first :: c :: rest) := by
  have begins : Begins first c rest := ⟨upper, .inr head⟩
  obtain ⟨small, tail, rfl, lower, ends⟩ := exists_small rest
  have nonempty : small ≠ [] := by
    rintro rfl
    rw [List.nil_append, ends] at head
    cases head
  rw [Passes, replace_capitalWord_word noBreak upper nonempty lower ends,
    replace_caseBoundary_cons, replace_caseBoundary_cons,
    passes_after_word (.inr nonempty) lower (later tail (List.suffix_append _ _)), hyphenatedAfter,
    if_pos begins, if_neg (by simp), if_neg (by simp)]
  rfl

/-- Any other character is passed alone. -/
theorem Passes.other {first c : Char} {rest : List Char}
    (noWord : ¬ (c.isUpper = true ∧ rest.head?.any Char.isLower = true)) (later : Passes (c :: rest)) :
    Passes (first :: c :: rest) := by
  rw [Passes, Text.replace_cons_of_none (capitalWord_idle noWord)]
  refine passes_step later ?_
  rw [Begins, Bool.and_eq_true]
  tauto

/-- The two passes put in the hyphens that one reading puts in. The induction is on the length, since the
first pass takes a whole word at once. -/
theorem passes {name : List Char} (noBreak : '\n' ∉ name) : Passes name := by
  induction size : name.length using Nat.strongRecOn generalizing name with
  | ind bound ih =>
      cases name with
      | nil => trivial
      | cons first rest =>
          cases rest with
          | nil => rfl
          | cons c rest =>
              have shorter : ∀ tail, tail <:+ c :: rest → Passes tail := by
                intro tail ends
                have short := ends.length_le
                rw [List.length_cons] at size
                exact ih tail.length (by omega)
                  (fun member => noBreak (List.mem_cons_of_mem first (ends.subset member))) rfl
              by_cases word : c.isUpper = true ∧ rest.head?.any Char.isLower = true
              · exact .word (fun same => noBreak (same ▸ List.mem_cons_self)) word.1 word.2
                  fun tail ends => shorter tail (ends.trans (List.suffix_cons c rest))
              · exact .other word (shorter _ List.suffix_rfl)

/-- A name gets a hyphen before every character at which a word begins, and no other, unless it goes over
several lines. -/
theorem hyphenate_eq {name : List Char} (noBreak : '\n' ∉ name) : hyphenate name = hyphenated name := by
  cases name with
  | nil => rfl
  | cons first rest =>
      have both : Passes (first :: rest) := passes noBreak
      rw [hyphenate, both, hyphenated_cons]

/-! ### Words with hyphens between them -/

/-- A text that is not empty, of some kind of characters with single hyphens between them. -/
inductive Parted (kind : Char → Prop) : List Char → Prop where
  | last {c : Char} (here : kind c) : Parted kind [c]
  | next {c : Char} {rest : List Char} (here : kind c) (others : Parted kind rest) :
      Parted kind (c :: rest)
  | hyphen {c : Char} {rest : List Char} (here : kind c) (others : Parted kind rest) :
      Parted kind (c :: '-' :: rest)

namespace Parted

variable {kind : Char → Prop} {chars : List Char}

theorem of_forall (nonempty : chars ≠ []) (all : ∀ c ∈ chars, kind c) : Parted kind chars := by
  induction chars with
  | nil => exact absurd rfl nonempty
  | cons c rest ih =>
      have here := all c List.mem_cons_self
      cases rest with
      | nil => exact .last here
      | cons d rest =>
          exact .next here (ih (List.cons_ne_nil d rest) fun e member =>
            all e (List.mem_cons_of_mem c member))

/-- A change of the characters that leaves hyphens as they are. -/
theorem map {other : Char → Prop} {change : Char → Char} (parted : Parted kind chars)
    (changes : ∀ c, kind c → other (change c)) (keeps : change '-' = '-') :
    Parted other (chars.map change) := by
  induction parted with
  | last here => exact .last (changes _ here)
  | next here others ih => exact .next (changes _ here) ih
  | hyphen here others ih =>
      rw [List.map_cons, List.map_cons, keeps]
      exact .hyphen (changes _ here) ih

/-- A beginning of such a text, with more characters of the kind after it. A hyphen at its end comes to
stand between. -/
theorem append {front ending : List Char} (parted : Parted kind chars) (begins : front <+: chars)
    (nonempty : ending ≠ []) (all : ∀ c ∈ ending, kind c) : Parted kind (front ++ ending) := by
  have alone := of_forall nonempty all
  induction parted generalizing front with
  | last here =>
      cases front with
      | nil => exact alone
      | cons c front =>
          obtain ⟨rfl, empty⟩ := List.cons_prefix_cons.1 begins
          rw [List.prefix_nil.1 empty]
          exact .next here alone
  | next here others ih =>
      cases front with
      | nil => exact alone
      | cons c front =>
          obtain ⟨rfl, later⟩ := List.cons_prefix_cons.1 begins
          exact .next here (ih later)
  | hyphen here others ih =>
      cases front with
      | nil => exact alone
      | cons c front =>
          obtain ⟨rfl, later⟩ := List.cons_prefix_cons.1 begins
          cases front with
          | nil => exact .next here alone
          | cons d front =>
              obtain ⟨rfl, more⟩ := List.cons_prefix_cons.1 later
              exact .hyphen here (ih more)

theorem ne_nil (parted : Parted kind chars) : chars ≠ [] := by
  cases parted with
  | last | next | hyphen => exact List.cons_ne_nil _ _

theorem forall_mem (parted : Parted kind chars) : ∀ c ∈ chars, kind c ∨ c = '-' := by
  intro d member
  induction parted with
  | last here =>
      obtain rfl := List.mem_singleton.1 member
      exact .inl here
  | next here others ih =>
      rcases List.mem_cons.1 member with rfl | member
      · exact .inl here
      · exact ih member
  | hyphen here others ih =>
      rcases List.mem_cons.1 member with rfl | member
      · exact .inl here
      · rcases List.mem_cons.1 member with rfl | member
        · exact .inr rfl
        · exact ih member

/-! If hyphens are not of the kind, none stands at the beginning or at the end, and no two in a row. -/

theorem head?_ne (parted : Parted kind chars) (other : ¬ kind '-') : chars.head? ≠ some '-' := by
  intro head
  cases parted with
  | last here | next here _ | hyphen here _ =>
      obtain rfl := Option.some.inj head
      exact other here

theorem getLast?_ne (parted : Parted kind chars) (other : ¬ kind '-') :
    chars.getLast? ≠ some '-' := by
  induction parted with
  | last here =>
      intro last
      obtain rfl := Option.some.inj last
      exact other here
  | next here others ih =>
      rw [List.getLast?_cons_of_ne_nil others.ne_nil]
      exact ih
  | hyphen here others ih =>
      rw [List.getLast?_cons_cons, List.getLast?_cons_of_ne_nil others.ne_nil]
      exact ih

theorem single (parted : Parted kind chars) (other : ¬ kind '-') : ¬ ['-', '-'] <:+: chars := by
  have apart : ∀ {c rest}, kind c → ¬ ['-', '-'] <:+: rest → ¬ ['-', '-'] <:+: c :: rest := by
    intro c rest here others doubled
    rcases List.infix_cons_iff.1 doubled with start | later
    · obtain ⟨rfl, _⟩ := List.cons_prefix_cons.1 start
      exact other here
    · exact others later
  induction parted with
  | last here => exact apart here (by simp)
  | next here others ih => exact apart here ih
  | hyphen here others ih =>
      refine apart here fun doubled => ?_
      rcases List.infix_cons_iff.1 doubled with start | later
      · obtain ⟨tail, same⟩ := (List.cons_prefix_cons.1 start).2
        exact others.head?_ne other (by rw [← same]; rfl)
      · exact ih later

end Parted

/-- Hyphens come only between characters of the name. -/
theorem hyphenated_parted {kind : Char → Prop} {name : List Char} (nonempty : name ≠ [])
    (all : ∀ c ∈ name, kind c) : Parted kind (hyphenated name) := by
  obtain ⟨first, rest, rfl⟩ := List.exists_cons_of_ne_nil nonempty
  rw [hyphenated_cons]
  induction rest generalizing first with
  | nil => exact .last (all first List.mem_cons_self)
  | cons c rest ih =>
      have here := all first List.mem_cons_self
      have others := ih c (List.cons_ne_nil c rest) fun d member =>
        all d (List.mem_cons_of_mem first member)
      rw [hyphenatedAfter]
      split
      · exact .hyphen here others
      · exact .next here others

theorem Parted.ascii {chars : List Char} (parted : Parted IsNameChar chars) :
    ∀ c ∈ chars, c.toNat < 128 := by
  intro c member
  rcases parted.forall_mem c member with name | rfl
  · exact name.ascii
  · decide

/-- A name with hyphens in lower case. -/
theorem Parted.lowercase {text : String} (parted : Parted IsNameChar text.toList) :
    Parted IsWordChar (Text.lowercase text).toList := by
  rw [Text.toList_lowercase_of_ascii parted.ascii]
  exact parted.map (fun _ name => name.toLower.1) rfl

theorem Parted.names {chars : List Char} (parted : Parted IsWordChar chars) :
    Parted IsNameChar chars := by
  have same : Parted IsNameChar (chars.map id) := parted.map (fun _ word => word.name) rfl
  rwa [List.map_id] at same

/-- The plural of words with hyphens between them. -/
theorem Parted.plural {word : List Char} (parted : Parted IsWordChar word) :
    Parted IsWordChar (pluralOf word) := by
  obtain ⟨front, ending, form, begins, ends⟩ := pluralOf_inflection word
  rw [form]
  exact parted.append begins ends.nonempty fun c member => .inl (ends.small c member)

theorem endpointName_parted {name : String} (named : Text.IsAsciiIdentifier name) :
    Parted IsWordChar (endpointName name).toList := by
  have nonempty := (Text.segment_of_isIdentifier named.identifier).nonempty
  have noBreak : '\n' ∉ name.toList := fun member => absurd (named.names _ member) (by decide)
  have lower : Parted IsWordChar
      (Text.lowercase (String.ofList (hyphenated name.toList))).toList := by
    apply Parted.lowercase
    rw [String.toList_ofList]
    exact hyphenated_parted nonempty named.names
  rw [endpointName, hyphenate_eq noBreak, pluralize,
    if_neg fun empty => lower.ne_nil (by rw [empty]; rfl), String.toList_ofList]
  exact lower.names.lowercase.plural

/-- The path segment of a resource is its name with one hyphen before each character at which a word begins,
in lower case and in the plural, unless the name goes over several lines. If the name is an ASCII identifier,
the segment is not empty, has small letters, digits, underscores and hyphens, no hyphen at either end, and
no two hyphens in a row. -/
theorem endpointName_words (name : String) :
    ('\n' ∉ name.toList → endpointName name =
        pluralize (Text.lowercase (String.ofList (hyphenated name.toList)))) ∧
      (Text.IsAsciiIdentifier name →
        (endpointName name).toList ≠ [] ∧
        (∀ c ∈ (endpointName name).toList, IsWordChar c ∨ c = '-') ∧
        (endpointName name).toList.head? ≠ some '-' ∧
        (endpointName name).toList.getLast? ≠ some '-' ∧
        ¬ ['-', '-'] <:+: (endpointName name).toList) := by
  constructor
  · intro noBreak
    rw [endpointName, hyphenate_eq noBreak]
  · intro named
    have parted := endpointName_parted named
    have other : ¬ IsWordChar '-' := by decide
    exact ⟨parted.ne_nil, parted.forall_mem, parted.head?_ne other, parted.getLast?_ne other,
      parted.single other⟩

/-- A name with an acronym, an underscore, and a capital after a digit. -/
theorem requestLog_words :
    '\n' ∉ "HTTPRequestLog_V2Entry".toList ∧ Text.IsAsciiIdentifier "HTTPRequestLog_V2Entry" ∧
      endpointName "HTTPRequestLog_V2Entry" = "http-request-log_v2-entries" ∧
      ¬ ['-', '-'] <:+: (endpointName "HTTPRequestLog_V2Entry").toList := by
  have noBreak : '\n' ∉ "HTTPRequestLog_V2Entry".toList := by decide
  have named : Text.IsAsciiIdentifier "HTTPRequestLog_V2Entry" := by decide +kernel
  obtain ⟨spelling, shape⟩ := endpointName_words "HTTPRequestLog_V2Entry"
  obtain ⟨_, _, _, _, single⟩ := shape named
  exact ⟨noBreak, named, (spelling noBreak).trans (by decide +kernel), single⟩

end RouteAtlas.Naming
