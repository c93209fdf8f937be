/-
Module: RouteAtlas.Proofs.Naming.ViewName
Layer: Proofs
Purpose: Endings of the names of views. `ViewSet` and `View` are dropped, and a name without an ending is
  left alone, so that all three give one identifier. The ending `APIView` is never dropped as a whole,
  because `View` is found first: what it leaves ends in `API`, which is one more word of the identifier.
  Two identifiers that differ by that word are equal only where it does not show, since both are cut
  before it, or where the digest of a path happens to be spelled by the path.
Trusted boundary: none
Main exports: IsBareName, viewName_eq, viewName_append_viewSet, viewName_append_view, viewName_eq_self,
  SameButSigma, exists_lowerFrom_append, replace_caseBoundary_append, exists_snakeCase_api,
  toList_joinParts, not_echo, Parts.Lengthened, Parts.Hidden, Parts.Lengthened.identifier_eq_iff,
  partsOf_lengthened, viewEndings_alike_iff
-/
import Mathlib.Data.List.Forall2
import Mathlib.Data.List.TakeWhile
import RouteAtlas.Proofs.Naming.OperationId

namespace RouteAtlas.Naming

/-! ### Endings -/

/-- The name of a view before an ending is added: an identifier that has none of the endings, nor what would
make one of them longer. -/
structure IsBareName (base : String) : Prop where
  identifier : Text.isIdentifier base = true
  bare : ∀ ending ∈ ["ViewSet", "View", "API"], ¬ ending.toList <:+ base.toList

instance (base : String) : Decidable (IsBareName base) :=
  decidable_of_iff (Text.isIdentifier base = true ∧
      ∀ ending ∈ ["ViewSet", "View", "API"], ¬ ending.toList <:+ base.toList)
    ⟨fun ⟨identifier, bare⟩ => ⟨identifier, bare⟩, fun base => ⟨base.identifier, base.bare⟩⟩

section Endings

variable {base view ending : String}

theorem withoutSuffix?_append (base ending : String) :
    Text.withoutSuffix? ending (base ++ ending) = some base := by
  have dropped : Text.dropSuffix? ending.toList (base ++ ending).toList = some base.toList :=
    (Text.dropSuffix?_eq_some_iff _ _ _).2 String.toList_append
  rw [Text.withoutSuffix?, dropped, Option.map_some, String.ofList_toList]

theorem withoutSuffix?_eq_none (other : ¬ ending.toList <:+ view.toList) :
    Text.withoutSuffix? ending view = none := by
  rw [Text.withoutSuffix?, Option.map_eq_none_iff, Option.eq_none_iff_forall_not_mem]
  intro front dropped
  exact other ⟨front, ((Text.dropSuffix?_eq_some_iff _ _ _).1 dropped).symm⟩

/-- A text does not end in another one that has another last character. -/
theorem not_suffix_of_getLast? {tail chars : List Char} (nonempty : tail ≠ [])
    (differ : chars.getLast? ≠ tail.getLast?) : ¬ tail <:+ chars := by
  rintro ⟨front, rfl⟩
  exact differ (List.getLast?_append_of_ne_nil front nonempty)

/-- The name of a view without a dot or a parenthesis is cut at its ending alone. -/
theorem viewName_eq (plain : ∀ c ∈ view.toList, c ≠ '.' ∧ c ≠ '(') :
    viewName view =
      (["ViewSet", "View", "APIView"].findSome? fun ending =>
        Text.withoutSuffix? ending view).getD view := by
  have all : view.toList.takeWhile (fun c => c ≠ '.' && c ≠ '(') = view.toList := by
    apply List.takeWhile_eq_self_iff.2
    intro c member
    simpa using plain c member
  rw [viewName, all, String.ofList_toList]

theorem viewName_append_viewSet (plain : ∀ c ∈ (base ++ "ViewSet").toList, c ≠ '.' ∧ c ≠ '(') :
    viewName (base ++ "ViewSet") = base := by
  rw [viewName_eq plain, List.findSome?_cons, withoutSuffix?_append, Option.getD_some]

/-- `View` is found before `APIView`. -/
theorem viewName_append_view (plain : ∀ c ∈ (base ++ "View").toList, c ≠ '.' ∧ c ≠ '(') :
    viewName (base ++ "View") = base := by
  have noSet : ¬ "ViewSet".toList <:+ (base ++ "View").toList := by
    apply not_suffix_of_getLast? (by decide)
    rw [String.toList_append, List.getLast?_append_of_ne_nil _ (by decide)]
    decide
  rw [viewName_eq plain, List.findSome?_cons, withoutSuffix?_eq_none noSet, List.findSome?_cons,
    withoutSuffix?_append, Option.getD_some]

theorem viewName_eq_self (plain : ∀ c ∈ view.toList, c ≠ '.' ∧ c ≠ '(')
    (noSet : ¬ "ViewSet".toList <:+ view.toList) (noView : ¬ "View".toList <:+ view.toList) :
    viewName view = view := by
  have noApiView : ¬ "APIView".toList <:+ view.toList := by
    intro longer
    have shorter : "View".toList <:+ "APIView".toList := by decide
    exact noView (shorter.trans longer)
  rw [viewName_eq plain, List.findSome?_cons, withoutSuffix?_eq_none noSet, List.findSome?_cons,
    withoutSuffix?_eq_none noView, List.findSome?_cons, withoutSuffix?_eq_none noApiView]
  rfl

/-- No character of an identifier ends the name of a view. -/
theorem IsBareName.plain (named : IsBareName base) (ending : String)
    (letters : ending.toList.all Char.isAlpha = true) :
    ∀ c ∈ (base ++ ending).toList, c ≠ '.' ∧ c ≠ '(' := by
  have segment := Text.segment_of_isIdentifier named.identifier
  intro c member
  have plain : Text.IsSegmentChar c := by
    rw [String.toList_append] at member
    rcases List.mem_append.1 member with member | member
    · exact segment.plain c member
    · exact .inl (by rw [Char.isAlphanum, List.all_eq_true.1 letters c member, Bool.true_or])
  constructor
  · rintro rfl
    exact absurd plain (by decide)
  · rintro rfl
    exact absurd plain (by decide)

end Endings

/-! ### A view with one more word -/

/-- One of the two forms of the small sigma. -/
def IsSmallSigma (c : Char) : Prop := c = 'σ' ∨ c = 'ς'

theorem IsSmallSigma.utf8Size {c : Char} (sigma : IsSmallSigma c) : c.utf8Size = 2 := by
  rcases sigma with rfl | rfl
  · rfl
  · rfl

theorem IsSmallSigma.isDigit {c : Char} (sigma : IsSmallSigma c) : c.isDigit = false := by
  rcases sigma with rfl | rfl
  · rfl
  · rfl

/-- Two texts that agree but for the two forms of the small sigma. -/
def SameButSigma : List Char → List Char → Prop :=
  List.Forall₂ fun c d => c = d ∨ IsSmallSigma c ∧ IsSmallSigma d

theorem SameButSigma.refl (chars : List Char) : SameButSigma chars chars := by
  rw [SameButSigma, List.forall₂_same]
  exact fun c _ => .inl rfl

theorem SameButSigma.utf8Len_eq {chars others : List Char} (same : SameButSigma chars others) :
    String.utf8Len chars = String.utf8Len others := by
  induction same with
  | nil => rfl
  | @cons c d chars others here _ ih =>
      have size : c.utf8Size = d.utf8Size := by
        rcases here with rfl | ⟨left, right⟩
        · rfl
        · rw [left.utf8Size, right.utf8Size]
      rw [String.utf8Len_cons, String.utf8Len_cons, ih, size]

/-- What follows a text in lower case shows in its sigmas alone. -/
theorem exists_lowerFrom_append (before chars more : List Char) :
    ∃ start, Text.lowerFrom before (chars ++ more) =
        start ++ Text.lowerFrom (chars.reverse ++ before) more ∧
      SameButSigma start (Text.lowerFrom before chars) := by
  induction chars generalizing before with
  | nil => exact ⟨[], rfl, .nil⟩
  | cons c chars ih =>
      obtain ⟨start, split, same⟩ := ih (c :: before)
      rw [List.cons_append, Text.lowerFrom, Text.lowerFrom, split, List.reverse_cons, List.append_assoc]
      have here : ∀ first second : Bool,
          SameButSigma
            (if c = 'Σ' then if first = true then ['ς'] else ['σ'] else Text.lowerChar c)
            (if c = 'Σ' then if second = true then ['ς'] else ['σ'] else Text.lowerChar c) := by
        intro first second
        split
        · cases first <;> cases second <;> exact .cons (by simp [IsSmallSigma]) .nil
        · exact SameButSigma.refl _
      exact ⟨_, (List.append_assoc ..).symm, List.rel_append (here _ _) same⟩

/-- A mark comes between two texts where the second one begins with a capital that ends a run of small
letters and digits; apart from it they are marked by themselves. -/
theorem replace_caseBoundary_append (mark : Char) {front : List Char} {before : Char}
    (last : front.getLast? = some before) (c : Char) (rest : List Char) :
    Text.replace (caseBoundary mark) (front ++ c :: rest) =
      Text.replace (caseBoundary mark) front ++
        ((if ((before.isLower || before.isDigit) && c.isUpper) = true then [mark] else []) ++
          Text.replace (caseBoundary mark) (c :: rest)) := by
  induction front with
  | nil => cases last
  | cons first front ih =>
      cases front with
      | nil =>
          have same : first = before := Option.some.inj last
          have single : Text.replace (caseBoundary mark) [first] = [first] := rfl
          subst same
          rw [List.singleton_append, replace_caseBoundary_cons, single]
          split
          · rfl
          · rfl
      | cons second front =>
          rw [List.getLast?_cons_cons] at last
          rw [List.cons_append, List.cons_append, replace_caseBoundary_cons, replace_caseBoundary_cons,
            ← List.cons_append, ih last, List.append_assoc]

/-- With `API` at its end a name gets three capitals more, and a mark before them if one is due. -/
theorem exists_replace_api (base : String) :
    ∃ more, (more = "API".toList ∨ more = "_API".toList) ∧
      Text.replace (caseBoundary '_') (base ++ "API").toList =
        Text.replace (caseBoundary '_') base.toList ++ more := by
  have capitals : Text.replace (caseBoundary '_') "API".toList = "API".toList := by decide
  rw [String.toList_append]
  cases last : base.toList.getLast? with
  | none =>
      rw [List.getLast?_eq_none_iff.1 last]
      exact ⟨"API".toList, .inl rfl, capitals⟩
  | some before =>
      have split := replace_caseBoundary_append '_' last 'A' "PI".toList
      by_cases ends : ((before.isLower || before.isDigit) && 'A'.isUpper) = true
      · rw [if_pos ends] at split
        exact ⟨"_API".toList, .inr rfl, split⟩
      · rw [if_neg ends] at split
        exact ⟨"API".toList, .inl rfl, split⟩

/-- So its form with underscores has one more word, or a longer last one. -/
theorem exists_snakeCase_api (base : String) :
    ∃ start gap, (gap = [] ∨ gap = ['_']) ∧ SameButSigma start (snakeCase base).toList ∧
      (snakeCase (base ++ "API")).toList = start ++ (gap ++ "api".toList) := by
  obtain ⟨more, form, split⟩ := exists_replace_api base
  obtain ⟨start, lower, same⟩ :=
    exists_lowerFrom_append [] (Text.replace (caseBoundary '_') base.toList) more
  have ascii : more.all (fun c => decide (c.toNat < 128)) = true := by
    rcases form with rfl | rfl
    · rfl
    · rfl
  have whole : (snakeCase (base ++ "API")).toList = start ++ more.map Char.toLower := by
    rw [snakeCase, Text.lowercase, String.toList_ofList, String.toList_ofList, split, lower,
      Text.lowerFrom_ascii _ (by simpa using ascii)]
  have alike : SameButSigma start (snakeCase base).toList := by
    rwa [snakeCase, Text.lowercase, String.toList_ofList, String.toList_ofList]
  rcases form with rfl | rfl
  · exact ⟨start, [], .inl rfl, alike, whole⟩
  · exact ⟨start, ['_'], .inr rfl, alike, whole⟩

/-! ### Identifiers of a view with one more word -/

/-- What a verb gives to the beginning of an identifier. -/
def lead (verb : String) : List Char := if verb = "" then [] else verb.toList ++ ['_']

/-- The view stands between the verb and the other parts. -/
theorem toList_joinParts {view : String} (nonempty : view ≠ "") (verb : String) (parts : List String) :
    (joinParts (verb :: view :: parts)).toList = lead verb ++ (view.toList ++ trail parts) := by
  by_cases silent : verb = ""
  · rw [silent, joinParts_cons_empty, toList_joinParts_cons nonempty]
    rfl
  · rw [toList_joinParts_cons silent, trail_cons nonempty, lead, if_neg silent]
    simp

/-- A word with a digest after it does not begin as `api` with the same word after it. -/
theorem not_echo {second : Char} (hexadecimal : second ∈ hexDigits) (first : Char)
    (rest others : List Char) :
    ∀ word : List Char, word ++ '_' :: first :: second :: rest ≠ "api_".toList ++ (word ++ others)
  | [] => fun same => absurd (List.cons.inj same).1 (by decide)
  | [_] => fun same => absurd (List.cons.inj (List.cons.inj same).2).1 (by decide)
  | [_, _] => fun same =>
      absurd (List.cons.inj (List.cons.inj (List.cons.inj same).2).2).1 (by decide)
  | [c, d, e] => fun same => by
      -- The word is `api` itself, so that its second letter is the second digit.
      have letters : [c, d, e] ++ '_' :: first :: second :: rest =
          "api_".toList ++ ([c, d, e] ++ others) := same
      simp only [List.cons_append, List.nil_append, String.reduceToList, List.cons.injEq] at letters
      obtain ⟨-, rfl, -, -, -, rfl, -⟩ := letters
      exact absurd hexadecimal (by decide)
  | c :: d :: e :: g :: word => fun same => by
      -- It begins with `api_`, and what follows there is a shorter word of the same kind.
      simp only [List.cons_append, String.reduceToList, List.nil_append, List.cons.injEq] at same
      obtain ⟨rfl, rfl, rfl, rfl, shorter⟩ := same
      exact not_echo hexadecimal first rest others word shorter

/-- With one more word before the words of a path these go on in another way than with a digest after the
first of them. -/
theorem trail_not_prefix {tag : String} {first second : Char} {rest : List Char}
    (digits : tag.toList = first :: second :: rest) (hexadecimal : second ∈ hexDigits)
    {gap : List Char} (gaps : gap = [] ∨ gap = ['_']) {words : List String}
    (spoken : ∀ word ∈ words, word ≠ "") :
    ¬ trail [words.head?.getD "", tag] <+: gap ++ "api".toList ++ trail [joinParts words] := by
  have ends : trail [tag] = '_' :: first :: second :: rest := by
    rw [trail_single (by rintro rfl; cases digits), digits]
  rintro ⟨more, whole⟩
  cases words with
  | nil =>
      have silent : trail [joinParts []] = [] := rfl
      rw [List.head?_nil, Option.getD_none, trail_cons_empty, ends, silent] at whole
      rcases gaps with rfl | rfl
      · cases whole
      · -- The second digit meets the second letter of `api`.
        obtain ⟨-, -, rfl, -⟩ : '_' = '_' ∧ first = 'a' ∧ second = 'p' ∧ rest ++ more = ['i'] := by
          simpa using whole
        exact absurd hexadecimal (by decide)
  | cons word others =>
      have here := spoken word List.mem_cons_self
      have chars := toList_joinParts_cons here others
      have joined : joinParts (word :: others) ≠ "" := by
        intro empty
        rw [empty] at chars
        exact here (by simpa using (List.append_eq_nil_iff.1 chars.symm).1)
      rw [trail_single joined, chars, List.head?_cons, Option.getD_some, trail_cons here, ends] at whole
      rcases gaps with rfl | rfl
      · cases whole
      · exact not_echo hexadecimal first (rest ++ more) (trail others) word.toList (by simpa using whole)

namespace Parts

/-- Parts whose view is that of other parts with one more word at its end. -/
structure Lengthened (parts longer : Parts) : Prop where
  verb : longer.verb = parts.verb
  words : longer.words = parts.words
  nonempty : parts.view ≠ ""
  view : ∃ start gap, (gap = [] ∨ gap = ['_']) ∧ SameButSigma start parts.view.toList ∧
    longer.view.toList = start ++ (gap ++ "api".toList)

namespace Lengthened

variable {parts longer : Parts}

theorem view_ne (lengthened : Lengthened parts longer) : longer.view ≠ "" := by
  obtain ⟨start, gap, -, -, split⟩ := lengthened.view
  intro empty
  rw [empty] at split
  simp at split

/-- The one view has more bytes than the other. -/
theorem utf8Len_view (lengthened : Lengthened parts longer) :
    String.utf8Len parts.view.toList < String.utf8Len longer.view.toList := by
  obtain ⟨start, gap, -, same, split⟩ := lengthened.view
  have word : String.utf8Len "api".toList = 3 := by decide
  rw [split, String.utf8Len_append, String.utf8Len_append, same.utf8Len_eq, word]
  omega

/-- So whatever the views are joined with, the one text has more bytes than the other. -/
theorem utf8ByteSize_lt (lengthened : Lengthened parts longer) (others : List String) :
    (joinParts (parts.verb :: parts.view :: others)).utf8ByteSize <
      (joinParts (longer.verb :: longer.view :: others)).utf8ByteSize := by
  have view := lengthened.utf8Len_view
  rw [← String.utf8Len_toList, ← String.utf8Len_toList, lengthened.verb,
    toList_joinParts lengthened.nonempty, toList_joinParts lengthened.view_ne]
  simp only [String.utf8Len_append]
  omega

theorem short_lt (lengthened : Lengthened parts longer) (digest : HexDigest) :
    (parts.short digest).utf8ByteSize < (longer.short digest).utf8ByteSize := by
  rw [short, short, lengthened.words]
  exact lengthened.utf8ByteSize_lt _

/-- A digit stands at the beginning of both or of neither. -/
theorem startsDigit_iff (lengthened : Lengthened parts longer) :
    StartsDigit longer.joined ↔ StartsDigit parts.joined := by
  obtain ⟨start, gap, -, same, split⟩ := lengthened.view
  obtain ⟨c, chars, view⟩ : ∃ c chars, parts.view.toList = c :: chars :=
    List.exists_cons_of_ne_nil (by simpa using lengthened.nonempty)
  rw [view] at same
  obtain ⟨d, others, here, -, begins⟩ := List.forall₂_cons_right_iff.1 same
  have alike : d.isDigit = c.isDigit := by
    rcases here with rfl | ⟨left, right⟩
    · rfl
    · rw [left.isDigit, right.isDigit]
  rw [StartsDigit, StartsDigit, joined, joined, toList_joinParts lengthened.nonempty,
    toList_joinParts lengthened.view_ne, lengthened.verb, split, begins, view]
  cases lead parts.verb with
  | nil => exact Bool.coe_iff_coe.2 alike
  | cons first rest => rfl

theorem guarded_lt (lengthened : Lengthened parts longer) :
    (guardDigit parts.joined).utf8ByteSize < (guardDigit longer.joined).utf8ByteSize := by
  have joined : parts.joined.utf8ByteSize < longer.joined.utf8ByteSize := by
    rw [Parts.joined, Parts.joined, lengthened.words]
    exact lengthened.utf8ByteSize_lt _
  by_cases starts : StartsDigit parts.joined
  · rw [guardDigit_of_startsDigit starts,
      guardDigit_of_startsDigit (lengthened.startsDigit_iff.2 starts), String.utf8ByteSize_append,
      String.utf8ByteSize_append]
    exact Nat.add_lt_add_left joined _
  · rw [guardDigit_eq_self starts, guardDigit_eq_self (mt lengthened.startsDigit_iff.1 starts)]
    exact joined

/-- The form with a digest is no beginning of the other parts joined: with one more word these go on in
another way before the digest ends. -/
theorem short_not_prefix (lengthened : Lengthened parts longer) (digest : HexDigest) :
    ¬ (parts.short digest).toList <+: longer.joined.toList := by
  obtain ⟨start, gap, gaps, same, split⟩ := lengthened.view
  intro begins
  rw [short, joined, toList_joinParts lengthened.nonempty, toList_joinParts lengthened.view_ne,
    lengthened.verb, lengthened.words, split, List.prefix_append_right_inj, List.append_assoc] at begins
  obtain ⟨more, whole⟩ := begins
  rw [List.append_assoc] at whole
  obtain ⟨-, others⟩ := List.append_inj whole same.length_eq.symm
  obtain ⟨first, second, rest, digits, hexadecimal⟩ :=
    digest.exists_digits (Text.join "_" parts.words)
  have tag := (String.toList_ofList (l := _)).trans digits
  rw [← parts.joinParts_words] at others tag
  exact trail_not_prefix tag hexadecimal gaps parts.spoken ⟨more, others⟩

/-- So the form with a digest is never the other parts cut. -/
theorem short_ne_cut (lengthened : Lengthened parts longer) (digest : HexDigest) :
    parts.short digest ≠ String.ofList ((guardDigit longer.joined).toList.take maxLength) := by
  intro same
  have chars : (parts.short digest).toList = (guardDigit longer.joined).toList.take maxLength := by
    rw [same, String.toList_ofList]
  by_cases starts : StartsDigit longer.joined
  · have nonempty : parts.joined ≠ "" := by
      intro empty
      rw [lengthened.startsDigit_iff, empty] at starts
      cases starts
    have digit : StartsDigit (parts.short digest) := by
      rwa [StartsDigit, parts.head?_short digest nonempty, ← StartsDigit, ← lengthened.startsDigit_iff]
    have other := not_startsDigit_guardDigit longer.joined
    rw [StartsDigit, chars, List.head?_take] at digit
    exact other digit
  · rw [guardDigit_eq_self starts] at chars
    exact lengthened.short_not_prefix digest (chars ▸ List.take_prefix _ _)

/-- Parts that fit with one more word fit without it, in fewer bytes. -/
theorem identifier_ne_of_fits (lengthened : Lengthened parts longer) (digest : HexDigest)
    (fits : (guardDigit longer.joined).utf8ByteSize ≤ maxLength) :
    longer.identifier digest ≠ parts.identifier digest := by
  have joined := lengthened.guarded_lt
  rw [identifier, identifier, if_pos fits, if_pos (joined.le.trans fits)]
  intro same
  rw [same] at joined
  exact lt_irrefl _ joined

/-- The form with the digest is that of the parts with one more word where it is spelled by the parts. -/
theorem identifier_eq_short_iff (lengthened : Lengthened parts longer) (digest : HexDigest)
    (fits : (longer.short digest).utf8ByteSize ≤ maxLength) :
    longer.short digest = parts.identifier digest ↔ guardDigit parts.joined = longer.short digest := by
  have smaller := lengthened.short_lt digest
  rcases parts.identifier_cases digest with ⟨_, form⟩ | ⟨long, _, form⟩ | ⟨_, cut, _⟩
  · rw [form, eq_comm]
  · have spelled : guardDigit parts.joined ≠ longer.short digest := by
      intro same
      rw [same] at long
      exact absurd fits (not_le_of_gt long)
    have differ : longer.short digest ≠ parts.short digest := by
      intro same
      rw [same] at smaller
      exact lt_irrefl _ smaller
    rw [form]
    exact iff_of_false differ spelled
  · exact absurd (cut.trans smaller) (not_lt_of_ge fits)

/-- Parts that are cut give what the parts with one more word give if these are cut before they differ. -/
theorem identifier_eq_cut_iff (lengthened : Lengthened parts longer) (digest : HexDigest) :
    String.ofList ((guardDigit longer.joined).toList.take maxLength) = parts.identifier digest ↔
      ((guardDigit parts.joined).utf8ByteSize ≤ maxLength ∨
          maxLength < (parts.short digest).utf8ByteSize) ∧
        (guardDigit parts.joined).toList.take maxLength =
          (guardDigit longer.joined).toList.take maxLength := by
  rcases parts.identifier_cases digest with ⟨fits, form⟩ | ⟨long, fits, form⟩ | ⟨_, cut, form⟩
  · have whole : (guardDigit parts.joined).toList.take maxLength = (guardDigit parts.joined).toList := by
      apply List.take_of_length_le
      rw [String.length_toList]
      exact (length_le_utf8ByteSize _).trans fits
    rw [form, whole, ← String.toList_inj, String.toList_ofList, eq_comm]
    exact (and_iff_right (.inl fits)).symm
  · rw [form]
    refine iff_of_false (lengthened.short_ne_cut digest).symm ?_
    rintro ⟨small | large, -⟩
    · exact absurd small (not_le_of_gt long)
    · exact absurd fits (not_le_of_gt large)
  · rw [form, String.ofList_inj, eq_comm]
    exact (and_iff_right (.inr cut)).symm

end Lengthened

/-- One word more in the view does not show in the identifier: with it the parts are too long for one, and
either the form with the digest fits and is what the other parts spell, or it does not fit either, and both
identifiers are the same characters of all parts. -/
def Hidden (digest : HexDigest) (parts longer : Parts) : Prop :=
  maxLength < (guardDigit longer.joined).utf8ByteSize ∧
    ((longer.short digest).utf8ByteSize ≤ maxLength ∧ guardDigit parts.joined = longer.short digest ∨
      maxLength < (longer.short digest).utf8ByteSize ∧
        ((guardDigit parts.joined).utf8ByteSize ≤ maxLength ∨
          maxLength < (parts.short digest).utf8ByteSize) ∧
        (guardDigit parts.joined).toList.take maxLength =
          (guardDigit longer.joined).toList.take maxLength)

instance (digest : HexDigest) (parts longer : Parts) : Decidable (Hidden digest parts longer) :=
  inferInstanceAs (Decidable (_ ∧ (_ ∧ _ ∨ _ ∧ (_ ∨ _) ∧ _)))

/-- When parts with one more word at the end of the view have the same identifier. -/
theorem Lengthened.identifier_eq_iff (lengthened : Lengthened parts longer) (digest : HexDigest) :
    longer.identifier digest = parts.identifier digest ↔ Hidden digest parts longer := by
  rw [Hidden]
  rcases longer.identifier_cases digest with ⟨fits, _⟩ | ⟨long, fits, form⟩ | ⟨long, cut, form⟩
  · exact iff_of_false (lengthened.identifier_ne_of_fits digest fits)
      fun ⟨long, _⟩ => absurd fits (not_le_of_gt long)
  · have shorter : ¬ maxLength < (longer.short digest).utf8ByteSize := not_lt_of_ge fits
    rw [form, lengthened.identifier_eq_short_iff digest fits, and_iff_right long, and_iff_right fits,
      or_iff_left fun other => shorter other.1]
  · have spelled : ¬ ((longer.short digest).utf8ByteSize ≤ maxLength ∧
        guardDigit parts.joined = longer.short digest) := fun other => not_le_of_gt cut other.1
    rw [form, lengthened.identifier_eq_cut_iff digest, and_iff_right long, and_iff_right cut,
      or_iff_right spelled]

end Parts

/-! ### The endings of one view -/

section Views

variable {base : String}

/-- The view shows in identifiers by its name alone. -/
theorem operationId_of_viewName_eq (method path : String) {view other : String}
    (same : viewName view = viewName other) :
    operationId method path (some view) = operationId method path (some other) := by
  rw [operationId_eq, operationId_eq, partsOf, partsOf, Option.getD_some, Option.getD_some, same]

theorem IsBareName.viewName_eq (named : IsBareName base) : viewName base = base := by
  have plain := named.plain "" rfl
  rw [String.append_empty] at plain
  exact viewName_eq_self plain (named.bare "ViewSet" (by simp)) (named.bare "View" (by simp))

theorem IsBareName.viewName_api (named : IsBareName base) : viewName (base ++ "API") = base ++ "API" := by
  have last : (base ++ "API").toList.getLast? = some 'I' := by
    rw [String.toList_append, List.getLast?_append_of_ne_nil _ (by decide)]
    rfl
  refine viewName_eq_self (named.plain "API" (by decide)) ?_ ?_
  · exact not_suffix_of_getLast? (by decide) (by rw [last]; decide)
  · exact not_suffix_of_getLast? (by decide) (by rw [last]; decide)

/-- Of the ending `APIView` only `View` is dropped. -/
theorem IsBareName.viewName_apiView (named : IsBareName base) :
    viewName (base ++ "APIView") = base ++ "API" := by
  have plain := named.plain "APIView" (by decide)
  have split : base ++ "APIView" = base ++ "API" ++ "View" := by
    rw [String.append_assoc]
    rfl
  rw [split] at plain ⊢
  exact viewName_append_view plain

theorem partsOf_lengthened (method path : String) (named : IsBareName base) :
    Parts.Lengthened (partsOf method path (some base)) (partsOf method path (some (base ++ "API"))) where
  verb := rfl
  words := rfl
  nonempty := by
    have pieces : Text.IsSegment (Text.replace (caseBoundary '_') base.toList) :=
      replace_segment (fun _ _ _ plain applies => caseBoundary_segment (by decide) plain applies)
        (Text.segment_of_isIdentifier named.identifier)
    have segment : Text.IsSegment (snakeCase base).toList :=
      Text.lowercase_segment (by rwa [String.toList_ofList])
    rw [partsOf, Option.getD_some, named.viewName_eq]
    exact fun empty => segment.nonempty (congrArg String.toList empty)
  view := by
    rw [partsOf, partsOf, Option.getD_some, Option.getD_some, named.viewName_eq, named.viewName_api]
    exact exists_snakeCase_api base

/-- Identifiers of views that have one name and different endings. Without an ending, with `ViewSet` and with
`View` they are the same. With `APIView` it is the identifier of the name with `API`, which is that of
the name alone exactly if the word `api` does not show in it. -/
theorem viewEndings_alike_iff (method path : String) (named : IsBareName base) :
    operationId method path (some (base ++ "ViewSet")) = operationId method path (some base) ∧
      operationId method path (some (base ++ "View")) = operationId method path (some base) ∧
      operationId method path (some (base ++ "APIView")) =
        operationId method path (some (base ++ "API")) ∧
      (operationId method path (some (base ++ "APIView")) = operationId method path (some base) ↔
        Parts.Hidden blake3 (partsOf method path (some base))
          (partsOf method path (some (base ++ "API")))) := by
  have whole := named.viewName_eq
  have viewSet := viewName_append_viewSet (named.plain "ViewSet" (by decide))
  have view := viewName_append_view (named.plain "View" (by decide))
  have kept : operationId method path (some (base ++ "APIView")) =
      operationId method path (some (base ++ "API")) :=
    operationId_of_viewName_eq method path (named.viewName_apiView.trans named.viewName_api.symm)
  refine ⟨operationId_of_viewName_eq method path (viewSet.trans whole.symm),
    operationId_of_viewName_eq method path (view.trans whole.symm), kept, ?_⟩
  rw [kept]
  exact (partsOf_lengthened method path named).identifier_eq_iff blake3

/-- A name so long that an identifier with the longest verb ends with it. -/
def reminderView : String := "OrganizationMembershipInvitationConfirmationReminder"

/-- With this name the endings give one identifier. -/
theorem reminderView_alike :
    IsBareName reminderView ∧
      operationId "options" "/" (some (reminderView ++ "APIView")) =
        operationId "options" "/" (some reminderView) := by
  have named : IsBareName reminderView := by decide +kernel
  obtain ⟨_, _, _, alike⟩ := viewEndings_alike_iff "options" "/" named
  exact ⟨named, alike.2 (by decide +kernel)⟩

/-- With most names it is not so. -/
theorem taskApiView_differs :
    IsBareName "Task" ∧ operationId "get" "/tasks/" (some ("Task" ++ "APIView")) = "get_task_api_tasks" ∧
      operationId "get" "/tasks/" (some "Task") = "get_task_tasks" := by
  decide +kernel

end Views

end RouteAtlas.Naming
