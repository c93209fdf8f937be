/-
Module: RouteAtlas.Proofs.Naming.Endpoint
Layer: Proofs
Purpose: What the path segment of a resource is made of. The segment of a name that is an identifier
  has letters, digits, underscores, hyphens and characters beyond ASCII, and at least one of them:
  hyphens come in, capitals become small and the end is changed, but nothing comes in that means
  anything in a path.
Trusted boundary: none
Main exports: isIdentifier, isUpper_iff, isLower_iff, isAlphanum_iff, IsSegmentChar, IsSegment,
  segment_of_isIdentifier, forall_ascii, lowerChar_segment, lowercase_segment, caseBoundary_forall,
  hyphenate_segment, IsInflection, pluralOf_inflection, pluralOf_segment, endpointName_segment
-/
import RouteAtlas.Naming.Casing
import RouteAtlas.Proofs.Text.Replacement
import RouteAtlas.Text.Identifier

namespace RouteAtlas

namespace Text

/-- A text that is an identifier. -/
def isIdentifier (text : String) : Bool :=
  text.toList.head?.any isIdentifierStart && text.toList.all isIdentifierContinue

theorem isUpper_iff {c : Char} : c.isUpper = true ↔ 65 ≤ c.toNat ∧ c.toNat ≤ 90 :=
  decide_eq_true_iff

theorem isLower_iff {c : Char} : c.isLower = true ↔ 97 ≤ c.toNat ∧ c.toNat ≤ 122 :=
  Bool.and_eq_true_iff.trans (and_congr decide_eq_true_iff decide_eq_true_iff)

theorem isAlphanum_iff {c : Char} :
    c.isAlphanum = true ↔ c.isUpper = true ∨ c.isLower = true ∨ c.isDigit = true := by
  change ((c.isUpper || c.isLower) || c.isDigit) = true ↔ _
  simp only [Bool.or_eq_true, or_assoc]

/-- A character of a path segment: an ASCII letter or digit, an underscore, a hyphen, or any character
beyond ASCII. -/
def IsSegmentChar (c : Char) : Prop := c.isAlphanum = true ∨ c = '_' ∨ c = '-' ∨ 128 ≤ c.toNat

instance : DecidablePred IsSegmentChar := fun c =>
  inferInstanceAs (Decidable (c.isAlphanum = true ∨ c = '_' ∨ c = '-' ∨ 128 ≤ c.toNat))

/-- A path segment that is not empty and needs no escape. -/
structure IsSegment (chars : List Char) : Prop where
  nonempty : chars ≠ []
  plain : ∀ c ∈ chars, IsSegmentChar c

instance (chars : List Char) : Decidable (IsSegment chars) :=
  decidable_of_iff (chars ≠ [] ∧ chars.all (fun c => decide (IsSegmentChar c)) = true)
    ⟨fun ⟨nonempty, plain⟩ => ⟨nonempty, by simpa using plain⟩,
      fun segment => ⟨segment.nonempty, by simpa using segment.plain⟩⟩

/-- A segment stays one with more plain characters before it. -/
theorem IsSegment.append {start ending : List Char} (plain : ∀ c ∈ start, IsSegmentChar c)
    (segment : IsSegment ending) : IsSegment (start ++ ending) := by
  refine ⟨List.append_ne_nil_of_right_ne_nil _ segment.nonempty, fun c member => ?_⟩
  rcases List.mem_append.1 member with member | member
  · exact plain c member
  · exact segment.plain c member

theorem isSegmentChar_of_isIdentifierContinue {c : Char} (continues : isIdentifierContinue c = true) :
    IsSegmentChar c := by
  rw [isIdentifierContinue] at continues
  split at continues
  · rcases Bool.or_eq_true_iff.1 continues with alphanum | underscore
    · exact .inl alphanum
    · exact .inr (.inl (beq_iff_eq.1 underscore))
  · next beyond => exact .inr (.inr (.inr (Nat.le_of_not_lt beyond)))

theorem segment_of_isIdentifier {text : String} (identifier : isIdentifier text = true) :
    IsSegment text.toList := by
  obtain ⟨starts, continues⟩ := Bool.and_eq_true_iff.1 identifier
  refine ⟨fun empty => ?_, fun c member => ?_⟩
  · rw [empty] at starts
    cases starts
  · exact isSegmentChar_of_isIdentifierContinue (List.all_eq_true.1 continues c member)

/-! ### Lower case -/

/-- A shift is that of a run which holds the code point. -/
theorem exists_run_of_lowerShift? {code : Nat} {runs : List LowerRun} {shift : Int}
    (found : lowerShift? code runs = some shift) :
    ∃ run ∈ runs, run.1 ≤ code ∧ code ≤ run.2.1 ∧ run.2.2.2 = shift := by
  induction runs with
  | nil => cases found
  | cons run rest ih =>
      obtain ⟨first, last, step, distance⟩ := run
      rw [lowerShift?] at found
      split at found
      · next inside =>
          simp only [Bool.and_eq_true, decide_eq_true_eq] at inside
          exact ⟨_, List.mem_cons_self, inside.1.1, inside.1.2, Option.some.inj found⟩
      · obtain ⟨run, member, holds⟩ := ih found
        exact ⟨run, List.mem_cons_of_mem _ member, holds⟩

/-- The small letters of a run are characters beyond ASCII. Only the sign for kelvin is away from
them: its small letter is `k`. -/
theorem lowerRuns_beyond : ∀ run ∈ lowerRuns,
    (128 ≤ run.1 + run.2.2.2 ∧ (run.2.1 + run.2.2.2 < 0xD800 ∨
        0xDFFF < run.1 + run.2.2.2 ∧ run.2.1 + run.2.2.2 < 0x110000)) ∨
      run.1 = run.2.1 ∧ run.1 + run.2.2.2 = 'k'.toNat := by
  decide +kernel

theorem toNat_ofNat_of_isValidChar {code : Nat} (valid : code.isValidChar) :
    (Char.ofNat code).toNat = code := by
  rw [Char.ofNat, dif_pos valid]
  rfl

/-- What holds of the first 128 characters holds of all ASCII characters. -/
theorem forall_ascii {P : Char → Prop} (all : ∀ code : Fin 128, P (Char.ofNat code)) {c : Char}
    (ascii : c.toNat < 128) : P c := by
  have here := all ⟨c.toNat, ascii⟩
  rwa [Char.ofNat_toNat] at here

theorem toLower_segmentChar {c : Char} (ascii : c.toNat < 128) (plain : IsSegmentChar c) :
    IsSegmentChar c.toLower :=
  forall_ascii (P := fun c => IsSegmentChar c → IsSegmentChar c.toLower) (by decide) ascii plain

theorem lowerChar_segment {c : Char} (plain : IsSegmentChar c) : IsSegment (lowerChar c) := by
  rw [lowerChar]
  split
  · next ascii =>
      refine ⟨List.cons_ne_nil _ _, fun lower member => ?_⟩
      rw [List.mem_singleton.1 member]
      exact toLower_segmentChar ascii plain
  split
  · decide
  split
  · refine ⟨List.cons_ne_nil _ _, fun lower member => ?_⟩
    rw [List.mem_singleton.1 member]
    exact plain
  · next shift found =>
      refine ⟨List.cons_ne_nil _ _, fun lower member => ?_⟩
      rw [List.mem_singleton.1 member]
      obtain ⟨run, listed, first, last, rfl⟩ := exists_run_of_lowerShift? found
      rcases lowerRuns_beyond run listed with ⟨beyond, bounded⟩ | ⟨single, kelvin⟩
      · have valid : (Int.toNat (c.toNat + run.2.2.2)).isValidChar := by
          rw [Nat.isValidChar]
          omega
        refine .inr (.inr (.inr ?_))
        rw [toNat_ofNat_of_isValidChar valid]
        omega
      · have code : Int.toNat (c.toNat + run.2.2.2) = 'k'.toNat := by omega
        rw [code]
        decide

theorem lowerFrom_segment (before : List Char) {chars : List Char} (segment : IsSegment chars) :
    IsSegment (lowerFrom before chars) := by
  obtain ⟨nonempty, plain⟩ := segment
  induction chars generalizing before with
  | nil => exact absurd rfl nonempty
  | cons c rest ih =>
      have here : IsSegment (if c = 'Σ' then
          if meetsCased before && !meetsCased rest then ['ς'] else ['σ'] else lowerChar c) := by
        split
        · split <;> decide
        · exact lowerChar_segment (plain c List.mem_cons_self)
      rw [lowerFrom]
      -- The first character alone makes the text not empty; the rest may be empty.
      refine ⟨List.append_ne_nil_of_left_ne_nil here.nonempty _, fun lower member => ?_⟩
      rcases List.mem_append.1 member with member | member
      · exact here.plain lower member
      · cases rest with
        | nil => cases member
        | cons next rest =>
            have later : ∀ d ∈ next :: rest, IsSegmentChar d := fun d there =>
              plain d (List.mem_cons_of_mem c there)
            exact (ih (c :: before) (List.cons_ne_nil _ _) later).plain lower member

theorem lowercase_segment {text : String} (segment : IsSegment text.toList) :
    IsSegment (lowercase text).toList := by
  rw [lowercase, String.toList_ofList]
  exact lowerFrom_segment [] segment

end Text

namespace Naming

open Text (IsSegment IsSegmentChar)

/-! ### Hyphens -/

theorem capitalWord_segment {chars found : List Char} {extra : Nat}
    (plain : ∀ c ∈ chars, IsSegmentChar c) (applies : capitalWord chars = some (extra, found)) :
    IsSegment found := by
  unfold capitalWord at applies
  split at applies
  · next before capital rest =>
      dsimp only at applies
      split at applies
      · obtain ⟨_, rfl⟩ := Prod.mk.inj (Option.some.inj applies)
        refine ⟨List.cons_ne_nil _ _, fun c member => ?_⟩
        simp only [List.mem_cons] at member
        rcases member with rfl | rfl | rfl | small
        · exact plain _ (by simp)
        · decide
        · exact plain _ (by simp)
        · exact plain _ (by simp [(List.takeWhile_prefix _).subset small])
      · cases applies
  · cases applies

/-- A boundary between words is found with the mark and two characters of the text. -/
theorem caseBoundary_forall {P : Char → Prop} {mark : Char} (marked : P mark)
    {chars found : List Char} {extra : Nat} (all : ∀ c ∈ chars, P c)
    (applies : caseBoundary mark chars = some (extra, found)) : ∀ c ∈ found, P c := by
  unfold caseBoundary at applies
  split at applies
  · split at applies
    · obtain ⟨_, rfl⟩ := Prod.mk.inj (Option.some.inj applies)
      intro c member
      simp only [List.mem_cons, List.not_mem_nil, or_false] at member
      rcases member with rfl | rfl | rfl
      · exact all _ (by simp)
      · exact marked
      · exact all _ (by simp)
    · cases applies
  · cases applies

theorem caseBoundary_ne_nil {mark : Char} {chars found : List Char} {extra : Nat}
    (applies : caseBoundary mark chars = some (extra, found)) : found ≠ [] := by
  unfold caseBoundary at applies
  split at applies
  · split at applies
    · obtain ⟨_, rfl⟩ := Prod.mk.inj (Option.some.inj applies)
      exact List.cons_ne_nil _ _
    · cases applies
  · cases applies

theorem caseBoundary_segment {mark : Char} (plainMark : IsSegmentChar mark)
    {chars found : List Char} {extra : Nat} (plain : ∀ c ∈ chars, IsSegmentChar c)
    (applies : caseBoundary mark chars = some (extra, found)) : IsSegment found :=
  ⟨caseBoundary_ne_nil applies, caseBoundary_forall plainMark plain applies⟩

/-- What is put in the place of a find can stand in a segment; then so can all of it. -/
theorem replace_segment {rule : Text.Rule (List Char)}
    (kept : ∀ chars extra found, (∀ c ∈ chars, IsSegmentChar c) →
      rule chars = some (extra, found) → IsSegment found)
    {chars : List Char} (segment : IsSegment chars) : IsSegment (Text.replace rule chars) where
  nonempty := Text.replace_ne_nil
    (fun _ _ applies => (kept _ _ _ segment.plain applies).nonempty) segment.nonempty
  plain := Text.replace_forall (fun _ _ _ plain applies => (kept _ _ _ plain applies).plain)
    segment.plain

theorem hyphenate_segment {name : List Char} (segment : IsSegment name) :
    IsSegment (hyphenate name) := by
  have words : IsSegment (Text.replace capitalWord name) :=
    replace_segment (fun _ _ _ plain applies => capitalWord_segment plain applies) segment
  exact replace_segment (fun _ _ _ plain applies =>
    caseBoundary_segment (by decide) plain applies) words

/-! ### Plurals -/

/-- Some small letters, and at least one. -/
structure IsEnding (chars : List Char) : Prop where
  nonempty : chars ≠ []
  small : ∀ c ∈ chars, c.isLower = true

instance (chars : List Char) : Decidable (IsEnding chars) :=
  decidable_of_iff (chars ≠ [] ∧ chars.all Char.isLower = true)
    ⟨fun ⟨nonempty, small⟩ => ⟨nonempty, List.all_eq_true.1 small⟩,
      fun ending => ⟨ending.nonempty, List.all_eq_true.2 ending.small⟩⟩

/-- A word that begins like another one and goes on with an ending. -/
def IsInflection (word form : List Char) : Prop :=
  ∃ front ending, form = front ++ ending ∧ front <+: word ∧ IsEnding ending

/-- All irregular plurals are words of small letters. -/
theorem irregularPlurals_ending : ∀ entry ∈ irregularPlurals, IsEnding entry.2.toList := by
  decide +kernel

section Ending

variable {word : List Char}

/-- Whatever a rule gives is an inflection of the word. -/
def Inflects (word : List Char) (rule : Option (List Char)) : Prop :=
  ∀ form, rule = some form → IsInflection word form

/-- Rules that are tried one after the other. -/
theorem Inflects.or {first second : Option (List Char)} (left : Inflects word first)
    (right : Inflects word second) : Inflects word (first.or second) := by
  intro form found
  rcases Option.or_eq_some_iff.1 found with found | ⟨_, found⟩
  · exact left form found
  · exact right form found

/-- A rule for some words alone. -/
theorem Inflects.onlyIf {rule : Option (List Char)} (condition : Prop) [Decidable condition]
    (inflects : Inflects word rule) : Inflects word (if condition then rule else none) := by
  intro form found
  split at found
  · exact inflects form found
  · cases found

theorem exchangeEnd?_inflects {tail ending : String} (ends : IsEnding ending.toList) :
    Inflects word (exchangeEnd? tail ending word) := by
  intro form changes
  obtain ⟨front, dropped, rfl⟩ := Option.map_eq_some_iff.1 changes
  have split : word = front ++ tail.toList := (Text.dropSuffix?_eq_some_iff _ _ _).1 dropped
  exact ⟨front, ending.toList, rfl, ⟨tail.toList, split.symm⟩, ends⟩

theorem classicalPlural?_inflects : Inflects word (classicalPlural? word) := by
  apply Inflects.onlyIf
  apply Inflects.or
  · exact exchangeEnd?_inflects (by decide)
  · apply Inflects.or
    · exact exchangeEnd?_inflects (by decide)
    · exact exchangeEnd?_inflects (by decide)

theorem changedPlural?_inflects : Inflects word (changedPlural? word) := by
  have leaves : Inflects word (exchangeEnd? "f" "ves" word) := exchangeEnd?_inflects (by decide)
  have knives : Inflects word (exchangeEnd? "fe" "ves" word) := exchangeEnd?_inflects (by decide)
  have cities : Inflects word (exchangeEnd? "y" "ies" word) := exchangeEnd?_inflects (by decide)
  have heroes : Inflects word (exchangeEnd? "o"
      (if plainOWords.contains (String.ofList word) then "os" else "oes") word) :=
    exchangeEnd?_inflects (by split <;> decide)
  have indices : Inflects word (exchangeEnd? "ex" "ices" word) := exchangeEnd?_inflects (by decide)
  have matrices : Inflects word (exchangeEnd? "ix" "ices" word) := exchangeEnd?_inflects (by decide)
  exact leaves.or (knives.or ((cities.onlyIf _).or ((heroes.onlyIf _).or (indices.or matrices))))

theorem regularPlural_inflection : IsInflection word (regularPlural word) :=
  ⟨word, _, rfl, List.prefix_rfl, by split <;> decide⟩

/-- The plural of a word is an inflection of it, whichever rule makes it. -/
theorem pluralOf_inflection (word : List Char) : IsInflection word (pluralOf word) := by
  rw [pluralOf]
  split
  · next plural irregular =>
      obtain ⟨before, after, split, _⟩ := List.lookup_eq_some_iff.1 irregular
      have listed : (String.ofList word, plural) ∈ irregularPlurals :=
        split ▸ List.mem_append_right _ List.mem_cons_self
      exact ⟨[], plural.toList, rfl, List.nil_prefix, irregularPlurals_ending _ listed⟩
  · cases found : (classicalPlural? word).or (changedPlural? word) with
    | none => exact regularPlural_inflection
    | some plural => exact classicalPlural?_inflects.or changedPlural?_inflects plural found

/-- The plural of a segment is one. -/
theorem pluralOf_segment (segment : IsSegment word) : IsSegment (pluralOf word) := by
  obtain ⟨front, ending, form, begins, ends⟩ := pluralOf_inflection word
  rw [form]
  refine .append (fun c member => segment.plain c (begins.subset member))
    ⟨ends.nonempty, fun c member => .inl ?_⟩
  exact Text.isAlphanum_iff.2 (.inr (.inl (ends.small c member)))

end Ending

/-- The path segment of a resource whose name is an identifier is not empty, and nothing in it means
anything in a path. -/
theorem endpointName_segment {name : String} (identifier : Text.isIdentifier name = true) :
    IsSegment (endpointName name).toList := by
  have hyphenated := hyphenate_segment (Text.segment_of_isIdentifier identifier)
  have lower : IsSegment (Text.lowercase (String.ofList (hyphenate name.toList))).toList :=
    Text.lowercase_segment (by rwa [String.toList_ofList])
  rw [endpointName, pluralize, if_neg fun empty => lower.nonempty (by rw [empty]; rfl),
    String.toList_ofList]
  exact pluralOf_segment (Text.lowercase_segment lower)

end Naming

end RouteAtlas
