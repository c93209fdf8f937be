/-
Module: RouteAtlas.Proofs.Naming.Plural
Layer: Proofs
Purpose: What a plural has in common with its word. Either the word is irregular, or its end is exchanged
  for another one. So only letters change: the digits stay, and so does a hyphen. Words that are their own
  plural are irregular.
Trusted boundary: none
Main exports: endChanges, ChangesEnd, pluralOf_cases, digitCount, isDecimalDigit_ascii, digitCount_pluralOf,
  hyphen_mem_pluralOf, eq_series_of_pluralOf_eq_self, BeginsVersion, beginsVersion_pluralOf,
  toList_endpointName, digitCount_endpointName, beginsVersion_endpointName
-/
import Mathlib
import RouteAtlas.Proofs.Naming.Words
import RouteAtlas.Text.Digit

namespace RouteAtlas.Naming

open Text (IsNameChar IsWordChar)

/-! ### Ends of words -/

/-- The ends that plurals exchange, each with what comes in its place. -/
def endChanges : List (List Char × List Char) :=
  [("is", "es"), ("on", "a"), ("us", "i"), ("f", "ves"), ("fe", "ves"), ("y", "ies"), ("o", "os"),
    ("o", "oes"), ("ex", "ices"), ("ix", "ices"), ("", "s"), ("", "es")].map
      fun change => (change.1.toList, change.2.toList)

/-- A word and a form of it that differs in the end alone. -/
def ChangesEnd (word form : List Char) : Prop :=
  ∃ change ∈ endChanges, ∃ front, word = front ++ change.1 ∧ form = front ++ change.2

section Ends

variable {word form : List Char}

theorem exchangeEnd?_changes {tail ending : String}
    (listed : (tail.toList, ending.toList) ∈ endChanges)
    (found : exchangeEnd? tail ending word = some form) : ChangesEnd word form := by
  obtain ⟨front, dropped, rfl⟩ := Option.map_eq_some_iff.1 found
  exact ⟨_, listed, front, (Text.dropSuffix?_eq_some_iff _ _ _).1 dropped, rfl⟩

theorem classicalPlural?_changes (found : classicalPlural? word = some form) : ChangesEnd word form := by
  rw [classicalPlural?, Option.ite_none_right_eq_some, Option.or_eq_some_iff, Option.or_eq_some_iff]
    at found
  rcases found with ⟨_, axes | ⟨_, criteria | ⟨_, radii⟩⟩⟩
  · exact exchangeEnd?_changes (by decide) axes
  · exact exchangeEnd?_changes (by decide) criteria
  · exact exchangeEnd?_changes (by decide) radii

theorem changedPlural?_changes (found : changedPlural? word = some form) : ChangesEnd word form := by
  simp only [changedPlural?, Option.or_eq_some_iff, Option.ite_none_right_eq_some] at found
  rcases found with
    wolves | ⟨_, knives | ⟨_, ⟨_, cities⟩ | ⟨_, ⟨_, heroes⟩ | ⟨_, indices | ⟨_, matrices⟩⟩⟩⟩⟩
  · exact exchangeEnd?_changes (by decide) wolves
  · exact exchangeEnd?_changes (by decide) knives
  · exact exchangeEnd?_changes (by decide) cities
  · split at heroes
    · exact exchangeEnd?_changes (by decide) heroes
    · exact exchangeEnd?_changes (by decide) heroes
  · exact exchangeEnd?_changes (by decide) indices
  · exact exchangeEnd?_changes (by decide) matrices

theorem regularPlural_changes : ChangesEnd word (regularPlural word) := by
  rw [regularPlural]
  split
  · exact ⟨([], ['e', 's']), by decide, word, by rw [List.append_nil], rfl⟩
  · exact ⟨([], ['s']), by decide, word, by rw [List.append_nil], rfl⟩

/-- A plural is that of an irregular word, or the end is exchanged. -/
theorem pluralOf_cases (word : List Char) :
    (∃ entry ∈ irregularPlurals, word = entry.1.toList ∧ pluralOf word = entry.2.toList) ∨
      ChangesEnd word (pluralOf word) := by
  rw [pluralOf]
  cases irregular : irregularPlurals.lookup (String.ofList word) with
  | some plural =>
      obtain ⟨before, after, split, _⟩ := List.lookup_eq_some_iff.1 irregular
      have listed : (String.ofList word, plural) ∈ irregularPlurals :=
        split ▸ List.mem_append_right before List.mem_cons_self
      exact .inl ⟨_, listed, String.toList_ofList.symm, rfl⟩
  | none =>
      apply Or.inr
      cases found : (classicalPlural? word).or (changedPlural? word) with
      | none => exact regularPlural_changes
      | some form =>
          rcases Option.or_eq_some_iff.1 found with classical | ⟨_, changed⟩
          · exact classicalPlural?_changes classical
          · exact changedPlural?_changes changed

end Ends

/-! ### Digits and hyphens -/

/-- The number of digits in a text. -/
def digitCount (chars : List Char) : Nat := chars.countP Text.isDecimalDigit

/-- Among ASCII characters the digits of all scripts are those from 0 to 9. -/
theorem isDecimalDigit_ascii {c : Char} (ascii : c.toNat < 128) : Text.isDecimalDigit c = c.isDigit :=
  Text.forall_ascii (P := fun c => Text.isDecimalDigit c = c.isDigit) (by decide +kernel) ascii

theorem ascii_of_isAlpha {c : Char} (letter : c.isAlpha = true) : c.toNat < 128 :=
  IsNameChar.ascii (.inl (by rw [Char.isAlphanum, letter, Bool.true_or]))

theorem isDigit_of_isAlpha {c : Char} (letter : c.isAlpha = true) : c.isDigit = false :=
  Text.forall_ascii (P := fun c => c.isAlpha = true → c.isDigit = false) (by decide +kernel)
    (ascii_of_isAlpha letter) letter

theorem isDecimalDigit_of_isAlpha {c : Char} (letter : c.isAlpha = true) :
    Text.isDecimalDigit c = false := by
  rw [isDecimalDigit_ascii (ascii_of_isAlpha letter), isDigit_of_isAlpha letter]

section Letters

variable {chars : List Char}

theorem digitCount_letters (letters : chars.all Char.isAlpha = true) : digitCount chars = 0 := by
  rw [digitCount, List.countP_eq_zero]
  intro c member
  rw [isDecimalDigit_of_isAlpha (List.all_eq_true.1 letters c member)]
  exact Bool.false_ne_true

theorem not_hyphen_mem_letters (letters : chars.all Char.isAlpha = true) : '-' ∉ chars := by
  intro member
  have letter := List.all_eq_true.1 letters '-' member
  cases letter

theorem head?_letters (letters : chars.all Char.isAlpha = true) :
    chars.head?.any Char.isDigit = false := by
  cases chars with
  | nil => rfl
  | cons c rest =>
      rw [List.head?_cons, Option.any_some]
      exact isDigit_of_isAlpha (List.all_eq_true.1 letters c List.mem_cons_self)

end Letters

/-- The ends of words have letters alone. -/
theorem endChanges_letters : ∀ change ∈ endChanges,
    change.1.all Char.isAlpha = true ∧ change.2.all Char.isAlpha = true := by
  decide

/-- So have irregular words. -/
theorem irregularPlurals_letters : ∀ entry ∈ irregularPlurals,
    entry.1.toList.all Char.isAlpha = true ∧ entry.2.toList.all Char.isAlpha = true := by
  decide +kernel

section Plurals

variable {word : List Char}

theorem digitCount_pluralOf (word : List Char) : digitCount (pluralOf word) = digitCount word := by
  rcases pluralOf_cases word with ⟨entry, listed, same, plural⟩ | ⟨change, listed, front, same, plural⟩
  · obtain ⟨single, several⟩ := irregularPlurals_letters entry listed
    rw [plural, same, digitCount_letters single, digitCount_letters several]
  · obtain ⟨before, after⟩ := endChanges_letters change listed
    have none : digitCount change.2 = digitCount change.1 := by
      rw [digitCount_letters before, digitCount_letters after]
    rw [plural, same, digitCount, digitCount, List.countP_append, List.countP_append]
    exact congrArg _ none

theorem hyphen_mem_pluralOf (member : '-' ∈ word) : '-' ∈ pluralOf word := by
  rcases pluralOf_cases word with ⟨entry, listed, same, _⟩ | ⟨change, listed, front, same, plural⟩
  · exact absurd (same ▸ member) (not_hyphen_mem_letters (irregularPlurals_letters entry listed).1)
  · rw [same] at member
    rw [plural]
    have inFront := (List.mem_append.1 member).resolve_right
      (not_hyphen_mem_letters (endChanges_letters change listed).1)
    exact List.mem_append_left change.2 inFront

/-- A word that is its own plural is irregular, and two of these end in `s`. -/
theorem eq_series_of_pluralOf_eq_self (same : pluralOf word = word) (ends : word.getLast? = some 's') :
    word = "series".toList ∨ word = "species".toList := by
  rcases pluralOf_cases word with ⟨entry, listed, single, plural⟩ | ⟨change, listed, front, single, plural⟩
  · have fixed : ∀ entry ∈ irregularPlurals, entry.2.toList = entry.1.toList →
        entry.1.toList.getLast? = some 's' →
        entry.1.toList = "series".toList ∨ entry.1.toList = "species".toList := by
      decide +kernel
    rw [single]
    apply fixed entry listed
    · rw [← plural, same, single]
    · rw [← single, ends]
  · have distinct : ∀ change ∈ endChanges, change.2 ≠ change.1 := by decide
    rw [same, single, List.append_cancel_left_eq] at plural
    exact absurd plural.symm (distinct change listed)

end Plurals

/-! ### Version numbers -/

/-- A text begins like the number of a version, with `v` and a digit. -/
def BeginsVersion (chars : List Char) : Prop :=
  chars.head? = some 'v' ∧ chars[1]?.any Char.isDigit = true

instance (chars : List Char) : Decidable (BeginsVersion chars) :=
  inferInstanceAs (Decidable (chars.head? = some 'v' ∧ chars[1]?.any Char.isDigit = true))

theorem not_beginsVersion_letters {chars : List Char} (letters : chars.all Char.isAlpha = true) :
    ¬ BeginsVersion chars := by
  rintro ⟨_, digit⟩
  cases second : chars[1]? with
  | none =>
      rw [second] at digit
      cases digit
  | some c =>
      have letter := List.all_eq_true.1 letters c (List.mem_of_getElem? second)
      rw [second, Option.any_some, isDigit_of_isAlpha letter] at digit
      cases digit

/-- A plural begins like a version exactly if its word does. -/
theorem beginsVersion_pluralOf (word : List Char) : BeginsVersion (pluralOf word) ↔ BeginsVersion word := by
  rcases pluralOf_cases word with ⟨entry, listed, same, plural⟩ | ⟨change, listed, front, same, plural⟩
  · obtain ⟨single, several⟩ := irregularPlurals_letters entry listed
    rw [plural, same]
    exact iff_of_false (not_beginsVersion_letters several) (not_beginsVersion_letters single)
  · obtain ⟨before, after⟩ := endChanges_letters change listed
    rw [plural, same]
    cases front with
    | nil => exact iff_of_false (not_beginsVersion_letters after) (not_beginsVersion_letters before)
    | cons first front =>
        cases front with
        | nil => simp [BeginsVersion, ← List.head?_eq_getElem?, head?_letters before, head?_letters after]
        | cons second front => exact Iff.rfl

/-! ### Endpoints -/

/-- Hyphens are all that comes in. -/
theorem filter_hyphenated (name : List Char) :
    (hyphenated name).filter (· ≠ '-') = name.filter (· ≠ '-') := by
  cases name with
  | nil => rfl
  | cons first rest =>
      have later : (hyphenatedAfter first rest).filter (· ≠ '-') = rest.filter (· ≠ '-') := by
        induction rest generalizing first with
        | nil => rfl
        | cons c rest ih =>
            rw [hyphenatedAfter, List.filter_cons, ← ih c]
            split
            · rw [List.filter_cons_of_neg (by simp), List.filter_cons]
            · rw [List.filter_cons]
      rw [hyphenated_cons, List.filter_cons, List.filter_cons, later]

/-- The second character of a name is parted from the first by a hyphen only if it is a capital. -/
theorem beginsVersion_hyphenated (name : List Char) :
    BeginsVersion ((hyphenated name).map Char.toLower) ↔ BeginsVersion (name.map Char.toLower) := by
  match name with
  | [] => exact Iff.rfl
  | [first] => exact Iff.rfl
  | first :: c :: rest =>
      rw [hyphenated_cons, hyphenatedAfter]
      split
      · next begins =>
          have letter : c.toLower.isDigit = false := by
            have upper : IsNameChar c := .inl (Text.isAlphanum_iff.2 (.inl begins.1))
            exact upper.toLower.2 (by rw [Char.isAlpha, begins.1, Bool.true_or])
          simp [BeginsVersion, letter]
      · exact Iff.rfl

/-- The endpoint of an identifier is the plural of its words in lower case. -/
theorem toList_endpointName {name : String} (named : Text.IsAsciiIdentifier name) :
    (endpointName name).toList = pluralOf ((hyphenated name.toList).map Char.toLower) := by
  have nonempty := (Text.segment_of_isIdentifier named.identifier).nonempty
  have noBreak : '\n' ∉ name.toList := fun member => absurd (named.names _ member) (by decide)
  have parted : Parted IsNameChar (String.ofList (hyphenated name.toList)).toList := by
    rw [String.toList_ofList]
    exact hyphenated_parted nonempty named.names
  have lower := parted.lowercase
  have twice : (Text.lowercase (Text.lowercase (String.ofList (hyphenated name.toList)))).toList =
      (hyphenated name.toList).map Char.toLower := by
    rw [Text.toList_lowercase_of_ascii lower.names.ascii, Text.toList_lowercase_of_ascii parted.ascii,
      String.toList_ofList, List.map_map]
    exact List.map_congr_left fun c _ => Char.toLower_toLower_eq_toLower c
  rw [endpointName, hyphenate_eq noBreak, pluralize,
    if_neg fun empty => lower.ne_nil (by rw [empty]; rfl), String.toList_ofList, twice]

/-- The case of a letter makes no digit of it. -/
theorem isDecimalDigit_toLower (c : Char) : Text.isDecimalDigit c.toLower = Text.isDecimalDigit c := by
  by_cases upper : c.isUpper = true
  · have letter : c.isAlpha = true := by rw [Char.isAlpha, upper, Bool.true_or]
    have small : c.toLower.isAlpha = true := by rw [Char.isAlpha_toLower_eq_isAlpha, letter]
    rw [isDecimalDigit_of_isAlpha letter, isDecimalDigit_of_isAlpha small]
  · rw [Char.toLower_eq_of_not_isUpper upper]

theorem digitCount_toLower (chars : List Char) : digitCount (chars.map Char.toLower) = digitCount chars := by
  rw [digitCount, digitCount, List.countP_map]
  exact List.countP_congr fun c _ => by rw [Function.comp_apply, isDecimalDigit_toLower]

theorem digitCount_filter (chars : List Char) : digitCount (chars.filter (· ≠ '-')) = digitCount chars := by
  have noDigit : Text.isDecimalDigit '-' = false := by decide
  rw [digitCount, digitCount, List.countP_filter]
  apply List.countP_congr
  intro c _
  rw [Bool.and_eq_true, decide_eq_true_eq, and_iff_left_of_imp]
  rintro digit rfl
  rw [noDigit] at digit
  cases digit

/-- An endpoint has as many digits as its name. -/
theorem digitCount_endpointName {name : String} (named : Text.IsAsciiIdentifier name) :
    digitCount (endpointName name).toList = digitCount name.toList := by
  rw [toList_endpointName named, digitCount_pluralOf, digitCount_toLower, ← digitCount_filter,
    filter_hyphenated, digitCount_filter]

/-- An endpoint begins like a version exactly if its name does, in lower case. -/
theorem beginsVersion_endpointName {name : String} (named : Text.IsAsciiIdentifier name) :
    BeginsVersion (endpointName name).toList ↔ BeginsVersion (name.toList.map Char.toLower) := by
  rw [toList_endpointName named, beginsVersion_pluralOf, beginsVersion_hyphenated]

/-- An endpoint without hyphens is the plural of its name in lower case. -/
theorem toList_endpointName_of_unhyphened {name : String} (named : Text.IsAsciiIdentifier name)
    (unhyphened : '-' ∉ (endpointName name).toList) :
    (endpointName name).toList = pluralOf (name.toList.map Char.toLower) := by
  have whole : hyphenated name.toList = name.toList := by
    have absent : '-' ∉ hyphenated name.toList := by
      intro member
      rw [toList_endpointName named] at unhyphened
      exact unhyphened (hyphen_mem_pluralOf (List.mem_map.2 ⟨'-', member, rfl⟩))
    have absentName : '-' ∉ name.toList := fun member => absurd (named.names _ member) (by decide)
    have same := filter_hyphenated name.toList
    rwa [List.filter_eq_self.2 fun c member => by simpa using ne_of_mem_of_not_mem member absent,
      List.filter_eq_self.2 fun c member => by simpa using ne_of_mem_of_not_mem member absentName]
      at same
  rw [toList_endpointName named, whole]

theorem toLower_wordChar {c : Char} (word : IsWordChar c) : c.toLower = c := by
  apply Char.toLower_eq_of_not_isUpper
  intro upper
  have alone := Text.isUpper_alone upper
  rcases word with lower | digit | rfl
  · rw [lower] at alone
    cases alone
  · rw [digit, Bool.or_true] at alone
    cases alone
  · cases upper

/-- An endpoint has no capitals. -/
theorem toLower_endpointName {name : String} (named : Text.IsAsciiIdentifier name) :
    (endpointName name).toList.map Char.toLower = (endpointName name).toList := by
  have each : ∀ c ∈ (endpointName name).toList, c.toLower = id c := by
    intro c member
    rcases (endpointName_parted named).forall_mem c member with word | rfl
    · exact toLower_wordChar word
    · rfl
  rw [List.map_congr_left each, List.map_id]

end RouteAtlas.Naming
