/-
Module: RouteAtlas.Proofs.Naming.Ascii
Layer: Proofs
Purpose: Names of ASCII characters. In lower case each letter becomes the small one and nothing else
  changes, so that a name of letters, digits and underscores has small letters, digits and underscores.
Trusted boundary: none
Main exports: IsNameChar, IsWordChar, IsAsciiIdentifier, toList_lowercase_of_ascii, lowercase_word
-/
import RouteAtlas.Proofs.Naming.Endpoint

namespace RouteAtlas.Text

/-- An ASCII letter or digit, or an underscore. -/
def IsNameChar (c : Char) : Prop := c.isAlphanum = true ∨ c = '_'

/-- A small ASCII letter, a digit, or an underscore. -/
def IsWordChar (c : Char) : Prop := c.isLower = true ∨ c.isDigit = true ∨ c = '_'

instance : DecidablePred IsNameChar := fun c =>
  inferInstanceAs (Decidable (c.isAlphanum = true ∨ c = '_'))

instance : DecidablePred IsWordChar := fun c =>
  inferInstanceAs (Decidable (c.isLower = true ∨ c.isDigit = true ∨ c = '_'))

/-- An identifier of ASCII characters. -/
structure IsAsciiIdentifier (text : String) : Prop where
  identifier : isIdentifier text = true
  ascii : ∀ c ∈ text.toList, c.toNat < 128

instance (text : String) : Decidable (IsAsciiIdentifier text) :=
  decidable_of_iff (isIdentifier text = true ∧ text.toList.all (fun c => decide (c.toNat < 128)) = true)
    ⟨fun ⟨identifier, ascii⟩ => ⟨identifier, by simpa using ascii⟩,
      fun named => ⟨named.identifier, by simpa using named.ascii⟩⟩

section Characters

variable {c : Char}

theorem IsNameChar.ascii (name : IsNameChar c) : c.toNat < 128 := by
  rcases name with alphanum | rfl
  · rcases isAlphanum_iff.1 alphanum with upper | lower | digit
    · exact Nat.lt_of_le_of_lt (isUpper_iff.1 upper).2 (by decide)
    · exact Nat.lt_of_le_of_lt (isLower_iff.1 lower).2 (by decide)
    · exact Nat.lt_of_le_of_lt (Char.isDigit_iff_toNat.1 digit).2 (by decide)
  · decide

theorem IsWordChar.name (word : IsWordChar c) : IsNameChar c := by
  rcases word with lower | digit | underscore
  · exact .inl (isAlphanum_iff.2 (.inr (.inl lower)))
  · exact .inl (isAlphanum_iff.2 (.inr (.inr digit)))
  · exact .inr underscore

/-- A capital is neither a small letter nor a digit. -/
theorem isUpper_alone (upper : c.isUpper = true) : (c.isLower || c.isDigit) = false := by
  obtain ⟨least, greatest⟩ := isUpper_iff.1 upper
  rw [Bool.or_eq_false_iff]
  constructor
  · refine Bool.eq_false_iff.2 fun lower => ?_
    have range := isLower_iff.1 lower
    omega
  · refine Bool.eq_false_iff.2 fun digit => ?_
    have above : c.toNat ≤ 57 := (Char.isDigit_iff_toNat.1 digit).2
    omega

/-- In lower case a character of a name is a small letter, or it is no letter. -/
theorem IsNameChar.toLower (name : IsNameChar c) :
    IsWordChar c.toLower ∧ (c.isAlpha = true → c.toLower.isDigit = false) :=
  forall_ascii
    (P := fun c => IsNameChar c →
      IsWordChar c.toLower ∧ (c.isAlpha = true → c.toLower.isDigit = false))
    (by decide) name.ascii name

end Characters

theorem IsAsciiIdentifier.names {text : String} (named : IsAsciiIdentifier text) :
    ∀ c ∈ text.toList, IsNameChar c := by
  intro c member
  have continues := List.all_eq_true.1 (Bool.and_eq_true_iff.1 named.identifier).2 c member
  rw [isIdentifierContinue, if_pos (named.ascii c member)] at continues
  rcases Bool.or_eq_true_iff.1 continues with alphanum | underscore
  · exact .inl alphanum
  · exact .inr (beq_iff_eq.1 underscore)

/-- In a text of ASCII characters each one has its lower case alone, whatever surrounds it. -/
theorem lowerFrom_ascii (before : List Char) {chars : List Char} (ascii : ∀ c ∈ chars, c.toNat < 128) :
    lowerFrom before chars = chars.map Char.toLower := by
  induction chars generalizing before with
  | nil => rfl
  | cons c rest ih =>
      have here := ascii c List.mem_cons_self
      have noSigma : c ≠ 'Σ' := by
        rintro rfl
        exact absurd here (by decide)
      rw [lowerFrom, if_neg noSigma, lowerChar_ascii c here,
        ih _ fun d member => ascii d (List.mem_cons_of_mem c member)]
      rfl

theorem toList_lowercase_of_ascii {text : String} (ascii : ∀ c ∈ text.toList, c.toNat < 128) :
    (lowercase text).toList = text.toList.map Char.toLower := by
  rw [lowercase, String.toList_ofList, lowerFrom_ascii [] ascii]

/-- A name has small letters, digits and underscores in lower case. -/
theorem lowercase_word {text : String} (names : ∀ c ∈ text.toList, IsNameChar c) :
    ∀ c ∈ (lowercase text).toList, IsWordChar c := by
  intro lower member
  rw [toList_lowercase_of_ascii fun c there => (names c there).ascii] at member
  obtain ⟨c, there, rfl⟩ := List.mem_map.1 member
  exact (names c there).toLower.1

end RouteAtlas.Text
