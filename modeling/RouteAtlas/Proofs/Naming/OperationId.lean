/-
Module: RouteAtlas.Proofs.Naming.OperationId
Layer: Proofs
Purpose: What identifiers of operations look like. There are three forms: all the parts joined, some of them
  with a digest of the path, and the first characters of the first form. None is longer than an identifier
  may be. If the method is a verb and the view has a plain name, each form begins with the verb and has
  small letters, digits and underscores. The guard against a digit at the beginning stands in the first
  form and the last, and is missing in the second.
Trusted boundary: none
Main exports: HexDigest, HexDigest.exists_digits, blake3, Parts, partsOf, Parts.identifier,
  operationId_eq, Parts.identifier_cases, Parts.length_identifier_le, trail, toList_joinParts_cons,
  head?_joinParts, joinParts_forall, IsVerb, Parts.Speaks, partsOf_speaks, operationId_wellFormed,
  Parts.startsDigit_identifier_iff, operationId_startsDigit_iff
-/
import Mathlib.Data.String.Basic
import RouteAtlas.Naming.OperationId
import RouteAtlas.Proofs.Naming.Words

namespace RouteAtlas.Naming

open Text (IsNameChar IsWordChar IsAsciiIdentifier)

/-! ### Digests -/

/-- The hexadecimal digits. -/
def hexDigits : List Char :=
  ['0', '1', '2', '3', '4', '5', '6', '7', '8', '9', 'a', 'b', 'c', 'd', 'e', 'f']

/-- A digest of texts in hexadecimal digits. There are at least as many as an identifier takes. -/
structure HexDigest where
  digits : String → List Char
  long : ∀ text, 8 ≤ (digits text).length
  hexadecimal : ∀ text, ∀ c ∈ digits text, c ∈ hexDigits

/-- The digits of a digest that an identifier takes. -/
theorem HexDigest.exists_digits (digest : HexDigest) (text : String) :
    ∃ first second rest, (digest.digits text).take 8 = first :: second :: rest ∧ second ∈ hexDigits := by
  have long := digest.long text
  have digits := digest.hexadecimal text
  match taken : digest.digits text with
  | [] | [_] => simp [taken] at long
  | first :: second :: rest =>
      exact ⟨first, second, rest.take 6, rfl, digits second (by simp [taken])⟩

theorem digitChar_hexadecimal {number : Nat} (small : number < 16) :
    Nat.digitChar number ∈ hexDigits := by
  have all : ∀ number : Fin 16, Nat.digitChar number ∈ hexDigits := by decide
  exact all ⟨number, small⟩

theorem hexDigits_word : ∀ c ∈ hexDigits, IsWordChar c := by
  have all : hexDigits.all (fun c => decide (IsWordChar c)) = true := by decide
  simpa using all

section Blake3

open Digest.Blake3

theorem length_hash (bytes : List UInt8) : (Digest.Blake3.hash bytes).length = 32 := by
  rfl

theorem length_hexDigest (text : String) : (hexDigest text).length = 64 := by
  simp [hexDigest, hexOf, List.length_flatMap, length_hash]

theorem hexDigest_hexadecimal (text : String) : ∀ c ∈ hexDigest text, c ∈ hexDigits := by
  intro c member
  obtain ⟨byte, _, digit⟩ := List.mem_flatMap.1 member
  have bounded := byte.toNat_lt
  simp only [hexOf, List.mem_cons, List.not_mem_nil, or_false] at digit
  rcases digit with rfl | rfl
  · exact digitChar_hexadecimal (by omega)
  · exact digitChar_hexadecimal (by omega)

/-- The digest that identifiers are made with. -/
def blake3 : HexDigest where
  digits := hexDigest
  long text := by rw [length_hexDigest]; decide
  hexadecimal := hexDigest_hexadecimal

end Blake3

/-! ### Parts and forms -/

/-- The parts of an identifier: the verb, the view, and the words of the path, none of them empty. -/
structure Parts where
  verb : String
  view : String
  words : List String
  spoken : ∀ word ∈ words, word ≠ ""

theorem pathWords_ne (path : String) : ∀ word ∈ pathWords path, word ≠ "" := by
  intro word member empty
  obtain ⟨chars, kept, rfl⟩ := List.mem_map.1 member
  have nonempty := (List.mem_filter.1 kept).2
  rw [← String.toList_ofList (l := chars), empty] at nonempty
  cases nonempty

/-- The parts of the identifier of an operation. -/
def partsOf (method path : String) (view : Option String) : Parts where
  verb := Text.lowercase method
  view := snakeCase (viewName (view.getD ""))
  words := pathWords path
  spoken := pathWords_ne path

namespace Parts

/-- All parts joined. -/
def joined (parts : Parts) : String :=
  joinParts [parts.verb, parts.view, Text.join "_" parts.words]

/-- The verb, the view and the first word joined, with a digest of all words. -/
def short (digest : HexDigest) (parts : Parts) : String :=
  joinParts [parts.verb, parts.view, parts.words.head?.getD "",
    String.ofList ((digest.digits (Text.join "_" parts.words)).take 8)]

/-- The identifier of some parts, with any digest. -/
def identifier (digest : HexDigest) (parts : Parts) : String :=
  let full := guardDigit parts.joined
  if full.utf8ByteSize ≤ maxLength then full
  else if (parts.short digest).utf8ByteSize ≤ maxLength then parts.short digest
  else String.ofList (full.toList.take maxLength)

end Parts

theorem operationId_eq (method path : String) (view : Option String) :
    operationId method path view = (partsOf method path view).identifier blake3 := rfl

/-- The forms of an identifier, and when each is taken. -/
theorem Parts.identifier_cases (digest : HexDigest) (parts : Parts) :
    ((guardDigit parts.joined).utf8ByteSize ≤ maxLength ∧
        parts.identifier digest = guardDigit parts.joined) ∨
      (maxLength < (guardDigit parts.joined).utf8ByteSize ∧
        (parts.short digest).utf8ByteSize ≤ maxLength ∧ parts.identifier digest = parts.short digest) ∨
      (maxLength < (guardDigit parts.joined).utf8ByteSize ∧
        maxLength < (parts.short digest).utf8ByteSize ∧
        parts.identifier digest = String.ofList ((guardDigit parts.joined).toList.take maxLength)) := by
  rw [identifier]
  by_cases fits : (guardDigit parts.joined).utf8ByteSize ≤ maxLength
  · exact .inl ⟨fits, if_pos fits⟩
  · by_cases shortFits : (parts.short digest).utf8ByteSize ≤ maxLength
    · exact .inr (.inl ⟨Nat.lt_of_not_le fits, shortFits, by rw [if_neg fits, if_pos shortFits]⟩)
    · exact .inr (.inr ⟨Nat.lt_of_not_le fits, Nat.lt_of_not_le shortFits,
        by rw [if_neg fits, if_neg shortFits]⟩)

/-! ### Length -/

/-- A text has no more characters than bytes. -/
theorem length_le_utf8ByteSize (text : String) : text.length ≤ text.utf8ByteSize := by
  rw [← String.length_toList, ← String.utf8Len_toList]
  induction text.toList with
  | nil => exact Nat.le_refl 0
  | cons c rest ih =>
      rw [List.length_cons, String.utf8Len_cons]
      exact Nat.add_le_add ih c.utf8Size_pos

theorem Parts.length_identifier_le (digest : HexDigest) (parts : Parts) :
    (parts.identifier digest).length ≤ maxLength := by
  rcases parts.identifier_cases digest with ⟨fits, form⟩ | ⟨_, fits, form⟩ | ⟨_, _, form⟩
  · rw [form]
    exact (length_le_utf8ByteSize _).trans fits
  · rw [form]
    exact (length_le_utf8ByteSize _).trans fits
  · rw [form, String.length_ofList]
    exact List.length_take_le _ _

/-! ### Joining -/

theorem joinParts_cons_empty (parts : List String) : joinParts ("" :: parts) = joinParts parts := rfl

/-- What parts give to a text that they are joined to. -/
def trail (parts : List String) : List Char :=
  (parts.filter (· ≠ "")).flatMap fun part => '_' :: part.toList

theorem trail_cons_empty (parts : List String) : trail ("" :: parts) = trail parts := rfl

theorem trail_cons {part : String} (nonempty : part ≠ "") (parts : List String) :
    trail (part :: parts) = '_' :: part.toList ++ trail parts := by
  rw [trail, List.filter_cons_of_pos (by simpa using nonempty), List.flatMap_cons]
  rfl

theorem trail_single {part : String} (nonempty : part ≠ "") : trail [part] = '_' :: part.toList := by
  rw [trail_cons nonempty]
  exact List.append_nil _

/-- A part that is not empty stands at the beginning. -/
theorem toList_joinParts_cons {part : String} (nonempty : part ≠ "") (parts : List String) :
    (joinParts (part :: parts)).toList = part.toList ++ trail parts := by
  rw [joinParts, List.filter_cons_of_pos (by simpa using nonempty), Text.join, trail]
  clear nonempty
  induction parts.filter (· ≠ "") generalizing part with
  | nil => rw [String.intercalate_singleton, List.flatMap_nil, List.append_nil]
  | cons next others ih =>
      rw [String.intercalate_cons_cons, String.toList_append, String.toList_append, ih,
        List.flatMap_cons, List.append_assoc]
      rfl

/-- Joined parts begin as the parts do. -/
theorem head?_joinParts (parts : List String) :
    (joinParts parts).toList.head? = (parts.flatMap String.toList).head? := by
  induction parts with
  | nil => rfl
  | cons part parts ih =>
      by_cases empty : part = ""
      · subst empty
        rw [joinParts_cons_empty, ih]
        rfl
      · obtain ⟨c, tail, chars⟩ : ∃ c tail, part.toList = c :: tail :=
          List.exists_cons_of_ne_nil (by simpa using empty)
        rw [toList_joinParts_cons empty, List.flatMap_cons, chars]
        rfl

/-- A joined text has the characters of its pieces and underscores. -/
theorem join_forall {P : Char → Prop} (mark : P '_') {texts : List String}
    (all : ∀ text ∈ texts, ∀ c ∈ text.toList, P c) : ∀ c ∈ (Text.join "_" texts).toList, P c := by
  rw [Text.join]
  induction texts with
  | nil =>
      intro c member
      rw [String.intercalate_nil] at member
      cases member
  | cons text texts ih =>
      have here := all text List.mem_cons_self
      have others := ih fun other member => all other (List.mem_cons_of_mem text member)
      cases texts with
      | nil => rwa [String.intercalate_singleton]
      | cons next rest =>
          rw [String.intercalate_cons_cons, String.toList_append, String.toList_append]
          intro c member
          rcases List.mem_append.1 member with member | member
          · rcases List.mem_append.1 member with member | member
            · exact here c member
            · obtain rfl := List.mem_singleton.1 member
              exact mark
          · exact others c member

theorem joinParts_forall {P : Char → Prop} (mark : P '_') {parts : List String}
    (all : ∀ part ∈ parts, ∀ c ∈ part.toList, P c) : ∀ c ∈ (joinParts parts).toList, P c :=
  join_forall mark fun part member => all part (List.mem_of_mem_filter member)

/-! ### Characters -/

/-- The name of a view has no characters but those of the view. -/
theorem mem_of_mem_viewName {view : String} {c : Char} (member : c ∈ (viewName view).toList) :
    c ∈ view.toList := by
  have plain : ∀ d ∈ (String.ofList (view.toList.takeWhile fun c => c ≠ '.' && c ≠ '(')).toList,
      d ∈ view.toList := by
    intro d there
    rw [String.toList_ofList] at there
    exact (List.takeWhile_sublist _).mem there
  rw [viewName] at member
  cases found : ["ViewSet", "View", "APIView"].findSome? fun tail => Text.withoutSuffix? tail
      (String.ofList (view.toList.takeWhile fun c => c ≠ '.' && c ≠ '(')) with
  | none =>
      rw [found] at member
      exact plain c member
  | some front =>
      rw [found] at member
      obtain ⟨tail, _, dropped⟩ := List.exists_of_findSome?_eq_some found
      obtain ⟨chars, split, rfl⟩ := Option.map_eq_some_iff.1 dropped
      rw [Text.dropSuffix?_eq_some_iff] at split
      rw [Option.getD_some, String.toList_ofList] at member
      exact plain c (split ▸ List.mem_append_left _ member)

theorem snakeCase_word {name : String} (names : ∀ c ∈ name.toList, IsNameChar c) :
    ∀ c ∈ (snakeCase name).toList, IsWordChar c := by
  rw [snakeCase]
  apply Text.lowercase_word
  rw [String.toList_ofList]
  exact Text.replace_forall
    (fun _ _ _ all applies => caseBoundary_forall (.inr rfl) all applies) names

theorem collapseUnderscores_sublist (chars : List Char) : (collapseUnderscores chars).Sublist chars := by
  induction chars with
  | nil => exact List.Sublist.slnil
  | cons c rest ih =>
      rw [collapseUnderscores]
      split
      · exact ih.cons c
      · exact ih.cons_cons c

/-- Whatever a segment of a path is, its word has small letters, digits and underscores. -/
theorem segmentWord_word (segment : List Char) : ∀ c ∈ segmentWord segment, IsWordChar c := by
  intro c member
  rw [segmentWord, List.mem_reverse] at member
  have collapsed := (List.dropWhile_sublist _).mem
    (List.mem_reverse.1 ((List.dropWhile_sublist _).mem member))
  obtain ⟨d, _, rfl⟩ := List.mem_map.1 ((collapseUnderscores_sublist _).mem collapsed)
  split
  · next word => simpa [IsWordChar, or_assoc] using word
  · exact .inr (.inr rfl)

theorem pathWords_word (path : String) : ∀ word ∈ pathWords path, ∀ c ∈ word.toList, IsWordChar c := by
  intro word member c there
  obtain ⟨chars, kept, rfl⟩ := List.mem_map.1 member
  obtain ⟨segment, _, rfl⟩ := List.mem_map.1 (List.mem_of_mem_filter kept)
  rw [String.toList_ofList] at there
  exact segmentWord_word segment c there

/-- A method as requests have it: ASCII letters in any case, no more of them than an identifier may have. -/
structure IsVerb (method : String) : Prop where
  nonempty : method ≠ ""
  letters : ∀ c ∈ method.toList, c.isAlpha = true
  short : method.length ≤ maxLength

instance (method : String) : Decidable (IsVerb method) :=
  decidable_of_iff (method ≠ "" ∧ method.toList.all Char.isAlpha = true ∧ method.length ≤ maxLength)
    ⟨fun ⟨nonempty, letters, short⟩ => ⟨nonempty, List.all_eq_true.1 letters, short⟩,
      fun verb => ⟨verb.nonempty, List.all_eq_true.2 verb.letters, verb.short⟩⟩

namespace IsVerb

variable {method : String}

theorem names (verb : IsVerb method) : ∀ c ∈ method.toList, IsNameChar c := fun c member =>
  .inl (by rw [Char.isAlphanum, verb.letters c member, Bool.true_or])

theorem lowercase_eq (verb : IsVerb method) : Text.lowercase method = Text.asciiLowercase method := by
  apply String.toList_inj.1
  rw [Text.toList_lowercase_of_ascii fun c member => (verb.names c member).ascii,
    Text.asciiLowercase, String.toList_ofList]

/-- A verb in lower case does not begin with a digit. -/
theorem exists_cons (verb : IsVerb method) :
    ∃ c rest, (Text.lowercase method).toList = c :: rest ∧ c.isDigit = false := by
  obtain ⟨c, rest, chars⟩ : ∃ c rest, method.toList = c :: rest :=
    List.exists_cons_of_ne_nil (by simpa using verb.nonempty)
  have member : c ∈ method.toList := chars ▸ List.mem_cons_self
  refine ⟨c.toLower, rest.map Char.toLower, ?_,
    (verb.names c member).toLower.2 (verb.letters c member)⟩
  rw [verb.lowercase_eq, Text.asciiLowercase, String.toList_ofList, chars, List.map_cons]

theorem length_lowercase (verb : IsVerb method) :
    (Text.lowercase method).toList.length = method.length := by
  rw [verb.lowercase_eq, Text.asciiLowercase, String.toList_ofList, List.length_map,
    String.length_toList]

end IsVerb

/-- The verb of some parts is a word that does not begin with a digit, and the other parts are words too. -/
structure Parts.Speaks (parts : Parts) : Prop where
  begins : ∃ c rest, parts.verb.toList = c :: rest ∧ c.isDigit = false
  fits : parts.verb.toList.length ≤ maxLength
  verb : ∀ c ∈ parts.verb.toList, IsWordChar c
  view : ∀ c ∈ parts.view.toList, IsWordChar c
  words : ∀ word ∈ parts.words, ∀ c ∈ word.toList, IsWordChar c

theorem partsOf_speaks {method : String} {view : Option String} (verb : IsVerb method)
    (named : ∀ name ∈ view, IsAsciiIdentifier name) (path : String) :
    (partsOf method path view).Speaks where
  begins := verb.exists_cons
  fits := verb.length_lowercase.le.trans verb.short
  verb := Text.lowercase_word verb.names
  view := by
    apply snakeCase_word
    intro c member
    cases view with
    | none => exact absurd (mem_of_mem_viewName member) (List.not_mem_nil)
    | some name => exact (named name rfl).names c (mem_of_mem_viewName member)
  words := pathWords_word path

namespace Parts.Speaks

variable {parts : Parts}

theorem verb_ne (speaks : parts.Speaks) : parts.verb ≠ "" := by
  obtain ⟨c, rest, chars, _⟩ := speaks.begins
  intro empty
  rw [empty] at chars
  cases chars

/-- No guard is needed where the verb begins. -/
theorem guardDigit_joined (speaks : parts.Speaks) : guardDigit parts.joined = parts.joined := by
  obtain ⟨c, rest, chars, other⟩ := speaks.begins
  have first : parts.joined.toList.head? = some c := by
    rw [joined, toList_joinParts_cons speaks.verb_ne, chars]
    rfl
  rw [guardDigit, first, Option.any_some, other]
  rfl

theorem join_words (speaks : parts.Speaks) :
    ∀ c ∈ (Text.join "_" parts.words).toList, IsWordChar c :=
  join_forall (.inr (.inr rfl)) speaks.words

theorem joined_word (speaks : parts.Speaks) : ∀ c ∈ parts.joined.toList, IsWordChar c := by
  rw [joined]
  refine joinParts_forall (P := IsWordChar) (.inr (.inr rfl)) ?_
  simp only [List.forall_mem_cons]
  exact ⟨speaks.verb, speaks.view, speaks.join_words, List.forall_mem_nil _⟩

theorem short_word (speaks : parts.Speaks) (digest : HexDigest) :
    ∀ c ∈ (parts.short digest).toList, IsWordChar c := by
  rw [short]
  refine joinParts_forall (P := IsWordChar) (.inr (.inr rfl)) ?_
  simp only [List.forall_mem_cons]
  refine ⟨speaks.verb, speaks.view, ?_, ?_, List.forall_mem_nil _⟩
  · intro c member
    cases words : parts.words with
    | nil =>
        rw [words] at member
        cases member
    | cons word others =>
        rw [words] at member
        exact speaks.words word (words ▸ List.mem_cons_self) c member
  · intro c member
    rw [String.toList_ofList] at member
    exact hexDigits_word c (digest.hexadecimal _ c (List.mem_of_mem_take member))

/-- Each form begins with the verb and is a word. -/
theorem identifier (speaks : parts.Speaks) (digest : HexDigest) :
    parts.verb.toList <+: (parts.identifier digest).toList ∧
      ∀ c ∈ (parts.identifier digest).toList, IsWordChar c := by
  have starts : ∀ others, parts.verb.toList <+: (joinParts (parts.verb :: others)).toList := by
    intro others
    rw [toList_joinParts_cons speaks.verb_ne]
    exact List.prefix_append _ _
  rcases parts.identifier_cases digest with ⟨_, form⟩ | ⟨_, _, form⟩ | ⟨_, _, form⟩
  · rw [form, speaks.guardDigit_joined]
    exact ⟨starts _, speaks.joined_word⟩
  · rw [form]
    exact ⟨starts _, speaks.short_word digest⟩
  · rw [form, speaks.guardDigit_joined, String.toList_ofList]
    exact ⟨List.prefix_take_iff.2 ⟨starts _, speaks.fits⟩,
      fun c member => speaks.joined_word c (List.mem_of_mem_take member)⟩

end Parts.Speaks

/-- With any digest in hexadecimal digits, so with the one that is used, an identifier has at most 64
characters. If the method is a verb, and the view has no name or an ASCII identifier, then the identifier
begins with the verb in lower case, and has small letters, digits and underscores alone. -/
theorem operationId_wellFormed (digest : HexDigest) (method path : String) (view : Option String) :
    operationId method path view = (partsOf method path view).identifier blake3 ∧
      ((partsOf method path view).identifier digest).length ≤ 64 ∧
      (IsVerb method → (∀ name ∈ view, IsAsciiIdentifier name) →
        (partsOf method path view).identifier digest ≠ "" ∧
        (Text.asciiLowercase method).toList <+: ((partsOf method path view).identifier digest).toList ∧
        ∀ c ∈ ((partsOf method path view).identifier digest).toList, IsWordChar c) := by
  refine ⟨operationId_eq method path view, Parts.length_identifier_le digest _, ?_⟩
  intro verb named
  obtain ⟨starts, words⟩ := (partsOf_speaks verb named path).identifier digest
  have lower : (partsOf method path view).verb = Text.asciiLowercase method := verb.lowercase_eq
  rw [lower] at starts
  refine ⟨fun empty => ?_, starts, words⟩
  obtain ⟨c, rest, chars, _⟩ := verb.exists_cons
  rw [← verb.lowercase_eq, chars, empty] at starts
  exact absurd (List.prefix_nil.1 starts) (List.cons_ne_nil c rest)

/-- The path of a route with a placeholder and with characters that no identifier has. -/
def photosPath : String := "/api/Größe-日本/{id}/userPhotos/"

theorem photosPath_wellFormed :
    IsVerb "GET" ∧ (∀ name ∈ some "UserProfileViewSet", IsAsciiIdentifier name) ∧
      operationId "GET" photosPath (some "UserProfileViewSet") =
        "get_user_profile_api_gr_e_user_photos" ∧
      ∀ c ∈ ((partsOf "GET" photosPath (some "UserProfileViewSet")).identifier blake3).toList,
        IsWordChar c := by
  have verb : IsVerb "GET" := by decide
  have named : ∀ name ∈ some "UserProfileViewSet", IsAsciiIdentifier name := by
    rintro name ⟨⟩
    decide +kernel
  obtain ⟨_, _, shape⟩ := operationId_wellFormed blake3 "GET" photosPath (some "UserProfileViewSet")
  obtain ⟨_, _, words⟩ := shape verb named
  exact ⟨verb, named, by decide +kernel, words⟩

/-! ### The guard against digits -/

/-- A digit stands at the beginning. -/
def StartsDigit (id : String) : Prop := id.toList.head?.any Char.isDigit = true

instance : DecidablePred StartsDigit := fun id =>
  inferInstanceAs (Decidable (id.toList.head?.any Char.isDigit = true))

theorem not_startsDigit_guardDigit (id : String) : ¬ StartsDigit (guardDigit id) := by
  rw [guardDigit]
  split
  · rw [StartsDigit, String.toList_append]
    exact Bool.false_ne_true
  · next other => exact other

theorem guardDigit_of_startsDigit {id : String} (starts : StartsDigit id) :
    guardDigit id = "op_" ++ id := if_pos starts

theorem guardDigit_eq_self {id : String} (other : ¬ StartsDigit id) : guardDigit id = id := if_neg other

namespace Parts

variable (parts : Parts)

/-- No word of a path is left out where the words are joined. -/
theorem joinParts_words : joinParts parts.words = Text.join "_" parts.words := by
  have all : parts.words.filter (· ≠ "") = parts.words :=
    List.filter_eq_self.2 fun word member => by simpa using parts.spoken word member
  rw [joinParts, all]

/-- The words of a path begin, joined, as the first one does. -/
theorem head?_join_words :
    (Text.join "_" parts.words).toList.head? = (parts.words.head?.getD "").toList.head? := by
  rw [← joinParts_words, head?_joinParts]
  cases words : parts.words with
  | nil => rfl
  | cons word others =>
      have nonempty := parts.spoken word (words ▸ List.mem_cons_self)
      obtain ⟨c, rest, chars⟩ : ∃ c rest, word.toList = c :: rest :=
        List.exists_cons_of_ne_nil (by simpa using nonempty)
      rw [List.flatMap_cons, List.head?_cons, Option.getD_some, chars]
      rfl

/-- The form with a digest begins as all parts do, if these are not all empty. -/
theorem head?_short (digest : HexDigest) (nonempty : parts.joined ≠ "") :
    (parts.short digest).toList.head? = parts.joined.toList.head? := by
  have begins : parts.joined.toList.head? ≠ none := by simpa using nonempty
  have words := parts.head?_join_words
  rw [joined, head?_joinParts] at begins ⊢
  rw [short, head?_joinParts]
  -- What begins the one form is found before the digest is reached.
  simp only [List.flatMap_cons, List.flatMap_nil, List.head?_append, Option.or_none, List.head?_nil,
    words, ← Option.or_assoc] at begins ⊢
  obtain ⟨c, first⟩ := Option.ne_none_iff_exists'.1 begins
  rw [first]
  rfl

end Parts

/-- With any digest, an identifier begins with a digit exactly if its parts do, joined, are too long with the
guard in front of them, and are not too long with the digest. -/
theorem Parts.startsDigit_identifier_iff (parts : Parts) (digest : HexDigest) :
    StartsDigit (parts.identifier digest) ↔
      StartsDigit parts.joined ∧ maxLength < ("op_" ++ parts.joined).utf8ByteSize ∧
        (parts.short digest).utf8ByteSize ≤ maxLength := by
  constructor
  · intro starts
    rcases parts.identifier_cases digest with ⟨_, form⟩ | ⟨long, fits, form⟩ | ⟨_, _, form⟩
    · exact absurd (form ▸ starts) (not_startsDigit_guardDigit _)
    · rw [form] at starts
      have nonempty : parts.joined ≠ "" := by
        intro empty
        rw [empty] at long
        exact absurd long (by decide)
      have joinedStarts : StartsDigit parts.joined := by
        rwa [StartsDigit, ← parts.head?_short digest nonempty]
      rw [guardDigit_of_startsDigit joinedStarts] at long
      exact ⟨joinedStarts, long, fits⟩
    · refine absurd ?_ (not_startsDigit_guardDigit parts.joined)
      rw [form, StartsDigit, String.toList_ofList, List.head?_take] at starts
      exact starts
  · rintro ⟨starts, long, fits⟩
    have nonempty : parts.joined ≠ "" := by
      intro empty
      rw [empty] at starts
      cases starts
    rw [← guardDigit_of_startsDigit starts] at long
    rw [identifier, if_neg (Nat.not_le_of_lt long), if_pos fits, StartsDigit,
      parts.head?_short digest nonempty]
    exact starts

/-- When the identifier of an operation begins with a digit: the parts do, and with the guard before them they
are too long for an identifier, so that the form with the digest is taken, which has no guard. All of them
joined never begin with one, and neither do their first characters. -/
theorem operationId_startsDigit_iff (method path : String) (view : Option String) :
    StartsDigit (operationId method path view) ↔
      StartsDigit (partsOf method path view).joined ∧
        64 < ("op_" ++ (partsOf method path view).joined).utf8ByteSize ∧
        ((partsOf method path view).short blake3).utf8ByteSize ≤ 64 := by
  rw [operationId_eq]
  exact Parts.startsDigit_identifier_iff _ blake3

/-- The path of a route with many words, the first of which begins with a digit. -/
def recoveryPath : String := "/2fa/verify/device/registration/confirmation/settings/recovery/codes/"

/-- A path with few words has the guard, this one has not. -/
theorem recoveryPath_startsDigit :
    operationId "" "/2fa/verify/" none = "op_2fa_verify" ∧
      operationId "" recoveryPath none = "2fa_fc404438" ∧
      StartsDigit (operationId "" recoveryPath none) := by
  have short : operationId "" recoveryPath none = "2fa_fc404438" := by decide +kernel
  refine ⟨by decide +kernel, short, ?_⟩
  rw [short]
  decide

end RouteAtlas.Naming
