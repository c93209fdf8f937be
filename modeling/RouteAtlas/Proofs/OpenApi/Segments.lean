/-
Module: RouteAtlas.Proofs.OpenApi.Segments
Layer: Proofs
Purpose: Models that are told by a segment of a path. Before names are compared a segment loses what looks
  like a version at its beginning, and every `s` at its end. So a segment that is the name of a model tells
  it if it begins and ends otherwise; if not, the model is missed, but for two words that are their own
  plural. The endpoint of a model tells it unless its name begins like a version: what is taken away has a
  digit, and nothing that is compared with the rest has as few digits as the rest has.
Trusted boundary: none
Main exports: KeepsSpelling, withoutVersion_cases, digitCount_of_told, modelOfSegment?_of_keepsSpelling,
  eq_series_of_told, segment_recognised_iff, isSome_modelOfSegment?_iff, modelOfRoute?_conventional,
  isSome_modelOfRoute?_conventional, not_told_of_beginsVersion, endpoint_inferred_iff
-/
import RouteAtlas.OpenApi.Draft
import RouteAtlas.Proofs.Naming.Plural
import RouteAtlas.Proofs.OpenApi.Inference

namespace RouteAtlas

namespace Text

variable {p : Char → Bool} {chars : List Char}

/-- What is trimmed away at the end. -/
theorem exists_trimmed (p : Char → Bool) (chars : List Char) :
    ∃ ending, chars = trimEndWhere p chars ++ ending ∧ ∀ c ∈ ending, p c = true := by
  refine ⟨(chars.reverse.takeWhile p).reverse, ?_, ?_⟩
  · rw [trimEndWhere, ← List.reverse_append, List.takeWhile_append_dropWhile, List.reverse_reverse]
  · intro c member
    exact List.mem_takeWhile_imp (List.mem_reverse.1 member)

theorem trimEndWhere_eq_self (other : ∀ c, chars.getLast? = some c → p c = false) :
    trimEndWhere p chars = chars := by
  rw [trimEndWhere, List.reverse_eq_iff]
  cases reversed : chars.reverse with
  | nil => rfl
  | cons c rest =>
      have last : chars.getLast? = some c := by
        rw [List.getLast?_eq_head?_reverse, reversed]
        rfl
      rw [List.dropWhile_cons_of_neg (by rw [other c last]; exact Bool.false_ne_true)]

theorem length_trimEndWhere_lt {c : Char} (last : chars.getLast? = some c) (trimmed : p c = true) :
    (trimEndWhere p chars).length < chars.length := by
  rw [List.getLast?_eq_head?_reverse, List.head?_eq_some_iff] at last
  obtain ⟨rest, reversed⟩ := last
  have bounded := (List.dropWhile_sublist p (l := rest)).length_le
  have whole : chars.length = rest.length + 1 := by
    rw [← List.length_cons, ← reversed, List.length_reverse]
  rw [trimEndWhere, List.length_reverse, reversed, List.dropWhile_cons_of_pos trimmed]
  omega

end Text

namespace OpenApi

open Naming (BeginsVersion digitCount endpointName)
open Project (Inventory)
open Text (IsNameChar IsAsciiIdentifier)

/-! ### What is compared with names -/

section Segments

variable {segment : String}

/-- A segment that is compared with names as it stands: it does not begin like a version, and does not end
in `s`. -/
structure KeepsSpelling (segment : String) : Prop where
  versionless : ¬ BeginsVersion segment.toList
  ending : segment.toList.getLast? ≠ some 's'

instance (segment : String) : Decidable (KeepsSpelling segment) :=
  decidable_of_iff (¬ BeginsVersion segment.toList ∧ segment.toList.getLast? ≠ some 's')
    ⟨fun ⟨versionless, ending⟩ => ⟨versionless, ending⟩,
      fun keeps => ⟨keeps.versionless, keeps.ending⟩⟩

/-- What looks like a version is taken away with its digits. -/
theorem withoutVersion_cases (ascii : ∀ c ∈ segment.toList, c.toNat < 128) :
    (¬ BeginsVersion segment.toList ∧ withoutVersion segment = segment) ∨
      BeginsVersion segment.toList ∧
        digitCount (withoutVersion segment).toList < digitCount segment.toList := by
  rw [withoutVersion]
  split
  · next rest chars =>
      rw [chars] at ascii ⊢
      cases rest with
      | nil => exact .inl ⟨by decide, rfl⟩
      | cons c rest =>
          have same := Naming.isDecimalDigit_ascii (ascii c (by simp))
          by_cases digit : Text.isDecimalDigit c = true
          · have begins : BeginsVersion ('v' :: c :: rest) := ⟨rfl, by simp [← same, digit]⟩
            have fewer : digitCount (rest.dropWhile Text.isDecimalDigit) ≤ digitCount rest :=
              (List.dropWhile_sublist _).countP_le
            have here : digitCount ('v' :: c :: rest) = digitCount rest + 1 := by
              rw [digitCount, List.countP_cons_of_neg (by decide), List.countP_cons_of_pos digit]
              rfl
            rw [List.takeWhile_cons_of_pos digit, List.dropWhile_cons_of_pos digit,
              String.toList_ofList, here]
            exact .inr ⟨begins, Nat.lt_succ_of_le fewer⟩
          · rw [List.takeWhile_cons_of_neg digit]
            refine .inl ⟨fun begins => digit ?_, rfl⟩
            rw [same]
            exact begins.2
  · next other =>
      refine .inl ⟨fun begins => ?_, rfl⟩
      obtain ⟨rest, chars⟩ := List.head?_eq_some_iff.1 begins.1
      exact other rest chars

theorem digitCount_singular (segment : String) :
    digitCount (singular segment).toList = digitCount (withoutVersion segment).toList := by
  obtain ⟨ending, split, trimmed⟩ := Text.exists_trimmed (· = 's') (withoutVersion segment).toList
  have none : digitCount ending = 0 := by
    rw [digitCount, List.countP_eq_zero]
    intro c member digit
    obtain rfl : c = 's' := by simpa using trimmed c member
    cases digit
  have both := congrArg digitCount split
  rw [digitCount, digitCount, List.countP_append, ← digitCount, ← digitCount, ← digitCount, none] at both
  rw [singular, String.toList_ofList, both, Nat.add_zero]

theorem singular_eq_self (keeps : KeepsSpelling segment)
    (ascii : ∀ c ∈ segment.toList, c.toNat < 128) : singular segment = segment := by
  rcases withoutVersion_cases ascii with ⟨_, whole⟩ | ⟨begins, _⟩
  · have trimmed : Text.trimEndWhere (· = 's') segment.toList = segment.toList := by
      apply Text.trimEndWhere_eq_self
      intro c last
      apply decide_eq_false
      rintro rfl
      exact keeps.ending last
    rw [singular, whole, trimmed, String.ofList_toList]
  · exact absurd begins keeps.versionless

end Segments

/-! ### Names in any case -/

section Names

variable {name other model : String}

theorem SameName.symm (same : SameName name other) : SameName other name := Eq.symm same

theorem SameName.trans (first : SameName name other) (second : SameName other model) :
    SameName name model := Eq.trans first second

theorem SameName.digitCount_eq (same : SameName name other) :
    digitCount name.toList = digitCount other.toList := by
  rw [← Naming.digitCount_toLower, same.toList_eq, Naming.digitCount_toLower]

/-- Whatever the case of the letters of an identifier is, it is one. -/
theorem SameName.ascii (same : SameName name model) (named : IsAsciiIdentifier model) :
    IsAsciiIdentifier name := by
  have names : ∀ c ∈ name.toList, IsNameChar c := by
    intro c member
    have lower : c.toLower ∈ model.toList.map Char.toLower :=
      same.toList_eq ▸ List.mem_map_of_mem member
    obtain ⟨d, there, equal⟩ := List.mem_map.1 lower
    have word : Text.IsWordChar c.toLower := equal ▸ (named.names d there).toLower.1
    by_cases upper : c.isUpper = true
    · exact .inl (Text.isAlphanum_iff.2 (.inl upper))
    · rw [Char.toLower_eq_of_not_isUpper upper] at word
      exact word.name
  have ascii : ∀ c ∈ name.toList, c.toNat < 128 := fun c member => (names c member).ascii
  refine ⟨Bool.and_eq_true_iff.2 ⟨?_, List.all_eq_true.2 ?_⟩, ascii⟩
  · have starts : ∀ {c : Char}, c.toNat < 128 →
        Text.isIdentifierStart c.toLower = Text.isIdentifierStart c :=
      Text.forall_ascii (P := fun c => Text.isIdentifierStart c.toLower = Text.isIdentifierStart c)
        (by decide +kernel)
    have heads := congrArg List.head? same.toList_eq
    rw [List.head?_map, List.head?_map] at heads
    have start := (Bool.and_eq_true_iff.1 named.identifier).1
    cases first : model.toList.head? with
    | none =>
        rw [first] at start
        cases start
    | some d =>
        rw [first, Option.map_some, Option.map_eq_some_iff] at heads
        obtain ⟨c, head, equal⟩ := heads
        rw [first, Option.any_some, ← starts (named.ascii d (List.mem_of_head? first)), ← equal,
          starts (ascii c (List.mem_of_head? head))] at start
        rwa [head]
  · intro c member
    rw [Text.isIdentifierContinue, if_pos (ascii c member)]
    rcases names c member with alphanum | rfl
    · rw [alphanum, Bool.true_or]
    · rfl

end Names

section Inference

variable {inventory : Inventory} {segment model found : String}

/-! ### Segments that name a model -/

/-- A segment that tells a model has as many digits as its name, once the version is taken away. -/
theorem digitCount_of_told (plain : Text.IsSegment segment.toList) (named : IsAsciiIdentifier found)
    (told : modelOfSegment? inventory segment = some found) :
    digitCount found.toList = digitCount (withoutVersion segment).toList := by
  rcases modelOfSegment?_told plain told with same | endpoint
  · rw [same.digitCount_eq, digitCount_singular]
  · rw [← endpoint, Naming.digitCount_endpointName named]

/-- A segment that keeps its spelling tells the model it names. -/
theorem modelOfSegment?_of_keepsSpelling (known : model ∈ inventory.models.keys)
    (named : IsAsciiIdentifier model) (spelled : SameName segment model) (keeps : KeepsSpelling segment) :
    ∃ found, modelOfSegment? inventory segment = some found ∧ SameName found model := by
  have segmentNamed := spelled.ascii named
  obtain ⟨found, told, same⟩ := exists_modelNamed? known spelled.symm
  refine ⟨found, ?_, same.trans spelled⟩
  rw [modelOfSegment?_eq (Text.segment_of_isIdentifier segmentNamed.identifier),
    singular_eq_self keeps segmentNamed.ascii, told, Option.some_or]

/-- Of all other segments two words alone can tell the model that they name, since they are their own
plural. -/
theorem eq_series_of_told (named : IsAsciiIdentifier model) (spelled : SameName segment model)
    (altered : ¬ KeepsSpelling segment) (told : modelOfSegment? inventory segment = some found)
    (same : SameName found model) : segment = "series" ∨ segment = "species" := by
  have segmentNamed := spelled.ascii named
  have foundNamed := same.ascii named
  have alike : SameName found segment := same.trans spelled.symm
  have plain := Text.segment_of_isIdentifier segmentNamed.identifier
  rcases withoutVersion_cases segmentNamed.ascii with ⟨versionless, whole⟩ | ⟨_, fewer⟩
  · have ends : segment.toList.getLast? = some 's' := by
      by_contra other
      exact altered ⟨versionless, other⟩
    rcases modelOfSegment?_told plain told with singled | spelling
    · have shorter : (singular segment).length < segment.length := by
        rw [singular, whole, String.length_ofList, ← String.length_toList]
        exact Text.length_trimEndWhere_lt ends rfl
      rw [← singled.length_eq, alike.length_eq] at shorter
      exact absurd shorter (lt_irrefl _)
    · rw [whole] at spelling
      have unhyphened : '-' ∉ (endpointName found).toList := by
        rw [spelling]
        exact fun member => absurd (segmentNamed.names _ member) (by decide)
      have small := Naming.toLower_endpointName foundNamed
      have plural := Naming.toList_endpointName_of_unhyphened foundNamed unhyphened
      rw [alike.toList_eq, ← spelling, small] at plural
      rw [spelling] at plural
      rcases Naming.eq_series_of_pluralOf_eq_self plural.symm ends with word | word
      · exact .inl (String.toList_inj.1 word)
      · exact .inr (String.toList_inj.1 word)
  · rw [← digitCount_of_told plain foundNamed told, alike.digitCount_eq] at fewer
    exact absurd fewer (lt_irrefl _)

/-- A path whose first segment is the name of a model, in any case: the route is found to be about the model,
or about one whose name differs in the case of letters, exactly if the segment keeps its spelling; or if
it is one of two words that are their own plural, and tells such a model; or if it tells no model at all,
and the rest of the path tells such a model. -/
theorem segment_recognised_iff {rest : String} (known : model ∈ inventory.models.keys)
    (named : IsAsciiIdentifier model) (spelled : SameName segment model)
    (ends : rest = "" ∨ ∃ more, rest = "/" ++ more) :
    Recognises inventory ("/" ++ segment ++ rest) none model ↔
      KeepsSpelling segment ∨
        ((segment = "series" ∨ segment = "species") ∧
          ∃ found, modelOfSegment? inventory segment = some found ∧ SameName found model) ∨
        (modelOfSegment? inventory segment = none ∧ Recognises inventory rest none model) := by
  have slashless : '/' ∉ segment.toList := fun member =>
    absurd ((spelled.ascii named).names _ member) (by decide)
  rw [Recognises, modelOfRoute?_cons slashless ends]
  constructor
  · rintro ⟨found, told, same⟩
    by_cases keeps : KeepsSpelling segment
    · exact .inl keeps
    · rcases Option.or_eq_some_iff.1 told with here | ⟨nothing, later⟩
      · exact .inr (.inl ⟨eq_series_of_told named spelled keeps here same, found, here, same⟩)
      · exact .inr (.inr ⟨nothing, found, later, same⟩)
  · rintro (keeps | ⟨_, found, here, same⟩ | ⟨nothing, found, later, same⟩)
    · obtain ⟨found, here, same⟩ := modelOfSegment?_of_keepsSpelling known named spelled keeps
      exact ⟨found, by rw [here, Option.some_or], same⟩
    · exact ⟨found, by rw [here, Option.some_or], same⟩
    · exact ⟨found, by rw [nothing, Option.none_or, later], same⟩

/-- A project with a model whose name ends in `s`, and one whose name begins like a version. -/
def addressProject : Inventory where
  models := [("Address", { name := "Address", fields := [] }),
    ("V2Token", { name := "V2Token", fields := [] })]

/-- Nothing is taken away from capitals. -/
theorem capitalAddress_recognised :
    "Address" ∈ addressProject.models.keys ∧ IsAsciiIdentifier "Address" ∧
      SameName "ADDRESS" "Address" ∧ ("/" = "" ∨ ∃ more, "/" = "/" ++ more) ∧
      Recognises addressProject ("/" ++ "ADDRESS" ++ "/") none "Address" := by
  have known : "Address" ∈ addressProject.models.keys := by decide
  have named : IsAsciiIdentifier "Address" := by decide +kernel
  have spelled : SameName "ADDRESS" "Address" := by decide +kernel
  have ends : "/" = "" ∨ ∃ more, "/" = "/" ++ more := .inr ⟨"", rfl⟩
  have keeps : KeepsSpelling "ADDRESS" := by decide
  exact ⟨known, named, spelled, ends, (segment_recognised_iff known named spelled ends).2 (.inl keeps)⟩

/-- The same name in small letters is missed, and so is one that begins like a version. -/
theorem smallAddress_unrecognised :
    "Address" ∈ addressProject.models.keys ∧ "V2Token" ∈ addressProject.models.keys ∧
      IsAsciiIdentifier "Address" ∧ IsAsciiIdentifier "V2Token" ∧
      SameName "address" "Address" ∧ SameName "v2token" "V2Token" ∧
      modelOfRoute? addressProject "/address/" none = none ∧
      modelOfRoute? addressProject "/v2token/" none = none := by
  decide +kernel

/-! ### Endpoints -/

theorem isSome_modelOfSegment?_iff (plain : Text.IsSegment segment.toList) :
    (modelOfSegment? inventory segment).isSome = true ↔
      ∃ other ∈ inventory.models.keys,
        SameName other (singular segment) ∨ endpointName other = withoutVersion segment := by
  constructor
  · intro told
    obtain ⟨other, told⟩ := Option.isSome_iff_exists.1 told
    have known := KeyMap.contains_iff_mem_keys.1 (modelOfSegment?_known told)
    exact ⟨other, known, modelOfSegment?_told plain told⟩
  · rintro ⟨other, known, same | endpoint⟩
    · obtain ⟨found, named, _⟩ := exists_modelNamed? known same
      rw [modelOfSegment?_eq plain, named, Option.some_or]
      rfl
    · rw [modelOfSegment?_eq plain, Option.isSome_or, Bool.or_eq_true, List.find?_isSome]
      exact .inr ⟨other, known, beq_iff_eq.2 endpoint⟩

/-- On the paths of a resource `api` is asked first, and then the endpoint. -/
theorem modelOfRoute?_conventional {path : String} (named : IsAsciiIdentifier model)
    (conventional : path = Draft.endpointBase model ++ "/" ∨
      path = Draft.endpointBase model ++ "/\x7bid\x7d/") :
    modelOfRoute? inventory path none =
      (modelOfSegment? inventory "api").or (modelOfSegment? inventory (endpointName model)) := by
  have slashless : '/' ∉ (endpointName model).toList := by
    intro member
    have plain := (Naming.endpointName_segment named.identifier).plain _ member
    exact absurd plain (by decide)
  have below : ∀ rest, (∃ more, rest = "/" ++ more) →
      modelOfRoute? inventory (Draft.endpointBase model ++ rest) none =
        (modelOfSegment? inventory "api").or
          ((modelOfSegment? inventory (endpointName model)).or
            (modelOfRoute? inventory rest none)) := by
    intro rest ends
    have path : Draft.endpointBase model ++ rest =
        "/" ++ "api" ++ ("/" ++ endpointName model ++ rest) := by
      apply String.toList_inj.1
      simp [Draft.endpointBase]
    rw [path, modelOfRoute?_cons (by decide) (.inr ⟨endpointName model ++ rest, String.append_assoc⟩),
      modelOfRoute?_cons slashless (.inr ends)]
  rcases conventional with rfl | rfl
  · have nothing : modelOfRoute? inventory "/" none = none := rfl
    rw [below "/" ⟨"", rfl⟩, nothing, Option.or_none]
  · have nothing : modelOfRoute? inventory "/\x7bid\x7d/" none = none := rfl
    rw [below "/\x7bid\x7d/" ⟨"\x7bid\x7d/", rfl⟩, nothing, Option.or_none]

/-- The endpoint of a model whose name does not begin like a version tells some model. -/
theorem isSome_modelOfSegment?_endpointName (known : model ∈ inventory.models.keys)
    (named : IsAsciiIdentifier model)
    (versionless : ¬ BeginsVersion (model.toList.map Char.toLower)) :
    (modelOfSegment? inventory (endpointName model)).isSome = true := by
  rcases withoutVersion_cases (Naming.endpointName_parted named).names.ascii with
    ⟨_, whole⟩ | ⟨begins, _⟩
  · rw [isSome_modelOfSegment?_iff (Naming.endpointName_segment named.identifier)]
    exact ⟨model, known, .inr whole.symm⟩
  · exact absurd ((Naming.beginsVersion_endpointName named).1 begins) versionless

/-- A model whose name begins like a version is told neither by `api` nor by its endpoint: there are fewer
digits in what its name is compared with. -/
theorem not_told_of_beginsVersion (named : IsAsciiIdentifier model)
    (begins : BeginsVersion (model.toList.map Char.toLower)) :
    modelOfSegment? inventory "api" ≠ some model ∧
      modelOfSegment? inventory (endpointName model) ≠ some model := by
  have fewer : digitCount (withoutVersion (endpointName model)).toList < digitCount model.toList := by
    rw [← Naming.digitCount_endpointName named]
    rcases withoutVersion_cases (Naming.endpointName_parted named).names.ascii with
      ⟨versionless, _⟩ | ⟨_, fewer⟩
    · exact absurd ((Naming.beginsVersion_endpointName named).2 begins) versionless
    · exact fewer
  constructor
  · intro told
    have none := digitCount_of_told (by decide) named told
    have api : digitCount (withoutVersion "api").toList = 0 := by decide
    omega
  · intro told
    have same := digitCount_of_told (Naming.endpointName_segment named.identifier) named told
    omega

/-- What it takes for the paths of a resource to tell a model. -/
theorem isSome_modelOfRoute?_conventional {path : String} (named : IsAsciiIdentifier model)
    (conventional : path = Draft.endpointBase model ++ "/" ∨
      path = Draft.endpointBase model ++ "/\x7bid\x7d/") :
    (modelOfRoute? inventory path none).isSome = true ↔
      ∃ other ∈ inventory.models.keys,
        SameName other "api" ∨ endpointName other = "api" ∨
          SameName other (singular (endpointName model)) ∨
          endpointName other = withoutVersion (endpointName model) := by
  have api : (modelOfSegment? inventory "api").isSome = true ↔ _ :=
    isSome_modelOfSegment?_iff (by decide)
  have singularApi : singular "api" = "api" := by decide
  have versionlessApi : withoutVersion "api" = "api" := by decide
  rw [singularApi, versionlessApi] at api
  have endpoint : (modelOfSegment? inventory (endpointName model)).isSome = true ↔ _ :=
    isSome_modelOfSegment?_iff (Naming.endpointName_segment named.identifier)
  rw [modelOfRoute?_conventional named conventional, Option.isSome_or, Bool.or_eq_true, api, endpoint]
  simp only [← exists_or, ← and_or_left, or_assoc]

/-- A model whose name begins like a version is not told. -/
theorem modelOfRoute?_conventional_ne {path : String} (named : IsAsciiIdentifier model)
    (conventional : path = Draft.endpointBase model ++ "/" ∨
      path = Draft.endpointBase model ++ "/\x7bid\x7d/")
    (begins : BeginsVersion (model.toList.map Char.toLower)) :
    modelOfRoute? inventory path none ≠ some model := by
  intro told
  rw [modelOfRoute?_conventional named conventional] at told
  rcases Option.or_eq_some_iff.1 told with here | ⟨_, here⟩
  · exact (not_told_of_beginsVersion named begins).1 here
  · exact (not_told_of_beginsVersion named begins).2 here

/-- If there is one model, it is the one that is told. -/
theorem modelOfRoute?_of_alone {template : String} {handler : Option String}
    (alone : inventory.models.keys = [model])
    (told : (modelOfRoute? inventory template handler).isSome = true) :
    modelOfRoute? inventory template handler = some model := by
  obtain ⟨found, here⟩ := Option.isSome_iff_exists.1 told
  have listed := KeyMap.contains_iff_mem_keys.1 (modelOfRoute?_known here)
  rw [alone, List.mem_singleton] at listed
  rw [here, listed]

/-- The two paths of the endpoints of a model tell some model exactly if its name does not begin, in lower
case, like a version, or if some model has the name or the endpoint `api`, or the name or the endpoint
that is left without the version. A model whose name begins so is never told, even if there is no other one;
any other model is told if there is no other one. -/
theorem endpoint_inferred_iff {path : String} (known : model ∈ inventory.models.keys)
    (named : IsAsciiIdentifier model)
    (conventional : path = Draft.endpointBase model ++ "/" ∨
      path = Draft.endpointBase model ++ "/\x7bid\x7d/") :
    ((modelOfRoute? inventory path none).isSome = true ↔
      ¬ BeginsVersion (Text.asciiLowercase model).toList ∨
        ∃ other ∈ inventory.models.keys,
          SameName other "api" ∨ endpointName other = "api" ∨
            SameName other (singular (endpointName model)) ∨
            endpointName other = withoutVersion (endpointName model)) ∧
    (BeginsVersion (Text.asciiLowercase model).toList → modelOfRoute? inventory path none ≠ some model) ∧
    (inventory.models.keys = [model] →
      (modelOfRoute? inventory path none = some model ↔
        ¬ BeginsVersion (Text.asciiLowercase model).toList)) := by
  have lower : (Text.asciiLowercase model).toList = model.toList.map Char.toLower :=
    String.toList_ofList
  have missed : BeginsVersion (model.toList.map Char.toLower) →
      modelOfRoute? inventory path none ≠ some model :=
    modelOfRoute?_conventional_ne named conventional
  have reached : ¬ BeginsVersion (model.toList.map Char.toLower) →
      (modelOfRoute? inventory path none).isSome = true := by
    intro versionless
    rw [modelOfRoute?_conventional named conventional, Option.isSome_or,
      isSome_modelOfSegment?_endpointName known named versionless, Bool.or_true]
  rw [lower, ← isSome_modelOfRoute?_conventional named conventional]
  refine ⟨(or_iff_right_of_imp reached).symm, missed, fun alone => ⟨fun here begins => ?_, ?_⟩⟩
  · exact missed begins here
  · exact fun versionless => modelOfRoute?_of_alone alone (reached versionless)

end Inference

/-- A project whose only model has a name that begins with `v`. -/
def visitProject : Inventory where
  models := [("Visit2", { name := "Visit2", fields := [] })]

theorem visitEndpoint_inferred :
    "Visit2" ∈ visitProject.models.keys ∧ IsAsciiIdentifier "Visit2" ∧
      Draft.endpointBase "Visit2" ++ "/\x7bid\x7d/" = "/api/visit2s/\x7bid\x7d/" ∧
      modelOfRoute? visitProject (Draft.endpointBase "Visit2" ++ "/\x7bid\x7d/") none = some "Visit2" := by
  have known : "Visit2" ∈ visitProject.models.keys := by decide
  have named : IsAsciiIdentifier "Visit2" := by decide +kernel
  have versionless : ¬ BeginsVersion (Text.asciiLowercase "Visit2").toList := by decide +kernel
  obtain ⟨_, _, alone⟩ := endpoint_inferred_iff known named (.inr rfl)
  exact ⟨known, named, by decide +kernel, (alone rfl).2 versionless⟩

/-- A project whose only model has a name that begins like a version. -/
def tokenProject : Inventory where
  models := [("V2Token", { name := "V2Token", fields := [] })]

/-- Neither of the two paths of its endpoints tells it. -/
theorem tokenEndpoints_missed :
    "V2Token" ∈ tokenProject.models.keys ∧ tokenProject.models.keys = ["V2Token"] ∧
      IsAsciiIdentifier "V2Token" ∧ Draft.endpointBase "V2Token" = "/api/v2-tokens" ∧
      modelOfRoute? tokenProject "/api/v2-tokens/" none = none ∧
      modelOfRoute? tokenProject "/api/v2-tokens/\x7bid\x7d/" none = none := by
  decide +kernel

end OpenApi

end RouteAtlas
