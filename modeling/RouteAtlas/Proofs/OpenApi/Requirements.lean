/-
Module: RouteAtlas.Proofs.OpenApi.Requirements
Layer: Proofs
Purpose: Which properties of the schema of a model are required. The fields of a class are declared one
  after the other, and a name can be declared again. The property of a name is that of its last
  declaration, but every declaration that asks for a value makes the name required. So the two agree
  exactly if no declaration that asks for a value is superseded.
Trusted boundary: none
Main exports: Model.fieldAt?, Model.Declares, Model.Decides, Model.fields_ofClass?,
  find?_properties, SupersededOptional, supersededOptional_of_agree, SupersededOptional.agree,
  requirements_agree_iff
-/
import Mathlib.Data.List.Basic
import RouteAtlas.OpenApi.ModelSchema
import RouteAtlas.Proofs.Data.Bindings

namespace RouteAtlas

namespace Django

open Python (Call ClassDecl Stmt)

/-- A value for a field of this declaration may be left out: it can be null or blank, or it is the key
itself. -/
def MayBeOmitted (name : String) (call : Call) : Prop :=
  call.keyword? "null" = some (.constant (.bool true)) ∨
    call.keyword? "blank" = some (.constant (.bool true)) ∨ name = "id"

/-- A keyword argument counts as true if `True` is written there. -/
theorem keyword_bool_iff (call : Call) (name : String) :
    ((call.keyword? name).bind Python.Expr.bool?).getD false = true ↔
      call.keyword? name = some (.constant (.bool true)) := by
  cases given : call.keyword? name with
  | none => simp
  | some value =>
      cases value with
      | constant literal => cases literal <;> simp [Python.Expr.bool?]
      | _ => simp [Python.Expr.bool?]

/-- What is read off a call: the field has the given name, and it is required as the call says. -/
theorem ofCall?_spec {modelName name : String} {literals : Literals} {call : Call} {field : Field}
    (reads : Field.ofCall? modelName literals name call = some field) :
    field.name = name ∧ (field.isRequired = true ↔ ¬ MayBeOmitted name call) := by
  obtain ⟨kind, _, given⟩ := Option.bind_eq_some_iff.1 reads
  obtain ⟨_, built⟩ := Option.ite_none_right_eq_some.1 given
  obtain rfl := Option.some.inj built
  refine ⟨rfl, ?_⟩
  rw [MayBeOmitted, ← keyword_bool_iff, ← keyword_bool_iff, Field.isRequired]
  simp [and_assoc]

namespace Model

/-! ### Declarations of a class body -/

/-- The field that a statement declares, some literals having been named before it. -/
def declaredBy? (modelName : String) (literals : Literals) : Stmt → Option Field
  | .assign targets value =>
      (targets.head?.bind Python.Expr.nameId?).bind fun name =>
        value.asCall?.bind (Field.ofCall? modelName literals name)
  | _ => none

/-- The literals that a class body names before an index. -/
def literalsBefore (decl : ClassDecl) (index : Nat) : Literals :=
  ((decl.body.take index).foldl (read decl.name) {}).literals

/-- The field that the statement at an index of a class body declares. -/
def fieldAt? (decl : ClassDecl) (index : Nat) : Option Field :=
  decl.body[index]?.bind (declaredBy? decl.name (literalsBefore decl index))

/-- The statement at an index of a class body assigns a call to the name of a field, and declares the
field by that. -/
structure Declares (decl : ClassDecl) (index : Nat) (call : Call) (field : Field) : Prop where
  assigned : ∃ others, decl.body[index]? =
    some (.assign (.name field.name :: others) (.call call.func call.args call.keywords))
  reads : Field.ofCall? decl.name (literalsBefore decl index) field.name call = some field

/-- A declaration that counts: no later one is of the same name. -/
structure Decides (decl : ClassDecl) (index : Nat) (call : Call) (field : Field) : Prop where
  declares : Declares decl index call field
  last : ∀ later other another, index < later → Declares decl later other another →
    another.name ≠ field.name

section Declarations

variable {decl : ClassDecl} {index : Nat} {call : Call} {field : Field} {model : Model}

/-- A statement declares a field if it assigns a call to its name. -/
theorem declaredBy?_eq_some_iff {modelName : String} {literals : Literals} {stmt : Stmt} :
    declaredBy? modelName literals stmt = some field ↔
      ∃ (others : List Python.Expr) (call : Call),
        stmt = .assign (.name field.name :: others) (.call call.func call.args call.keywords) ∧
          Field.ofCall? modelName literals field.name call = some field := by
  constructor
  · intro declares
    cases stmt with
    | assign targets value =>
        obtain ⟨name, first, reads⟩ := Option.bind_eq_some_iff.1 declares
        obtain ⟨call, isCall, reads⟩ := Option.bind_eq_some_iff.1 reads
        obtain ⟨target, head, isName⟩ := Option.bind_eq_some_iff.1 first
        obtain ⟨others, rfl⟩ := List.head?_eq_some_iff.1 head
        obtain rfl : target = .name name := by
          cases target with
          | name id => rw [Option.some.inj isName]
          | _ => cases isName
        obtain rfl : value = .call call.func call.args call.keywords := by
          cases value with
          | call func args keywords =>
              obtain rfl := Option.some.inj isCall
              rfl
          | _ => cases isCall
        obtain rfl : field.name = name := (ofCall?_spec reads).1
        exact ⟨others, call, rfl, reads⟩
    | _ => cases declares
  · rintro ⟨others, call, rfl, reads⟩
    exact reads

theorem fieldAt?_eq_some_iff :
    fieldAt? decl index = some field ↔ ∃ call, Declares decl index call field := by
  rw [fieldAt?, Option.bind_eq_some_iff]
  constructor
  · rintro ⟨stmt, here, declares⟩
    obtain ⟨others, call, rfl, reads⟩ := declaredBy?_eq_some_iff.1 declares
    exact ⟨call, ⟨others, here⟩, reads⟩
  · rintro ⟨call, ⟨others, here⟩, reads⟩
    exact ⟨_, here, declaredBy?_eq_some_iff.2 ⟨others, call, rfl, reads⟩⟩

theorem Declares.fieldAt? (declares : Declares decl index call field) :
    fieldAt? decl index = some field := fieldAt?_eq_some_iff.2 ⟨call, declares⟩

theorem Declares.lt_length (declares : Declares decl index call field) :
    index < decl.body.length := by
  obtain ⟨others, here⟩ := declares.assigned
  exact (List.getElem?_eq_some_iff.1 here).1

theorem Declares.isRequired_iff (declares : Declares decl index call field) :
    field.isRequired = true ↔ ¬ MayBeOmitted field.name call := (ofCall?_spec declares.reads).2

/-- A declaration that does not count is followed by another one of its name. -/
theorem Declares.exists_later (declares : Declares decl index call field)
    (superseded : ¬ Decides decl index call field) :
    ∃ later other another, index < later ∧ Declares decl later other another ∧
      another.name = field.name := by
  by_contra none
  refine superseded ⟨declares, fun later other another after redeclares same => none ?_⟩
  exact ⟨later, other, another, after, redeclares, same⟩

/-- Of the declarations of a name that do not come before an index, one counts. The induction is on the
number of statements from the index on. -/
theorem Declares.exists_decides (declares : Declares decl index call field) :
    ∃ later other another, index ≤ later ∧ Decides decl later other another ∧
      another.name = field.name := by
  induction remaining : decl.body.length - index using Nat.strongRecOn generalizing index call field with
  | ind bound ih =>
      by_cases decides : Decides decl index call field
      · exact ⟨index, call, field, Nat.le_refl index, decides, rfl⟩
      · obtain ⟨next, other, another, after, redeclares, same⟩ := declares.exists_later decides
        have fewer : decl.body.length - next < bound := by
          have within := redeclares.lt_length
          omega
        obtain ⟨later, final, decider, beyond, decides, named⟩ := ih _ fewer redeclares rfl
        exact ⟨later, final, decider, by omega, decides, named.trans same⟩

/-- One declaration of a name counts. -/
theorem Decides.unique (decides : Decides decl index call field) {other : Nat} {another : Call}
    {twin : Field} (also : Decides decl other another twin) (same : twin.name = field.name) :
    twin = field := by
  rcases Nat.lt_trichotomy index other with before | rfl | after
  · exact absurd same (decides.last other another twin before also.declares)
  · exact Option.some.inj (also.declares.fieldAt?.symm.trans decides.declares.fieldAt?)
  · exact absurd same.symm (also.last index call field after decides.declares)

/-- A statement adds the field that it declares to those before it. -/
theorem read_fields (modelName : String) (reading : Reading) (stmt : Stmt) :
    (read modelName reading stmt).fields =
      reading.fields ++ (declaredBy? modelName reading.literals stmt).toList := by
  cases stmt with
  | assign targets value =>
      rw [read, declaredBy?]
      cases targets.head?.bind Python.Expr.nameId? with
      | none => simp
      | some name =>
          cases value.asCall? with
          | none => simp
          | some call => simp
  | _ => simp [read, declaredBy?]

/-- The fields that have been read at an index are those declared before it, in order. The induction is
on the index, because what a statement declares depends on all that stands before it. -/
theorem fields_take (decl : ClassDecl) {index : Nat} (within : index ≤ decl.body.length) :
    ((decl.body.take index).foldl (read decl.name) {}).fields =
      (List.range index).filterMap (fieldAt? decl) := by
  induction index with
  | zero => rfl
  | succ index ih =>
      have stmt : decl.body[index]? = some decl.body[index] := List.getElem?_eq_getElem within
      have here : fieldAt? decl index =
          declaredBy? decl.name (literalsBefore decl index) decl.body[index] := by
        rw [Model.fieldAt?, stmt, Option.bind_some]
      have before := ih (Nat.le_of_succ_le within)
      rw [List.take_add_one, stmt, List.foldl_append, List.range_succ, List.filterMap_append, ← before]
      change (read decl.name _ _).fields = _
      rw [read_fields, ← literalsBefore, ← here]
      cases declared : fieldAt? decl index with
      | none => simp [declared]
      | some field => simp [declared]

/-- The fields of a model are those that the statements of its class declare, in order. -/
theorem fields_ofClass? (defines : ofClass? decl = some model) :
    model.fields = (List.range decl.body.length).filterMap (fieldAt? decl) := by
  obtain ⟨_, built⟩ := Option.ite_none_right_eq_some.1 defines
  obtain rfl := Option.some.inj built
  rw [← fields_take decl (Nat.le_refl _), List.take_length]

theorem mem_fields_iff (defines : ofClass? decl = some model) :
    field ∈ model.fields ↔ ∃ index call, Declares decl index call field := by
  rw [fields_ofClass? defines, List.mem_filterMap]
  constructor
  · rintro ⟨index, _, declared⟩
    exact ⟨index, fieldAt?_eq_some_iff.1 declared⟩
  · rintro ⟨index, call, declares⟩
    exact ⟨index, List.mem_range.2 declares.lt_length, declares.fieldAt?⟩

end Declarations

end Model

end Django

namespace OpenApi

open Django.Model (Declares Decides)
open Project (Inventory)

/-! ### Properties and required names -/

/-- The last of the results for the numbers below a bound. -/
theorem getLast?_filterMap_range {α : Type} (f : Nat → Option α) (bound : Nat) (a : α) :
    ((List.range bound).filterMap f).getLast? = some a ↔
      ∃ index < bound, f index = some a ∧ ∀ later < bound, index < later → f later = none := by
  induction bound with
  | zero => simp
  | succ bound ih =>
      rw [List.range_succ, List.filterMap_append]
      cases last : f bound with
      | none =>
          simp only [List.filterMap_cons, last, List.filterMap_nil, List.append_nil, ih]
          constructor
          · rintro ⟨index, below, found, silent⟩
            refine ⟨index, by omega, found, fun later bounded after => ?_⟩
            rcases Nat.lt_succ_iff_lt_or_eq.1 bounded with lower | rfl
            · exact silent later lower after
            · exact last
          · rintro ⟨index, below, found, silent⟩
            have other : index ≠ bound := by
              rintro rfl
              rw [last] at found
              cases found
            exact ⟨index, by omega, found, fun later lower => silent later (by omega)⟩
      | some value =>
          simp only [List.filterMap_cons, last, List.filterMap_nil, List.getLast?_concat]
          constructor
          · intro same
            exact ⟨bound, by omega, last.trans same, fun later below after => by omega⟩
          · rintro ⟨index, below, found, silent⟩
            rcases Nat.lt_succ_iff_lt_or_eq.1 below with lower | rfl
            · have absent := silent bound (by omega) lower
              rw [last] at absent
              cases absent
            · exact last.symm.trans found

section Schema

variable {decl : Python.ClassDecl} {model : Django.Model}

/-- The names that the schema of a model requires. -/
def requiredNames (model : Django.Model) : List String :=
  (model.fields.filter Django.Field.isRequired).map Django.Field.name

/-- They are listed unless there are none. -/
theorem modelSchema_required (inventory : Inventory) (model : Django.Model) :
    (modelSchema inventory model).required.getD [] = requiredNames model := by
  change (if (requiredNames model).isEmpty then none else some (requiredNames model)).getD [] = _
  cases requiredNames model with
  | nil => rfl
  | cons name rest => rfl

theorem mem_requiredNames_iff (defines : Django.Model.ofClass? decl = some model) {name : String} :
    name ∈ requiredNames model ↔
      ∃ index call field, Declares decl index call field ∧ field.isRequired = true ∧
        field.name = name := by
  simp only [requiredNames, List.mem_map, List.mem_filter, Django.Model.mem_fields_iff defines]
  constructor
  · rintro ⟨field, ⟨⟨index, call, declares⟩, required⟩, named⟩
    exact ⟨index, call, field, declares, required, named⟩
  · rintro ⟨index, call, field, declares, required, named⟩
    exact ⟨field, ⟨⟨index, call, declares⟩, required⟩, named⟩

/-- A name is required twice if two declarations of it ask for a value. -/
theorem nodup_requiredNames_iff (defines : Django.Model.ofClass? decl = some model) :
    (requiredNames model).Nodup ↔
      ∀ index call field later other another, Declares decl index call field →
        Declares decl later other another → index < later → field.isRequired = true →
          another.isRequired = true → field.name ≠ another.name := by
  rw [requiredNames, Django.Model.fields_ofClass? defines, List.Nodup, List.pairwise_map,
    List.pairwise_filter, List.pairwise_filterMap, List.pairwise_iff_getElem]
  simp only [List.getElem_range, List.length_range, Django.Model.fieldAt?_eq_some_iff]
  constructor
  · intro apart index call field later other another declares redeclares before required
    exact apart index later declares.lt_length redeclares.lt_length before field ⟨call, declares⟩ another
      ⟨other, redeclares⟩ required
  · rintro apart index later _ _ before field ⟨call, declares⟩ another ⟨other, redeclares⟩ required
    exact apart index call field later other another declares redeclares before required

/-- The property of a name is the schema of the field that is declared last under it. -/
theorem find?_properties (inventory : Inventory) (defines : Django.Model.ofClass? decl = some model)
    {index : Nat} {call : Python.Call} {field : Django.Field} (decides : Decides decl index call field) :
    KeyMap.find? field.name ((modelSchema inventory model).properties.getD []) =
      some (fieldSchema inventory field) := by
  have last : (model.fields.filter fun other => other.name = field.name).getLast? = some field := by
    rw [Django.Model.fields_ofClass? defines, List.filter_filterMap, getLast?_filterMap_range]
    refine ⟨index, decides.declares.lt_length, ?_, fun later _ after => ?_⟩
    · rw [decides.declares.fieldAt?]
      simp
    · rw [Option.filter_eq_none_iff]
      intro another declared
      obtain ⟨other, redeclares⟩ := Django.Model.fieldAt?_eq_some_iff.1 declared
      simpa using decides.last later other another after redeclares
  change KeyMap.find? field.name (.ofList (model.fields.map _)) = _
  rw [KeyMap.find?_ofList, List.filter_map, List.getLast?_map]
  simp only [Function.comp_def]
  rw [last]
  rfl

theorem contains_properties_iff (inventory : Inventory)
    (defines : Django.Model.ofClass? decl = some model) (name : String) :
    KeyMap.contains name ((modelSchema inventory model).properties.getD []) = true ↔
      ∃ index call field, Declares decl index call field ∧ field.name = name := by
  change KeyMap.contains name (.ofList (model.fields.map _)) = true ↔ _
  rw [KeyMap.contains_ofList]
  simp only [List.mem_map, Django.Model.mem_fields_iff defines, Prod.mk.injEq]
  constructor
  · rintro ⟨_, field, ⟨index, call, declares⟩, named, _⟩
    exact ⟨index, call, field, declares, named⟩
  · rintro ⟨index, call, field, declares, named⟩
    exact ⟨_, field, ⟨index, call, declares⟩, named, rfl⟩

/-- Every declaration that does not count lets its value be omitted. -/
def SupersededOptional (decl : Python.ClassDecl) : Prop :=
  ∀ index call field, Declares decl index call field → ¬ Decides decl index call field →
    Django.MayBeOmitted field.name call

/-- So it is if names are required once each, and as their last declarations say. -/
theorem supersededOptional_of_agree (defines : Django.Model.ofClass? decl = some model)
    (nodup : (requiredNames model).Nodup)
    (agree : ∀ index call field, Decides decl index call field →
      (field.name ∈ requiredNames model ↔ ¬ Django.MayBeOmitted field.name call)) :
    SupersededOptional decl := by
  intro index call field declares superseded
  by_contra asks
  have needed := declares.isRequired_iff.2 asks
  obtain ⟨next, _, _, after, redeclares, renamed⟩ := declares.exists_later superseded
  obtain ⟨later, other, another, beyond, decides, named⟩ := redeclares.exists_decides
  have same : another.name = field.name := named.trans renamed
  -- The name is required because of the declaration that does not count, so by agreement the one that
  -- counts asks for a value too, and the name is listed for both.
  have listed : another.name ∈ requiredNames model :=
    (mem_requiredNames_iff defines).2 ⟨index, call, field, declares, needed, same.symm⟩
  have alsoNeeded := decides.declares.isRequired_iff.2 ((agree later other another decides).1 listed)
  exact (nodup_requiredNames_iff defines).1 nodup index call field later other another declares
    decides.declares (Nat.lt_of_lt_of_le after beyond) needed alsoNeeded same.symm

/-- In such a class the declarations that ask for a value count. -/
theorem SupersededOptional.decides (optional : SupersededOptional decl) {index : Nat}
    {call : Python.Call} {field : Django.Field} (declares : Declares decl index call field)
    (needed : field.isRequired = true) : Decides decl index call field := by
  by_contra superseded
  exact declares.isRequired_iff.1 needed (optional index call field declares superseded)

theorem SupersededOptional.nodup (optional : SupersededOptional decl)
    (defines : Django.Model.ofClass? decl = some model) : (requiredNames model).Nodup := by
  rw [nodup_requiredNames_iff defines]
  intro index call field later other another declares redeclares before needed _ same
  exact (optional.decides declares needed).last later other another before redeclares same.symm

/-- A name is required as its last declaration says. -/
theorem SupersededOptional.agree (optional : SupersededOptional decl)
    (defines : Django.Model.ofClass? decl = some model) {index : Nat} {call : Python.Call}
    {field : Django.Field} (decides : Decides decl index call field) :
    field.name ∈ requiredNames model ↔ ¬ Django.MayBeOmitted field.name call := by
  rw [← decides.declares.isRequired_iff, mem_requiredNames_iff defines]
  constructor
  · rintro ⟨other, another, twin, declares, needed, same⟩
    obtain rfl := decides.unique (optional.decides declares needed) same
    exact needed
  · exact fun needed => ⟨index, call, field, decides.declares, needed, rfl⟩

/-- What is required of the properties of a model. Whatever its class declares, and however often, there is
a property for each name that is declared, made of the field that is declared last under the name, and
every name that is required has a property. But names are required once each, and exactly those of which
the last declaration asks for a value, if and only if no declaration that asks for a value is followed by
another one of its name. -/
theorem requirements_agree_iff (inventory : Inventory)
    (defines : Django.Model.ofClass? decl = some model) :
    let properties := (modelSchema inventory model).properties.getD []
    let required := (modelSchema inventory model).required.getD []
    (∀ name, KeyMap.contains name properties = true ↔
      ∃ index call field, Decides decl index call field ∧ field.name = name) ∧
    (∀ index call field, Decides decl index call field →
      KeyMap.find? field.name properties = some (fieldSchema inventory field)) ∧
    (∀ name ∈ required, KeyMap.contains name properties = true) ∧
    ((required.Nodup ∧ ∀ index call field, Decides decl index call field →
        (field.name ∈ required ↔ ¬ Django.MayBeOmitted field.name call)) ↔
      ∀ index call field, Declares decl index call field → ¬ Decides decl index call field →
        Django.MayBeOmitted field.name call) := by
  intro properties required
  have names : required = requiredNames model := modelSchema_required inventory model
  refine ⟨fun name => ?_, fun index call field => find?_properties inventory defines, ?_, ?_⟩
  · rw [contains_properties_iff inventory defines]
    constructor
    · rintro ⟨index, call, field, declares, rfl⟩
      obtain ⟨later, other, another, _, decides, same⟩ := declares.exists_decides
      exact ⟨later, other, another, decides, same⟩
    · rintro ⟨index, call, field, decides, named⟩
      exact ⟨index, call, field, decides.declares, named⟩
  · intro name listed
    rw [names, mem_requiredNames_iff defines] at listed
    obtain ⟨index, call, field, declares, _, named⟩ := listed
    exact (contains_properties_iff inventory defines name).2 ⟨index, call, field, declares, named⟩
  · rw [names]
    constructor
    · rintro ⟨nodup, agree⟩
      exact supersededOptional_of_agree defines nodup agree
    · intro optional
      have lenient : SupersededOptional decl := optional
      exact ⟨lenient.nodup defines, fun index call field decides => lenient.agree defines decides⟩

/-- A call of a field class. -/
def fieldCall (kind : String) (keywords : List (Option String × Python.Expr)) : Python.Call :=
  ⟨.attribute (.name "models") kind, [], keywords⟩

/-- A class that declares some fields. -/
def classOfFields (name : String) (fields : List (String × Python.Call)) : Python.ClassDecl where
  name := name
  bases := [.attribute (.name "models") "Model"]
  body := fields.map fun field =>
    .assign [.name field.1] (.call field.2.func field.2.args field.2.keywords)

/-- A note whose text may be blank, until it is declared again. -/
def noteClass : Python.ClassDecl :=
  classOfFields "Note" [
    ("text", fieldCall "TextField" [(some "blank", .constant (.bool true))]),
    ("text", fieldCall "TextField" [])]

/-- Its text is required once. -/
theorem noteClass_agrees :
    ∃ model, Django.Model.ofClass? noteClass = some model ∧
      ((modelSchema {} model).required.getD []).Nodup ∧
      ∀ index call field, Decides noteClass index call field →
        (field.name ∈ (modelSchema {} model).required.getD [] ↔
          ¬ Django.MayBeOmitted field.name call) := by
  refine ⟨_, rfl, (requirements_agree_iff {} rfl).2.2.2.2 ?_⟩
  intro index call field declares superseded
  obtain ⟨later, _, _, after, redeclares, _⟩ := declares.exists_later superseded
  have last : later < 2 := redeclares.lt_length
  obtain rfl : index = 0 := by omega
  obtain ⟨others, here⟩ := declares.assigned
  obtain ⟨_, _, _, given⟩ :
      _ ∧ _ ∧ _ ∧ [(some "blank", .constant (.bool true))] = call.keywords := by
    simpa [noteClass, classOfFields, fieldCall] using here
  exact .inr (.inl (by rw [Python.Call.keyword?, ← given]; rfl))

/-- A task whose title is declared twice, and whose date may be missing only in the second
declaration. -/
def taskClass : Python.ClassDecl :=
  classOfFields "Task" [
    ("title", fieldCall "CharField" []),
    ("due", fieldCall "DateField" []),
    ("title", fieldCall "TextField" []),
    ("due", fieldCall "DateField" [(some "null", .constant (.bool true))])]

/-- Its title is required twice, and its date is required although it may be missing. -/
theorem taskClass_disagrees :
    ∃ model, Django.Model.ofClass? taskClass = some model ∧
      ¬ ((modelSchema {} model).required.getD []).Nodup ∧
      ∃ index call field, Decides taskClass index call field ∧
        Django.MayBeOmitted field.name call ∧
        field.name ∈ (modelSchema {} model).required.getD [] := by
  let call := fieldCall "DateField" [(some "null", .constant (.bool true))]
  let due : Django.Field := { name := "due", kind := "DateField", nullable := true }
  have declares : Declares taskClass 3 call due := ⟨⟨[], rfl⟩, by decide⟩
  refine ⟨_, rfl, by decide, 3, call, due, ⟨declares, ?_⟩, .inl rfl, by decide⟩
  intro later other another after redeclares
  have last : later < 4 := redeclares.lt_length
  omega

end Schema

end OpenApi

end RouteAtlas
