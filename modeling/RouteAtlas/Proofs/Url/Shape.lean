/-
Module: RouteAtlas.Proofs.Url.Shape
Layer: Proofs
Purpose: The shape of path templates. A template begins with one slash and has no two slashes in a row;
  its parameters are the names in braces that a reader finds in it from left to right, each once.
Trusted boundary: none
Main exports: SingleSlashes, collapseSlashes_eq_destutter, template_singleSlashes, Opens, Scans,
  Scans.deterministic, Scans.named, Scans.collapse, Scans.append_braceless, finds_scans,
  placeholders_eq, nodup_eraseDups, parametersOf_scans
-/
import Mathlib.Data.List.Chain
import Mathlib.Data.List.Destutter
import RouteAtlas.Url.Template

namespace RouteAtlas.Url

/-! ### Slashes -/

/-- A text begins with exactly one slash, and has no two slashes in a row anywhere. -/
def SingleSlashes (chars : List Char) : Prop :=
  (∃ rest, chars = '/' :: rest ∧ rest.head? ≠ some '/') ∧ ¬ ['/', '/'] <:+: chars

/-- Two characters are not both slashes. -/
def Apart (first second : Char) : Prop := ¬ (first = '/' ∧ second = '/')

instance : DecidableRel Apart := fun first second =>
  inferInstanceAs (Decidable ¬ (first = '/' ∧ second = '/'))

theorem head?_collapseSlashes (chars : List Char) :
    (collapseSlashes chars).head? = chars.head? := by
  induction chars with
  | nil => rfl
  | cons c rest ih =>
      rw [collapseSlashes]
      by_cases doubled : c = '/' ∧ rest.head? = some '/'
      · rw [if_pos (by simpa using doubled), ih, doubled.2, doubled.1]
        rfl
      · rw [if_neg (by simpa using doubled)]
        rfl

theorem collapseSlashes_apart (chars : List Char) : (collapseSlashes chars).IsChain Apart := by
  induction chars with
  | nil => exact .nil
  | cons c rest ih =>
      rw [collapseSlashes]
      by_cases doubled : c = '/' ∧ rest.head? = some '/'
      · rw [if_pos (by simpa using doubled)]
        exact ih
      · rw [if_neg (by simpa using doubled)]
        refine List.isChain_cons.2 ⟨fun next first both => ?_, ih⟩
        rw [head?_collapseSlashes] at first
        exact doubled ⟨both.1, both.2 ▸ first⟩

/-- One slash of every run is kept, and everything else. -/
theorem collapseSlashes_eq_destutter (chars : List Char) :
    collapseSlashes chars = chars.destutter Apart := by
  cases chars with
  | nil => rfl
  | cons first rest =>
      rw [List.destutter_cons']
      induction rest generalizing first with
      | nil => simp [collapseSlashes]
      | cons second rest ih =>
          rw [collapseSlashes, ih]
          by_cases doubled : first = '/' ∧ second = '/'
          · obtain ⟨rfl, rfl⟩ := doubled
            rw [if_pos (by simp), List.destutter'_cons_neg _ fun apart => apart ⟨rfl, rfl⟩]
          · rw [if_neg (by simpa using doubled), List.destutter'_cons_pos _ doubled]

/-- There are no slashes in a row where there are none. -/
theorem apart_of_slashless {chars : List Char} (slashless : ∀ c ∈ chars, c ≠ '/') :
    chars.IsChain Apart := by
  induction chars with
  | nil => exact .nil
  | cons c rest ih =>
      have later := ih fun d member => slashless d (List.mem_cons_of_mem c member)
      exact List.isChain_cons.2 ⟨fun _ _ both => slashless c List.mem_cons_self both.1, later⟩

/-- No slashes in a row stay apart when those at the start become one. -/
theorem singleSlashes_of_apart {chars : List Char} (apart : chars.IsChain Apart) :
    SingleSlashes ('/' :: chars.dropWhile (· = '/')) := by
  have first : (chars.dropWhile (· = '/')).head? ≠ some '/' := by
    intro slash
    have kept := List.head?_dropWhile_not (· = '/') chars
    rw [slash] at kept
    simp at kept
  refine ⟨⟨_, rfl, first⟩, fun doubled => ?_⟩
  have chain : ('/' :: chars.dropWhile (· = '/')).IsChain Apart := by
    refine List.isChain_cons.2 ⟨fun next there both => ?_, ?_⟩
    · exact first (both.2 ▸ there)
    · exact apart.suffix (List.dropWhile_suffix _)
  have pair := chain.infix doubled
  exact (List.isChain_cons.1 pair).1 '/' rfl ⟨rfl, rfl⟩

/-- Whatever a native path is, its template begins with exactly one slash and has no two in a row. -/
theorem template_singleSlashes (path : String) : SingleSlashes (template path).toList := by
  rw [template, String.toList_ofList, templateChars]
  exact singleSlashes_of_apart (collapseSlashes_apart _)

/-! ### Placeholders -/

/-- A placeholder at the beginning of a text, and what follows it: a name in braces, in which neither a
closing brace nor a slash stands. -/
def Opens (chars name rest : List Char) : Prop :=
  name ≠ [] ∧ (∀ c ∈ name, c ≠ '}' ∧ c ≠ '/') ∧ chars = '{' :: (name ++ '}' :: rest)

/-- The placeholders that are met when a text is read from left to right. What belongs to one is not
read again. -/
inductive Scans : List Char → List (List Char) → Prop where
  | done : Scans [] []
  | found {chars name rest : List Char} {names : List (List Char)}
      (opens : Opens chars name rest) (others : Scans rest names) : Scans chars (name :: names)
  | passed {c : Char} {rest : List Char} {names : List (List Char)}
      (plain : ¬ ∃ name after, Opens (c :: rest) name after) (others : Scans rest names) :
      Scans (c :: rest) names

/-- What stands before the first character that is not part of a name is all of the name. -/
theorem Opens.takeWhile_eq {rest name after : List Char}
    (opens : Opens ('{' :: rest) name after) :
    (rest.takeWhile fun c => c ≠ '}' && c ≠ '/') = name := by
  obtain ⟨_, inside, split⟩ := opens
  obtain rfl : rest = name ++ '}' :: after := List.tail_eq_of_cons_eq split
  rw [List.takeWhile_append_of_pos fun c member => by simpa using inside c member]
  simp

/-- At most one placeholder begins a text. -/
theorem Opens.deterministic {chars name rest other more : List Char}
    (first : Opens chars name rest) (second : Opens chars other more) :
    name = other ∧ rest = more := by
  cases chars with
  | nil => cases first.2.2
  | cons c tail =>
      obtain rfl : c = '{' := List.head_eq_of_cons_eq first.2.2
      obtain rfl : name = other := first.takeWhile_eq.symm.trans second.takeWhile_eq
      have same := List.tail_eq_of_cons_eq (first.2.2.symm.trans second.2.2)
      exact ⟨rfl, List.tail_eq_of_cons_eq (List.append_cancel_left same)⟩

/-- Reading a text has one outcome. -/
theorem Scans.deterministic {chars : List Char} {names others : List (List Char)}
    (first : Scans chars names) (second : Scans chars others) : names = others := by
  induction first generalizing others with
  | done =>
      cases second with
      | done => rfl
      | found opens _ => cases opens.2.2
  | found opens _ ih =>
      cases second with
      | done => cases opens.2.2
      | found again rest =>
          obtain ⟨rfl, rfl⟩ := opens.deterministic again
          exact congrArg _ (ih rest)
      | passed plain _ => exact absurd ⟨_, _, opens⟩ plain
  | passed plain _ ih =>
      cases second with
      | found opens _ => exact absurd ⟨_, _, opens⟩ plain
      | passed _ rest => exact ih rest

/-- A name that is met in a text stands in it in braces, and is one that a reader can tell. -/
theorem Scans.named {chars name : List Char} {names : List (List Char)} (scans : Scans chars names)
    (member : name ∈ names) :
    name ≠ [] ∧ '}' ∉ name ∧ '/' ∉ name ∧ placeholder name <:+: chars := by
  induction scans with
  | done => cases member
  | @found chars met rest names opens others ih =>
      obtain ⟨nonempty, inside, rfl⟩ := opens
      rcases List.mem_cons.1 member with rfl | member
      · refine ⟨nonempty, fun brace => (inside _ brace).1 rfl, fun slash => (inside _ slash).2 rfl,
          [], rest, ?_⟩
        simp [placeholder]
      · obtain ⟨named, braceless, slashless, stands⟩ := ih member
        have ending : rest <:+ '{' :: (met ++ '}' :: rest) :=
          ⟨'{' :: (met ++ ['}']), by simp⟩
        exact ⟨named, braceless, slashless, stands.trans ending.isInfix⟩
  | passed plain others ih =>
      obtain ⟨named, braceless, slashless, stands⟩ := ih member
      exact ⟨named, braceless, slashless, stands.trans (List.suffix_cons _ _).isInfix⟩

/-- A placeholder begins with a brace. -/
theorem Opens.head_eq {c : Char} {rest name after : List Char}
    (opens : Opens (c :: rest) name after) : c = '{' :=
  List.head_eq_of_cons_eq opens.2.2

/-- A text without slashes stays where runs of slashes become one. -/
theorem collapseSlashes_append {front rest : List Char} (plain : '/' ∉ front) :
    collapseSlashes (front ++ rest) = front ++ collapseSlashes rest := by
  induction front with
  | nil => rfl
  | cons c front ih =>
      have here : c ≠ '/' := fun same => plain (by simp [same])
      have later := ih fun member => plain (List.mem_cons_of_mem c member)
      rw [List.cons_append, collapseSlashes, later, if_neg (by simp [here]), List.cons_append]

/-- A text without slashes that is there afterwards was there before. -/
theorem exists_of_collapseSlashes_eq_append {chars front rest : List Char} (plain : '/' ∉ front)
    (collapsed : collapseSlashes chars = front ++ rest) :
    ∃ more, chars = front ++ more ∧ collapseSlashes more = rest := by
  induction front generalizing chars with
  | nil => exact ⟨chars, rfl, collapsed⟩
  | cons c front ih =>
      have here : c ≠ '/' := fun same => plain (by simp [same])
      cases chars with
      | nil => cases collapsed
      | cons first others =>
          have heads := head?_collapseSlashes (first :: others)
          rw [collapsed, List.cons_append, List.head?_cons, List.head?_cons] at heads
          obtain rfl := Option.some.inj heads
          rw [collapseSlashes, if_neg (by simp [here]), List.cons_append] at collapsed
          obtain ⟨more, rfl, same⟩ := ih (fun member => plain (List.mem_cons_of_mem c member))
            (List.tail_eq_of_cons_eq collapsed)
          exact ⟨more, rfl, same⟩

/-- What is met in a text is met in it too when runs of slashes have become one. -/
theorem Scans.collapse {chars : List Char} {names : List (List Char)} (scans : Scans chars names) :
    Scans (collapseSlashes chars) names := by
  induction scans with
  | done => exact .done
  | @found chars name rest names opens others ih =>
      obtain ⟨nonempty, inside, rfl⟩ := opens
      have plain : '/' ∉ '{' :: (name ++ ['}']) := by
        intro member
        simp only [List.mem_cons, List.mem_append, List.not_mem_nil, or_false] at member
        rcases member with brace | member | brace
        · exact absurd brace (by decide)
        · exact (inside _ member).2 rfl
        · exact absurd brace (by decide)
      have kept := @collapseSlashes_append _ rest plain
      simp only [List.cons_append, List.append_assoc, List.nil_append] at kept
      rw [kept]
      exact .found ⟨nonempty, inside, rfl⟩ ih
  | @passed c rest names plain others ih =>
      rw [collapseSlashes]
      by_cases doubled : c = '/' ∧ rest.head? = some '/'
      · rw [if_pos (by simpa using doubled)]
        exact ih
      · rw [if_neg (by simpa using doubled)]
        refine .passed ?_ ih
        rintro ⟨name, after, opens⟩
        obtain rfl := opens.head_eq
        obtain ⟨nonempty, inside, split⟩ := opens
        have noSlash : '/' ∉ name ++ ['}'] := by
          intro member
          rcases List.mem_append.1 member with member | member
          · exact (inside _ member).2 rfl
          · simp at member
        have collapsed : collapseSlashes rest = (name ++ ['}']) ++ after := by
          simpa using List.tail_eq_of_cons_eq split
        obtain ⟨more, rfl, _⟩ := exists_of_collapseSlashes_eq_append noSlash collapsed
        exact plain ⟨name, more, nonempty, inside, by simp⟩

/-- A text without opening braces is no part of what is met. -/
theorem Scans.append_braceless {front chars : List Char} {names : List (List Char)}
    (braceless : '{' ∉ front) (scans : Scans chars names) : Scans (front ++ chars) names := by
  induction front with
  | nil => exact scans
  | cons c front ih =>
      have later := ih fun member => braceless (List.mem_cons_of_mem c member)
      refine .passed ?_ later
      rintro ⟨name, after, opens⟩
      exact braceless (opens.head_eq ▸ List.mem_cons_self)

/-- A slash is no part of what is met. -/
theorem Scans.cons_slash {chars : List Char} {names : List (List Char)} (scans : Scans chars names) :
    Scans ('/' :: chars) names :=
  Scans.append_braceless (by decide : '{' ∉ ['/']) scans

/-- Slashes at the beginning are no part of what is met. -/
theorem Scans.dropSlashes {chars : List Char} {names : List (List Char)}
    (scans : Scans chars names) : Scans (chars.dropWhile (· = '/')) names := by
  induction scans with
  | done => exact .done
  | found opens others _ =>
      obtain ⟨nonempty, inside, rfl⟩ := opens
      exact .found ⟨nonempty, inside, rfl⟩ others
  | @passed c rest names plain others ih =>
      by_cases slash : c = '/'
      · rw [List.dropWhile_cons_of_pos (by simpa using slash)]
        exact ih
      · rw [List.dropWhile_cons_of_neg (by simpa using slash)]
        exact .passed plain others

/-- Where the rule for placeholders applies, there is one, and the rule takes all of it. -/
theorem placeholderRule_opens {chars name : List Char} {extra : Nat}
    (applies : placeholderRule chars = some (extra, name)) :
    Opens chars name (chars.drop (extra + 1)) := by
  cases chars with
  | nil => simp [placeholderRule] at applies
  | cons c rest =>
      by_cases brace : c = '{'
      · subst brace
        simp only [placeholderRule, Option.ite_none_right_eq_some, Option.some.injEq,
          Prod.mk.injEq, Bool.and_eq_true, Bool.not_eq_true', decide_eq_true_eq] at applies
        obtain ⟨⟨nonempty, closed⟩, rfl, named⟩ := applies
        rw [named] at nonempty closed ⊢
        have inside : ∀ c ∈ name, c ≠ '}' ∧ c ≠ '/' := by
          intro c member
          rw [← named] at member
          simpa using List.all_eq_true.1 List.all_takeWhile c member
        obtain ⟨after, split⟩ : name <+: rest := named ▸ List.takeWhile_prefix _
        subst split
        rw [List.drop_left] at closed
        obtain ⟨tail, rfl⟩ := List.head?_eq_some_iff.1 closed
        refine ⟨by simpa using nonempty, inside, ?_⟩
        simp
      · simp [placeholderRule, brace] at applies

/-- The rule applies to every placeholder. -/
theorem Opens.rule_applies {chars name rest : List Char} (opens : Opens chars name rest) :
    placeholderRule chars = some (name.length + 1, name) := by
  cases chars with
  | nil => cases opens.2.2
  | cons c tail =>
      obtain rfl : c = '{' := List.head_eq_of_cons_eq opens.2.2
      have named := opens.takeWhile_eq
      obtain ⟨nonempty, _, split⟩ := opens
      obtain rfl : tail = name ++ '}' :: rest := List.tail_eq_of_cons_eq split
      simp only [placeholderRule, named]
      simp [nonempty]

/-- The finds of the rule are the placeholders that are met. The induction is on the length of the text,
since a find takes several characters at once. -/
theorem finds_scans (chars : List Char) : Scans chars (Text.finds placeholderRule chars) := by
  induction size : chars.length using Nat.strong_induction_on generalizing chars with
  | _ bound ih =>
      cases chars with
      | nil => exact .done
      | cons c rest =>
          rw [Text.finds, Text.sift, Text.siftFrom]
          cases applies : placeholderRule (c :: rest) with
          | none =>
              have plain : ¬ ∃ name after, Opens (c :: rest) name after := by
                rintro ⟨name, after, opens⟩
                rw [opens.rule_applies] at applies
                cases applies
              exact .passed plain (ih rest.length (by rw [← size]; exact Nat.lt_succ_self _) rest rfl)
          | some find =>
              obtain ⟨extra, name⟩ := find
              have shorter : (rest.drop extra).length < bound := by
                rw [← size, List.length_drop, List.length_cons]
                omega
              have others := ih _ shorter (rest.drop extra) rfl
              rw [Text.finds, ← Text.siftFrom_eq_sift_drop] at others
              exact .found (placeholderRule_opens applies) others

/-! ### Parameters -/

/-- Keeping the first of each name, some names being there already, is erasing repetitions. -/
theorem foldl_keepFirst (names kept : List (List Char)) :
    names.foldl (fun kept name => if kept.contains name then kept else kept ++ [name]) kept =
      kept ++ (names.filter fun name => !kept.contains name).eraseDups := by
  induction names generalizing kept with
  | nil => simp
  | cons name rest ih =>
      rw [List.foldl_cons, ih]
      by_cases old : name ∈ kept
      · rw [if_pos (by simpa using old)]
        simp [old]
      · rw [if_neg (by simpa using old)]
        rw [List.filter_cons_of_pos (by simpa using old), List.eraseDups_cons, List.append_assoc,
          List.singleton_append, List.filter_filter]
        congr 3
        apply List.filter_congr
        intro other _
        by_cases same : other = name
        · simp [same]
        · simp [same]

/-- What is left where repetitions are erased is distinct. The induction is on the length, since more
than one item may be erased at once. -/
theorem nodup_eraseDups (names : List (List Char)) : names.eraseDups.Nodup := by
  induction size : names.length using Nat.strongRecOn generalizing names with
  | ind bound ih =>
      cases names with
      | nil => exact List.nodup_nil
      | cons name rest =>
          have shorter : (rest.filter fun other => !other == name).length < bound := by
            rw [← size, List.length_cons]
            exact Nat.lt_succ_of_le (List.length_filter_le _ _)
          rw [List.eraseDups_cons, List.nodup_cons]
          refine ⟨fun again => ?_, ih _ shorter _ rfl⟩
          have other := (List.mem_filter.1 (List.mem_eraseDups.1 again)).2
          simp at other

theorem placeholders_eq (chars : List Char) :
    placeholders chars = (Text.finds placeholderRule chars).eraseDups := by
  rw [placeholders, foldl_keepFirst]
  simp

/-- The parameters of a template are the names in braces that are met in it, each once, in order of
first occurrence. -/
theorem parametersOf_scans {template : String} {names : List (List Char)}
    (scans : Scans template.toList names) :
    parametersOf template = names.eraseDups.map String.ofList := by
  rw [parametersOf, placeholders_eq, (finds_scans template.toList).deterministic scans]

end RouteAtlas.Url
