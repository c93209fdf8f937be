/-
Module: RouteAtlas.Proofs.Files.Paths
Layer: Proofs
Purpose: Paths by their components. The parts of a text that is joined to a path are more components at
  its end, however the path is spelled, so the paths below a directory are in the order of the names that
  lead to them.
Trusted boundary: none
Main exports: Component.Before, DiskPath.Before, IsFileName, IsInner, partsOf, DiskPath.below,
  DiskPath.Descends, components_join, descends_below, components_below, below_injective, below_before
-/
import Mathlib.Data.List.Lex
import RouteAtlas.Files.DiskPath
import RouteAtlas.Files.Tree
import RouteAtlas.Proofs.Text.Pieces

namespace RouteAtlas

/-! ### Order -/

namespace Component

/-- What kind of component it is. -/
def rank : Component → Nat
  | .root => 0
  | .current => 1
  | .parent => 2
  | .name _ => 3

/-- The text of a name. -/
def text : Component → String
  | .name text => text
  | _ => ""

/-- The root comes first, then `.` and `..`, and then names in the order of their texts. -/
def Before (first second : Component) : Prop :=
  first.rank < second.rank ∨ first.rank = second.rank ∧ first.text < second.text

instance : Std.Asymm Before where
  asymm first second before after := by
    rcases before with lower | ⟨same, less⟩
    · rcases after with higher | ⟨level, _⟩
      · omega
      · omega
    · rcases after with higher | ⟨_, greater⟩
      · omega
      · exact String.lt_asymm less greater

theorem before_of_lt {name other : String} (less : name < other) :
    Before (.name name) (.name other) := .inr ⟨rfl, less⟩

end Component

/-- Paths are in the order of their components. -/
def DiskPath.Before (first second : DiskPath) : Prop :=
  List.Lex Component.Before first.components second.components

theorem DiskPath.Before.asymm {first second : DiskPath} (before : first.Before second) :
    ¬ second.Before first :=
  Std.Asymm.asymm (r := List.Lex Component.Before) _ _ before

/-! ### Names below a path -/

/-- The texts that can name an entry of a directory. -/
structure IsFileName (name : String) : Prop where
  nonempty : name ≠ ""
  notCurrent : name ≠ "."
  notParent : name ≠ ".."
  slashless : '/' ∉ name.toList

instance (name : String) : Decidable (IsFileName name) :=
  decidable_of_iff (name ≠ "" ∧ name ≠ "." ∧ name ≠ ".." ∧ '/' ∉ name.toList)
    ⟨fun ⟨nonempty, notCurrent, notParent, slashless⟩ =>
        ⟨nonempty, notCurrent, notParent, slashless⟩,
      fun ⟨nonempty, notCurrent, notParent, slashless⟩ =>
        ⟨nonempty, notCurrent, notParent, slashless⟩⟩

/-- The parts of a text between slashes. Where two slashes meet there is none. -/
def partsOf (piece : String) : List String := (Text.split '/' piece).filter (· ≠ "")

/-- The texts that lead down from the directory to which they are joined: they do not start at the root, and
no part of them is a dot or two. -/
structure IsInner (piece : String) : Prop where
  relative : (⟨piece⟩ : DiskPath).isAbsolute = false
  downward : ∀ part ∈ Text.split '/' piece, part ≠ "." ∧ part ≠ ".."

namespace IsFileName

variable {name : String}

theorem inner (isName : IsFileName name) : IsInner name where
  relative := by
    rw [DiskPath.isAbsolute]
    cases chars : name.toList with
    | nil => rfl
    | cons c rest =>
        have other : c ≠ '/' := fun same => isName.slashless (by simp [chars, same])
        simpa using other
  downward part listed := by
    rw [Text.split_slashless isName.slashless, List.mem_singleton] at listed
    exact listed ▸ ⟨isName.notCurrent, isName.notParent⟩

theorem partsOf_eq (isName : IsFileName name) : partsOf name = [name] := by
  rw [partsOf, Text.split_slashless isName.slashless]
  exact List.filter_eq_self.2 (by simpa using isName.nonempty)

end IsFileName

namespace IsInner

variable {piece : String}

theorem componentsOfPieces_eq (inner : IsInner piece) :
    DiskPath.componentsOfPieces (Text.split '/' piece) = (partsOf piece).map .name := by
  rw [DiskPath.componentsOfPieces, partsOf, ← List.filterMap_eq_map, List.filterMap_filter]
  refine List.filterMap_congr fun part listed => ?_
  obtain ⟨notCurrent, notParent⟩ := inner.downward part listed
  by_cases empty : part = ""
  · simp [empty]
  · simp [empty, notCurrent, notParent]

end IsInner

namespace DiskPath

/-- The path to a location below a directory. -/
def below (directory : DiskPath) (location : Location) : DiskPath := location.foldl join directory

section Join

variable {directory : DiskPath} {piece : String}

/-- Joining puts one slash before the text: the path's own last one, if it ends with a slash. -/
theorem toList_join (relative : (⟨piece⟩ : DiskPath).isAbsolute = false)
    (nonempty : directory.text ≠ "") :
    ∃ front idle, directory.text.toList = front ++ idle ∧ (idle = [] ∨ idle = ['/']) ∧
      (directory.join piece).text.toList = front ++ '/' :: piece.toList := by
  rcases List.eq_nil_or_concat directory.text.toList with empty | ⟨front, last, split⟩
  · exact absurd (String.toList_inj.1 (empty.trans String.toList_empty.symm)) nonempty
  · rw [List.concat_eq_append] at split
    have joined : directory.join piece =
        ⟨directory.text ++ (if last = '/' then "" else "/") ++ piece⟩ := by
      rw [join]
      simp only [relative, split, List.reverse_append, List.reverse_cons, List.reverse_nil,
        List.nil_append, List.cons_append, List.head?_cons]
      rfl
    rw [joined]
    by_cases slash : last = '/'
    · subst slash
      exact ⟨front, ['/'], split, .inr rfl, by simp [split]⟩
    · exact ⟨front ++ [last], [], by rw [split, List.append_nil], .inl rfl, by simp [split, slash]⟩

theorem isAbsolute_join (relative : (⟨piece⟩ : DiskPath).isAbsolute = false)
    (nonempty : directory.text ≠ "") : (directory.join piece).isAbsolute = directory.isAbsolute := by
  obtain ⟨front, idle, split, slash, joined⟩ := toList_join relative nonempty
  rw [isAbsolute, isAbsolute, split, joined]
  cases front with
  | cons c front => rfl
  | nil =>
      rcases slash with rfl | rfl
      · exact absurd (String.toList_inj.1 (split.trans String.toList_empty.symm)) nonempty
      · rfl

/-- The parts of a text that is joined to a path are more components of it. -/
theorem components_join (inner : IsInner piece) (nonempty : directory.text ≠ "") :
    (directory.join piece).components = directory.components ++ (partsOf piece).map .name := by
  obtain ⟨front, idle, split, slash, joined⟩ := toList_join inner.relative nonempty
  have own : Text.split '/' (directory.join piece).text =
      (Text.splitAt '/' front).map String.ofList ++ Text.split '/' piece := by
    rw [Text.split, joined, Text.splitAt_append_cons, List.map_append, ← Text.split]
  -- The path itself has the same pieces without the text. If it ends with a slash there is an empty piece
  -- behind them, which means nothing.
  have before : ∃ extra, Text.split '/' directory.text =
      (Text.splitAt '/' front).map String.ofList ++ extra ∧ componentsOfPieces extra = [] := by
    rcases slash with rfl | rfl
    · exact ⟨[], by rw [Text.split, split, List.append_nil, List.append_nil], rfl⟩
    · exact ⟨[""], by rw [Text.split, split, Text.splitAt_append_cons, List.map_append]; rfl, rfl⟩
  obtain ⟨extra, pieces, nothing⟩ := before
  have meant : ∀ first second, componentsOfPieces (first ++ second) =
      componentsOfPieces first ++ componentsOfPieces second := fun _ _ => List.filterMap_append
  have heads : ∀ others : List String,
      ((Text.splitAt '/' front).map String.ofList ++ others).head? =
        ((Text.splitAt '/' front).map String.ofList).head? := fun others => by
    obtain ⟨piece, rest, cut⟩ := List.exists_cons_of_ne_nil (Text.splitAt_ne_nil '/' front)
    rw [cut]
    rfl
  simp only [components, own, pieces, isAbsolute_join inner.relative nonempty, heads, meant,
    inner.componentsOfPieces_eq, nothing, List.append_nil, List.append_assoc]

theorem join_empty (piece : String) : (⟨""⟩ : DiskPath).join piece = ⟨piece⟩ := by
  rw [join]
  exact ite_self _

theorem components_of_inner (inner : IsInner piece) :
    (⟨piece⟩ : DiskPath).components = (partsOf piece).map .name := by
  have undotted : (Text.split '/' piece).head? ≠ some "." := fun dot =>
    (inner.downward "." (List.mem_of_head? dot)).1 rfl
  simp only [components, inner.relative, undotted, if_false, Bool.false_eq_true,
    inner.componentsOfPieces_eq, List.nil_append]

end Join

/-- A path goes on from a directory down some names. -/
structure Descends (directory path : DiskPath) (names : List String) : Prop where
  sameStart : path.isAbsolute = directory.isAbsolute
  components : path.components = directory.components ++ names.map .name

section Below

variable {directory path next : DiskPath} {piece : String} {pieces : List String} {location other : Location}

theorem Descends.refl (directory : DiskPath) : directory.Descends directory [] :=
  ⟨rfl, (List.append_nil _).symm⟩

theorem Descends.trans {names more : List String} (first : directory.Descends path names)
    (second : path.Descends next more) : directory.Descends next (names ++ more) where
  sameStart := second.sameStart.trans first.sameStart
  components := by rw [second.components, first.components, List.map_append, List.append_assoc]

theorem descends_join (inner : IsInner piece) :
    directory.Descends (directory.join piece) (partsOf piece) := by
  by_cases empty : directory.text = ""
  · obtain rfl : directory = ⟨""⟩ := congrArg DiskPath.mk empty
    rw [join_empty]
    exact ⟨inner.relative, components_of_inner inner⟩
  · exact ⟨isAbsolute_join inner.relative empty, components_join inner empty⟩

theorem below_concat (directory : DiskPath) (pieces : List String) (piece : String) :
    directory.below (pieces ++ [piece]) = (directory.below pieces).join piece := by
  rw [below, below, List.foldl_append, List.foldl_cons, List.foldl_nil]

/-- A path that is put together of texts which lead down goes on from where it starts. -/
theorem descends_below (inner : ∀ piece ∈ pieces, IsInner piece) :
    directory.Descends (directory.below pieces) (pieces.flatMap partsOf) := by
  induction pieces generalizing directory with
  | nil => exact .refl directory
  | cons piece rest ih =>
      have first := inner piece List.mem_cons_self
      exact (descends_join first).trans (ih fun other there => inner other (List.mem_cons_of_mem _ there))

/-- The path to a location has the components of the directory, and then the names of the location. -/
theorem components_below (names : ∀ name ∈ location, IsFileName name) :
    (directory.below location).components = directory.components ++ location.map .name := by
  have parts : location.flatMap partsOf = location.flatMap fun name => [name] :=
    List.flatMap_congr fun name there => (names name there).partsOf_eq
  have descends : directory.Descends (directory.below location) (location.flatMap partsOf) :=
    descends_below fun name there => (names name there).inner
  rw [descends.components, parts, List.flatMap_singleton']

/-- Different locations have different paths. -/
theorem below_injective (names : ∀ name ∈ location, IsFileName name)
    (alsoNames : ∀ name ∈ other, IsFileName name)
    (same : directory.below location = directory.below other) : location = other := by
  have components := congrArg DiskPath.components same
  rw [components_below names, components_below alsoNames] at components
  have injective : Function.Injective Component.name := fun _ _ => Component.name.inj
  exact injective.list_map (List.append_cancel_left components)

/-- Paths below a directory are in the order of their locations. -/
theorem below_before (names : ∀ name ∈ location, IsFileName name)
    (alsoNames : ∀ name ∈ other, IsFileName name)
    (before : location < other) : (directory.below location).Before (directory.below other) := by
  rw [DiskPath.Before, components_below names, components_below alsoNames]
  refine List.Lex.append_left _ ?_ _
  have ordered : List.Lex (· < ·) location other := before
  clear names alsoNames before
  induction ordered with
  | nil => exact .nil
  | rel less => exact .rel (Component.before_of_lt less)
  | cons _ ih => exact .cons ih

end Below

end DiskPath

end RouteAtlas
