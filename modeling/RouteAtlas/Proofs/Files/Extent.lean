/-
Module: RouteAtlas.Proofs.Files.Extent
Layer: Proofs
Purpose: A disk is finite. A tree has finitely many locations, every path that is resolved leads to
  one of them, and so there are finitely many canonical paths and syntax trees of files.
Trusted boundary: none
Main exports: FileTree.locations_finite, Disk.steps_present, Disk.canonical_finite,
  Disk.parseFile_finite
-/
import Mathlib.Data.Set.Finite.Lattice
import RouteAtlas.Files.Source
import RouteAtlas.Proofs.Data.Bindings
import RouteAtlas.Proofs.Text.Pieces

namespace RouteAtlas

namespace FileTree

theorem at?_append (tree : FileTree) (here there : Location) :
    tree.at? (here ++ there) = (tree.at? here).bind fun node => node.at? there := by
  induction here generalizing tree with
  | nil => rfl
  | cons name rest ih =>
      simp only [List.cons_append, at?]
      cases KeyMap.find? name tree.entries with
      | none => rfl
      | some child => exact ih child

theorem at?_child {tree node child : FileTree} {here : Location} {name : String}
    (there : tree.at? here = some node) (found : KeyMap.find? name node.entries = some child) :
    tree.at? (here ++ [name]) = some child := by
  rw [at?_append, there, Option.bind_some, at?, found]
  rfl

/-- What a place is in is a place. -/
theorem at?_dropLast {tree : FileTree} {here : Location} (present : (tree.at? here).isSome) :
    (tree.at? here.dropLast).isSome := by
  rcases List.eq_nil_or_concat here with rfl | ⟨start, name, rfl⟩
  · exact present
  · rw [List.concat_eq_append, at?_append] at present
    rw [List.concat_eq_append, List.dropLast_concat]
    exact Option.isSome_of_isSome_bind present

/-- The places of a tree are finite in number. The recursion is on the tree: the places below an
entry of a directory are those of a smaller one. -/
theorem locations_finite : ∀ tree : FileTree, {location | (tree.at? location).isSome}.Finite
  | .file content => by
      refine (Set.finite_singleton []).subset fun location present => ?_
      cases location with
      | nil => rfl
      | cons name rest => simp [at?, entries, KeyMap.find?] at present
  | .link target => by
      refine (Set.finite_singleton []).subset fun location present => ?_
      cases location with
      | nil => rfl
      | cons name rest => simp [at?, entries, KeyMap.find?] at present
  | .directory entries => by
      have below : ∀ entry ∈ entries,
          ((entry.1 :: ·) '' {location | (entry.2.at? location).isSome}).Finite :=
        fun entry member => (locations_finite entry.2).image _
      refine ((Set.finite_singleton []).union
        ((List.finite_toSet entries).biUnion below)).subset fun location present => ?_
      cases location with
      | nil => exact .inl rfl
      | cons name rest =>
          have present : ((directory entries).at? (name :: rest)).isSome := present
          rw [at?] at present
          cases found : KeyMap.find? name (directory entries).entries with
          | none => simp [found] at present
          | some child =>
              rw [found] at present
              exact .inr (Set.mem_biUnion (KeyMap.mem_of_find? found) ⟨rest, present, rfl⟩)
termination_by tree => sizeOf tree
decreasing_by
  have := List.sizeOf_lt_of_mem member
  have : sizeOf entry = 1 + sizeOf entry.1 + sizeOf entry.2 := rfl
  simp only [directory.sizeOf_spec]
  omega

end FileTree

namespace Disk

variable {tree : FileTree}

/-- A path that is resolved leads to a place, provided that going on from a link does. No piece is
needed at a place; elsewhere the first piece is what fails. -/
theorem stepsWith_present {jump : Location → List String → Except DiskError Location}
    (jumpPresent : ∀ start pieces place, pieces ≠ [] → jump start pieces = .ok place →
      (tree.at? place).isSome)
    {here place : Location} {pieces : List String}
    (started : (tree.at? here).isSome ∨ pieces ≠ [])
    (leads : stepsWith tree {} jump here pieces = .ok place) : (tree.at? place).isSome := by
  induction pieces generalizing here with
  | nil =>
      obtain rfl : here = place := by simpa [stepsWith] using leads
      exact started.resolve_right (absurd rfl)
  | cons piece rest ih =>
      rw [stepsWith] at leads
      split at leads
      · rename_i entries there
        have present : (tree.at? here).isSome := by rw [there]; rfl
        by_cases idle : piece = "" ∨ piece = "."
        · rw [if_pos (by simpa using idle)] at leads
          exact ih (.inl present) leads
        rw [if_neg (by simpa using idle)] at leads
        by_cases up : piece = ".."
        · rw [if_pos up] at leads
          exact ih (.inl (FileTree.at?_dropLast present)) leads
        rw [if_neg up, if_neg (by simp)] at leads
        by_cases long : piece.utf8ByteSize > maxNameSize
        · rw [if_pos long] at leads
          cases leads
        rw [if_neg long] at leads
        split at leads
        · simp at leads
        · rename_i target found
          rw [if_pos (by simp)] at leads
          exact jumpPresent _ _ _ (by simp [Text.split_ne_nil]) leads
        · rename_i child _ found
          have below := FileTree.at?_child there found
          exact ih (.inl (by rw [below]; rfl)) leads
      · cases leads

/-- A path is taken up with a piece to take, whichever directory it is taken up in. -/
theorem entrance_ne_nil (disk : Disk) (here : Location) {pieces : List String}
    (started : pieces ≠ []) : (disk.entrance here pieces).2 ≠ [] := by
  rw [entrance]
  split
  · split
    · exact List.cons_ne_nil _ _
    · exact started
  · exact started

theorem steps_present {disk : Disk} (links : Nat) {here place : Location} {pieces : List String}
    (started : pieces ≠ []) (leads : disk.steps {} links here pieces = .ok place) :
    (disk.tree.at? place).isSome := by
  induction links generalizing here pieces place with
  | zero =>
      refine stepsWith_present (fun _ _ _ _ jumps => ?_) (.inr (disk.entrance_ne_nil here started)) leads
      cases jumps
  | succ links ih =>
      exact stepsWith_present (fun _ _ _ onward jumps => ih onward jumps)
        (.inr (disk.entrance_ne_nil here started)) leads

theorem locatePieces_present {disk : Disk} {absolute : Bool} {pieces : List String}
    {place : Location} (started : pieces ≠ [])
    (leads : disk.locatePieces {} absolute pieces = .ok place) : (disk.tree.at? place).isSome :=
  steps_present maxLinks started leads

/-- The canonical path of a file is that of a place. -/
theorem canonical_present {disk : Disk} {file canonical : DiskPath}
    (found : disk.canonical file = .ok canonical) :
    ∃ place, (disk.tree.at? place).isSome ∧ pathOf place = canonical := by
  rw [Disk.canonical] at found
  split at found
  · cases found
  · cases leads : disk.locatePieces {} file.isAbsolute (Text.split '/' file.text) with
    | error error => simp [leads, Except.map] at found
    | ok place =>
        rw [leads] at found
        exact ⟨place, locatePieces_present (Text.split_ne_nil _ _) leads, Except.ok.inj found⟩

theorem canonical_finite (disk : Disk) :
    {canonical | ∃ file, disk.canonical file = .ok canonical}.Finite := by
  refine ((FileTree.locations_finite disk.tree).image pathOf).subset ?_
  rintro canonical ⟨file, found⟩
  obtain ⟨place, present, rfl⟩ := canonical_present found
  exact ⟨place, present, rfl⟩

/-- The syntax tree of the file at a place. -/
def bodyAt? (disk : Disk) (place : Location) : Option Python.Module :=
  match disk.tree.at? place with
  | some (.file content) =>
      (String.fromUTF8? content).bind fun text => (Python.parse text).toOption
  | _ => none

/-- What a file is parsed to is what stands at a place. -/
theorem parseFile_present {disk : Disk} {file : DiskPath} {body : Python.Module}
    (parsed : disk.parseFile file = .ok body) :
    ∃ place, (disk.tree.at? place).isSome ∧ disk.bodyAt? place = some body := by
  rw [parseFile, readText, readBytes] at parsed
  cases leads : disk.locate file with
  | error error => simp [leads] at parsed
  | ok place =>
      simp only [leads] at parsed
      cases there : disk.tree.at? place with
      | none => simp [there] at parsed
      | some node =>
          cases node with
          | link target => simp [there] at parsed
          | directory entries => simp [there] at parsed
          | file content =>
              simp only [there] at parsed
              refine ⟨place, by rw [there]; rfl, ?_⟩
              simp only [bodyAt?, there]
              cases decoded : String.fromUTF8? content with
              | none => simp [decoded] at parsed
              | some text =>
                  simp only [decoded, parseText] at parsed
                  cases read : Python.parse text with
                  | error error => simp [read] at parsed
                  | ok other => simpa [decoded, read, Except.toOption] using parsed

theorem parseFile_finite (disk : Disk) :
    {body | ∃ file, disk.parseFile file = .ok body}.Finite := by
  refine (((FileTree.locations_finite disk.tree).image disk.bodyAt?).preimage
    (Option.some_injective _).injOn).subset ?_
  rintro body ⟨file, parsed⟩
  obtain ⟨place, present, there⟩ := parseFile_present parsed
  exact ⟨place, present, there⟩

end Disk

end RouteAtlas
