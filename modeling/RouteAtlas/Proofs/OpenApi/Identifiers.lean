/-
Module: RouteAtlas.Proofs.OpenApi.Identifiers
Layer: Proofs
Purpose: Which identifier an operation gets. It is the own one of its route if that is free, else the
  one that is made for it if that is free, else that one with the least number from two on that
  makes it free. There always is such a number, since only so many identifiers are taken.
Trusted boundary: none
Main exports: numbered_injective, freeNumber_spec, Chosen, Chosen.fresh, uniqueId_chosen
-/
import Mathlib.Data.List.Basic
import RouteAtlas.OpenApi.Draft

namespace RouteAtlas.OpenApi.Draft

/-- Different numbers make different identifiers. -/
theorem numbered_injective (base : String) {first second : Nat}
    (same : numbered base first = numbered base second) : first = second := by
  have digits : toString first = toString second := (String.append_right_inj _).1 same
  have values := congrArg (fun text => Nat.ofDigitChars 10 text.toList 0) digits
  simpa [Nat.toString_eq_ofList_toDigits] using values

/-- All numbers that are passed over are taken, and the search stops at a free one unless it runs out
of tries. -/
theorem freeNumber_search (taken : List String) (base : String) (tries start : Nat) :
    start ≤ freeNumber taken base tries start ∧
      (∀ n, start ≤ n → n < freeNumber taken base tries start → numbered base n ∈ taken) ∧
      (numbered base (freeNumber taken base tries start) ∈ taken →
        freeNumber taken base tries start = start + tries) := by
  induction tries generalizing start with
  | zero =>
      rw [freeNumber]
      refine ⟨Nat.le_refl _, ?_, fun _ => rfl⟩
      intro n above below
      exact absurd below (Nat.not_lt.2 above)
  | succ tries ih =>
      rw [freeNumber]
      by_cases here : numbered base start ∈ taken
      · rw [if_pos (by simpa using here)]
        obtain ⟨above, passed, stops⟩ := ih (start + 1)
        refine ⟨Nat.le_of_succ_le above, ?_, ?_⟩
        · intro n from_start below
          rcases Nat.eq_or_lt_of_le from_start with rfl | later
          · exact here
          · exact passed n later below
        · intro full
          rw [stops full, Nat.add_assoc, Nat.add_comm 1]
      · rw [if_neg (by simpa using here)]
        refine ⟨Nat.le_refl _, ?_, fun full => absurd full here⟩
        intro n above below
        exact absurd below (Nat.not_lt.2 above)

/-- The number that is found is the least free one. If it were not free, then one identifier more than
there are taken ones would be taken. -/
theorem freeNumber_spec (taken : List String) (base : String) (start : Nat) :
    start ≤ freeNumber taken base taken.length start ∧
      numbered base (freeNumber taken base taken.length start) ∉ taken ∧
      ∀ n, start ≤ n → n < freeNumber taken base taken.length start →
        numbered base n ∈ taken := by
  obtain ⟨above, passed, stops⟩ := freeNumber_search taken base taken.length start
  refine ⟨above, fun full => ?_, passed⟩
  have last := stops full
  let tried := (List.range' start (taken.length + 1)).map (numbered base)
  have distinct : tried.Nodup := by
    refine List.Pairwise.map (numbered base) (fun first second differ same => ?_)
      (List.nodup_range' 1)
    exact differ (numbered_injective base same)
  have within : tried ⊆ taken := by
    intro id member
    obtain ⟨n, range, rfl⟩ := List.mem_map.1 member
    obtain ⟨from_start, below⟩ := List.mem_range'_1.1 range
    rcases Nat.lt_or_ge n (start + taken.length) with before | after
    · exact passed n from_start (last ▸ before)
    · obtain rfl : n = start + taken.length := by omega
      rwa [last] at full
  have fits := distinct.length_le_of_subset within
  rw [List.length_map, List.length_range'] at fits
  exact Nat.not_succ_le_self _ fits

/-- The identifier that is made of method, path and handler of a request. -/
def made (request : Request) : String :=
  Naming.operationId request.route.method.name request.template request.route.handler

/-- The identifier that a request is to get when some are taken. -/
inductive Chosen (taken : List String) (request : Request) : String → Prop where
  | own (free : request.route.operationId ∉ taken) :
      Chosen taken request request.route.operationId
  | made (ownTaken : request.route.operationId ∈ taken) (free : made request ∉ taken) :
      Chosen taken request (made request)
  | numbered (n : Nat) (ownTaken : request.route.operationId ∈ taken)
      (madeTaken : Draft.made request ∈ taken) (fromTwo : 2 ≤ n)
      (free : numbered (Draft.made request) n ∉ taken)
      (least : ∀ m, 2 ≤ m → m < n → Draft.numbered (Draft.made request) m ∈ taken) :
      Chosen taken request (Draft.numbered (Draft.made request) n)

theorem Chosen.fresh {taken : List String} {request : Request} {id : String}
    (chosen : Chosen taken request id) : id ∉ taken := by
  cases chosen with
  | own free => exact free
  | made _ free => exact free
  | numbered _ _ _ _ free _ => exact free

/-- There is only one identifier to be chosen. -/
theorem Chosen.deterministic {taken : List String} {request : Request} {id other : String}
    (first : Chosen taken request id) (second : Chosen taken request other) : id = other := by
  cases first with
  | own free =>
      cases second with
      | own _ => rfl
      | made ownTaken _ => exact absurd ownTaken free
      | numbered _ ownTaken _ _ _ _ => exact absurd ownTaken free
  | made ownTaken free =>
      cases second with
      | own free => exact absurd ownTaken free
      | made _ _ => rfl
      | numbered _ _ madeTaken _ _ _ => exact absurd madeTaken free
  | numbered n ownTaken madeTaken fromTwo free least =>
      cases second with
      | own free => exact absurd ownTaken free
      | made _ free => exact absurd madeTaken free
      | numbered m _ _ fromTwoToo freeToo leastToo =>
          rcases Nat.lt_trichotomy n m with before | rfl | after
          · exact absurd (leastToo n fromTwo before) free
          · rfl
          · exact absurd (least m fromTwoToo after) freeToo

theorem uniqueId_eq (taken : List String) (request : Request) :
    uniqueId taken request =
      if request.route.operationId ∈ taken then
        if made request ∈ taken then
          numbered (made request) (freeNumber taken (made request) taken.length 2)
        else made request
      else request.route.operationId := by
  simp only [uniqueId, made, List.contains_iff_mem]
  rfl

/-- Every request gets the identifier that it is to get. -/
theorem uniqueId_chosen (taken : List String) (request : Request) :
    Chosen taken request (uniqueId taken request) := by
  rw [uniqueId_eq]
  by_cases ownTaken : request.route.operationId ∈ taken
  · rw [if_pos ownTaken]
    by_cases madeTaken : made request ∈ taken
    · rw [if_pos madeTaken]
      obtain ⟨fromTwo, free, least⟩ := freeNumber_spec taken (made request) 2
      exact .numbered _ ownTaken madeTaken fromTwo free least
    · rw [if_neg madeTaken]
      exact .made ownTaken madeTaken
  · rw [if_neg ownTaken]
    exact .own ownTaken

end RouteAtlas.OpenApi.Draft
