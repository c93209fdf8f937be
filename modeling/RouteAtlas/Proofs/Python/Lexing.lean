/-
Module: RouteAtlas.Proofs.Python.Lexing
Layer: Proofs
Purpose: Where the names among the tokens of a text come from. Every step of the scanner leaves an end
  of the characters that it found, and a name is a run of characters that stands there; so every name
  among the tokens stands in the text, within one line.
Trusted boundary: none
Main exports: Token.StandsIn, infix_of_infix_unifyLineEnds, readNumber?_spec, readToken?_spec,
  scan?_stands, reserveSoftWords_names, tokens?_stands
-/
import RouteAtlas.Python.Lexer

namespace RouteAtlas.Python

/-! ### Line ends -/

/-- An end of the text with unified line ends is an end of the text, with its line ends unified. -/
theorem exists_of_suffix_unifyLineEnds {chars rest : List Char} (after : rest <:+ unifyLineEnds chars) :
    ∃ tail, tail <:+ chars ∧ rest = unifyLineEnds tail := by
  fun_induction unifyLineEnds chars with
  | case1 => exact ⟨[], List.suffix_rfl, List.suffix_nil.1 after⟩
  | case2 chars ih =>
      rcases List.suffix_cons_iff.1 after with rfl | later
      · exact ⟨'\r' :: '\n' :: chars, List.suffix_rfl, by rw [unifyLineEnds]⟩
      · obtain ⟨tail, isEnd, same⟩ := ih later
        exact ⟨tail, (isEnd.trans (List.suffix_cons _ _)).trans (List.suffix_cons _ _), same⟩
  | case3 chars single ih =>
      rcases List.suffix_cons_iff.1 after with rfl | later
      · exact ⟨'\r' :: chars, List.suffix_rfl, by rw [unifyLineEnds]; exact single⟩
      · obtain ⟨tail, isEnd, same⟩ := ih later
        exact ⟨tail, isEnd.trans (List.suffix_cons _ _), same⟩
  | case4 c chars notPair notReturn ih =>
      rcases List.suffix_cons_iff.1 after with rfl | later
      · exact ⟨c :: chars, List.suffix_rfl, by rw [unifyLineEnds] <;> assumption⟩
      · obtain ⟨tail, isEnd, same⟩ := ih later
        exact ⟨tail, isEnd.trans (List.suffix_cons _ _), same⟩

/-- What stands within a line is not touched when line ends are unified. -/
theorem prefix_of_prefix_unifyLineEnds {part chars : List Char} (begins : part <+: unifyLineEnds chars)
    (inLine : '\n' ∉ part) : part <+: chars := by
  fun_induction unifyLineEnds chars generalizing part with
  | case1 => exact begins
  | case2 chars _ =>
      cases part with
      | nil => exact List.nil_prefix
      | cons c rest =>
          obtain ⟨rfl, -⟩ := List.cons_prefix_cons.1 begins
          exact absurd List.mem_cons_self inLine
  | case3 chars _ _ =>
      cases part with
      | nil => exact List.nil_prefix
      | cons c rest =>
          obtain ⟨rfl, -⟩ := List.cons_prefix_cons.1 begins
          exact absurd List.mem_cons_self inLine
  | case4 c chars _ _ ih =>
      cases part with
      | nil => exact List.nil_prefix
      | cons d rest =>
          obtain ⟨rfl, goesOn⟩ := List.cons_prefix_cons.1 begins
          exact List.cons_prefix_cons.2
            ⟨rfl, ih goesOn fun member => inLine (List.mem_cons_of_mem _ member)⟩

theorem infix_of_infix_unifyLineEnds {part chars : List Char} (stands : part <:+: unifyLineEnds chars)
    (inLine : '\n' ∉ part) : part <:+: chars := by
  obtain ⟨tail, begins, isEnd⟩ := List.infix_iff_prefix_suffix.1 stands
  obtain ⟨own, ends, rfl⟩ := exists_of_suffix_unifyLineEnds isEnd
  exact (prefix_of_prefix_unifyLineEnds begins inLine).isInfix.trans ends.isInfix

/-! ### Tokens -/

/-- If the token is a name, it stands in the text, within one line. -/
def Token.StandsIn (token : Token) (chars : List Char) : Prop :=
  ∀ id, token = .name id → id.toList <:+: chars ∧ '\n' ∉ id.toList

theorem Token.StandsIn.mono {token : Token} {chars more : List Char} (stands : token.StandsIn chars)
    (within : chars <:+: more) : token.StandsIn more :=
  fun id named => ⟨(stands id named).1.trans within, (stands id named).2⟩

/-! ### Literals -/

theorem readQuoted?_suffix {quote : Char} {tripled : Bool} {done chars raw rest : List Char}
    (read : readQuoted? quote tripled done chars = some (raw, rest)) : rest <:+ chars := by
  fun_induction readQuoted? quote tripled done chars with
  | case1 => cases read
  | case2 done c chars ih => exact ((ih read).trans (List.suffix_cons _ _)).trans (List.suffix_cons _ _)
  | case3 => cases read
  | case4 done chars =>
      obtain ⟨-, rfl⟩ := Prod.mk.inj (Option.some.inj read)
      exact (List.drop_suffix 2 chars).trans (List.suffix_cons _ _)
  | case5 done chars _ _ _ _ ih => exact (ih read).trans (List.suffix_cons _ _)
  | case6 done chars =>
      obtain ⟨-, rfl⟩ := Prod.mk.inj (Option.some.inj read)
      exact List.suffix_cons _ _
  | case7 done c chars _ _ _ ih => exact (ih read).trans (List.suffix_cons _ _)

/-- A string literal is no name, and an end of the text comes after it. -/
theorem readText?_spec {marks : TextPrefix} {chars rest : List Char} {token : Token}
    (read : readText? marks chars = some (token, rest)) :
    rest <:+ chars ∧ ∀ id, token ≠ .name id := by
  rw [readText?.eq_def] at read
  cases chars with
  | nil => cases read
  | cons quote chars =>
      obtain ⟨⟨raw, _⟩, quoted, same⟩ := Option.map_eq_some_iff.1 read
      obtain ⟨rfl, rfl⟩ := Prod.mk.inj same
      refine ⟨?_, fun id named => nomatch named⟩
      have body : (if [quote, quote].isPrefixOf chars then chars.drop 2 else chars) <:+ chars := by
        split
        · exact List.drop_suffix 2 chars
        · exact List.suffix_rfl
      exact ((readQuoted?_suffix quoted).trans body).trans (List.suffix_cons _ _)

theorem textStart?_suffix {chars quoted : List Char} {marks : TextPrefix}
    (starts : textStart? chars = some (marks, quoted)) : quoted <:+ chars := by
  obtain ⟨count, _, here⟩ := List.exists_of_findSome?_eq_some starts
  split at here
  · obtain ⟨_, _, same⟩ := Option.map_eq_some_iff.1 here
    rw [← (Prod.mk.inj same).2]
    exact List.drop_suffix count chars
  · cases here

theorem digitRun_suffix (base : Nat) (chars : List Char) : (digitRun base chars).2 <:+ chars := by
  fun_induction digitRun base chars with
  | case1 => exact List.suffix_rfl
  | case2 c chars digit _ run ih => exact ih.trans (List.suffix_cons _ _)
  | case3 c chars _ _ ih => exact ih.trans (List.suffix_cons _ _)
  | case4 => exact List.suffix_rfl

theorem readRadix?_spec {base : Nat} {chars rest : List Char} {token : Token}
    (read : readRadix? base chars = some (token, rest)) :
    rest <:+ chars ∧ ∀ id, token ≠ .name id := by
  have onward := digitRun_suffix base chars
  rw [readRadix?] at read
  split at read
  · cases read
  · next digits after _ run =>
      obtain ⟨rfl, rfl⟩ := Prod.mk.inj (Option.some.inj read)
      rw [run] at onward
      exact ⟨onward, fun id named => nomatch named⟩

theorem skipExponent?_suffix {chars rest : List Char} (skips : skipExponent? chars = some rest) :
    rest <:+ chars := by
  cases chars with
  | nil =>
      obtain rfl := Option.some.inj skips
      exact List.suffix_rfl
  | cons c chars =>
      have afterSign : ∀ {digits : List Char}, digits <:+ chars →
          (if startsWithDigit 10 digits then some (digitRun 10 digits).2 else none) = some rest →
          rest <:+ c :: chars := fun {digits} unsigned skips => by
        split at skips
        · obtain rfl := Option.some.inj skips
          exact ((digitRun_suffix 10 digits).trans unsigned).trans (List.suffix_cons c chars)
        · cases skips
      unfold skipExponent? at skips
      dsimp only at skips
      split at skips
      · split at skips
        · exact afterSign (List.suffix_cons _ _) skips
        · exact afterSign (List.suffix_cons _ _) skips
        · exact afterSign List.suffix_rfl skips
      · obtain rfl := Option.some.inj skips
        exact List.suffix_rfl

theorem skipImaginary_suffix (chars : List Char) : skipImaginary chars <:+ chars := by
  rw [skipImaginary.eq_def]
  split
  · exact List.suffix_cons _ _
  · exact List.suffix_cons _ _
  · exact List.suffix_rfl

theorem skipFraction?_suffix {chars rest : List Char} (skips : skipFraction? chars = some rest) :
    rest <:+ chars := by
  rw [skipFraction?.eq_def] at skips
  split at skips
  · cases skips
  · exact ((skipExponent?_suffix skips).trans (digitRun_suffix 10 _)).trans (List.suffix_cons _ _)
  · exact skipExponent?_suffix skips

theorem readDecimal?_spec {chars rest : List Char} {token : Token}
    (read : readDecimal? chars = some (token, rest)) :
    rest <:+ chars ∧ ∀ id, token ≠ .name id := by
  have onward := digitRun_suffix 10 chars
  rw [readDecimal?] at read
  generalize digitRun 10 chars = run at read onward
  obtain ⟨digits, after⟩ := run
  dsimp only at read onward
  split at read
  · obtain ⟨left, skips, same⟩ := Option.map_eq_some_iff.1 read
    obtain ⟨rfl, rfl⟩ := Prod.mk.inj same
    refine ⟨?_, fun id named => nomatch named⟩
    exact ((skipImaginary_suffix left).trans (skipFraction?_suffix skips)).trans onward
  · split at read
    · obtain ⟨rfl, rfl⟩ := Prod.mk.inj (Option.some.inj read)
      exact ⟨(List.drop_suffix 1 after).trans onward, fun id named => nomatch named⟩
    · split at read
      · cases read
      · obtain ⟨rfl, rfl⟩ := Prod.mk.inj (Option.some.inj read)
        exact ⟨onward, fun id named => nomatch named⟩

/-- A numeric literal is no name, and an end of the text comes after it. -/
theorem readNumber?_spec {chars rest : List Char} {token : Token}
    (read : readNumber? chars = some (token, rest)) :
    rest <:+ chars ∧ ∀ id, token ≠ .name id := by
  have prefixed : ∀ {base : Nat} {mark : Char} {digits : List Char},
      readRadix? base digits = some (token, rest) →
      rest <:+ '0' :: mark :: digits ∧ ∀ id, token ≠ .name id := fun radix =>
    ⟨((readRadix?_spec radix).1.trans (List.suffix_cons _ _)).trans (List.suffix_cons _ _),
      (readRadix?_spec radix).2⟩
  rw [readNumber?.eq_def] at read
  split at read
  · exact prefixed read
  · exact prefixed read
  · exact prefixed read
  · exact prefixed read
  · exact prefixed read
  · exact prefixed read
  · exact readDecimal?_spec read

theorem readSign?_suffix {chars rest : List Char} {sign : String}
    (read : readSign? chars = some (sign, rest)) : rest <:+ chars := by
  obtain ⟨text, _, here⟩ := List.exists_of_findSome?_eq_some read
  obtain ⟨after, drops, same⟩ := Option.map_eq_some_iff.1 here
  obtain ⟨-, rfl⟩ := Prod.mk.inj same
  rw [dropSign?] at drops
  split at drops
  · obtain rfl := Option.some.inj drops
    exact List.drop_suffix _ chars
  · cases drops

/-! ### Names -/

theorem readWord_spec (chars : List Char) :
    (readWord chars).2 <:+ chars ∧ (readWord chars).1.StandsIn chars := by
  refine ⟨List.dropWhile_suffix _, fun id named => ?_⟩
  have spelled : id.toList = chars.takeWhile Text.isIdentifierContinue := by
    rw [readWord] at named
    dsimp only at named
    split at named
    · cases named
    · rw [← Token.name.inj named, String.toList_ofList]
  have noLineEnd : Text.isIdentifierContinue '\n' = false := by decide
  refine ⟨spelled ▸ (List.takeWhile_prefix _).isInfix, fun member => ?_⟩
  rw [spelled] at member
  have continues := List.all_eq_true.1 List.all_takeWhile _ member
  rw [noLineEnd] at continues
  cases continues

/-- The scanner finds a name where it stands, and goes on with an end of the text. -/
theorem readToken?_spec {chars rest : List Char} {token : Token}
    (read : readToken? chars = some (token, rest)) : rest <:+ chars ∧ token.StandsIn chars := by
  have nameless : (rest <:+ chars ∧ ∀ id, token ≠ .name id) → rest <:+ chars ∧ token.StandsIn chars :=
    fun literal => ⟨literal.1, fun id named => absurd named (literal.2 id)⟩
  rw [readToken?.eq_def] at read
  cases chars with
  | nil => cases read
  | cons c chars =>
      dsimp only at read
      split at read
      · split at read
        · next starts =>
            obtain ⟨onward, literal⟩ := readText?_spec read
            exact nameless ⟨onward.trans (textStart?_suffix starts), literal⟩
        · have word := readWord_spec (c :: chars)
          rw [Option.some.inj read] at word
          exact word
      · split at read
        · exact nameless (readNumber?_spec read)
        · split at read
          · exact nameless (readText?_spec read)
          · split at read
            · next isSign =>
                obtain ⟨rfl, rfl⟩ := Prod.mk.inj (Option.some.inj read)
                exact nameless ⟨readSign?_suffix isSign, fun id named => nomatch named⟩
            · split at read
              · next picture =>
                  obtain ⟨rfl, rfl⟩ := Prod.mk.inj (Option.some.inj read)
                  refine ⟨List.suffix_cons _ _, fun id named => ?_⟩
                  rw [← Token.name.inj named, String.toList_ofList]
                  have noLineEnd : Text.isEmojiPresentation '\n' = false := by decide
                  refine ⟨(List.prefix_append [c] chars).isInfix, fun member => ?_⟩
                  rw [← List.mem_singleton.1 member, noLineEnd] at picture
                  cases picture
              · cases read

/-! ### The scanner -/

theorem measureDepth?_suffix {comment : Bool} {depth width : Depth} {chars rest : List Char}
    (measures : measureDepth? comment depth chars = some (width, rest)) : rest <:+ chars := by
  induction chars generalizing comment depth with
  | nil =>
      obtain ⟨-, rfl⟩ := Prod.mk.inj (Option.some.inj measures)
      exact List.suffix_rfl
  | cons c chars ih =>
      have onward : ∀ {comment : Bool} {depth : Depth},
          measureDepth? comment depth chars = some (width, rest) → rest <:+ c :: chars :=
        fun measures => (ih measures).trans (List.suffix_cons c chars)
      rw [measureDepth?] at measures
      split at measures
      · exact onward measures
      split at measures
      · exact onward measures
      split at measures
      · exact onward measures
      split at measures
      · split at measures
        · exact onward measures
        · cases measures
      split at measures
      · exact onward measures
      split at measures
      · exact onward measures
      · obtain ⟨-, rfl⟩ := Prod.mk.inj (Option.some.inj measures)
        exact List.suffix_rfl

/-- A line begins with marks of indentation only. -/
theorem enterLine?_nameless {width : Depth} {blocks after : List Depth} {opening : List Token}
    (enters : enterLine? width blocks = some (opening, after)) (id : String) :
    .name id ∉ opening := by
  rw [enterLine?] at enters
  split at enters
  · obtain ⟨rfl, -⟩ := Prod.mk.inj (Option.some.inj enters)
    exact List.not_mem_nil
  · obtain ⟨rfl, -⟩ := Prod.mk.inj (Option.some.inj enters)
    intro member
    cases List.mem_singleton.1 member
  · obtain ⟨_, _, same⟩ := Option.map_eq_some_iff.1 enters
    obtain ⟨rfl, -⟩ := Prod.mk.inj same
    intro member
    cases List.eq_of_mem_replicate member
  · cases enters

/-- What is scanned of an end of a text, after tokens whose names stand in the text, are such tokens. The
induction is on the steps of the scanner: what is left is always an end of the text. -/
theorem scan?_stands {source : List Char} {fuel depth : Nat} {blocks : List Depth} {fresh : Bool}
    {done tokens : List Token} {chars : List Char} (within : chars <:+ source)
    (stand : ∀ token ∈ done, token.StandsIn source)
    (scans : scan? fuel depth blocks fresh done chars = some tokens) :
    ∀ token ∈ tokens, token.StandsIn source := by
  fun_induction scan? fuel depth blocks fresh done chars with
  | case1 => cases scans
  | case2 => cases scans
  | case3 => cases scans
  | case4 depth blocks fresh done chars fuel _ width rest measures opening after enters ih =>
      refine ih ((measureDepth?_suffix measures).trans within) (fun token member => ?_) scans
      rcases List.mem_append.1 member with opens | found
      · intro id named
        rw [named] at opens
        exact absurd (List.mem_reverse.1 opens) (enterLine?_nameless enters id)
      · exact stand token found
  | case5 blocks fresh done fuel lineEnd _ =>
      obtain rfl := Option.some.inj scans
      intro token member id named
      rw [named] at member
      rcases List.mem_append.1 member with front | dedents
      · rcases List.mem_append.1 front with found | ends
        · exact stand _ (List.mem_reverse.1 found) id rfl
        · change Token.name id ∈ (if fresh then [] else [.newline]) at ends
          split at ends
          · cases ends
          · cases List.mem_singleton.1 ends
      · cases List.eq_of_mem_replicate dedents
  | case6 => cases scans
  | case7 blocks fresh done fuel rest _ ih =>
      refine ih ((List.suffix_cons _ _).trans within) ?_ scans
      exact List.forall_mem_cons.2 ⟨fun _ named => (nomatch named), stand⟩
  | case8 depth blocks fresh done fuel rest _ _ ih =>
      exact ih ((List.suffix_cons _ _).trans within) stand scans
  | case9 depth blocks fresh done fuel c rest _ ih =>
      exact ih (((List.suffix_cons _ _).trans (List.suffix_cons _ _)).trans within) stand scans
  | case10 => cases scans
  | case11 depth blocks fresh done fuel c rest _ _ _ _ ih =>
      exact ih ((List.suffix_cons _ _).trans within) stand scans
  | case12 depth blocks fresh done fuel rest _ _ _ _ ih =>
      exact ih (((List.dropWhile_suffix _).trans (List.suffix_cons _ _)).trans within) stand scans
  | case13 depth blocks fresh done fuel c rest _ _ _ _ _ unread =>
      rw [unread] at scans
      cases scans
  | case14 depth blocks fresh done fuel c rest _ _ _ _ token after unopened _ read =>
      simp only [read, unopened] at scans
      cases scans
  | case15 depth blocks fresh done fuel c rest _ _ _ _ token after inner nests _ read ih =>
      simp only [read, nests] at scans
      obtain ⟨onward, stands⟩ := readToken?_spec read
      refine ih (onward.trans within) ?_ scans
      exact List.forall_mem_cons.2 ⟨stands.mono within.isInfix, stand⟩

/-- Reserving words makes no names. -/
theorem reserveSoftWords_names {lineStart : Bool} {tokens : List Token} {id : String}
    (member : .name id ∈ reserveSoftWords lineStart tokens) : .name id ∈ tokens := by
  fun_induction reserveSoftWords lineStart tokens with
  | case1 => cases member
  | case2 lineStart other rest ih =>
      rcases List.mem_cons.1 member with here | later
      · split at here
        · cases here
        · exact here ▸ List.mem_cons_self
      · exact List.mem_cons_of_mem _ (ih later)
  | case3 lineStart token rest _ ih =>
      rcases List.mem_cons.1 member with here | later
      · exact here ▸ List.mem_cons_self
      · exact List.mem_cons_of_mem _ (ih later)

/-- Every name among the tokens of a text stands in the text. -/
theorem tokens?_stands {source : List Char} {tokens : List Token} {id : String}
    (cut : tokens? source = some tokens) (member : .name id ∈ tokens) :
    id.toList <:+: source ∧ '\n' ∉ id.toList := by
  obtain ⟨found, scans, rfl⟩ := Option.map_eq_some_iff.1 cut
  have stands : ∀ token ∈ found, token.StandsIn (unifyLineEnds source) := by
    refine scan?_stands ?_ (List.forall_mem_nil _) scans
    -- A mark of the byte order at the beginning is passed over.
    split
    · next marked => exact marked ▸ List.suffix_cons _ _
    · exact List.suffix_rfl
  obtain ⟨there, inLine⟩ := stands _ (reserveSoftWords_names member) id rfl
  exact ⟨infix_of_infix_unifyLineEnds there inLine, inLine⟩

end RouteAtlas.Python
