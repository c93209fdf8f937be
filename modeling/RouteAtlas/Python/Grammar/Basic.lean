/-
Module: RouteAtlas.Python.Grammar.Basic
Layer: Python
Purpose: Readers of token sequences. A reader takes some tokens from the front of the sequence or
  fails, and never puts any there: that is part of what a reader is. The grammar of Python is written
  with them. Rules that contain themselves refer to a `Level`: the same rules with one nesting less to go.
Trusted boundary: none
Main exports: Parse, Parse.run, Parse.run_suffix, Level, many, leftAssoc, commaList
-/
import RouteAtlas.Python.Token
import RouteAtlas.Python.Syntax

namespace RouteAtlas.Python.Grammar

/-- A reader of tokens. -/
structure Parse (α : Type) where
  /-- What is read, and the tokens after it. -/
  run : List Token → Option (α × List Token)
  run_suffix : ∀ {tokens item rest}, run tokens = some (item, rest) → rest <:+ tokens

namespace Parse

/-- Read nothing. -/
@[always_inline, inline]
protected def pure {α : Type} (item : α) : Parse α where
  run tokens := some (item, tokens)
  run_suffix same := (Prod.mk.inj (Option.some.inj same)).2 ▸ List.suffix_rfl

/-- Go on after what `first` reads. -/
@[always_inline, inline]
protected def bind {α β : Type} (first : Parse α) (next : α → Parse β) : Parse β where
  run tokens :=
    match first.run tokens with
    | none => none
    | some (item, rest) => (next item).run rest
  run_suffix read := by
    split at read
    · cases read
    · next starts => exact ((next _).run_suffix read).trans (first.run_suffix starts)

instance : Monad Parse where
  pure := Parse.pure
  bind := Parse.bind

/-- Read nothing and fail. -/
protected def failure {α : Type} : Parse α where
  run _ := none
  run_suffix read := nomatch read

/-- Read with `other` if `first` fails. -/
@[always_inline, inline]
protected def orElse {α : Type} (first : Parse α) (other : Unit → Parse α) : Parse α where
  run tokens :=
    match first.run tokens with
    | none => (other ()).run tokens
    | some read => some read
  run_suffix read := by
    split at read
    · exact (other ()).run_suffix read
    · next starts => exact first.run_suffix (starts.trans read)

instance : Alternative Parse where
  failure := Parse.failure
  orElse := Parse.orElse

end Parse

/-- The next tokens, which stay where they are. -/
def upcoming : Parse (List Token) where
  run tokens := some (tokens, tokens)
  run_suffix same := (Prod.mk.inj (Option.some.inj same)).2 ▸ List.suffix_rfl

/-- Whether `p` holds of the next token. -/
def nextIs (p : Token → Bool) : Parse Bool := do
  return (← upcoming).head?.any p

/-- Pass over one token. -/
def skip : Parse Unit where
  run tokens := some ((), tokens.drop 1)
  run_suffix same := (Prod.mk.inj (Option.some.inj same)).2 ▸ List.drop_suffix 1 _

/-- Pass over the next token if it is `token`, and say whether it was. -/
def accept (token : Token) : Parse Bool := do
  if ← nextIs (· == token) then
    skip
    return true
  else return false

/-- Require the next token to be `token`. -/
def expect (token : Token) : Parse Unit := do
  if ← accept token then return () else failure

/-- Whether the next token is this operator or delimiter. -/
def atSign (text : String) : Parse Bool := nextIs (· == .sign text)

/-- Whether the next token is this reserved word. -/
def atWord (text : String) : Parse Bool := nextIs (· == .word text)

/-- Pass over an operator or delimiter if it comes next. -/
def acceptSign (text : String) : Parse Bool := accept (.sign text)

/-- Pass over a reserved word if it comes next. -/
def acceptWord (text : String) : Parse Bool := accept (.word text)

/-- Pass over the next token if it is one of these operators or delimiters. -/
def acceptOneOf (texts : List String) : Parse Bool := do
  match ← upcoming with
  | .sign text :: _ =>
      if texts.contains text then
        skip
        return true
      else return false
  | _ => return false

/-- Require an operator or delimiter. -/
def sign (text : String) : Parse Unit := expect (.sign text)

/-- Require a reserved word. -/
def word (text : String) : Parse Unit := expect (.word text)

/-- Require a name. -/
def identifier : Parse String := do
  match ← upcoming with
  | .name id :: _ =>
      skip
      return id
  | _ => failure

/-- Repeat a reader that says when to stop by answering nothing, at most `fuel` times. -/
def manyWithin {α : Type} (fuel : Nat) (reader : Parse (Option α)) : Parse (List α) :=
  match fuel with
  | 0 => return []
  | fuel + 1 => do
      match ← reader with
      | none => return []
      | some item => return item :: (← manyWithin fuel reader)

/-- Repeat a reader until it answers nothing. Each answer takes a token at least, so the number of
tokens bounds the repetitions; they are counted only where there is a first answer. -/
def many {α : Type} (reader : Parse (Option α)) : Parse (List α) := do
  match ← reader with
  | none => return []
  | some item => return item :: (← manyWithin ((← upcoming).length + 1) reader)

/-- `item` once more if the mark `mark` announces it. -/
def announced {α : Type} (mark : Parse Bool) (item : Parse α) : Parse (Option α) := do
  if ← mark then return some (← item) else return none

/-- Items with commas between them. A comma at the end is allowed; the answer tells whether there
is one. `starts` recognises the first token of an item. -/
def commaList {α : Type} (starts : Token → Bool) (item : Parse α) : Parse (List α × Bool) := do
  let first ← item
  let others ← many do
    match ← upcoming with
    | .sign "," :: token :: _ =>
        if starts token then
          skip
          return some (← item)
        else return none
    | _ => return none
  let trailing ← acceptSign ","
  return (first :: others, trailing)

/-- Items with commas between them and none at the end. -/
def strictCommaList {α : Type} (item : Parse α) : Parse (List α) := do
  let first ← item
  let others ← many (announced (acceptSign ",") item)
  return first :: others

/-- Operands joined by operators of one rank, grouped from the left. -/
def leftAssoc (ops : List (String × BinaryOp)) (operand : Parse Expr) : Parse Expr := do
  let first ← operand
  let others ← many do
    match ← upcoming with
    | .sign text :: _ =>
        match ops.lookup text with
        | some op =>
            skip
            return some (op, ← operand)
        | none => return none
    | _ => return none
  return others.foldl (fun left other => .binary other.1 left other.2) first

/-- The rules that contain themselves, for uses inside brackets, blocks and operands. -/
structure Level where
  /-- A conditional expression, a `lambda` or anything that binds tighter. -/
  test : Parse Expr
  /-- An operand of `or`, joined by `or`. -/
  disjunction : Parse Expr
  /-- An operand of a comparison. -/
  operand : Parse Expr
  /-- An operand of a product. -/
  factor : Parse Expr
  /-- A pattern of a `match` statement. -/
  pattern : Parse Unit
  /-- A statement with blocks. -/
  compound : Parse Stmt

/-- The level at which no nesting is left: nothing can be read. -/
def Level.bottom : Level where
  test := failure
  disjunction := failure
  operand := failure
  factor := failure
  pattern := failure
  compound := failure

/-- Whether a token begins an expression other than a starred one. -/
def startsTest : Token → Bool
  | .name _ => true
  | .int _ => true
  | .inexact => true
  | .text _ _ => true
  | .sign text => ["(", "[", "\x7b", "-", "+", "~", "..."].contains text
  | .word text => ["not", "lambda", "await", "None", "True", "False"].contains text
  | _ => false

/-- Whether a token begins an expression, starred or not. -/
def startsItem (token : Token) : Bool := token == .sign "*" || startsTest token

end RouteAtlas.Python.Grammar
