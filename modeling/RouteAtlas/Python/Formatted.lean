/-
Module: RouteAtlas.Python.Formatted
Layer: Python
Purpose: The structure of formatted string literals. The text of such a literal alternates with
  replacement fields in braces; a field holds an expression, perhaps an equals sign, a conversion and
  a format, and the format may hold fields once more. This module finds the source texts of the
  expressions; the grammar says whether each of them is one.
Trusted boundary: none
Main exports: fieldSources?
-/
import RouteAtlas.Python.Escape
import RouteAtlas.Text.Blank

namespace RouteAtlas.Python

/-- The expression texts found, and the characters after them. -/
abbrev Fields := List (List Char) × List Char

/-- What has been read of a replacement field: its expression in reverse, the brackets open in it,
whether an equals sign asks to show the expression itself, and the expressions of its format. -/
structure FieldState where
  source : List Char
  brackets : List Char
  shown : Bool
  format : List (List Char)
deriving Repr, Inhabited

/-- The opening bracket that a closing one belongs to. -/
def openerOf? : Char → Option Char
  | ')' => some '('
  | ']' => some '['
  | '}' => some '{'
  | _ => none

/-- Whether nothing but white space has been read of the expression. -/
def FieldState.isBlank (state : FieldState) : Bool := state.source.all Text.isBlank

/-- Add characters to the expression, the last one first. -/
def FieldState.push (state : FieldState) (chars : List Char) : FieldState :=
  { state with source := chars ++ state.source }

/-- The characters of a quoted text inside a field, up to and with its closing quote, in reverse. -/
def readFieldQuote? (quote : Char) (done : List Char) : List Char → Option (List Char × List Char)
  | [] => none
  | c :: rest =>
      if c = quote then some (c :: done, rest) else readFieldQuote? quote (c :: done) rest

/-- How an escape outside a field is passed over: the characters after it. A backslash before a brace
stands for itself, and the brace keeps its meaning. -/
def skipEscape? (chars : List Char) : Option (List Char) :=
  match chars with
  | '\\' :: c :: rest =>
      if c = '{' || c = '}' then some (c :: rest)
      else
        match hexEscapeWidth? false c with
        | some width =>
            match readHex? width 0 rest with
            | some (code, rest) => if (charOfCode? code).isSome then some rest else none
            | none => none
        | none => if c = 'N' then (readNamed? rest).map Prod.snd else some rest
  | _ => none

/-- What part of a formatted literal is read: the text outside fields, or the inside of a field, or
the format of a field. -/
inductive FormatPlace where
  | outside
  | field (state : FieldState)
  | format (state : FieldState)
deriving Repr, Inhabited

/-- Read a formatted literal from some place in it. `level` counts the fields around the place:
outside text of level 1 is the format of a field. The result holds the expressions in order and the
characters after the place, which at level 0 are none. `fuel` is more than twice the number of
characters left. -/
def readFormat? (fuel level : Nat) (raw : Bool) (place : FormatPlace) (chars : List Char) :
    Option Fields :=
  match fuel with
  | 0 => none
  | fuel + 1 =>
      match place with
      | .outside =>
          if level ≥ 2 then none
          else
            match chars with
            | [] => some ([], [])
            | '{' :: rest =>
                if level = 0 && rest.head? = some '{' then
                  readFormat? fuel level raw .outside (rest.drop 1)
                else
                  match readFormat? fuel level raw (.field ⟨[], [], false, []⟩) rest with
                  | none => none
                  | some (found, rest) =>
                      (readFormat? fuel level raw .outside rest).map fun others =>
                        (found ++ others.1, others.2)
            | '}' :: rest =>
                if level > 0 then some ([], '}' :: rest)
                else
                  match rest with
                  | '}' :: rest => readFormat? fuel level raw .outside rest
                  | _ => none
            | c :: rest =>
                if c = '\\' && !raw then
                  match skipEscape? chars with
                  | none => none
                  | some rest => readFormat? fuel level raw .outside rest
                else readFormat? fuel level raw .outside rest
      | .format state =>
          match chars with
          | '{' :: _ =>
              match readFormat? fuel (level + 1) raw .outside chars with
              | none => none
              | some (found, rest) =>
                  readFormat? fuel level raw
                    (.format { state with format := state.format ++ found }) rest
          | '}' :: _ => readFormat? fuel level raw (.field state) chars
          | _ :: rest => readFormat? fuel level raw (.format state) rest
          | [] => none
      | .field state =>
          match chars with
          | [] => none
          | c :: rest =>
              let plain := state.brackets.isEmpty
              if (c = '!' || c = '=' || c = '>' || c = '<') && rest.head? = some '=' then
                readFormat? fuel level raw (.field (state.push ['=', c])) (rest.drop 1)
              else if c = '!' && plain then
                if state.isBlank then none
                else
                  match rest with
                  | flag :: next :: _ =>
                      if (flag = 's' || flag = 'a' || flag = 'r') && (next = '}' || next = ':') then
                        readFormat? fuel level raw (.field state) (rest.drop 1)
                      else none
                  | _ => none
              else if c = '=' && plain then
                readFormat? fuel level raw (.field { state with shown := true }) rest
              else if c = ':' && plain then readFormat? fuel level raw (.format state) rest
              else if c = '(' || c = '{' || c = '[' then
                readFormat? fuel level raw
                  (.field { state.push [c] with brackets := c :: state.brackets }) rest
              else if c = '}' && plain then
                if state.isBlank then none
                else some (state.source.reverse :: state.format, rest)
              else
                match openerOf? c with
                | some opener =>
                    if state.brackets.head? = some opener then
                      readFormat? fuel level raw
                        (.field { state.push [c] with brackets := state.brackets.drop 1 }) rest
                    else none
                | none =>
                    if c = '"' || c = '\'' then
                      match readFieldQuote? c [c] rest with
                      | none => none
                      | some (quoted, rest) =>
                          readFormat? fuel level raw (.field (state.push quoted)) rest
                    else if c = ' ' && state.shown then readFormat? fuel level raw (.field state) rest
                    else if c = '\\' || state.shown then none
                    else readFormat? fuel level raw (.field (state.push [c])) rest

/-- The source texts of all expressions in a formatted literal, if it is well formed. -/
def fieldSources? (marks : TextPrefix) (raw : List Char) : Option (List (List Char)) :=
  (readFormat? (3 * raw.length + 3) 0 marks.raw .outside raw).map Prod.fst

end RouteAtlas.Python
