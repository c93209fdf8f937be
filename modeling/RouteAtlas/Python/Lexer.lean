/-
Module: RouteAtlas.Python.Lexer
Layer: Python
Purpose: From source text to tokens. Every step of the scanner takes the longest unit that stands at
  the current place; inside brackets line ends do not count; a text that cannot be cut up has no
  tokens at all. Last, the words `match`, `case` and `type` are reserved where the rest of their line
  shows that a statement begins.
Trusted boundary: none
Main exports: tokens?
-/
import RouteAtlas.Python.Layout
import RouteAtlas.Python.Number
import RouteAtlas.Text.Identifier
import RouteAtlas.Text.Emoji

namespace RouteAtlas.Python

/-- Make every line end a single line feed. -/
def unifyLineEnds : List Char → List Char
  | [] => []
  | '\r' :: '\n' :: rest => '\n' :: unifyLineEnds rest
  | '\r' :: rest => '\n' :: unifyLineEnds rest
  | c :: rest => c :: unifyLineEnds rest

/-- The operators and delimiters, longer ones before their beginnings. -/
def signs : List String := [
  "**=", "//=", ">>=", "<<=", "...",
  "==", "+=", "-=", "*=", "/=", "%=", "&=", "|=", "^=", "@=", "->", "**", "//", "<<", ">>", "<=",
  ">=", "!=", ":=",
  "=", "+", "-", "*", "/", "%", "|", "&", "^", "@", "~", "(", ")", "[", "]", "\x7b", "\x7d", ":",
  ";", "<", ">", ",", "."]

/-- The rest of the text after a sign. -/
def dropSign? (sign chars : List Char) : Option (List Char) :=
  if sign.isPrefixOf chars then some (chars.drop sign.length) else none

/-- The longest operator or delimiter at the beginning of the text. -/
def readSign? (chars : List Char) : Option (String × List Char) :=
  signs.findSome? fun sign => (dropSign? sign.toList chars).map fun rest => (sign, rest)

/-- What the letters before a quote ask for, if they may stand there. -/
def textPrefix? (letters : List Char) : Option TextPrefix :=
  match letters.map Char.toLower with
  | [] => some ⟨false, false, false⟩
  | ['u'] => some ⟨false, false, false⟩
  | ['r'] => some ⟨true, false, false⟩
  | ['b'] => some ⟨false, true, false⟩
  | ['f'] => some ⟨false, false, true⟩
  | ['r', 'b'] => some ⟨true, true, false⟩
  | ['b', 'r'] => some ⟨true, true, false⟩
  | ['r', 'f'] => some ⟨true, false, true⟩
  | ['f', 'r'] => some ⟨true, false, true⟩
  | _ => none

/-- The characters up to the closing quotes. A backslash protects the next character; a line feed
ends a literal that has one quote only, which is an error. -/
def readQuoted? (quote : Char) (tripled : Bool) (done : List Char) :
    List Char → Option (List Char × List Char)
  | [] => none
  | '\\' :: c :: rest => readQuoted? quote tripled (c :: '\\' :: done) rest
  | c :: rest =>
      if c = '\n' && !tripled then none
      else if c = quote then
        if tripled then
          if [quote, quote].isPrefixOf rest then some (done.reverse, rest.drop 2)
          else readQuoted? quote tripled (c :: done) rest
        else some (done.reverse, rest)
      else readQuoted? quote tripled (c :: done) rest

/-- A string literal whose prefix has been read and whose first quote comes next. -/
def readText? (marks : TextPrefix) (chars : List Char) : Option (Token × List Char) :=
  match chars with
  | [] => none
  | quote :: rest =>
      let tripled := [quote, quote].isPrefixOf rest
      let body := if tripled then rest.drop 2 else rest
      (readQuoted? quote tripled [] body).map fun read => (.text marks read.1, read.2)

/-- Whether the text goes on with a quote. -/
def atQuote : List Char → Bool
  | c :: _ => c = '"' || c = '\''
  | [] => false

/-- The prefix of a string literal that stands here, if one does. -/
def textStart? (chars : List Char) : Option (TextPrefix × List Char) :=
  [1, 2].findSome? fun count =>
    if atQuote (chars.drop count) && (chars.take count).all Char.isAlpha then
      (textPrefix? (chars.take count)).map fun marks => (marks, chars.drop count)
    else none

/-- A name or a reserved word. -/
def readWord (chars : List Char) : Token × List Char :=
  let id := String.ofList (chars.takeWhile Text.isIdentifierContinue)
  let token := if reservedWords.contains id then .word id else .name id
  (token, chars.dropWhile Text.isIdentifierContinue)

/-- Whether a numeric literal begins here: with a digit, or with a point and a digit. -/
def atNumber : List Char → Bool
  | '.' :: rest => startsWithDigit 10 rest
  | rest => startsWithDigit 10 rest

/-- One token at the beginning of a text that does not begin with white space. -/
def readToken? (chars : List Char) : Option (Token × List Char) :=
  match chars with
  | [] => none
  | c :: rest =>
      if Text.isIdentifierStart c then
        match textStart? chars with
        | some (marks, quoted) => readText? marks quoted
        | none => some (readWord chars)
      else if atNumber chars then readNumber? chars
      else if atQuote chars then readText? ⟨false, false, false⟩ chars
      else
        match readSign? chars with
        | some (sign, rest) => some (.sign sign, rest)
        | none =>
            if Text.isEmojiPresentation c then some (.name (String.ofList [c]), rest) else none

/-- The bracket depth after a token; closing what was never opened is an error. -/
def nesting? (depth : Nat) : Token → Option Nat
  | .sign text =>
      if text = "(" || text = "[" || text = "\x7b" then some (depth + 1)
      else if text = ")" || text = "]" || text = "\x7d" then
        if depth = 0 then none else some (depth - 1)
      else some depth
  | _ => some depth

/-- The scanner. `fuel` bounds the number of steps and is more than the number of characters left;
`fresh` says that a line begins here; `done` holds the tokens found so far, in reverse. -/
def scan? (fuel depth : Nat) (blocks : List Depth) (fresh : Bool) (done : List Token)
    (chars : List Char) : Option (List Token) :=
  match fuel with
  | 0 => none
  | fuel + 1 =>
      if fresh && !chars.isEmpty then
        match measureDepth? false .margin chars with
        | none => none
        | some (width, rest) =>
            match enterLine? width blocks with
            | none => none
            | some (opening, blocks) =>
                scan? fuel depth blocks rest.isEmpty (opening.reverse ++ done) rest
      else
        match chars with
        | [] =>
            if depth = 0 then
              let lineEnd := if fresh then [] else [.newline]
              some (done.reverse ++ lineEnd ++ List.replicate blocks.length .dedent)
            else none
        | '\n' :: rest =>
            if depth = 0 then scan? fuel depth blocks true (.newline :: done) rest
            else scan? fuel depth blocks false done rest
        | '\\' :: rest =>
            match rest with
            | '\n' :: c :: rest => scan? fuel depth blocks false done (c :: rest)
            | _ => none
        | c :: rest =>
            if c = ' ' || c = '\t' || c = '\x0c' then scan? fuel depth blocks false done rest
            else if c = '#' then
              scan? fuel depth blocks false done (rest.dropWhile (· ≠ '\n'))
            else
              match readToken? chars with
              | none => none
              | some (token, rest) =>
                  match nesting? depth token with
                  | none => none
                  | some depth => scan? fuel depth blocks false (token :: done) rest

/-- Whether a colon outside brackets, and not right at the beginning, is still to come on the line.
A colon that belongs to a `lambda` does not count. -/
def hasBlockColon (first inLambda : Bool) (depth : Int) : List Token → Bool
  | [] => false
  | .newline :: _ => false
  | .word "lambda" :: rest => hasBlockColon false (inLambda || depth == 0) depth rest
  | .sign text :: rest =>
      if text = ":" && depth == 0 then
        if inLambda then hasBlockColon false false depth rest
        else !first || hasBlockColon false false depth rest
      else if text = "(" || text = "[" || text = "\x7b" then
        hasBlockColon false inLambda (depth + 1) rest
      else if text = ")" || text = "]" || text = "\x7d" then
        hasBlockColon false inLambda (depth - 1) rest
      else hasBlockColon false inLambda depth rest
  | _ :: rest => hasBlockColon false inLambda depth rest

/-- Whether an equals sign follows, after at most one bracketed list. -/
def hasAliasSign (depth : Nat) : List Token → Bool
  | .sign text :: rest =>
      if text = "=" && depth == 0 then true
      else if text = "[" then hasAliasSign (depth + 1) rest
      else if text = "]" then
        if depth = 0 then false else hasAliasSign (depth - 1) rest
      else if depth > 0 then hasAliasSign depth rest
      else false
  | .newline :: _ => false
  | _ :: rest => if depth > 0 then hasAliasSign depth rest else false
  | [] => false

/-- Whether a name at the beginning of a line opens a statement of its own, judged by the tokens
after it. -/
def opensStatement (id : String) (rest : List Token) : Bool :=
  if id = "match" || id = "case" then hasBlockColon true false 0 rest
  else if id = "type" then
    match rest with
    | .name _ :: rest => hasAliasSign 0 rest
    | _ => false
  else false

/-- Reserve `match`, `case` and `type` where a statement begins with them. -/
def reserveSoftWords (lineStart : Bool) : List Token → List Token
  | [] => []
  | .name id :: rest =>
      (if lineStart && opensStatement id rest then .word id else .name id) ::
        reserveSoftWords false rest
  | token :: rest =>
      token :: reserveSoftWords (token = .newline || token = .indent || token = .dedent) rest

/-- The tokens of a source text, if it can be cut into tokens. A byte order mark at the beginning is
passed over. -/
def tokens? (source : List Char) : Option (List Token) :=
  let chars := unifyLineEnds source
  let chars :=
    match chars with
    | '\uFEFF' :: rest => rest
    | rest => rest
  (scan? (2 * chars.length + 2) 0 [] true [] chars).map (reserveSoftWords true)

end RouteAtlas.Python
