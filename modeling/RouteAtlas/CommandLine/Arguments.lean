/-
Module: RouteAtlas.CommandLine.Arguments
Layer: CommandLine
Purpose: The arguments of the program. Words are read from left to right; the word after an option
  is its value unless it looks like an option itself, and an option counts when the word after its
  value has been looked at, so that of two faults the first one is told.
Trusted boundary: none
Main exports: Format, Arguments, UsageError, Word, Word.ofText, readArguments
-/
import RouteAtlas.Files.DiskPath
import RouteAtlas.Framework

namespace RouteAtlas.CommandLine

/-- The form in which a document is written. -/
inductive Format where
  | json
  | yaml
deriving DecidableEq, Repr, Inhabited

/-- The form of a name. -/
def Format.parse? : String → Option Format
  | "json" => some .json
  | "yaml" => some .yaml
  | _ => none

/-- What the user asks for. -/
structure Arguments where
  endpoint : DiskPath
  output : DiskPath
  projectRoot : DiskPath := ⟨"."⟩
  framework : Option Framework := none
  format : Format := .json
  basePath : Option String := none
  searchPaths : List DiskPath := []
  inferSchemas : Bool := false
  debug : Bool := false
deriving Repr, Inhabited

/-- Why the arguments are not carried out. Asking for help or for the version counts here too. -/
inductive UsageError where
  | missingRequired
  | invalidValue
  | unknownArgument
  | conflict
  | tooManyValues
  | helpWanted
  | versionWanted
deriving DecidableEq, Repr, Inhabited

/-- The options that take a value. -/
inductive Setting where
  | endpoint
  | output
  | projectRoot
  | framework
  | format
  | basePath
  | searchPath
deriving DecidableEq, Repr, Inhabited

/-- The options without a value. -/
inductive Switch where
  | inferSchemas
  | debug
  | help
  | version
deriving DecidableEq, Repr, Inhabited

/-- An option. -/
abbrev Flag := Setting ⊕ Switch

/-- The option of a long name. -/
def longFlag? : String → Option Flag
  | "endpoint" => some (.inl .endpoint)
  | "output" => some (.inl .output)
  | "project-root" => some (.inl .projectRoot)
  | "framework" => some (.inl .framework)
  | "format" => some (.inl .format)
  | "base-path" => some (.inl .basePath)
  | "search-path" => some (.inl .searchPath)
  | "infer-schemas" => some (.inr .inferSchemas)
  | "debug" => some (.inr .debug)
  | "help" => some (.inr .help)
  | "version" => some (.inr .version)
  | _ => none

/-- The option of a letter. -/
def shortFlag? : Char → Option Flag
  | 'e' => some (.inl .endpoint)
  | 'o' => some (.inl .output)
  | 'r' => some (.inl .projectRoot)
  | 'w' => some (.inl .framework)
  | 'f' => some (.inl .format)
  | 'h' => some (.inr .help)
  | 'V' => some (.inr .version)
  | _ => none

/-- The kinds of words: the mark after which no options follow, an option by name with or without a
value, letters of options, or a plain word. -/
inductive Word where
  | separator
  | long (name : String) (value : Option String)
  | short (letters : List Char)
  | plain (text : String)
deriving DecidableEq, Repr, Inhabited

/-- The kind of a word. A single hyphen is a plain word. -/
def Word.ofText (text : String) : Word :=
  match text.toList with
  | ['-', '-'] => .separator
  | '-' :: '-' :: rest =>
      let name := rest.takeWhile (· ≠ '=')
      match rest.drop name.length with
      | [] => .long (String.ofList name) none
      | _ :: value => .long (String.ofList name) (some (String.ofList value))
  | '-' :: c :: rest => .short (c :: rest)
  | _ => .plain text

/-- The options that have been read. -/
structure Given where
  endpoint : Option DiskPath := none
  output : Option DiskPath := none
  projectRoot : Option DiskPath := none
  framework : Option Framework := none
  format : Option Format := none
  basePath : Option String := none
  searchPaths : List DiskPath := []
  inferSchemas : Bool := false
  debug : Bool := false
deriving Repr, Inhabited

/-- A path that is given as a value; it must not be empty. -/
def pathValue (value : String) : Except UsageError DiskPath :=
  if value = "" then .error .invalidValue else .ok ⟨value⟩

/-- A value that must be one of some names. -/
def namedValue {α : Type} (parse? : String → Option α) (value : String) : Except UsageError α :=
  (parse? value).elim (.error .invalidValue) .ok

/-- An option that is given once at most. -/
def once {α : Type} (old : Option α) (new : Except UsageError α) : Except UsageError α :=
  if old.isSome then .error .conflict else new

/-- Take up the value of an option. -/
def Given.set (given : Given) (setting : Setting) (value : String) : Except UsageError Given :=
  match setting with
  | .endpoint => (once given.endpoint (pathValue value)).map
      fun path => { given with endpoint := some path }
  | .output => (once given.output (pathValue value)).map
      fun path => { given with output := some path }
  | .projectRoot => (once given.projectRoot (pathValue value)).map
      fun path => { given with projectRoot := some path }
  | .framework => (once given.framework (namedValue Framework.parse? value)).map
      fun framework => { given with framework := some framework }
  | .format => (once given.format (namedValue Format.parse? value)).map
      fun format => { given with format := some format }
  | .basePath => (once given.basePath (.ok value)).map
      fun path => { given with basePath := some path }
  | .searchPath => (pathValue value).map
      fun path => { given with searchPaths := given.searchPaths ++ [path] }

/-- Take up an option without a value. -/
def Given.turnOn (given : Given) (switch : Switch) : Except UsageError Given :=
  match switch with
  | .inferSchemas =>
      if given.inferSchemas then .error .conflict else .ok { given with inferSchemas := true }
  | .debug => if given.debug then .error .conflict else .ok { given with debug := true }
  | .help => .error .helpWanted
  | .version => .error .versionWanted

/-- The options that count, and the one that was read last with its value, which does not count
yet. -/
structure Reading where
  given : Given := {}
  pending : Option (Setting × Option String) := none
deriving Repr, Inhabited

namespace Reading

/-- Let the pending option count. It must have a value by now. -/
def settle (reading : Reading) : Except UsageError Given :=
  match reading.pending with
  | none => .ok reading.given
  | some (_, none) => .error .invalidValue
  | some (setting, some value) => reading.given.set setting value

/-- Read an option that takes a value. A value that is attached to it counts at once. -/
def readSetting (reading : Reading) (setting : Setting) (value : Option String) :
    Except UsageError Reading := do
  let given ← reading.settle
  match value with
  | none => return ⟨given, some (setting, none)⟩
  | some value => return ⟨← given.set setting value, none⟩

/-- Read an option without a value. -/
def readSwitch (reading : Reading) (switch : Switch) : Except UsageError Reading := do
  let given ← reading.settle
  return ⟨← given.turnOn switch, none⟩

/-- The value that is attached to a letter: the rest of the word, without an equals sign before
it. -/
def attached : List Char → Option String
  | [] => none
  | '=' :: rest => some (String.ofList rest)
  | chars => some (String.ofList chars)

/-- Read the letters of a word. The first one that takes a value takes all that follows it. -/
def readLetters (reading : Reading) : List Char → Except UsageError Reading
  | [] => .ok reading
  | letter :: rest =>
      match shortFlag? letter with
      | none => .error .unknownArgument
      | some (.inl setting) => reading.readSetting setting (attached rest)
      | some (.inr switch) => do
          let next ← reading.readSwitch switch
          readLetters next rest

/-- Read a plain word: it is the value of an option that waits for one. -/
def readPlain (reading : Reading) (text : String) : Except UsageError Reading :=
  match reading.pending with
  | some (setting, none) => .ok { reading with pending := some (setting, some text) }
  | _ => .error .unknownArgument

/-- Read one word. -/
def readWord (reading : Reading) : Word → Except UsageError Reading
  | .separator => .ok reading
  | .long name value =>
      match longFlag? name, value with
      | none, _ => .error .unknownArgument
      | some (.inl setting), value => reading.readSetting setting value
      | some (.inr _), some _ => .error .tooManyValues
      | some (.inr switch), none => reading.readSwitch switch
  | .short letters => reading.readLetters letters
  | .plain text => reading.readPlain text

/-- Read the words of a command line. After the separator there must be none. -/
def readWords (reading : Reading) : List Word → Except UsageError Reading
  | [] => .ok reading
  | .separator :: rest => if rest.isEmpty then .ok reading else .error .unknownArgument
  | word :: rest => do
      let next ← reading.readWord word
      readWords next rest

end Reading

/-- What is asked for by the options that were given. -/
def Given.complete (given : Given) : Except UsageError Arguments :=
  match given.endpoint, given.output with
  | some endpoint, some output =>
      .ok {
        endpoint := endpoint
        output := output
        projectRoot := given.projectRoot.getD ⟨"."⟩
        framework := given.framework
        format := given.format.getD .json
        basePath := given.basePath
        searchPaths := given.searchPaths
        inferSchemas := given.inferSchemas
        debug := given.debug }
  | _, _ => .error .missingRequired

/-- The arguments that the words of a command line state. -/
def readArguments (words : List String) : Except UsageError Arguments := do
  let reading ← Reading.readWords {} (words.map Word.ofText)
  let given ← reading.settle
  given.complete

end RouteAtlas.CommandLine
