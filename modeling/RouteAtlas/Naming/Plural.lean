/-
Module: RouteAtlas.Naming.Plural
Layer: Naming
Purpose: English plurals, by a table of irregular words and rules on the end of a word that are tried
  in a fixed order. The rules are an approximation; they always give a text.
Trusted boundary: none
Main exports: irregularPlurals, pluralOf, pluralize
-/
import RouteAtlas.Text.Affix
import RouteAtlas.Text.Case

namespace RouteAtlas.Naming

/-- Words with a plural of their own. -/
def irregularPlurals : List (String × String) := [
  ("person", "people"), ("man", "men"), ("woman", "women"), ("child", "children"),
  ("foot", "feet"), ("tooth", "teeth"), ("goose", "geese"), ("mouse", "mice"), ("ox", "oxen"),
  ("leaf", "leaves"), ("life", "lives"), ("knife", "knives"), ("wife", "wives"), ("elf", "elves"),
  ("loaf", "loaves"), ("potato", "potatoes"), ("tomato", "tomatoes"), ("cactus", "cacti"),
  ("focus", "foci"), ("fungus", "fungi"), ("nucleus", "nuclei"), ("syllabus", "syllabi"),
  ("analysis", "analyses"), ("diagnosis", "diagnoses"), ("basis", "bases"), ("crisis", "crises"),
  ("thesis", "theses"), ("datum", "data"), ("medium", "media"), ("criterion", "criteria"),
  ("index", "indices"), ("matrix", "matrices"), ("vertex", "vertices"), ("alumnus", "alumni"),
  ("series", "series"), ("species", "species"), ("deer", "deer"), ("fish", "fish"),
  ("sheep", "sheep"), ("moose", "moose"), ("aircraft", "aircraft")]

/-- Words in consonant and `o` that take a plain `s`. -/
def plainOWords : List String := ["photo", "piano", "halo", "studio", "video", "radio", "solo"]

/-- The five vowels. -/
def isVowel (c : Char) : Bool := ['a', 'e', 'i', 'o', 'u'].contains c

/-- The last character but one is there and is no vowel. -/
def hasConsonantBeforeEnd (word : List Char) : Bool :=
  match word.reverse with
  | _ :: c :: _ => !isVowel c
  | _ => false

/-- Put `ending` in the place of the end `tail`, if the word has it. -/
def exchangeEnd? (tail ending : String) (word : List Char) : Option (List Char) :=
  (Text.dropSuffix? tail.toList word).map (· ++ ending.toList)

/-- The number of bytes that a word takes. -/
def byteLength (word : List Char) : Nat := word.foldr (fun c count => c.utf8Size + count) 0

/-- The endings of Greek and Latin words. Words of three letters, such as `bus` and `gas`, never
take them. -/
def classicalPlural? (word : List Char) : Option (List Char) :=
  if byteLength word > 3 then
    (exchangeEnd? "is" "es" word).or <|
      (exchangeEnd? "on" "a" word).or (exchangeEnd? "us" "i" word)
  else none

/-- The endings of English words that change. -/
def changedPlural? (word : List Char) : Option (List Char) :=
  (exchangeEnd? "f" "ves" word).or <|
    (exchangeEnd? "fe" "ves" word).or <|
      (if hasConsonantBeforeEnd word then exchangeEnd? "y" "ies" word else none).or <|
        (if hasConsonantBeforeEnd word then
          exchangeEnd? "o" (if plainOWords.contains (String.ofList word) then "os" else "oes") word
        else none).or <|
          (exchangeEnd? "ex" "ices" word).or (exchangeEnd? "ix" "ices" word)

/-- Words that end in a sibilant take `es`, all others `s`. -/
def regularPlural (word : List Char) : List Char :=
  let sibilant :=
    ["s", "ss", "sh", "ch", "x", "z"].any fun tail =>
      (Text.dropSuffix? tail.toList word).isSome
  word ++ (if sibilant then ['e', 's'] else ['s'])

/-- The plural of a word in lower case. -/
def pluralOf (word : List Char) : List Char :=
  match irregularPlurals.lookup (String.ofList word) with
  | some plural => plural.toList
  | none => ((classicalPlural? word).or (changedPlural? word)).getD (regularPlural word)

/-- The plural of a word in any case, in lower case. The empty word has no plural. -/
def pluralize (word : String) : String :=
  if word = "" then "" else String.ofList (pluralOf (Text.lowercase word).toList)

end RouteAtlas.Naming
