import BlockFlow.Text.Blank
import BlockFlow.Text.Case
import BlockFlow.Text.Number
import BlockFlow.Text.Quoted
import BlockFlow.Text.Word

/-!
# Expressions for Python

The editor's expressions are written in the style of C. For Python they are spelled anew as
text, without parsing: operators become words, a single slash becomes a double one, truth values get
capitals, increments move to lines of their own.
-/

namespace BlockFlow.Python

open Text (isBlank isWordChar)

/-! ## Operators -/

/-- Doubles every slash that has no slash next to it. The flag says whether the code point before
was a slash. -/
def doubleSlashes (afterSlash : Bool) : Text → Text
  | [] => []
  | c :: rest =>
    if c == .char '/' && !afterSlash && rest.head? != some (.char '/') then
      .char '/' :: .char '/' :: doubleSlashes true rest
    else c :: doubleSlashes (c == .char '/') rest

/-- Replaces a doubled operator character, together with the blanks around it, by a word. The blanks
read since the last other code point are held back; right after an operator they are dropped, and
nothing is held. -/
def spellOperator (operator : CodePoint) (word : Text) : Option Text → Text → Text
  | held, [] => (held.getD []).reverse
  | held, [c] => if isBlank c then ((held.map (c :: ·)).getD []).reverse
    else (held.getD []).reverse ++ [c]
  | held, c :: d :: rest =>
    if isBlank c then spellOperator operator word (held.map (c :: ·)) (d :: rest)
    else if c == operator && d == operator then word ++ spellOperator operator word none rest
    else (held.getD []).reverse ++ c :: spellOperator operator word (some []) (d :: rest)

/-- Replaces every exclamation mark that no equals sign follows, and the blanks after it, by `not`.
The flag says whether such blanks are being dropped. -/
def spellNegations (dropping : Bool) : Text → Text
  | [] => []
  | c :: rest =>
    if dropping && isBlank c then spellNegations true rest
    else if c == .char '!' && rest.head? != some (.char '=') then
      Text.ofString "not " ++ spellNegations true rest
    else c :: spellNegations false rest

/-- Replaces whole words. The word read so far is given last code point first. -/
def mapWords (f : Text → Text) (word : Text) : Text → Text
  | [] => f word.reverse
  | c :: rest =>
    if isWordChar c then mapWords f (c :: word) rest
    else f word.reverse ++ c :: mapWords f [] rest

/-- Replaces one word by another. -/
def replaceWord (old new : Text) (t : Text) : Text :=
  mapWords (fun word => if word = old then new else word) [] t

/-- Spells operators and truth values, step by step. -/
def spellSteps (t : Text) : Text :=
  let t := doubleSlashes false t
  let t := spellOperator (.char '&') " and " (some []) t
  let t := spellOperator (.char '|') " or " (some []) t
  let t := spellNegations false t
  let t := replaceWord "true" "True" t
  replaceWord "false" "False" t

/-- Spells operators and truth values; a quoted literal stays as it is. -/
def spell (t : Text) : Text :=
  if Text.isLiteral t then t else spellSteps t

/-! ## Lengths and increments -/

/-- Replaces `word.length` by `len(word)`. The word read so far is given last code point first;
`skip` code points belong to a replaced text. -/
def spellLengths : Nat → Text → Text → Text
  | _, word, [] => word.reverse
  | skip + 1, word, _ :: rest => spellLengths skip word rest
  | 0, word, c :: rest =>
    if isWordChar c then spellLengths 0 (c :: word) rest
    else if c == .char '.' && !word.isEmpty && rest.take 6 == "length"
        && !(rest.drop 6).head?.any isWordChar then
      Text.ofString "len(" ++ word.reverse ++ .char ')' :: spellLengths 6 [] rest
    else word.reverse ++ c :: spellLengths 0 [] rest

/-- What names consist of. -/
def isNameChar : CodePoint → Bool :=
  CodePoint.satisfies fun c => c.isAlphanum || c == '_' || c == '$'

/-- An increment or decrement of a variable by one. -/
structure Step where
  name : Text
  isIncrement : Bool
deriving DecidableEq, Repr

/-- A step as a statement. -/
def Step.statement (s : Step) : Text :=
  s.name ++ (if s.isIncrement then " += 1" else " -= 1")

/-- Takes the increments and decrements after names out of a text. The name read so far is given
last code point first. -/
def splitSteps (name : Text) : Text → Text × List Step
  | [] => (name.reverse, [])
  | [c] => if isNameChar c then ((c :: name).reverse, []) else (name.reverse ++ [c], [])
  | c :: d :: rest =>
    if isNameChar c then splitSteps (c :: name) (d :: rest)
    else if !name.isEmpty && c == d && (c == .char '+' || c == .char '-') then
      let split := splitSteps [] rest
      (name.reverse ++ split.1, ⟨name.reverse, c == .char '+'⟩ :: split.2)
    else
      let split := splitSteps [] (d :: rest)
      (name.reverse ++ c :: split.1, split.2)

/-- A text without its increments and decrements, and those as statements. -/
def splitIncrements (t : Text) : Text × List Text :=
  let split := splitSteps [] t
  (split.1, split.2.map Step.statement)

/-! ## Values -/

/-- What shows a text to be an expression. -/
def isCodeChar (c : CodePoint) : Bool :=
  (Text.ofString "+-*/%()[]<>=!&|.").contains c

/-- Whether a text is a name; one line break may follow it. -/
def isName : Text → Bool
  | [] => false
  | c :: rest =>
    let rest := if rest.getLast? == some (.char '\n') then rest.dropLast else rest
    isNameChar c && !c.satisfies Char.isDigit && rest.all isNameChar

/-- A truth value. -/
def truth (isTrue : Bool) : Text :=
  if isTrue then "True" else "False"

/-- A value of a tagged type. Numbers, literals and names stay, expressions are spelled anew, and
any other text is taken for a label and quoted. -/
def formatValue (value tag : Text) : Text :=
  let kind := Text.lower (Text.trim tag)
  let word := Text.lower (Text.trim value)
  if value = "" then "None"
  else if kind = "string" || kind = "char" then Text.literal "\"" value
  else if (kind = "boolean" || kind = "bool") && (word = "true" || word = "false") then
    truth (word = "true")
  else if value = "true" || value = "false" then truth (value = "true")
  else if Text.isNumber value || Text.isLiteral value then value
  else if value.any isCodeChar then spell (spellLengths 0 [] value)
  else if isName value then value
  else Text.literal "'" value

/-- The value the elements of a new array start with. -/
def initialValue (tag : Text) : Text :=
  match Text.string? (Text.lower (Text.trim tag)) with
  | some "int" => "0"
  | some "float" => "0.0"
  | some "double" => "0.0"
  | some "boolean" => "False"
  | some "bool" => "False"
  | some "string" => "\"\""
  | some "char" => "\"\""
  | _ => "None"

end BlockFlow.Python
