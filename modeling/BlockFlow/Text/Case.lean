import BlockFlow.Text.Basic
import BlockFlow.Text.Case.Tables

/-!
# Lower and upper case

Full case mapping of texts: a character may become several, and a capital sigma becomes the final
small sigma at the end of a word. A surrogate has no case.
-/

namespace BlockFlow.Text

/-- One character mapped by the runs of a case table, or by its expansions. -/
def mapCase (runs : List CaseRun) (expansions : List (Nat × List Nat)) (c : Char) : List Char :=
  match expansions.lookup c.toNat with
  | some codes => codes.map Char.ofNat
  | none =>
    match runs.find? (·.contains c.toNat) with
    | some run => [Char.ofNat (c.toNat + run.shift).toNat]
    | none => [c]

/-- The lower case of a character on its own. -/
def lowerChar (c : Char) : List Char :=
  if c.toNat < 0x80 then [c.toLower] else mapCase lowerRuns lowerExpansions c

/-- The upper case of a character. -/
def upperChar (c : Char) : List Char :=
  if c.toNat < 0x80 then [c.toUpper] else mapCase upperRuns upperExpansions c

/-- A code point mapped as a character; a surrogate stays. -/
def mapPoint (f : Char → List Char) : CodePoint → Text
  | .char c => ofChars (f c)
  | .surrogate offset => [.surrogate offset]

/-- Whether the nearest code point that is not skipped has case. -/
def meetsCased (neighbours : Text) : Bool :=
  match neighbours.dropWhile (caseIgnorableRanges.contains ·.toNat) with
  | [] => false
  | c :: _ => casedRanges.contains c.toNat

/-- Lower case of what stands after `before`, which is given last first. A sigma is final when a
cased character stands before it and none after it. -/
def lowerAfter (before : Text) : Text → Text
  | [] => []
  | c :: rest =>
    let here :=
      if c == .char 'Σ' then
        if meetsCased before && !meetsCased rest then [.char 'ς'] else [.char 'σ']
      else mapPoint lowerChar c
    here ++ lowerAfter (c :: before) rest

/-- A text in lower case. -/
def lower (t : Text) : Text :=
  lowerAfter [] t

/-- A text in upper case. -/
def upper (t : Text) : Text :=
  t.flatMap (mapPoint upperChar)

end BlockFlow.Text
