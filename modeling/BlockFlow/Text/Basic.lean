/-!
# Texts

A text is a list of code points. Most code points are characters, but an escape in a JSON text can
also name a surrogate that is not part of a pair. Such a code point can be compared and written as
an escape again, yet no file can hold it, so it has to be told apart from every character.
-/

namespace BlockFlow

/-- A code point: a character, or a surrogate by its distance from the first one. -/
inductive CodePoint where
  | char (c : Char)
  | surrogate (offset : Fin 0x800)
deriving DecidableEq, Repr

namespace CodePoint

/-- The number of a code point. -/
def toNat : CodePoint → Nat
  | .char c => c.toNat
  | .surrogate offset => 0xD800 + offset.val

/-- The code point with a number below `0x110000`. -/
def ofNat (n : Nat) : CodePoint :=
  if h : 0xD800 ≤ n ∧ n < 0xE000 then .surrogate ⟨n - 0xD800, by omega⟩ else .char (Char.ofNat n)

/-- The character a code point is. -/
def char? : CodePoint → Option Char
  | .char c => some c
  | .surrogate _ => none

/-- Whether a code point is a surrogate. -/
def isSurrogate : CodePoint → Bool
  | .char _ => false
  | .surrogate _ => true

/-- Whether a code point is a character with a property. -/
def satisfies (property : Char → Bool) : CodePoint → Bool
  | .char c => property c
  | .surrogate _ => false

end CodePoint

/-- A text. -/
abbrev Text := List CodePoint

namespace Text

/-- The text of a list of characters. -/
def ofChars (cs : List Char) : Text :=
  cs.map .char

/-- A string as a text. -/
def ofString (s : String) : Text :=
  ofChars s.toList

instance : Coe String Text := ⟨ofString⟩

/-- A text as a string, if it holds characters only. -/
def string? (t : Text) : Option String :=
  (t.mapM CodePoint.char?).map String.ofList

/-- Texts with a separator between them. -/
def joined (separator : Text) (texts : List Text) : Text :=
  separator.intercalate texts

/-- Texts with a line feed after each of them. -/
def unlines (texts : List Text) : Text :=
  texts.flatMap (· ++ [.char '\n'])

@[simp]
theorem ofChars_append (cs ds : List Char) : ofChars (cs ++ ds) = ofChars cs ++ ofChars ds :=
  List.map_append

@[simp]
theorem ofString_append (s t : String) : ofString (s ++ t) = ofString s ++ ofString t := by
  simp [ofString]

/-- A string is read back from its text. -/
@[simp]
theorem string?_ofString (s : String) : string? (ofString s) = some s := by
  have h (cs : List Char) : (ofChars cs).mapM CodePoint.char? = some cs := by
    induction cs with
    | nil => rfl
    | cons c rest ih =>
      simp only [ofChars, List.map_cons] at ih ⊢
      simp [List.mapM_cons, CodePoint.char?, ih]
  simp [string?, ofString, h]

end Text

end BlockFlow
