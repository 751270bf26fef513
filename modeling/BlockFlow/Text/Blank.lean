import BlockFlow.Text.Basic

/-!
# Blanks, trimming and splitting

What counts as blank space, how a text is trimmed, and how it is cut into words or at a separator.
-/

namespace BlockFlow.Text

/-- Blanks: the ASCII blanks, the four information separators and the Unicode spaces. -/
def isBlank (c : CodePoint) : Bool :=
  let n := c.toNat
  (0x09 ≤ n && n ≤ 0x0D) || (0x1C ≤ n && n ≤ 0x20) || n == 0x85 || n == 0xA0 || n == 0x1680
    || (0x2000 ≤ n && n ≤ 0x200A) || n == 0x2028 || n == 0x2029 || n == 0x202F || n == 0x205F
    || n == 0x3000

/-- A text without what has a property at either end. -/
def trimWhere (property : CodePoint → Bool) (t : Text) : Text :=
  ((t.dropWhile property).reverse.dropWhile property).reverse

/-- A text without the blanks at either end. -/
def trim (t : Text) : Text :=
  trimWhere isBlank t

/-- The pieces between separators; there is always one piece more than there are separators. -/
def splitWhere (isSeparator : CodePoint → Bool) : Text → List Text
  | [] => [[]]
  | c :: rest =>
    if isSeparator c then [] :: splitWhere isSeparator rest
    else
      match splitWhere isSeparator rest with
      | [] => [[c]]
      | piece :: pieces => (c :: piece) :: pieces

/-- The words of a text, which are its maximal runs without blanks. -/
def words (t : Text) : List Text :=
  (splitWhere isBlank t).filter (!·.isEmpty)

/-- The items of a comma-separated text: the trimmed pieces between commas, empty ones left out. -/
def items (t : Text) : List Text :=
  ((splitWhere (· == .char ',') t).map trim).filter (!·.isEmpty)

end BlockFlow.Text
