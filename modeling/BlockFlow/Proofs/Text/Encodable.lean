import BlockFlow.Json.Display
import BlockFlow.Json.Printer
import BlockFlow.Proofs.Text.Splitting
import BlockFlow.Text.Case
import BlockFlow.Text.Utf8
import Mathlib.Data.List.Basic
import Mathlib.Data.List.TakeWhile
import Mathlib.Tactic.SplitIfs

/-!
# Texts that can be encoded

A text can be written to a file if it holds no surrogate. Texts are put together from characters and
from pieces of other texts, so whatever is made of texts without surrogates has none either. The
printed form of a JSON value never has any, because everything beyond ASCII is escaped in it.
-/

namespace BlockFlow

namespace Text

/-- A text without surrogates. -/
def Encodable (t : Text) : Prop :=
  ∀ c ∈ t, c.isSurrogate = false

instance (t : Text) : Decidable t.Encodable :=
  inferInstanceAs (Decidable (∀ c ∈ t, c.isSurrogate = false))

/-- Nothing else keeps a text from being encoded. -/
theorem Utf8.unencodable?_eq_none_iff (t : Text) : unencodable? t = none ↔ t.Encodable := by
  unfold unencodable?
  split
  case h_1 h =>
    rw [List.dropWhile_eq_nil_iff] at h
    simpa [Encodable] using h
  case h_2 first rest h =>
    refine iff_of_false nofun fun hfree => ?_
    have hnil : t.dropWhile (!·.isSurrogate) = [] := by
      rw [List.dropWhile_eq_nil_iff]
      simpa [Encodable] using hfree
    rw [hnil] at h
    cases h

/-! ## Putting texts together -/

@[simp]
theorem encodable_nil : Encodable [] :=
  nofun

@[simp]
theorem encodable_cons {c : CodePoint} {t : Text} :
    Encodable (c :: t) ↔ c.isSurrogate = false ∧ t.Encodable :=
  List.forall_mem_cons

@[simp]
theorem encodable_append {s t : Text} : (s ++ t).Encodable ↔ s.Encodable ∧ t.Encodable :=
  List.forall_mem_append

@[simp]
theorem encodable_reverse {t : Text} : Encodable t.reverse ↔ t.Encodable := by
  simp [Encodable]

/-- No character is a surrogate. -/
@[simp]
theorem isSurrogate_char (c : Char) : (CodePoint.char c).isSurrogate = false :=
  rfl

/-- A text of characters is encodable. -/
@[simp]
theorem encodable_ofChars (cs : List Char) : (ofChars cs).Encodable := by
  simp [Encodable, ofChars]

/-- So is a text that is given as a string. -/
@[simp]
theorem encodable_ofString (s : String) : (ofString s).Encodable :=
  encodable_ofChars _

/-- So is what consists of code points of an encodable text. -/
theorem Encodable.subset {s t : Text} (h : t.Encodable) (hsub : s ⊆ t) : s.Encodable :=
  fun c hc => h c (hsub hc)

/-- So is what is written piece by piece. -/
theorem encodable_flatMap {α : Type} {xs : List α} {f : α → Text} (h : ∀ x ∈ xs, (f x).Encodable) :
    Encodable (xs.flatMap f) := by
  intro c hc
  obtain ⟨x, hx, hmem⟩ := List.mem_flatMap.1 hc
  exact h x hx c hmem

/-- Joining adds nothing but separators. -/
theorem encodable_joined {separator : Text} {texts : List Text} (hseparator : separator.Encodable)
    (h : ∀ t ∈ texts, t.Encodable) : (joined separator texts).Encodable := by
  induction texts with
  | nil => exact encodable_nil
  | cons t rest ih =>
    rw [List.forall_mem_cons] at h
    have hrest := ih h.2
    -- A separator is written only if another text follows.
    cases rest with
    | nil => simpa [joined] using h.1
    | cons u rest =>
      rw [joined] at hrest ⊢
      rw [List.intercalate_cons_cons]
      simp [h.1, hseparator, hrest]

/-! ## Pieces of texts -/

variable {t : Text}

/-- Trimming removes code points at most. -/
theorem trimWhere_subset (property : CodePoint → Bool) (t : Text) : trimWhere property t ⊆ t := by
  intro c hc
  rw [trimWhere, List.mem_reverse] at hc
  have hkept := List.mem_reverse.1 ((List.dropWhile_sublist _).subset hc)
  exact (List.dropWhile_sublist _).subset hkept

/-- A trimmed text is encodable. -/
theorem Encodable.trim (h : t.Encodable) : (trim t).Encodable :=
  h.subset (trimWhere_subset _ t)

/-- So are the pieces of a text. -/
theorem Encodable.of_mem_splitWhere (h : t.Encodable) {isSeparator : CodePoint → Bool} :
    ∀ piece ∈ splitWhere isSeparator t, Encodable piece :=
  fun piece hpiece => h.subset (subset_of_mem_splitWhere piece hpiece)

/-- So are its words. -/
theorem Encodable.of_mem_words (h : t.Encodable) : ∀ word ∈ words t, Encodable word :=
  fun word hword => h.of_mem_splitWhere word (List.mem_of_mem_filter hword)

/-- So are the items of a list in text form. -/
theorem Encodable.of_mem_items (h : t.Encodable) : ∀ item ∈ items t, Encodable item := by
  intro item hitem
  obtain ⟨piece, hpiece, rfl⟩ := List.mem_map.1 (List.mem_of_mem_filter hitem)
  exact (h.of_mem_splitWhere piece hpiece).trim

/-! ## Case and quotes -/

/-- Lower case brings in no surrogates, whatever was read before. -/
theorem encodable_lowerAfter (h : t.Encodable) (before : Text) :
    (lowerAfter before t).Encodable := by
  induction t generalizing before with
  | nil => exact encodable_nil
  | cons c rest ih =>
    rw [encodable_cons] at h
    cases c with
    | surrogate offset => cases h.1
    | char c =>
      simp only [lowerAfter, encodable_append]
      refine ⟨?_, ih h.2 _⟩
      split
      · split <;> simp
      · exact encodable_ofChars _

/-- A text in lower case is encodable. -/
theorem Encodable.lower (h : t.Encodable) : (lower t).Encodable :=
  encodable_lowerAfter h []

/-- A literal has the text and its quotation marks. -/
theorem Encodable.literal (h : t.Encodable) {mark : Text} (hmark : mark.Encodable) :
    (literal mark t).Encodable := by
  unfold Text.literal
  split
  · exact h
  · simp [hmark, h]

/-- An escape consists of characters. -/
@[simp]
theorem encodable_escape (letter : Char) (width n : Nat) : (escape letter width n).Encodable := by
  simp [escape, hex]

/-- A code point is shown as itself or as an escape. -/
theorem encodable_showPoint (mark : Char) {c : CodePoint} (h : c.isSurrogate = false) :
    (showPoint mark c).Encodable := by
  unfold showPoint
  split_ifs <;> simp [h]

/-- A quoted text is encodable. -/
theorem Encodable.quoted (h : t.Encodable) : (quoted t).Encodable := by
  have hpoints : Encodable (t.flatMap (showPoint (showMark t))) :=
    encodable_flatMap fun c hc => encodable_showPoint _ (h c hc)
  simpa [Text.quoted] using hpoints

end Text

/-! ## JSON values -/

namespace Json

open Text (encodable_joined encodable_flatMap)

mutual

/-- A value whose strings and keys hold no surrogates. -/
def Encodable : Json → Prop
  | .str s => s.Encodable
  | .arr items => EncodableItems items
  | .obj fields => EncodableFields fields
  | _ => True

/-- Items whose strings and keys hold no surrogates. -/
def EncodableItems : List Json → Prop
  | [] => True
  | item :: rest => item.Encodable ∧ EncodableItems rest

/-- Fields whose strings and keys hold no surrogates. -/
def EncodableFields : List (Text × Json) → Prop
  | [] => True
  | (key, value) :: rest => key.Encodable ∧ value.Encodable ∧ EncodableFields rest

end

/-- Items are encodable if each of them is. -/
theorem encodableItems_iff (items : List Json) :
    EncodableItems items ↔ ∀ item ∈ items, item.Encodable := by
  induction items with
  | nil => simp [EncodableItems]
  | cons item rest ih => simp [EncodableItems, ih]

/-- The value of a field is encodable, also if there is no such field. -/
theorem EncodableFields.get {fields : Fields} (h : EncodableFields fields) (key : Text) :
    (Fields.get fields key).Encodable := by
  induction fields with
  | nil => trivial
  | cons field rest ih =>
    obtain ⟨k, value⟩ := field
    obtain ⟨-, hvalue, hrest⟩ := h
    rw [Fields.get_cons]
    split
    · exact hvalue
    · exact ih hrest

mutual

/-- A value is shown with its own strings and keys. -/
theorem encodable_shown : ∀ j : Json, j.Encodable → j.shown.Encodable
  | .null, _ => Text.encodable_ofString _
  | .bool b, _ => by cases b <;> exact Text.encodable_ofString _
  | .int _, _ => Text.encodable_ofString _
  | .float _, _ => Text.encodable_ofString _
  | .str _, h => Text.Encodable.quoted h
  | .arr items, h => by
    have hitems := encodable_joined (Text.encodable_ofString ", ") (encodable_shownItems items h)
    simpa [shown] using hitems
  | .obj fields, h => by
    have hfields := encodable_joined (Text.encodable_ofString ", ") (encodable_shownFields fields h)
    simpa [shown] using hfields

/-- So are the items of a list. -/
theorem encodable_shownItems : ∀ items : List Json, EncodableItems items →
    ∀ t ∈ shownItems items, t.Encodable
  | [], _ => List.forall_mem_nil _
  | item :: rest, h => by
    rw [shownItems, List.forall_mem_cons]
    exact ⟨encodable_shown item h.1, encodable_shownItems rest h.2⟩

/-- So are the fields of an object. -/
theorem encodable_shownFields : ∀ fields : List (Text × Json), EncodableFields fields →
    ∀ t ∈ shownFields fields, t.Encodable
  | [], _ => List.forall_mem_nil _
  | (key, value) :: rest, ⟨hkey, hvalue, hrest⟩ => by
    rw [shownFields, List.forall_mem_cons]
    refine ⟨?_, encodable_shownFields rest hrest⟩
    simp [Text.Encodable.quoted hkey, encodable_shown value hvalue]

end

/-- The text of a value is encodable. -/
theorem Encodable.text {j : Json} (h : j.Encodable) : j.text.Encodable := by
  cases j with
  | str s => exact h
  | _ => exact encodable_shown _ h

/-- So is the text of a field. -/
theorem EncodableFields.text {fields : Fields} (h : EncodableFields fields) (key : Text) :
    (Fields.text fields key).Encodable := by
  have hget := h.get key
  unfold Fields.text
  split
  · exact Text.encodable_ofString _
  · exact hget.text

/-! ### Printed values -/

/-- A code point that stands for itself in a JSON string is an ASCII character. -/
theorem encodable_escapePoint (c : CodePoint) : (escapePoint c).Encodable := by
  cases c with
  | char c =>
    unfold escapePoint
    split_ifs <;> simp [encodable_flatMap]
  | surrogate offset =>
    have hrange : ¬ (0xD800 + offset.val ≤ 0x7E) := by omega
    unfold escapePoint
    simp [CodePoint.toNat, hrange, encodable_flatMap]

/-- A printed string is encodable, whatever the string holds. -/
@[simp]
theorem encodable_stringText (t : Text) : (stringText t).Encodable := by
  simp [stringText, encodable_flatMap fun c _ => encodable_escapePoint c]

/-- Brackets, line breaks and commas are encodable. -/
theorem encodable_bracketed {opening closing : Text} {entries : List Text} (level : Nat)
    (hopening : opening.Encodable) (hclosing : closing.Encodable)
    (h : ∀ t ∈ entries, t.Encodable) :
    (bracketed opening closing level entries).Encodable := by
  have hbreak (level : Nat) : (lineBreak level).Encodable := Text.encodable_ofChars _
  have hentries : (Text.joined ("," ++ lineBreak (level + 1)) entries).Encodable :=
    encodable_joined (by simp [hbreak]) h
  unfold bracketed
  split <;> simp [hopening, hclosing, hbreak, hentries]

mutual

/-- A printed value holds no surrogates, whatever the value holds. -/
theorem encodable_indentedAt (level : Nat) : ∀ j : Json, (indentedAt level j).Encodable
  | .null => Text.encodable_ofString _
  | .bool b => by cases b <;> exact Text.encodable_ofString _
  | .int _ => Text.encodable_ofString _
  | .float _ => Text.encodable_ofString _
  | .str s => encodable_stringText s
  | .arr items => encodable_bracketed level (Text.encodable_ofString _) (Text.encodable_ofString _)
      (encodable_indentedItems (level + 1) items)
  | .obj fields => encodable_bracketed level (Text.encodable_ofString _) (Text.encodable_ofString _)
      (encodable_indentedFields (level + 1) fields)

/-- Nor do printed items. -/
theorem encodable_indentedItems (level : Nat) : ∀ items : List Json,
    ∀ t ∈ indentedItems level items, t.Encodable
  | [] => List.forall_mem_nil _
  | item :: rest => by
    rw [indentedItems, List.forall_mem_cons]
    exact ⟨encodable_indentedAt level item, encodable_indentedItems level rest⟩

/-- Nor do printed fields. -/
theorem encodable_indentedFields (level : Nat) : ∀ fields : List (Text × Json),
    ∀ t ∈ indentedFields level fields, t.Encodable
  | [] => List.forall_mem_nil _
  | (key, value) :: rest => by
    rw [indentedFields, List.forall_mem_cons]
    exact ⟨by simp [encodable_indentedAt level value], encodable_indentedFields level rest⟩

end

/-- A JSON document can always be encoded. -/
theorem encodable_indented (j : Json) : j.indented.Encodable :=
  encodable_indentedAt 0 j

end Json

end BlockFlow
