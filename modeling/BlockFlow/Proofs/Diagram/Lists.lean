import BlockFlow.Proofs.Diagram.Placement
import BlockFlow.Proofs.Text.Items
import BlockFlow.Source.Rendering
import Mathlib.Data.List.Forall2

/-!
# Parameters and arguments

Two fields of a block hold a list in text form: the parameters of a function, each a type and a name
or a name alone, and the arguments of a call or of a new object. Every parameter is read from an
item of its own, which has at least one word (`Param.ReadFrom`), and parameters with a type and a
name are read back from their text. Arguments are items, so the list that a language writes between
the parentheses of a call is read back as the arguments of the call.
-/

namespace BlockFlow

/-! ## Parameters -/

namespace Param

/-- A parameter whose type and name are single words. -/
structure IsBare (p : Param) : Prop where
  typeName : p.typeName.IsBare
  name : p.name.IsBare

/-- The text of a parameter. -/
def text (p : Param) : Text :=
  p.typeName ++ " " ++ p.name

/-- A parameter that is read from the first words of an item. -/
inductive ReadFrom (item : Text) : Param → Prop
  /-- A single word is a name. -/
  | named {name : Text} (h : Text.words item = [name]) : ReadFrom item ⟨"var", name⟩
  /-- The first of several words is a type and the second one a name. -/
  | typed {typeName name : Text} {more : List Text}
      (h : Text.words item = typeName :: name :: more) : ReadFrom item ⟨typeName, name⟩

/-- An item with a word gives a parameter that is read from it. -/
theorem readFrom_ofWords {item : Text} (h : Text.words item ≠ []) :
    ReadFrom item (ofWords (Text.words item)) := by
  match hwords : Text.words item with
  | [] => exact absurd hwords h
  | [name] => exact .named hwords
  | typeName :: name :: more => exact .typed hwords

/-- A parameter that is read from an item has single words for its parts. -/
theorem ReadFrom.isBare {item : Text} {p : Param} (h : ReadFrom item p)
    (hitem : item.IsItem) : p.IsBare := by
  have hwords : ∀ word ∈ Text.words item, word.IsBare :=
    fun word hword => Text.isBare_of_mem_words hitem.undivided hword
  cases h with
  | named h =>
    rw [h, List.forall_mem_singleton] at hwords
    have hvar : Text.IsBare "var" := ⟨by decide, by decide, by decide⟩
    exact ⟨hvar, hwords⟩
  | typed h =>
    rw [h, List.forall_mem_cons, List.forall_mem_cons] at hwords
    exact ⟨hwords.1, hwords.2.1⟩

/-- The items of a text give one parameter each. -/
theorem forall₂_readFrom (t : Text) :
    List.Forall₂ ReadFrom (Text.items t) (ofItems (Text.items t)) := by
  rw [ofItems, List.forall₂_map_right_iff, List.forall₂_same]
  exact fun item hitem => readFrom_ofWords (Text.words_ne_nil_of_mem_items hitem)

/-- So have all parameters of a text. -/
theorem isBare_of_mem_ofItems {t : Text} {p : Param} (h : p ∈ ofItems (Text.items t)) :
    p.IsBare := by
  obtain ⟨item, hitem, rfl⟩ := List.mem_map.1 h
  exact (readFrom_ofWords (Text.words_ne_nil_of_mem_items hitem)).isBare
    (Text.isItem_of_mem_items hitem)

/-- Parameters are read back from their texts joined by commas. -/
theorem ofItems_joined_text {ps : List Param} (h : ∀ p ∈ ps, p.IsBare) :
    ofItems (Text.items (Text.joined ", " (ps.map text))) = ps := by
  have hitems : ∀ t ∈ ps.map text, t.IsItem := by
    intro t ht
    obtain ⟨p, hp, rfl⟩ := List.mem_map.1 ht
    exact (h p hp).typeName.isItem_append (h p hp).name
  have hread : Text.items (Text.joined ", " (ps.map text)) = ps.map text :=
    @Text.items_joined " " (by decide) _ hitems
  have hback : ∀ p ∈ ps, ofWords (Text.words p.text) = p := by
    intro p hp
    rw [text, (h p hp).typeName.words_append (h p hp).name]
    rfl
  rw [hread, ofItems, List.map_map]
  exact (List.map_congr_left hback).trans (List.map_id ps)

/-- The parameters of a text, one for each of its items, have a type and a name that are single
words without commas. Any list of such parameters is read back from its text. -/
theorem read_bare_and_back :
    (∀ t : Text, List.Forall₂ ReadFrom (Text.items t) (ofItems (Text.items t)) ∧
      ∀ p ∈ ofItems (Text.items t), p.IsBare) ∧
    ∀ ps : List Param, (∀ p ∈ ps, p.IsBare) →
      ofItems (Text.items (Text.joined ", " (ps.map text))) = ps :=
  ⟨fun t => ⟨forall₂_readFrom t, fun _ hp => isBare_of_mem_ofItems hp⟩,
    fun _ h => ofItems_joined_text h⟩

/-- A type with brackets and a type that was left out are read back. -/
theorem read_bare_and_back_pair :
    IsBare ⟨"int[]", "n"⟩ ∧ IsBare ⟨"var", "x"⟩ ∧
      ofItems (Text.items (Text.joined ", " ([⟨"int[]", "n"⟩, ⟨"var", "x"⟩].map text))) =
        [⟨"int[]", "n"⟩, ⟨"var", "x"⟩] := by
  have hn : IsBare ⟨"int[]", "n"⟩ :=
    ⟨⟨by decide, by decide, by decide⟩, ⟨by decide, by decide, by decide⟩⟩
  have hx : IsBare ⟨"var", "x"⟩ :=
    ⟨⟨by decide, by decide, by decide⟩, ⟨by decide, by decide, by decide⟩⟩
  exact ⟨hn, hx, read_bare_and_back.2 _ (by simp [hn, hx])⟩

/-- Words beyond the second one are not read, and blanks of any kind count as such. -/
example : ofItems (Text.items " int\t a , , b,String s = c") =
    [⟨"int", "a"⟩, ⟨"var", "b"⟩, ⟨"String", "s"⟩] := by
  decide

end Param

/-! ## Arguments -/

namespace Statement

/-- The arguments of a call or of a new object. -/
def arguments {δ : Type} : Statement δ → List Text
  | .call _ args _ => args
  | .create _ _ args _ => args
  | _ => []

/-- What a language writes before and after the arguments of a call or of a new object. In C++ an
object without arguments has no parentheses. -/
def aroundArguments? {δ : Type} (language : Language) : Statement δ → Option (Text × Text)
  | .call name _ _ => some (name ++ "(", if language = .python then ")" else ");")
  | .create var className args _ =>
    match language with
    | .csharp | .java => some (className ++ " " ++ var ++ " = new " ++ className ++ "(", ");")
    | .cpp =>
      if args.isEmpty then some (className ++ " " ++ var, ";")
      else some (className ++ " " ++ var ++ "(", ");")
    | .python => some (var ++ " = " ++ className ++ "(", ")")
  | _ => none

/-- A call or a new object is one line, with its arguments separated by commas. -/
theorem write_of_aroundArguments? {language : Language} {s : Statement Unit} {before after : Text}
    (h : s.aroundArguments? language = some (before, after)) (w : Writer) (scopes : Scopes) :
    s.write language w scopes =
      (w.writeLine (before ++ Text.joined ", " s.arguments ++ after), scopes) := by
  -- Both languages with and without braces write one line, and nothing is brought into scope.
  suffices hline : (s.mark language.inlinesDefault scopes).1.linesIn language =
      [Line.plain (before ++ Text.joined ", " s.arguments ++ after)] ∧
      (s.mark language.inlinesDefault scopes).2 = scopes by
    rw [write, hline.1, hline.2]
    exact congrArg (·, scopes) (w.put_eq_writeLine rfl)
  cases s with
  | call name args id =>
    simp only [aroundArguments?, Option.some.injEq, Prod.mk.injEq] at h
    obtain ⟨rfl, rfl⟩ := h
    cases language <;> exact ⟨rfl, rfl⟩
  | create var className args id =>
    cases language with
    | csharp | java | python =>
      simp only [aroundArguments?, Option.some.injEq, Prod.mk.injEq] at h
      obtain ⟨rfl, rfl⟩ := h
      exact ⟨rfl, rfl⟩
    -- Only here does the line depend on whether there are arguments.
    | cpp =>
      cases args with
      | nil =>
        simp only [aroundArguments?, List.isEmpty_nil, if_true, Option.some.injEq,
          Prod.mk.injEq] at h
        obtain ⟨rfl, rfl⟩ := h
        refine ⟨?_, rfl⟩
        simp [mark, linesIn, Language.dialect?, Braces.lines, Braces.Dialect.createLine, arguments,
          Text.joined]
      | cons arg args =>
        simp only [aroundArguments?, List.isEmpty_cons, Bool.false_eq_true, if_false,
          Option.some.injEq, Prod.mk.injEq] at h
        obtain ⟨rfl, rfl⟩ := h
        exact ⟨rfl, rfl⟩
  | _ => cases h

@[simp]
theorem arguments_shell {δ : Type} (s : Statement δ) : s.shell.arguments = s.arguments := by
  cases s <;> rfl

end Statement

/-- A block has its arguments from the items of a field. -/
theorem Node.isItem_of_mem_arguments (n : Node) : ∀ arg ∈ n.statement.arguments, arg.IsItem := by
  unfold Node.statement
  cases n.kind with
  | functionCall | objectCreate => exact fun arg => Text.isItem_of_mem_items
  | _ => exact nofun

namespace Diagram

/-- In a program that is built from a diagram all arguments are items. -/
theorem isItem_of_mem_arguments_build {g : Diagram} {expand : Bool} {s : Statement Unit}
    (hs : s ∈ (g.build expand).walk) : ∀ arg ∈ s.arguments, arg.IsItem := by
  obtain ⟨node, -, hshell⟩ := exists_node_of_mem_walk_build hs
  rw [← Statement.arguments_shell, hshell]
  exact node.isItem_of_mem_arguments

/-- Lists in text form are normalised once. The items of a text are never empty, hold no comma and
have no blank at either end; such items are read back from a list of them, so reading a list that
was read and written changes nothing. In particular the arguments of every call and every new object
that is built from a diagram are read back from the line that a language writes for it. -/
theorem lists_normalised_once :
    (∀ t : Text, ∀ item ∈ Text.items t, item.IsItem) ∧
    (∀ texts : List Text, (∀ t ∈ texts, t.IsItem) →
      Text.items (Text.joined ", " texts) = texts ∧ Text.items (Text.joined "," texts) = texts) ∧
    (∀ t : Text, Text.items (Text.joined ", " (Text.items t)) = Text.items t) ∧
    ∀ (g : Diagram) (expand : Bool), ∀ s ∈ (g.build expand).walk,
      ∀ (language : Language) (before after : Text),
        s.aroundArguments? language = some (before, after) →
          ∀ (w : Writer) (scopes : Scopes), ∃ rendered,
            s.write language w scopes = (w.writeLine (before ++ rendered ++ after), scopes) ∧
              Text.items rendered = s.arguments := by
  have hjoined {texts : List Text} (h : ∀ t ∈ texts, t.IsItem) :
      Text.items (Text.joined ", " texts) = texts := @Text.items_joined " " (by decide) _ h
  refine ⟨fun t item => Text.isItem_of_mem_items, fun texts h => ⟨hjoined h, ?_⟩,
    fun t => hjoined fun item => Text.isItem_of_mem_items, ?_⟩
  · exact @Text.items_joined [] nofun _ h
  · intro g expand s hs language before after h w scopes
    exact ⟨_, Statement.write_of_aroundArguments? h w scopes,
      hjoined (isItem_of_mem_arguments_build hs)⟩

/-- A diagram whose only block after the start calls a function, with blanks and commas to spare. -/
def spaciousCall : Diagram where
  nodes := [⟨"start", "input", []⟩,
    ⟨"a", "functionCall", [("name", .str "f"), ("args", .str " x ,, g y,")]⟩]
  edges := [⟨"start", "a", .null, .null, none⟩]

/-- A call whose field held empty items is written with the two that count. -/
theorem lists_normalised_once_spaciousCall :
    (∀ t ∈ [Text.ofString "x", "g y"], t.IsItem) ∧
    Text.items (Text.joined "," ["x", "g y"]) = ["x", "g y"] ∧
    .call "f" ["x", "g y"] (some "a") ∈ (spaciousCall.build false).walk ∧
    ∃ rendered, (Statement.call "f" ["x", "g y"] (some "a")).write .java (Writer.new 0 "//")
        (Scopes.new false) =
          ((Writer.new 0 "//").writeLine ("f" ++ "(" ++ rendered ++ ");"), Scopes.new false) ∧
      Text.items rendered = ["x", "g y"] := by
  have hitems : ∀ t ∈ [Text.ofString "x", "g y"], t.IsItem :=
    fun t ht => lists_normalised_once.1 "x, g y" t (by revert t; decide)
  have hmem : .call "f" ["x", "g y"] (some "a") ∈ (spaciousCall.build false).walk := by decide
  exact ⟨hitems, (lists_normalised_once.2.1 _ hitems).2, hmem,
    lists_normalised_once.2.2.2 spaciousCall false _ hmem .java _ _ rfl _ _⟩

end Diagram

end BlockFlow
