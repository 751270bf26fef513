import BlockFlow.Json.Display
import BlockFlow.Text.Blank
import BlockFlow.Text.Case

/-!
# Target languages

The four languages a program can be written in, and how a language is selected by name.
-/

namespace BlockFlow

/-- A target language. -/
inductive Language where
  | csharp
  | cpp
  | java
  | python
deriving DecidableEq, Repr

namespace Language

/-- Every language, in the order in which they are listed. -/
def all : List Language := [.csharp, .cpp, .java, .python]

/-- The name that selects a language. -/
def name : Language → String
  | .csharp => "csharp"
  | .cpp => "cpp"
  | .java => "java"
  | .python => "python"

/-- The name of a language in text. -/
def displayName : Language → String
  | .csharp => "C#"
  | .cpp => "C++"
  | .java => "Java"
  | .python => "Python"

/-- The ending of source files. -/
def extension : Language → String
  | .csharp => ".cs"
  | .cpp => ".cpp"
  | .java => ".java"
  | .python => ".py"

/-- The language with exactly this name. -/
def ofName? (name : Text) : Option Language :=
  all.find? fun language => name = language.name

/-- The language a value selects; blanks around the name and its case do not matter. -/
def select? (selector : Json) : Option Language :=
  ofName? (Text.lower (Text.trim selector.text))

end Language

end BlockFlow
