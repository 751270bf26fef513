import BlockFlow.Diagram.Building
import BlockFlow.Diagram.Loading
import BlockFlow.Program.Codec
import BlockFlow.Settings
import BlockFlow.Source.Rendering

/-!
# Sessions

A session is one run of the compiler. Its settings are consulted only where a choice is left open,
and what could not be understood in them is reported the first time they are. Everything that is
reported goes to the log of the session, also when the run fails.
-/

namespace BlockFlow

/-- Why a diagram or program cannot be compiled. -/
inductive CompileError where
  /-- The selector names none of the languages. -/
  | unsupportedLanguage (selector : Json)
  /-- The value is not a saved program. -/
  | notAProgram (cause : Program.LoadError)
  /-- The blocks or arrows are given by a value that has no entries. -/
  | notIterable (cause : NotIterable)
deriving DecidableEq

/-- The wording of a compile error. -/
def CompileError.message : CompileError → Text
  | .unsupportedLanguage selector => "Unsupported language: " ++ selector.shown
  | .notAProgram cause => cause.message
  | .notIterable cause => cause.message

/-- The state of a session. -/
structure Session where
  settings : Settings
  /-- What is reported when the settings are consulted for the first time. -/
  notices : List Log.Entry
  consulted : Bool
  log : List Log.Entry

namespace Session

/-- A session in an environment. -/
def start (env : Environment) : Session :=
  let settings := Settings.load env
  ⟨settings.1, settings.2, false, []⟩

end Session

/-- A job inside a session. -/
abbrev Job := ExceptT CompileError (StateM Session)

namespace Job

/-- Adds entries to the log. -/
def report (entries : List Log.Entry) : Job Unit :=
  modify fun s => { s with log := s.log ++ entries }

/-- The settings of the session. -/
def settings : Job Settings := do
  let s ← get
  unless s.consulted do
    set { s with consulted := true, log := s.log ++ s.notices }
  return s.settings

/-- The language a value selects. -/
def language (selector : Json) : Job Language :=
  match Language.select? selector with
  | some language => pure language
  | none => throw (.unsupportedLanguage selector)

/-- Whether nested definitions are expanded: as the caller says, else as configured. -/
def expansion (choice : Option Bool) : Job Bool := do
  match choice with
  | some expand => pure expand
  | none => return (← settings).expandNested

/-- Whether blocks have scopes of their own: as the caller says, else as configured. -/
def blockScoping (choice : Option Bool) : Job Bool := do
  match choice with
  | some blockScoped => pure blockScoped
  | none => return (← settings).blockScoped

/-- Loads a diagram. -/
def loadDiagram (nodes edges : Json) : Job Diagram := do
  let loaded := Diagram.load nodes edges
  report loaded.2
  match loaded.1 with
  | .ok g => pure g
  | .error e => throw (.notIterable e)

/-- Builds the program of a loaded diagram. -/
def buildDiagram (g : Diagram) (expand : Bool) : Job (Program Unit) := do
  let p := g.build expand
  report ((g.buildEvents expand).map Build.Event.entry
    ++ [⟨.debug, .building, "Built program: " ++ p.sizes⟩])
  return p

/-- Loads a diagram and builds its program. -/
def build (nodes edges : Json) (expand : Option Bool) : Job (Program Unit) := do
  let g ← loadDiagram nodes edges
  buildDiagram g (← expansion expand)

/-- Loads a saved program. -/
def loadProgram (saved : Json) : Job (Program Unit) :=
  match Program.load saved with
  | .ok p => pure p
  | .error e => throw (.notAProgram e)

/-- Renders a program in a language. -/
def render (language : Language) (blockScoped : Bool) (p : Program Unit) : Job Text := do
  report (p.renderingLog language blockScoped)
  return p.source language blockScoped

/-- Renders a saved program in the selected language. -/
def generate (selector saved : Json) (blockScoped : Option Bool) : Job Text := do
  let language ← Job.language selector
  let blockScoped ← blockScoping blockScoped
  render language blockScoped (← loadProgram saved)

/-- Renders a program in a language with the configured scoping. -/
def renderConfigured (language : Language) (p : Program Unit) : Job Text := do
  render language (← blockScoping none) p

/-- Compiles a diagram to the selected language. The selector is checked before the diagram. -/
def compile (nodes edges selector : Json) : Job Text := do
  let language ← Job.language selector
  renderConfigured language (← build nodes edges none)

end Job

end BlockFlow
