import BlockFlow.Log
import BlockFlow.Text.Blank
import BlockFlow.Text.Case
import BlockFlow.Text.Number

/-!
# Settings

The values that are configured by environment variables. A variable that cannot be understood is
reported and its default is used. The environment is the one in effect when the settings are read:
what a file of variables adds to it is part of it already.
-/

namespace BlockFlow

/-- The variables of the environment that are set. -/
abbrev Environment := List (String × Text)

/-- How far a declaration reaches. -/
inductive DeclarationScope where
  | function
  | block
deriving DecidableEq, Repr

/-- The name of a scope. -/
def DeclarationScope.name : DeclarationScope → String
  | .function => "function"
  | .block => "block"

/-- The configured values. -/
structure Settings where
  logLevel : Text
  declarationScope : DeclarationScope
  expandNested : Bool
  host : Text
  socket : Int
  corsOrigins : List Text
deriving DecidableEq, Repr

namespace Settings

/-- Whether every block has a scope of its own. -/
def blockScoped (s : Settings) : Bool :=
  s.declarationScope = .block

/-- The value of one of the program's variables, or a default when it is not set. -/
def configured (env : Environment) (name : String) (default : Text) : Text :=
  (env.lookup ("VISUALCODER_" ++ name)).getD default

/-- The declaration scope, and what is reported about it. -/
def readScope (env : Environment) : DeclarationScope × List Log.Entry :=
  let scope := Text.lower (Text.trim (configured env "DECLARATION_SCOPE" "function"))
  if scope = "function" then (.function, [])
  else if scope = "block" then (.block, [])
  else
    (.function, [⟨.warning, .settings,
      "Unknown declaration scope '" ++ scope ++ "', falling back to 'function'"⟩])

/-- The number of the server's socket, and what is reported about it. -/
def readSocket (env : Environment) : Int × List Log.Entry :=
  match Text.readInt? (configured env "PORT" "3001") with
  | some number => (number, [])
  | none => (3001, [⟨.warning, .settings, "VISUALCODER_PORT is not an integer, using 3001"⟩])

/-- Whether a flag is switched on. -/
def readFlag (value : Text) : Bool :=
  ["1", "true", "yes", "on"].any fun word => Text.lower (Text.trim value) = Text.ofString word

/-- The origins requests may come from; without any, every origin may. -/
def readOrigins (value : Text) : List Text :=
  let origins := Text.items value
  if origins.isEmpty then ["*"] else origins

/-- Reads the settings, and reports what could not be understood. Variables from a `.env` file have
been added to the environment before; those that were set already have kept their values. -/
def load (env : Environment) : Settings × List Log.Entry :=
  let scope := readScope env
  let socket := readSocket env
  ({ logLevel := Text.upper (configured env "LOG_LEVEL" "INFO")
     declarationScope := scope.1
     expandNested := readFlag (configured env "EXPAND_NESTED_DEFINITIONS" "")
     host := configured env "HOST" "0.0.0.0"
     socket := socket.1
     corsOrigins := readOrigins (configured env "CORS_ORIGINS" "*") },
   scope.2 ++ socket.2)

end Settings

end BlockFlow
