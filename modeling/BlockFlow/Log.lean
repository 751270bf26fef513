import BlockFlow.Text.Basic

/-!
# Log entries

What the program reports while it works. An entry names its severity and the part of the program
that reports it.
-/

namespace BlockFlow.Log

/-- How serious an entry is. -/
inductive Severity where
  | debug
  | info
  | warning
deriving DecidableEq, Repr

/-- The name of a severity in log lines. -/
def Severity.name : Severity → String
  | .debug => "DEBUG"
  | .info => "INFO"
  | .warning => "WARNING"

/-- The rank of a severity; a log shows the entries whose rank reaches its threshold. -/
def Severity.rank : Severity → Nat
  | .debug => 10
  | .info => 20
  | .warning => 30

/-- The threshold a level name stands for. -/
def thresholdOf? : String → Option Nat
  | "CRITICAL" => some 50
  | "FATAL" => some 50
  | "ERROR" => some 40
  | "WARN" => some 30
  | "WARNING" => some 30
  | "INFO" => some 20
  | "DEBUG" => some 10
  | "NOTSET" => some 0
  | _ => none

/-- The threshold of a level given as text. -/
def threshold? (level : Text) : Option Nat :=
  (Text.string? level).bind thresholdOf?

/-- The parts of the program that report. -/
inductive Channel where
  | loading
  | building
  | rendering
  | renderingPython
  | settings
  | command
deriving DecidableEq, Repr

/-- The name of a channel in log lines. -/
def Channel.name : Channel → String
  | .loading => "visualcoder.compiler.graph"
  | .building => "visualcoder.compiler.builder"
  | .rendering => "visualcoder.compiler.emitters.base"
  | .renderingPython => "visualcoder.compiler.emitters.python"
  | .settings => "visualcoder.config"
  | .command => "visualcoder.cli"

/-- An entry of the log. -/
structure Entry where
  severity : Severity
  channel : Channel
  message : Text
deriving DecidableEq, Repr

/-- An entry as a line of the log. -/
def Entry.line (e : Entry) : Text :=
  e.channel.name ++ " - " ++ e.severity.name ++ " - " ++ e.message

end BlockFlow.Log
