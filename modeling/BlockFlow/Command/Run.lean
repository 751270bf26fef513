import BlockFlow.Command.Arguments
import BlockFlow.Command.FileTree
import BlockFlow.Diagram.Schema
import BlockFlow.Json.Printer
import BlockFlow.Json.Reader
import BlockFlow.Session

/-!
# Running the command

The whole command as a function of its arguments, the environment and the file tree. A run reads and
checks a saved diagram, plans its outputs, and prints them or writes them one after the other.
-/

namespace BlockFlow.Command

/-- Why a run ends with a message of its own. -/
inductive Refusal where
  | fileNotFound (path : Path)
  | invalidJson (message : Text)
  | schema (violation : Schema.Violation)
deriving DecidableEq

/-- The message of a refusal. -/
def Refusal.message : Refusal → Text
  | .fileNotFound path => "[error] File not found: " ++ path.text
  | .invalidJson message => "[error] Invalid JSON: " ++ message
  | .schema violation => "[error] Schema validation failed: " ++ violation.message

/-- Why a run breaks off. -/
inductive Failure where
  | unknownLevel (name : Text)
  | file (error : FileError)
  | decoding (error : Text.Utf8.Error)
  | encoding (error : Text.Utf8.Unencodable)
  | longInteger (message : Text)
  /-- A language was asked for without a name. -/
  | noLanguage
  /-- The output directory was given without a name. -/
  | noDirectory
deriving DecidableEq

/-- The wording of a failure. -/
def Failure.message : Failure → Text
  | .unknownLevel name => "Unknown level: " ++ Text.quoted name
  | .file error => error.message
  | .decoding error => error.message
  | .encoding error => error.message
  | .longInteger message => message
  | .noLanguage => "[] is not a valid Language"
  | .noDirectory => "expected str, bytes or os.PathLike object, not list"

/-- The failure of a write. -/
def Failure.ofWrite : WriteError → Failure
  | .file error => .file error
  | .encoding error => .encoding error

/-- How a run ends. -/
inductive Ending where
  | exit (code : Nat)
  | failed (failure : Failure)
deriving DecidableEq

/-- What a run leaves behind. -/
structure Outcome where
  ending : Ending
  stdout : Text := ""
  stderr : Text := ""
  warnings : List Schema.Warning := []
  tree : FileTree
  log : List Log.Entry := []

/-! ## Reading the diagram -/

/-- Every line ending as a line feed. -/
def unifyLineEnds : Text → Text
  | [] => []
  | .char '\r' :: .char '\n' :: rest => .char '\n' :: unifyLineEnds rest
  | .char '\r' :: rest => .char '\n' :: unifyLineEnds rest
  | c :: rest => c :: unifyLineEnds rest

/-- Why no diagram was read. -/
inductive Stop where
  | refused (refusal : Refusal)
  | failed (failure : Failure)
deriving DecidableEq

/-- The content of the file a path leads to. A path that leads nowhere is refused. -/
def openFile (t : FileTree) (p : Path) : Except Stop Content :=
  match t.find p with
  | .ok (.file content) => .ok content
  | .ok .directory => .error (.failed (.file ⟨.isADirectory, p⟩))
  | .error .nameTooLong => .error (.failed (.file ⟨.nameTooLong, p⟩))
  | .error _ => .error (.refused (.fileNotFound p))

/-- The JSON value in a file. -/
def readJson (content : Content) : Except Stop Json :=
  match content.decode with
  | .error e => .error (.failed (.decoding e))
  | .ok text =>
    let text := unifyLineEnds text
    match Json.parse text with
    | .ok j => .ok j
    | .error (.malformed fault place) =>
      .error (.refused (.invalidJson (Json.ReadError.message text (.malformed fault place))))
    | .error (.longInteger digits) =>
      .error (.failed (.longInteger (Json.ReadError.message text (.longInteger digits))))

/-- The blocks and arrows of the diagram in a file, with the warnings of its check. -/
def readDiagram (t : FileTree) (strict : Bool) (p : Path) :
    List Schema.Warning × Except Stop (List Json × List Json) :=
  match openFile t p >>= readJson with
  | .error stop => ([], .error stop)
  | .ok j =>
    let checked := Schema.validate strict j
    (checked.1, checked.2.mapError fun violation => .refused (.schema violation))

/-! ## Outputs -/

/-- The name outputs share: that of the file, in lower case and without hyphens and spaces. -/
def outputStem (p : Path) : Text :=
  (Text.lower p.stem).map fun c => if c == .char '-' || c == .char ' ' then .char '_' else c

/-- What is written and where. -/
structure Plan where
  languages : List Language
  directory : Path
  ir : Bool

/-- The plan of the options: all languages unless some are selected. -/
def Options.plan (o : Options) : Except Failure Plan := do
  let selected ← o.languages.mapM fun
    | some language => Except.ok language
    | none => .error .noLanguage
  match o.out with
  | none => .error .noDirectory
  | some out =>
    .ok ⟨if selected.isEmpty then Language.all else selected, Path.ofText out, o.ir⟩

/-- The outputs of a program, each with its file name, in the order in which they are written. -/
def outputs (plan : Plan) (blockScoped : Bool) (stem : Text) (p : Program Unit) :
    List (Text × Text) :=
  (if plan.ir then [(stem ++ ".ir.json", p.toJson.indented ++ "\n")] else [])
    ++ plan.languages.map fun language =>
      (stem ++ language.extension, p.source language blockScoped)

/-- Outputs as they are printed. -/
def printed (outputs : List (Text × Text)) : Text :=
  Text.unlines (outputs.flatMap fun output => ["==> " ++ output.1 ++ " <==", output.2])

/-- Writes outputs into a directory until one fails: the tree, what is printed, and the error. -/
def writeOutputs (directory : Path) :
    FileTree → List (Text × Text) → FileTree × Text × Except WriteError Unit
  | t, [] => (t, [], .ok ())
  | t, (name, text) :: rest =>
    let path := directory.join name
    match t.writeText path text with
    | (t, .error e) => (t, [], .error e)
    | (t, .ok ()) =>
      let written := writeOutputs directory t rest
      (written.1, "[visualcoder] wrote  : " ++ path.text ++ "\n" ++ written.2.1, written.2.2)

/-- Delivers outputs: prints them, or makes the output directory and writes them there. -/
def deliver (print : Bool) (directory : Path) (t : FileTree) (outputs : List (Text × Text)) :
    FileTree × Text × Except WriteError Unit :=
  if print then (t, printed outputs, .ok ())
  else
    match t.makeDirectories directory with
    | (t, .error e) => (t, [], .error (.file e))
    | (t, .ok ()) => writeOutputs directory t outputs

/-! ## The run -/

/-- The lines of a log that reach a threshold. -/
def logText (threshold : Nat) (entries : List Log.Entry) : Text :=
  Text.unlines ((entries.filter (threshold ≤ ·.severity.rank)).map Log.Entry.line)

/-- What is reported while a program is built. The settings are reported on when they are consulted,
unless they were before. -/
def buildLog (settings : Settings) (notices : List Log.Entry) (path : Path)
    (nodes edges : List Json) : List Log.Entry :=
  let g := Diagram.ofEntries nodes edges
  let p := g.build settings.expandNested
  nodes.filterMap Node.remark? ++ edges.filterMap Edge.remark? ++ notices
    ++ (g.buildEvents settings.expandNested).map Build.Event.entry
    ++ [⟨.debug, .building, "Built program: " ++ p.sizes⟩,
      ⟨.info, .command, path.name ++ ": " ++ toString nodes.length ++ " nodes, "
        ++ toString edges.length ++ " edges"⟩]

/-- Renders a program and delivers its outputs: how the run ends, what is printed, the tree after it
and what is reported. -/
def compile (o : Options) (settings : Settings) (t : FileTree) (path : Path) (p : Program Unit) :
    Ending × Text × FileTree × List Log.Entry :=
  match o.plan with
  | .error failure => (.failed failure, [], t, [])
  | .ok plan =>
    let blockScoped := settings.blockScoped
    let delivered :=
      deliver o.print plan.directory t (outputs plan blockScoped (outputStem path) p)
    let ending :=
      match delivered.2.2 with
      | .ok () => .exit 0
      | .error e => .failed (.ofWrite e)
    (ending, delivered.2.1, delivered.1,
      plan.languages.flatMap fun language => p.renderingLog language blockScoped)

/-- Runs the command with options that were read. -/
def runOptions (env : Environment) (t : FileTree) (o : Options) (pathText : Text) : Outcome :=
  let (settings, notices) := Settings.load env
  let path := Path.ofText pathText
  -- Without a level of its own the run consults the settings before the log is set up, so what is
  -- reported about them appears as bare text.
  let ownLevel := o.logLevel ≠ ""
  let early := if ownLevel then [] else notices
  let late := if ownLevel then notices else []
  let heading := Text.unlines (early.map Log.Entry.message)
  let level := if ownLevel then o.logLevel else settings.logLevel
  match Log.threshold? level with
  | none =>
    { ending := .failed (.unknownLevel level), stderr := heading, tree := t, log := early }
  | some threshold =>
    let read := readDiagram t o.strict path
    match read.2 with
    | .error (.refused refusal) =>
      { ending := .exit 1, stderr := heading ++ refusal.message ++ "\n", warnings := read.1
        tree := t, log := early }
    | .error (.failed failure) =>
      { ending := .failed failure, stderr := heading, warnings := read.1, tree := t, log := early }
    | .ok (nodes, edges) =>
      let p := (Diagram.ofEntries nodes edges).build settings.expandNested
      let (ending, stdout, tree, renderingLog) := compile o settings t path p
      let log := buildLog settings late path nodes edges ++ renderingLog
      { ending, stdout, tree
        stderr := heading ++ logText threshold log
        warnings := read.1
        log := early ++ log }

/-- Runs the command. -/
def run (env : Environment) (t : FileTree) (arguments : List Text) : Outcome :=
  match readArguments arguments with
  | .error e =>
    { ending := .exit 2, stderr := usage ++ "visualcoder: error: " ++ e.message ++ "\n", tree := t }
  | .ok .help => { ending := .exit 0, stdout := help, tree := t }
  | .ok (.run o path) => runOptions env t o path

end BlockFlow.Command
