import BlockFlow.Source.Language
import BlockFlow.Text.Digit
import BlockFlow.Text.Quoted

/-!
# Command line arguments

The arguments of the command: one path and some options. Long options may be shortened as long as
they stay unambiguous, and a value may follow its option directly after an equals sign.

The rules are those of `argparse` before release 3.11.8. Later releases differ in two places: a
value given as two hyphens (`Options.assign`), and letters after the letter of the help option
(`strayLetters?`).
-/

namespace BlockFlow.Command

/-- The options of the command. -/
inductive Opt where
  | help
  | language
  | out
  | print
  | ir
  | strict
  | logLevel
deriving DecidableEq, Repr

namespace Opt

/-- Every spelling of an option, in the order in which they are listed. -/
def spellings : List (String × Opt) :=
  [("-h", .help), ("--help", .help), ("--language", .language), ("--out", .out),
    ("--print", .print), ("--ir", .ir), ("--strict", .strict), ("--log-level", .logLevel)]

/-- The option with exactly this spelling. -/
def ofSpelling? (t : Text) : Option Opt :=
  (spellings.find? fun spelling => t = spelling.1).map (·.2)

/-- The spellings that start with a text. -/
def completions (t : Text) : List (String × Opt) :=
  spellings.filter fun spelling => t.isPrefixOf (Text.ofString spelling.1)

/-- Whether an option takes a value. -/
def takesValue : Opt → Bool
  | .language | .out | .logLevel => true
  | _ => false

/-- An option as messages name it. -/
def label (o : Opt) : Text :=
  Text.joined "/" ((spellings.filter (·.2 = o)).map fun spelling => spelling.1)

end Opt

/-- What is wrong with the arguments. -/
inductive UsageError where
  | ambiguous (argument : Text) (candidates : List String)
  | expectedValue (option : Opt)
  | ignoredValue (option : Opt) (value : Text)
  | invalidChoice (value : Text)
  | missingPath
  | unrecognized (arguments : List Text)
deriving DecidableEq, Repr

/-- The wording of a usage error. -/
def UsageError.message : UsageError → Text
  | .ambiguous argument candidates =>
    "ambiguous option: " ++ argument ++ " could match "
      ++ Text.joined ", " (candidates.map Text.ofString)
  | .expectedValue option => "argument " ++ option.label ++ ": expected one argument"
  | .ignoredValue option value =>
    "argument " ++ option.label ++ ": ignored explicit argument " ++ Text.quoted value
  | .invalidChoice value =>
    "argument --language: invalid choice: " ++ Text.quoted value ++ " (choose from "
      ++ Text.joined ", " (Language.all.map fun l => Text.quoted l.name) ++ ")"
  | .missingPath => "the following arguments are required: graph.json"
  | .unrecognized arguments => "unrecognized arguments: " ++ Text.joined " " arguments

/-! ## Classifying arguments -/

/-- What an argument is on its own. -/
inductive Token where
  | positional (text : Text)
  /-- The argument `--`, after which there are no options. -/
  | separator
  /-- An option, with the value that is part of the argument. -/
  | option (option : Opt) (value : Option Text)
  /-- The help option by its letter, with something directly after it. -/
  | letters (rest : Text)
  | unknown (text : Text)
deriving DecidableEq, Repr

/-- A text up to the first equals sign and, if there is one, what follows it. -/
def splitValue (t : Text) : Text × Option Text :=
  match t.dropWhile (· != .char '=') with
  | [] => (t, none)
  | _ :: value => (t.takeWhile (· != .char '='), some value)

/-- Whether an argument looks like a negative number; one line break may follow it. -/
def looksNegative (t : Text) : Bool :=
  let isDigit (c : CodePoint) := (Text.digitValue? c).isSome
  let bare := if t.getLast? == some (.char '\n') then t.dropLast else t
  match bare with
  | .char '-' :: number =>
    match number.dropWhile isDigit with
    | [] => !number.isEmpty
    | .char '.' :: fraction => !fraction.isEmpty && fraction.all isDigit
    | _ => false
  | _ => false

/-- Classifies an argument that is no option as it stands. -/
def classifyOther (t : Text) : Token :=
  if looksNegative t || t.contains (.char ' ') then .positional t else .unknown t

/-- Classifies an argument that starts with a hyphen and is no option as it stands. -/
def classifyShortened (t : Text) : Except UsageError Token :=
  let (name, value) := splitValue t
  match t with
  | _ :: .char '-' :: _ =>
    match Opt.completions name with
    | [] => .ok (classifyOther t)
    | [(_, option)] => .ok (.option option value)
    | candidates => .error (.ambiguous t (candidates.map (·.1)))
  | _ :: .char 'h' :: rest => .ok (.letters rest)
  | _ => .ok (classifyOther t)

/-- Classifies an argument. -/
def classify (t : Text) : Except UsageError Token :=
  match t, Opt.ofSpelling? t with
  | _, some option => .ok (.option option none)
  | .char '-' :: _ :: _, none =>
    let (name, value) := splitValue t
    match value, Opt.ofSpelling? name with
    | some value, some option =>
      if name = "-h" then .ok (.letters value) else .ok (.option option (some value))
    | _, _ => classifyShortened t
  | _, none => .ok (.positional t)

/-- Classifies all arguments; after a separator every argument is positional. -/
def classifyAll : List Text → Except UsageError (List Token)
  | [] => .ok []
  | t :: rest =>
    if t = "--" then .ok (.separator :: rest.map .positional)
    else do
      let token ← classify t
      return token :: (← classifyAll rest)

/-! ## Reading options -/

/-- The choices the arguments make. A choice is `none` where an option was given without a value. -/
structure Options where
  path : Option Text := none
  languages : List (Option Language) := []
  out : Option Text := some "generated"
  print : Bool := false
  ir : Bool := false
  strict : Bool := false
  logLevel : Text := ""
deriving DecidableEq, Repr

/-- What the arguments ask for. -/
inductive Invocation where
  | help
  | run (options : Options) (path : Text)
deriving DecidableEq, Repr

/-- Sets an option that takes a value. Two hyphens in its place, as in `--out=--`, leave the option
without one; since release 3.11.8 of `argparse` they would be the value. -/
def Options.assign (o : Options) (option : Opt) (value : Text) : Except UsageError Options :=
  let given := if value = "--" then none else some value
  match option, given with
  | .language, none => .ok { o with languages := o.languages ++ [none] }
  | .language, some name =>
    match Language.ofName? name with
    | some language => .ok { o with languages := o.languages ++ [some language] }
    | none => .error (.invalidChoice name)
  | .out, _ => .ok { o with out := given }
  | .logLevel, _ => .ok { o with logLevel := given.getD [] }
  | _, _ => .error (.ignoredValue option value)

/-- Sets an option that takes no value. -/
def Options.enable (o : Options) (option : Opt) : Options :=
  match option with
  | .print => { o with print := true }
  | .ir => { o with ir := true }
  | .strict => { o with strict := true }
  | _ => o

/-- What stands directly after the help option, also behind an equals sign, may only repeat its
letter: `-hh` and `-h=h` ask for help. Gives the part that does not, which is refused as a value of
the help option; since release 3.11.8 of `argparse` the `x` of `-hx` would be an option of its own,
and `-h=h` would be refused. -/
def strayLetters? : Text → Option Text
  | [.char 'h'] => none
  | .char 'h' :: c :: rest => strayLetters? (c :: rest)
  | rest => some rest

/-- What the arguments ask for once every one of them is read. -/
def Options.finish (o : Options) (extras : List Text) : Except UsageError Invocation :=
  match o.path with
  | none => .error .missingPath
  | some path =>
    if extras.isEmpty then .ok (.run o path) else .error (.unrecognized extras)

/-- Reads the tokens from left to right. The first positional argument is the path; what has no
place is collected and refused at the end. -/
def readTokens (o : Options) (extras : List Text) : List Token → Except UsageError Invocation
  | [] => o.finish extras
  | .option .help none :: _ => .ok .help
  | .letters letters :: _ =>
    match strayLetters? letters with
    | some stray => .error (.ignoredValue .help stray)
    | none => .ok .help
  | .option option (some value) :: rest =>
    if option.takesValue then do readTokens (← o.assign option value) extras rest
    else .error (.ignoredValue option value)
  | .option option none :: rest =>
    if option.takesValue then
      match rest with
      | .positional value :: rest => do readTokens (← o.assign option value) extras rest
      | _ => .error (.expectedValue option)
    else readTokens (o.enable option) extras rest
  | .unknown text :: rest => readTokens o (extras ++ [text]) rest
  | .positional text :: rest =>
    if o.path.isNone then
      match rest with
      | .separator :: rest => readTokens { o with path := some text } extras rest
      | rest => readTokens { o with path := some text } extras rest
    else readTokens o (extras ++ [text]) rest
  | .separator :: rest =>
    match o.path, rest with
    | none, .positional text :: rest => readTokens { o with path := some text } extras rest
    | _, rest => readTokens o (extras ++ [Text.ofString "--"]) rest

/-- Reads the arguments. -/
def readArguments (arguments : List Text) : Except UsageError Invocation := do
  readTokens {} [] (← classifyAll arguments)

/-! ## Help -/

/-- How the command is used. -/
def usage : String :=
  "usage: visualcoder [-h] [--language \x7bcsharp,cpp,java,python\x7d] [--out DIR]
                   [--print] [--ir] [--strict] [--log-level LOG_LEVEL]
                   graph.json
"

/-- The help text. -/
def help : String :=
  usage ++ "
Compile a Visual Coder graph to C#, C++, Java or Python.

positional arguments:
  graph.json            Path to the graph JSON file to compile.

options:
  -h, --help            show this help message and exit
  --language \x7bcsharp,cpp,java,python\x7d
                        Target language (repeatable). Defaults to all
                        languages.
  --out DIR             Output directory for the generated files (default:
                        generated/).
  --print               Print generated source to stdout instead of writing
                        files.
  --ir                  Also write (or print) the intermediate representation
                        as JSON.
  --strict              Treat unknown node types as errors rather than
                        warnings.
  --log-level LOG_LEVEL
                        Logging level (overrides VISUALCODER_LOG_LEVEL).

visualcoder: command line driver for the graph compiler
=======================================================
Compiles a saved editor graph JSON file into source files.

Usage
-----
    visualcoder <graph.json> [options]

Options
-------
    --language \x7bcsharp,cpp,java,python\x7d   Target language; repeat for several
                                          (default: all four)
    --out      <dir>                      Output directory (default: ./generated)
    --print                               Print the generated source to stdout
                                          instead of writing files
    --ir                                  Also emit the intermediate representation
                                          as <name>.ir.json
    --strict                              Treat unknown node types as errors
                                          (default: warnings only)

Examples
--------
    # Every language, written next to each other:
    visualcoder graphs/bubble_sort.json --out build/

    # Just Java, printed:
    visualcoder graphs/bubble_sort.json --language java --print
"

end BlockFlow.Command
