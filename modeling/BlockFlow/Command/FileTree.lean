import BlockFlow.Command.Path
import BlockFlow.Text.Quoted
import BlockFlow.Text.Utf8

/-!
# File trees

The files and directories a command sees, as a value. Operations give the tree after them or say
why they failed.
-/

namespace BlockFlow.Command

/-- The content of a file: a text, or bytes that may be one. -/
inductive Content where
  | text (s : Text)
  | bytes (bs : List Nat)
deriving DecidableEq, Repr

/-- The characters of a file. -/
def Content.decode : Content → Except Text.Utf8.Error Text
  | .text s => .ok s
  | .bytes bs => Text.Utf8.decode bs

/-- What stands at a location. -/
inductive Entry where
  | directory
  | file (content : Content)
deriving DecidableEq, Repr

/-- Where something stands: the components from the root on. -/
abbrev Location := List Text

/-- A file tree and the directory that relative paths start from. -/
structure FileTree where
  workingDirectory : Location
  entries : List (Location × Entry)
deriving DecidableEq, Repr

/-- Why an operation on files fails. -/
inductive FileFault where
  | notFound
  | exists
  | notADirectory
  | isADirectory
  | nameTooLong
  | nulCharacter
deriving DecidableEq, Repr

/-- A failed operation on a path. -/
structure FileError where
  fault : FileFault
  path : Path
deriving DecidableEq, Repr

/-- The wording of a failed operation. -/
def FileError.message (e : FileError) : Text :=
  let numbered (number : Nat) (reason : String) : Text :=
    "[Errno " ++ toString number ++ "] " ++ reason ++ ": " ++ Text.quoted e.path.text
  match e.fault with
  | .notFound => numbered 2 "No such file or directory"
  | .exists => numbered 17 "File exists"
  | .notADirectory => numbered 20 "Not a directory"
  | .isADirectory => numbered 21 "Is a directory"
  | .nameTooLong => numbered 36 "File name too long"
  | .nulCharacter => "embedded null byte"

/-- Why a text is not written: its file cannot be opened, or it cannot be encoded. -/
inductive WriteError where
  | file (error : FileError)
  | encoding (error : Text.Utf8.Unencodable)
deriving DecidableEq, Repr

namespace FileTree

/-- The entry at a location; the root is a directory. -/
def get? (t : FileTree) (location : Location) : Option Entry :=
  if location = [] then some .directory else t.entries.lookup location

/-- Puts an entry at a location. -/
def set (t : FileTree) (location : Location) (entry : Entry) : FileTree :=
  { t with entries := (location, entry) :: t.entries.filter (·.1 ≠ location) }

/-- The most bytes a component may have. -/
def maxNameBytes : Nat := 255

/-- The most bytes a whole path may have. -/
def maxPathBytes : Nat := 4095

/-- Goes down from a location. Everything passed through has to be a directory; what stands at the
end need not exist. -/
def descend (t : FileTree) (location : Location) : List Text → Except FileFault Location
  | [] => .ok location
  | part :: rest =>
    match t.get? location with
    | none => .error .notFound
    | some (.file _) => .error .notADirectory
    | some .directory =>
      if part = ".." then t.descend location.dropLast rest
      else if maxNameBytes < Text.Utf8.size part then .error .nameTooLong
      else t.descend (location ++ [part]) rest

/-- The location a path leads to. -/
def locate (t : FileTree) (p : Path) : Except FileFault Location :=
  if p.parts.any (·.contains (.char '\x00')) then .error .nulCharacter
  else if maxPathBytes < Text.Utf8.size p.text then .error .nameTooLong
  else t.descend (if p.isAbsolute then [] else t.workingDirectory) p.parts

/-- What a path leads to. -/
def find (t : FileTree) (p : Path) : Except FileFault Entry := do
  match t.get? (← t.locate p) with
  | some entry => .ok entry
  | none => .error .notFound

/-- Whether a path leads to a directory. -/
def isDirectory (t : FileTree) (p : Path) : Bool :=
  match t.find p with
  | .ok .directory => true
  | _ => false

/-- Makes a directory, whose parent has to exist. -/
def makeDirectory (t : FileTree) (p : Path) : Except FileFault FileTree := do
  let location ← t.locate p
  match t.get? location with
  | some _ => .error .exists
  | none => .ok (t.set location .directory)

/-- The tree with a directory that may be there already, or the fault when something else is. -/
def settleDirectory (t : FileTree) (p : Path) (fault : FileFault) :
    FileTree × Except FileError Unit :=
  if t.isDirectory p then (t, .ok ()) else (t, .error ⟨fault, p⟩)

/-- Makes a directory and its parents, given by their components last first. A directory that is
there already is left alone. -/
def makeDirectoriesFrom (root : Text) (t : FileTree) :
    List Text → FileTree × Except FileError Unit
  | [] =>
    let p : Path := ⟨root, []⟩
    match t.makeDirectory p with
    | .ok t => (t, .ok ())
    | .error fault => t.settleDirectory p fault
  | part :: parents =>
    let p : Path := ⟨root, (part :: parents).reverse⟩
    match t.makeDirectory p with
    | .ok t => (t, .ok ())
    | .error .notFound =>
      match makeDirectoriesFrom root t parents with
      | (t, .error e) => (t, .error e)
      | (t, .ok ()) =>
        match t.makeDirectory p with
        | .ok t => (t, .ok ())
        | .error fault => t.settleDirectory p fault
    | .error fault => t.settleDirectory p fault

/-- Makes a directory and its parents. -/
def makeDirectories (t : FileTree) (p : Path) : FileTree × Except FileError Unit :=
  makeDirectoriesFrom p.root t p.parts.reverse

/-- Writes a text to a file. The file is emptied before the text is encoded, so it stays empty when
that fails. -/
def writeText (t : FileTree) (p : Path) (text : Text) : FileTree × Except WriteError Unit :=
  match t.locate p with
  | .error fault => (t, .error (.file ⟨fault, p⟩))
  | .ok location =>
    match t.get? location, Text.Utf8.unencodable? text with
    | some .directory, _ => (t, .error (.file ⟨.isADirectory, p⟩))
    | _, some e => (t.set location (.file (.text [])), .error (.encoding e))
    | _, none => (t.set location (.file (.text text)), .ok ())

/-- The files below the working directory, each with its path from there. -/
def files (t : FileTree) : List (Text × Content) :=
  t.entries.filterMap fun
    | (location, .file content) =>
      if t.workingDirectory.isPrefixOf location then
        some (Text.joined "/" (location.drop t.workingDirectory.length), content)
      else none
    | _ => none

end FileTree

end BlockFlow.Command
