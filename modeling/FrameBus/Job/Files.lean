import FrameBus.Error.Io
import FrameBus.Text.Split

/-!
# Files of one directory

The files that jobs see: those of one directory, which has no directories in it. Paths that do
not go through it lead nowhere, except that a relative path can be written to.
-/

namespace FrameBus

structure Files where
  /-- the directory, as paths name it -/
  directory : String
  entries : List (String × String)
deriving Repr

namespace Files

def notFound : IoError := .os 2
def notADirectory : IoError := .os 20
def isADirectory : IoError := .os 21
def nameTooLong : IoError := .os 36

/-- Where a path leads. -/
inductive Place where
  | outside
  | directory
  /-- a name in the directory, and whether the path says that it is a directory itself -/
  | name (name : String) (slash : Bool)
  | nowhere (error : IoError)
deriving DecidableEq, Repr

/-- The steps of a path that go anywhere. -/
def components (cs : List Char) : List String :=
  ((Text.splitAt '/' cs).map String.ofList).filter fun c => c != "" && c != "."

def endsInSlash (cs : List Char) : Bool :=
  match (Text.splitAt '/' cs).getLast? with
  | some last => last.isEmpty || last == ['.']
  | none => false

def find? (f : Files) (name : String) : Option String := f.entries.lookup name

def place (f : Files) (path : String) : Place :=
  match Text.after? f.directory.toList path.toList with
  | some ('/' :: cs) =>
    match components cs with
    | [] => .directory
    | [name] =>
      if 255 < name.utf8ByteSize then .nowhere nameTooLong
      else if name = ".." then .directory
      else .name name (endsInSlash cs)
    | name :: _ => .nowhere (if (f.find? name).isSome then notADirectory else notFound)
  | some [] => .directory
  | _ => .outside

def read (f : Files) (path : String) : Except IoError String :=
  match f.place path with
  | .outside => .error notFound
  | .directory => .error isADirectory
  | .nowhere e => .error e
  | .name name slash =>
    match f.find? name with
    | none => .error notFound
    | some content => if slash then .error notADirectory else .ok content

/-- Writes a file, in place of one of its name. -/
def write (f : Files) (path content : String) : Except IoError Files :=
  match f.place path with
  | .outside => if path.startsWith "/" then .error notFound else .ok f
  | .directory => .error isADirectory
  | .nowhere e => .error e
  | .name name slash =>
    if slash then .error (if (f.find? name).isSome then notADirectory else isADirectory)
    else .ok { f with entries := (f.entries.filter fun e => e.1 != name) ++ [(name, content)] }

end Files

end FrameBus
