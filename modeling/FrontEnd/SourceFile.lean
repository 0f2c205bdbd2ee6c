/-
# FrontEnd.SourceFile — source text together with the path it came from.

A file is taken in whole.  Loading tells apart a path that leads nowhere, one that leads to
something other than a regular file, and a file that cannot be read as text.
-/
import FrontEnd.Diagnostic.Code
import FrontEnd.Disk

namespace FrontEnd

/-- A source text with its path, which need not lead anywhere. -/
structure SourceFile where
  path : String
  content : String
  deriving DecidableEq, Repr

namespace SourceFile

/-- Why a source file cannot be loaded. -/
inductive LoadError where
  | notFound (path : String)
  | notAFile (path : String)
  | unreadable (path : String) (fault : Fault)
  deriving DecidableEq, Repr

namespace LoadError

/-- The path that was to be loaded. -/
def path : LoadError → String
  | .notFound path | .notAFile path | .unreadable path _ => path

/-- The wording of a failed load. -/
def message : LoadError → String
  | .notFound path => "source file not found: " ++ path
  | .notAFile path => "not a regular file: " ++ path
  | .unreadable path fault => "failed to read " ++ path ++ ": " ++ fault.message

/-- The code a failed load is reported under. -/
def code : LoadError → Diagnostic.Code
  | .notFound _ => .sourceNotFound
  | .notAFile _ => .sourceNotAFile
  | .unreadable _ _ => .sourceUnreadable

end LoadError

/-- Takes in the file at a path. -/
def load (disk : Disk) (path : String) : Except LoadError SourceFile :=
  match disk.find path with
  | .error .notFound => .error (.notFound path)
  | .error fault => .error (.unreadable path fault)
  | .ok entry =>
    if entry.isFile then
      match disk.readText path with
      | .ok content => .ok ⟨path, content⟩
      | .error fault => .error (.unreadable path fault)
    else .error (.notAFile path)

/-- The stretches of text between newlines; there is always at least one. -/
def splitLines : List Char → List (List Char)
  | [] => [[]]
  | '\n' :: cs => [] :: splitLines cs
  | c :: cs =>
    match splitLines cs with
    | line :: lines => (c :: line) :: lines
    | [] => [[c]]

/-- A line without the carriage return at its end, if it has one. -/
def dropReturn (line : List Char) : List Char :=
  if line.getLast? = some '\r' then line.dropLast else line

/-- The line of a number counted from zero, without its line ending. -/
def line (f : SourceFile) (n : Nat) : Option String :=
  (splitLines f.content.toList)[n]?.map fun line => .ofList (dropReturn line)

/-- The length of the text in bytes. -/
def bytes (f : SourceFile) : Nat := f.content.utf8ByteSize

end SourceFile

end FrontEnd
