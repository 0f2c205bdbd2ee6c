/-
# FrontEnd.Disk — the files a compilation can see.

A disk maps absolute locations to files, directories and two devices.  Paths are followed name by
name: each name but the last must lead through a directory, a doubled or trailing slash stands
for the directory reached so far, and there are no links.  Every way a path or a file can fail is
a `Fault` with its own wording.
-/

namespace FrontEnd

/-- Why a path cannot be followed, or a file not be read or written. -/
inductive Fault where
  | notFound
  | notADirectory
  | isADirectory
  | nameTooLong
  | noSpaceLeft
  | outOfMemory
  /-- The path holds a NUL character. -/
  | nulInPath
  /-- The bytes of the file are no UTF-8 text. -/
  | notText
  deriving DecidableEq, Repr

/-- The wording of a fault; those of the operating system carry its error number. -/
def Fault.message : Fault → String
  | .notFound => "No such file or directory (os error 2)"
  | .notADirectory => "Not a directory (os error 20)"
  | .isADirectory => "Is a directory (os error 21)"
  | .nameTooLong => "File name too long (os error 36)"
  | .noSpaceLeft => "No space left on device (os error 28)"
  | .outOfMemory => "out of memory"
  | .nulInPath => "file name contained an unexpected NUL byte"
  | .notText => "stream did not contain valid UTF-8"

namespace Disk

/-- The names that lead from the root to a file. -/
abbrev Location := List String

/-- What stands at a location. -/
inductive Entry where
  | file (content : ByteArray)
  | directory
  /-- Reads as empty and swallows what is written. -/
  | nullDevice
  /-- Never stops reading and never has room for a write. -/
  | fullDevice

/-- Whether an entry is a regular file. -/
def Entry.isFile : Entry → Bool
  | .file _ => true
  | _ => false

/-- The bytes read from an entry. -/
def Entry.read : Entry → Except Fault ByteArray
  | .file content => .ok content
  | .directory => .error .isADirectory
  | .nullDevice => .ok .empty
  | .fullDevice => .error .outOfMemory

/-- The entry after bytes have been written at its end. -/
def Entry.append (bytes : ByteArray) : Entry → Except Fault Entry
  | .file content => .ok (.file (content ++ bytes))
  | .directory => .error .isADirectory
  | .nullDevice => .ok .nullDevice
  | .fullDevice => .error .noSpaceLeft

/-- The entry after bytes have been written in place of what it held. -/
def Entry.overwrite (bytes : ByteArray) : Entry → Except Fault Entry
  | .file _ => .ok (.file bytes)
  | e => e.append bytes

end Disk

/-- What stands where, and the directory that relative paths start from. -/
structure Disk where
  entries : List (Disk.Location × Disk.Entry)
  here : Disk.Location

namespace Disk

/-- A disk that holds the devices and an empty working directory. -/
def fresh : Disk where
  entries :=
    [([], .directory), (["dev"], .directory), (["dev", "null"], .nullDevice),
     (["dev", "full"], .fullDevice), (["work"], .directory), (["work", "here"], .directory)]
  here := ["work", "here"]

/-- What stands at a location. -/
def entry? (d : Disk) (l : Location) : Option Entry := d.entries.lookup l

/-- Puts an entry at a location, in place of what stood there. -/
def put (d : Disk) (l : Location) (e : Entry) : Disk :=
  { d with entries := (l, e) :: d.entries.filter (·.1 != l) }

/-! ## Following paths -/

/-- The longest name a directory can hold, in bytes. -/
def longestName : Nat := 255

/-- The number of bytes at which a path is too long as a whole. -/
def pathLimit : Nat := 4096

/-- Follows names from a location on. -/
def walk (d : Disk) (l : Location) : List String → Except Fault Location
  | [] => .ok l
  | name :: names =>
    match d.entry? l with
    | some .directory =>
      if name = "" ∨ name = "." then d.walk l names
      else if name = ".." then d.walk l.dropLast names
      else if name.utf8ByteSize > longestName then .error .nameTooLong
      else
        match d.entry? (l ++ [name]) with
        | some _ => d.walk (l ++ [name]) names
        | none => .error .notFound
    | some _ => .error .notADirectory
    | none => .error .notFound

/-- The starting location of a path and the names that follow it, for paths that have the form of
one. -/
def split (d : Disk) (path : String) : Except Fault (Location × List String) :=
  if path.contains '\x00' then .error .nulInPath
  else if path = "" then .error .notFound
  else if path.utf8ByteSize ≥ pathLimit then .error .nameTooLong
  else
    match path.splitOn "/" with
    | "" :: names => .ok ([], names)
    | names => .ok (d.here, names)

/-- The location a path leads to. -/
def locate (d : Disk) (path : String) : Except Fault Location := do
  let (start, names) ← d.split path
  d.walk start names

/-- What stands where a path leads. -/
def find (d : Disk) (path : String) : Except Fault Entry := do
  let l ← d.locate path
  match d.entry? l with
  | some e => .ok e
  | none => .error .notFound

/-- The text of the file a path leads to. -/
def readText (d : Disk) (path : String) : Except Fault String := do
  let bytes ← (← d.find path).read
  match String.fromUTF8? bytes with
  | some text => .ok text
  | none => .error .notText

/-! ## Writing -/

/-- Opens a file for writing at its end, making an empty one if there is none.  Only a name can be
opened in this way: a path that ends in a slash, in one dot or in two, or that leads to a
directory, is refused as a directory. -/
def openAtEnd (d : Disk) (path : String) : Except Fault (Location × Disk) := do
  let (start, names) ← d.split path
  let backwards := names.reverse.dropWhile (· == "")
  match backwards with
  | [] => .error .isADirectory
  | name :: parents =>
    let parent ← d.walk start (parents.reverse ++ [""])
    if names.getLast? = some "" ∨ name = "." ∨ name = ".." then .error .isADirectory
    else if name.utf8ByteSize > longestName then .error .nameTooLong
    else
      let l := parent ++ [name]
      match d.entry? l with
      | some .directory => .error .isADirectory
      | some _ => .ok (l, d)
      | none => .ok (l, d.put l (.file .empty))

/-- Writes at the end of what stands at a location. -/
def append (d : Disk) (l : Location) (text : String) : Except Fault Disk := do
  match d.entry? l with
  | some e => return d.put l (← e.append text.toUTF8)
  | none => .error .notFound

/-! ## Setting up -/

/-- Follows names from a location on, making a directory wherever nothing stands yet. -/
def makeWay (d : Disk) (l : Location) : List String → Except Fault (Location × Disk)
  | [] => .ok (l, d)
  | name :: names =>
    match d.entry? l with
    | some .directory =>
      if name = "" ∨ name = "." then d.makeWay l names
      else if name = ".." then d.makeWay l.dropLast names
      else if name.utf8ByteSize > longestName then .error .nameTooLong
      else
        match d.entry? (l ++ [name]) with
        | some _ => d.makeWay (l ++ [name]) names
        | none => (d.put (l ++ [name]) .directory).makeWay (l ++ [name]) names
    | some _ => .error .notADirectory
    | none => .error .notFound

/-- Makes a directory at a path, with every directory on the way to it. -/
def makeDirectory (d : Disk) (path : String) : Except Fault Disk := do
  let (start, names) ← d.split path
  let (_, d) ← d.makeWay start (names ++ [""])
  return d

/-- Makes a file at a path, with every directory on the way to it.  A file that is there already
gets the new content. -/
def makeFile (d : Disk) (path : String) (content : ByteArray) : Except Fault Disk := do
  let (start, names) ← d.split path
  let (_, d) ← d.makeWay start names.dropLast
  let (l, d) ← d.openAtEnd path
  match d.entry? l with
  | some e => return d.put l (← e.overwrite content)
  | none => .error .notFound

end Disk

end FrontEnd
