/-
# FrontEnd.Settings.File — settings as TOML text.

A settings file is a TOML document.  Every setting is optional in it, names it does not know are
passed over, and a known name with a value of another type spoils the whole file.
-/
import FrontEnd.Disk
import FrontEnd.Settings
import FrontEnd.Toml.Document
import FrontEnd.Toml.Quoted

namespace FrontEnd.Settings

/-- Why settings cannot be had from a file or a text. -/
inductive ReadError where
  | unreadable (path : String) (fault : Fault)
  /-- The text is no TOML document, or a setting has a value of another type. -/
  | malformed
  deriving DecidableEq, Repr

/-- The wording of a failure to read settings. -/
def ReadError.message : ReadError → String
  | .unreadable path fault => "failed to read settings file " ++ path ++ ": " ++ fault.message
  | .malformed => "invalid settings"

/-- A text under a name, if the name is there. -/
def textUnder (entries : Toml.Entries) (name : String) : Except ReadError (Option String) :=
  match entries.lookup name with
  | none => .ok none
  | some (.text value) => .ok (some value)
  | some _ => .error .malformed

/-- A truth value under a name, false if the name is not there. -/
def flagUnder (entries : Toml.Entries) (name : String) : Except ReadError Bool :=
  match entries.lookup name with
  | none => .ok false
  | some (.boolean value) => .ok value
  | some _ => .error .malformed

/-- The settings that a TOML text makes. -/
def ofToml (text : String) : Except ReadError Settings := do
  match Toml.parse text with
  | none => .error .malformed
  | some entries =>
    return {
      inputFile := ← textUnder entries "input_file"
      outputFile := ← textUnder entries "output_file"
      logFile := ← textUnder entries "log_file"
      traceInterning := ← flagUnder entries "trace_interning" }

/-- The settings in the file at a path. -/
def load (disk : Disk) (path : String) : Except ReadError Settings :=
  match disk.readText path with
  | .ok text => ofToml text
  | .error fault => .error (.unreadable path fault)

/-- The line that sets a text, if it is set. -/
def textLine (name : String) : Option String → String
  | some value => name ++ " = " ++ Toml.Quoted.write value ++ "\n"
  | none => ""

/-- Settings as TOML text, one line for each setting that is made; whether interning is traced is
always said. -/
def toToml (s : Settings) : String :=
  textLine "input_file" s.inputFile ++ textLine "output_file" s.outputFile ++
    textLine "log_file" s.logFile ++
    "trace_interning = " ++ (if s.traceInterning then "true" else "false") ++ "\n"

end FrontEnd.Settings
