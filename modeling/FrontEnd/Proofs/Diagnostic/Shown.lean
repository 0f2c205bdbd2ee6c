/-
# FrontEnd.Proofs.Diagnostic.Shown — what watchers and the log see of a diagnostic.

A watcher of the event stream sees a diagnostic as an event with a level, a target and named fields
(`Event.Shows`); the log has one line for it, `[time] LEVEL: message` (`Diagnostic.IsLine`).  Both
are told here by the words and numbers themselves, the time by the calendar.  `shows_reported` and
`isLine_iff` say that the event which is told and the line which is written are of this form.

A line can be refused, and then a warning comes right behind the event (`Event.Commentary`).
-/
import FrontEnd.Event
import FrontEnd.Proofs.Calendar
import Mathlib.Data.List.Forall2

namespace FrontEnd

/-! ## Events -/

namespace Event

/-- The event is not about diagnostics, nor about the log file. -/
def IsForeign (e : Event) : Prop :=
  e.target ≠ "solara::diagnostic" ∧ e.target ≠ "solara_util::diagnostic"

theorem isForeign_scanned (shown : String) : (scanned shown).IsForeign := by
  simp [IsForeign, target]

theorem isForeign_loaded (path : String) (bytes : Nat) : (loaded path bytes).IsForeign := by
  simp [IsForeign, target]

theorem isForeign_consumed (shown : String) : (consumed shown).IsForeign := by
  simp [IsForeign, target]

theorem isForeign_declared (name : String) (isPublic : Bool) :
    (declared name isPublic).IsForeign := by
  simp [IsForeign, target]

/-- The event shows the diagnostic: at its level, with its message, and with its code and its span
just when it has them.  The event stream has no level above error, so what is critical is an error
there.  Lines and columns are counted from one. -/
structure Shows (e : Event) (d : Diagnostic) : Prop where
  target : e.target = "solara::diagnostic"
  level : (d.level, e.level) ∈ ([(.debug, .debug), (.info, .info), (.warning, .warn),
    (.error, .error), (.critical, .error)] : List (Diagnostic.Level × EventLevel))
  message : e.fields.lookup "message" = some (.text d.message)
  code : e.fields.lookup "code" =
    d.code.map fun c => .text (c.area ++ Calendar.decimal 4 c.number)
  span : e.fields.lookup "span" =
    d.span.map fun s => .text (toString (s.line + 1) ++ ":" ++ toString (s.column + 1))

theorem shows_reported (d : Diagnostic) : (reported d).Shows d := by
  obtain ⟨level, message, code, span, time⟩ := d
  constructor
  case target => rfl
  case level =>
    show (level, level.eventLevel) ∈ _
    cases level <;> decide
  case message => rfl
  case code =>
    simp only [← Calendar.padded_eq]
    cases code <;> cases span <;> rfl
  case span => cases code <;> cases span <;> rfl

/-- The event warns of a line that the log file refused, and says why. -/
structure WarnsOf (e : Event) (fault : Fault) : Prop where
  target : e.target = "solara_util::diagnostic"
  level : e.level = .warn
  message : e.fields.lookup "message" = some (.text "failed to write diagnostic to log file")
  error : e.fields.lookup "error" = some (.text fault.message)

theorem warnsOf_logWriteFailed (fault : Fault) : (logWriteFailed fault).WarnsOf fault :=
  ⟨rfl, rfl, rfl, rfl⟩

/-- The events tell of diagnostics one by one, and behind each one whose line was refused, and
nowhere else, there is one warning of trouble with the log file. -/
inductive Commentary : List Event → List (Diagnostic × Option Fault) → Prop
  | nil : Commentary [] []
  | foreign {e : Event} {es : List Event} {written : List (Diagnostic × Option Fault)} :
      e.IsForeign → Commentary es written → Commentary (e :: es) written
  | accepted {e : Event} {d : Diagnostic} {es : List Event}
      {written : List (Diagnostic × Option Fault)} :
      e.Shows d → Commentary es written → Commentary (e :: es) ((d, none) :: written)
  | refused {e warning : Event} {d : Diagnostic} {fault : Fault} {es : List Event}
      {written : List (Diagnostic × Option Fault)} :
      e.Shows d → warning.WarnsOf fault → Commentary es written →
      Commentary (e :: warning :: es) ((d, some fault) :: written)

/-- The events with the target of diagnostics show them in order, one for each. -/
theorem Commentary.forall₂_shows {es : List Event} {written : List (Diagnostic × Option Fault)}
    (h : Commentary es written) :
    List.Forall₂ Shows (es.filter (·.target = "solara::diagnostic")) (written.map Prod.fst) := by
  induction h with
  | nil => exact .nil
  | foreign he _ ih =>
    rw [List.filter_cons_of_neg (by simpa using he.1)]
    exact ih
  | accepted he _ ih =>
    rw [List.filter_cons_of_pos (by simpa using he.target)]
    exact .cons he ih
  | refused he hwarning _ ih =>
    rw [List.filter_cons_of_pos (by simpa using he.target),
      List.filter_cons_of_neg (by simp [hwarning.target])]
    exact .cons he ih

end Event

/-! ## Lines of the log -/

namespace Diagnostic

/-- The line of the log for a diagnostic: the time in brackets, the word for the level, and the
message. -/
def IsLine (d : Diagnostic) (line : String) : Prop :=
  ∃ stamp word, Calendar.IsStamp d.time stamp ∧
    (d.level, word) ∈ ([(.debug, "DEBUG"), (.info, "INFO"), (.warning, "WARNING"),
      (.error, "ERROR"), (.critical, "CRITICAL")] : List (Level × String)) ∧
    line = "[" ++ stamp ++ "] " ++ word ++ ": " ++ d.message ++ "\n"

theorem isLine_iff {d : Diagnostic} {line : String} : d.IsLine line ↔ line = d.display ++ "\n" := by
  have hword (word : String) : (d.level, word) ∈ ([(.debug, "DEBUG"), (.info, "INFO"),
      (.warning, "WARNING"), (.error, "ERROR"), (.critical, "CRITICAL")] : List (Level × String)) ↔
      word = d.level.name := by
    cases d.level <;> simp [Level.name]
  constructor
  · rintro ⟨stamp, word, hstamp, hlevel, rfl⟩
    rw [Calendar.isStamp_iff.mp hstamp, (hword word).mp hlevel]
    rfl
  · rintro rfl
    exact ⟨_, _, Calendar.isStamp_iff.mpr rfl, (hword _).mpr rfl, rfl⟩

end Diagnostic

end FrontEnd
