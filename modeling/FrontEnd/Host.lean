/-
# FrontEnd.Host — what a compilation touches outside itself.

A compilation reads and writes files, asks for the time, and speaks to the event stream.  The
clock may answer anything: `clock n` is its answer to the question number `n`.
-/
import FrontEnd.Event

namespace FrontEnd

/-- The files, the clock, and the events so far. -/
structure Host where
  disk : Disk
  clock : Nat → Int
  readings : Nat
  events : Array Event

namespace Host

/-- A host with the given files, on which nothing has happened yet. -/
def ofDisk (disk : Disk) (clock : Nat → Int) : Host := ⟨disk, clock, 0, #[]⟩

/-- Asks for the time. -/
def now (h : Host) : Int × Host := (h.clock h.readings, { h with readings := h.readings + 1 })

/-- Speaks to the event stream. -/
def tell (h : Host) (e : Event) : Host := { h with events := h.events.push e }

/-- Writes at the end of an open file, if the disk lets it. -/
def append (h : Host) (l : Disk.Location) (text : String) : Except Fault Host := do
  return { h with disk := ← h.disk.append l text }

end Host

end FrontEnd
