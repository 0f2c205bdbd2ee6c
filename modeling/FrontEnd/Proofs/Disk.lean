/-
# FrontEnd.Proofs.Disk — writing at the end of what stands at a location.

What a write does depends on nothing but the entry at its location, and changes nothing but that
entry (`append_of_ok`, `append_of_error`).  Opening a file for writing at its end makes an empty file
where nothing stood, and leaves what stood there otherwise (`holds_opened`).
-/
import FrontEnd.Disk
import Mathlib.Tactic.SplitIfs

namespace FrontEnd.Disk

/-- The entry stands at the location. -/
def Holds (d : Disk) (l : Location) (e : Entry) : Prop := d.entry? l = some e

/-- The same stands at the location on both disks, or nothing does on either. -/
def SameAt (l : Location) (d d' : Disk) : Prop := d'.entry? l = d.entry? l

/-- What opening for writing finds at a location: what stands there, or else an empty file. -/
def opened (d : Disk) (l : Location) : Entry :=
  match d.entry? l with
  | some e => e
  | none => .file .empty

variable {d d' d'' : Disk} {l : Location} {e e' : Entry} {text : String} {fault : Fault}

theorem SameAt.refl (l : Location) (d : Disk) : SameAt l d d := rfl

theorem SameAt.trans (h : SameAt l d d') (h' : SameAt l d' d'') : SameAt l d d'' := Eq.trans h' h

theorem SameAt.holds (h : SameAt l d d') (he : d.Holds l e) : d'.Holds l e := Eq.trans h he

theorem holds_put (d : Disk) (l : Location) (e : Entry) : (d.put l e).Holds l e :=
  List.lookup_cons_self

theorem append_of_ok (h : d.Holds l e) (happend : e.append text.toUTF8 = .ok e') :
    d.append l text = .ok (d.put l e') := by
  unfold Holds at h
  unfold append
  rw [h]
  dsimp only
  rw [happend]
  rfl

theorem append_of_error (h : d.Holds l e) (happend : e.append text.toUTF8 = .error fault) :
    d.append l text = .error fault := by
  unfold Holds at h
  unfold append
  rw [h]
  dsimp only
  rw [happend]
  rfl

/-- A path that is a single name starts where the disk stands. -/
theorem split_of_name {name : String} (hname : name.splitOn "/" = [name]) (hne : name ≠ "")
    (hnul : name.contains '\x00' = false) (hsize : name.utf8ByteSize < pathLimit) :
    d.split name = .ok (d.here, [name]) := by
  unfold split
  rw [hnul, if_neg Bool.false_ne_true, if_neg hne, if_neg (Nat.not_le.mpr hsize), hname]
  split
  · rename_i names hfirst
    exact absurd (List.cons.inj hfirst).1 hne
  · rfl

/-- Opening a file for writing at its end leaves what stands there, or else makes an empty file. -/
theorem holds_opened {path : String} (h : d.openAtEnd path = .ok (l, d')) :
    d'.Holds l (d.opened l) := by
  unfold openAtEnd at h
  cases hsplit : d.split path with
  | error fault => rw [hsplit] at h; cases h
  | ok way =>
    obtain ⟨start, names⟩ := way
    rw [hsplit] at h
    dsimp only [bind, Except.bind] at h
    split at h
    · cases h
    · split at h
      · cases h
      · split_ifs at h
        -- the name can be opened; what stands there decides
        split at h
        · cases h
        · rename_i there _ hthere
          obtain ⟨rfl, rfl⟩ := Prod.mk.inj (Except.ok.inj h)
          unfold Holds opened
          rw [hthere]
        · rename_i hnone
          obtain ⟨rfl, rfl⟩ := Prod.mk.inj (Except.ok.inj h)
          unfold opened
          rw [hnone]
          exact holds_put _ _ _

end FrontEnd.Disk
