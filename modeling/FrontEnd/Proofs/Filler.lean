/-
# FrontEnd.Proofs.Filler — text without tokens.

Filler is blanks and complete comments.  Whether a line comment is complete depends on what comes
behind the filler, so `Filler` takes the next character into account; `Padding` is filler in front
of anything, each of its line comments closed by a newline of its own.
-/
import FrontEnd.Proofs.Piece

namespace FrontEnd

open CharClass

/-- Blanks and complete comments, in front of the character `next` or of nothing. -/
inductive Filler : List Char → Option Char → Prop
  | nil {next : Option Char} : Filler [] next
  | blank {c : Char} {gap : List Char} {next : Option Char} :
      isBlank c = true → Filler gap next → Filler (c :: gap) next
  | line {body gap : List Char} {next : Option Char} :
      '\n' ∉ body → EndsLine (gap.head?.or next) → Filler gap next →
      Filler ('/' :: '/' :: (body ++ gap)) next
  | block {body gap : List Char} {next : Option Char} :
      Comment.IsClosed body → Filler gap next → Filler ('/' :: '*' :: (body ++ gap)) next

/-- Blanks and complete comments, each line comment followed by a newline. -/
inductive Padding : List Char → Prop
  | nil : Padding []
  | blank {c : Char} {gap : List Char} : isBlank c = true → Padding gap → Padding (c :: gap)
  | line {body gap : List Char} :
      '\n' ∉ body → Padding gap → Padding ('/' :: '/' :: (body ++ '\n' :: gap))
  | block {body gap : List Char} :
      Comment.IsClosed body → Padding gap → Padding ('/' :: '*' :: (body ++ gap))

theorem Padding.filler {gap : List Char} (h : Padding gap) (next : Option Char) :
    Filler gap next := by
  induction h with
  | nil => exact .nil
  | blank hc _ ih => exact .blank hc ih
  | line hbody _ ih =>
    exact .line hbody endsLine_newline (.blank rfl ih)
  | block hbody _ ih => exact .block hbody ih

namespace Filler

theorem of_blanks {blanks : List Char} (h : ∀ c ∈ blanks, isBlank c = true)
    (next : Option Char) : Filler blanks next := by
  induction blanks with
  | nil => exact .nil
  | cons c cs ih =>
    obtain ⟨hc, hcs⟩ := List.forall_mem_cons.mp h
    exact .blank hc (ih hcs)

theorem append {a b : List Char} {next : Option Char} (ha : Filler a (b.head?.or next))
    (hb : Filler b next) : Filler (a ++ b) next := by
  generalize hnext : b.head?.or next = between at ha
  induction ha with
  | nil => exact hb
  | blank hc _ ih => exact .blank hc (ih hnext)
  | @line body gap _ hbody hends _ ih =>
    subst hnext
    rw [List.cons_append, List.cons_append, List.append_assoc]
    refine .line hbody ?_ (ih rfl)
    rwa [List.head?_append, Option.or_assoc]
  | block hbody _ ih =>
    rw [List.cons_append, List.cons_append, List.append_assoc]
    exact .block hbody (ih hnext)

/-- A comment piece is filler. -/
theorem of_reads {text : List Char} {next : Option Char}
    (h : Lexeme.Reads text next .comment) : Filler text next := by
  generalize hreading : Reading.comment = reading at h
  cases h with
  | @lineComment body _ hbody hnext =>
    have hline : Filler ('/' :: '/' :: (body ++ [])) next := .line hbody hnext .nil
    rwa [List.append_nil] at hline
  | @blockComment body _ hbody =>
    have hblock : Filler ('/' :: '*' :: (body ++ [])) next := .block hbody .nil
    rwa [List.append_nil] at hblock
  | _ => cases hreading

end Filler

/-- A comment in front of comments is one comment more. -/
theorem Splits.prepend_comment {text rest : List Char} {p : Place} {comments xs : List Piece}
    (hreads : Lexeme.Reads text rest.head? .comment)
    (hcomments : ∀ x ∈ comments, x.reading = .comment)
    (h : Splits (p.after text) rest (comments ++ xs)) :
    ∃ more, (∀ x ∈ more, x.reading = .comment) ∧ Splits p (text ++ rest) (more ++ xs) := by
  let x : Piece := ⟨p, text, .comment⟩
  refine ⟨x :: comments, List.forall_mem_cons.mpr ⟨rfl, hcomments⟩, ?_⟩
  exact Splits.prepend_piece (x := x) hreads h

/-- Filler in front of a text puts comments in front of its pieces, and nothing else. -/
theorem Splits.prepend_filler {gap cs : List Char} {p : Place} {xs : List Piece}
    (hgap : Filler gap cs.head?) (h : Splits (p.after gap) cs xs) :
    ∃ comments, (∀ x ∈ comments, x.reading = .comment) ∧
      Splits p (gap ++ cs) (comments ++ xs) := by
  generalize hnext : cs.head? = next at hgap
  induction hgap generalizing p with
  | nil => exact ⟨[], by simp, h⟩
  | @blank c gap _ hc _ ih =>
    obtain ⟨comments, hcomments, hsplits⟩ := ih h hnext
    have hblank : ∀ d ∈ [c], isBlank d = true := List.forall_mem_singleton.mpr hc
    have hprepend : Splits p ([c] ++ (gap ++ cs)) (comments ++ xs) :=
      Splits.prepend_blanks hblank hsplits
    exact ⟨comments, hcomments, hprepend⟩
  | @line body gap _ hbody hends _ ih =>
    subst hnext
    rw [← List.cons_append, ← List.cons_append, Place.after_append] at h
    obtain ⟨comments, hcomments, hsplits⟩ := ih h rfl
    -- the newline behind the comment is in the filler, or the text behind the filler starts with it
    have hreads : Lexeme.Reads ('/' :: '/' :: body) (gap ++ cs).head? .comment := by
      refine .lineComment hbody ?_
      rwa [List.head?_append]
    have hprepend := Splits.prepend_comment hreads hcomments hsplits
    rwa [← List.append_assoc] at hprepend
  | @block body gap _ hbody _ ih =>
    rw [← List.cons_append, ← List.cons_append, Place.after_append] at h
    obtain ⟨comments, hcomments, hsplits⟩ := ih h hnext
    have hprepend := Splits.prepend_comment (.blockComment hbody) hcomments hsplits
    rwa [← List.append_assoc] at hprepend

end FrontEnd
