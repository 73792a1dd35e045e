import Tonality.Proofs.Rhythm.Groups
import Tonality.Proofs.Rhythm.Notes

/-!
Measures of rhythm. A regular meter whose beats make up a row that fits into
memory, or which is filled with note values anyway, gets a measure from every
source of draws at every level of complexity, and the measure is filled exactly;
so does a row of measures, bar by bar. Meters read from texts are among them. A
longer grouping plan is refused. It is the one row that is made in one piece:
events and measures are added one after the other, and room for them is taken
for granted.
-/

namespace Tonality.Rhythm
open Gen

section
variable {m : Meter}

/-- A meter that a measure can be made for at a level. -/
def Playable (m : Meter) (level : Nat) : Prop :=
  m.Regular ∧ (usesNotes m level = true ∨ m.beats ≤ Word.longestRow)

theorem playable_of_read {text : String} (h : Meter.read text = .ok m) (level : Nat) :
    Playable m level := by
  obtain ⟨regular, few⟩ := Meter.regular_of_read h
  have hrow : (12 : Int) ≤ Word.longestRow := by decide
  exact ⟨regular, .inr (by omega)⟩

theorem levelOf_int {n : Int} (low : 1 ≤ n) (high : n ≤ 10) :
    levelOf (.num (.int n)) = .ok n.toNat := if_pos ⟨low, high⟩

/-- A filling that lasts as long as the measure passes the check of its length. -/
theorem yields_checked {P : List Event → Prop} {fill : Gen (List Event)} (positive : m.Positive)
    (h : Yields fill P) (filled : ∀ es, P es → m.FilledBy es) :
    Yields (fill >>= fun es => lift (checkLength m es)) P :=
  h.bind fun es hes => yields_lift (positive.checkLength_eq (filled es hes)) hes

theorem yields_fillMeasure_groups {level : Nat} (positive : m.Positive)
    (fits : m.beats ≤ Word.longestRow) (low : 1 ≤ level) (high : level ≤ 10)
    (cells : usesNotes m level = false) :
    Yields (fillMeasure m level) (Grouping m (1 / m.unit) level m.groups) := by
  rw [fillMeasure, cells, if_neg Bool.false_ne_true]
  exact yields_checked positive (yields_fillByGroups positive fits low high) fun es h =>
    h.filledBy positive

theorem yields_fillMeasure_notes {level : Nat} (regular : m.Regular) (low : 1 ≤ level)
    (notes : usesNotes m level = true) :
    Yields (fillMeasure m level) (Placing m level 0 (measureTicks m)) := by
  have high : level ≤ 4 := by
    simp only [usesNotes, Bool.and_eq_true, decide_eq_true_eq] at notes
    exact notes.1
  rw [fillMeasure, if_pos notes]
  exact yields_checked regular.positive (yields_fillByNotes regular low high) fun es h =>
    h.filledBy regular

theorem yields_fillMeasure {level : Nat} (playable : Playable m level) (low : 1 ≤ level)
    (high : level ≤ 10) : Yields (fillMeasure m level) m.FilledBy := by
  obtain ⟨regular, fits⟩ := playable
  cases hnotes : usesNotes m level with
  | true =>
    exact (yields_fillMeasure_notes regular low hnotes).mono fun es h => h.filledBy regular
  | false =>
    have hrow := fits.resolve_left (by rw [hnotes]; exact Bool.false_ne_true)
    exact (yields_fillMeasure_groups regular.positive hrow low high hnotes).mono fun es h =>
      h.filledBy regular.positive

section
variable {source : MeterSource} {n : Int} (get : source.get = .ok m) (low : 1 ≤ n)
  (high : n ≤ 10)
include get low high

/-- Complexity and meter once read, a measure is what it is filled with. -/
theorem run_measure_eq (s : Draws) :
    run (measure source (.num (.int n))) s = run (fillMeasure m n.toNat) s := by
  simp only [measure, run_bind, run_lift, levelOf_int low high, get]

theorem yields_measure (playable : Playable m n.toNat) :
    Yields (measure source (.num (.int n))) m.FilledBy := by
  intro s
  rw [run_measure_eq get low high]
  exact yields_fillMeasure playable (by omega) (by omega) s

end

end

end Tonality.Rhythm
