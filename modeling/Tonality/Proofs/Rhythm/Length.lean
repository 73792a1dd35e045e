import Mathlib.Algebra.BigOperators.Group.List.Lemmas
import Mathlib.Algebra.Order.Field.Rat
import Mathlib.Data.Rat.Cast.Order
import Mathlib.Tactic.FieldSimp
import Mathlib.Tactic.Linarith
import Tonality.Proofs.Meter
import Tonality.Proofs.Outcome
import Tonality.Rhythm

/-!
Lengths of events, and the meters that a measure can be made for: a beat or
more, and a unit that is a power of two, though for cells any unit will do. Every
meter read from a text is one of them. A measure is filled by events other than
zero whose lengths add up to it.
-/

namespace Tonality

/-- The length of an event other than zero as a fraction of a whole note. -/
def Event.length (e : Event) : Rat := 1 / (e.natAbs : Rat)

def lengthOf (es : List Event) : Rat := (es.map Event.length).sum

@[simp] theorem lengthOf_nil : lengthOf [] = 0 := rfl

@[simp] theorem lengthOf_cons (e : Event) (es : List Event) :
    lengthOf (e :: es) = e.length + lengthOf es := rfl

@[simp] theorem lengthOf_append (es fs : List Event) :
    lengthOf (es ++ fs) = lengthOf es + lengthOf fs := by
  simp [lengthOf]

theorem lengthOf_replicate (n : Nat) (e : Event) :
    lengthOf (List.replicate n e) = n * e.length := by
  simp [lengthOf, nsmul_eq_mul]

theorem Event.length_nonneg (e : Event) : 0 ≤ e.length :=
  div_nonneg zero_le_one (Nat.cast_nonneg _)

theorem lengthOf_nonneg (es : List Event) : 0 ≤ lengthOf es := by
  induction es with
  | nil => exact le_rfl
  | cons e es ih =>
    rw [lengthOf_cons]
    exact add_nonneg e.length_nonneg ih

theorem Event.span_of_ne {e : Event} (h : e ≠ 0) : e.span = .ok e.length := by
  simp [Event.span, fraction, Event.length, h, pure, Except.pure]

theorem spanOf_of_ne {es : List Event} (h : ∀ e ∈ es, e ≠ 0) : spanOf es = .ok (lengthOf es) := by
  rw [spanOf, mapM_eq_ok fun e he => Event.span_of_ne (h e he)]
  rfl

namespace Meter

/-- A beat or more, and a unit that is a power of two. -/
structure Regular (m : Meter) : Prop where
  beats_pos : 1 ≤ m.beats
  unit_pow : ∃ k : Nat, m.unit = 2 ^ k

/-- A beat or more, and any unit above zero. -/
structure Positive (m : Meter) : Prop where
  beats_pos : 1 ≤ m.beats
  unit_pos : 0 < m.unit

/-- No event is zero, and the events together last as long as the measure. -/
structure FilledBy (m : Meter) (es : List Event) : Prop where
  nonzero : ∀ e ∈ es, e ≠ 0
  total : lengthOf es = m.beats / m.unit

theorem Regular.unit_pos {m : Meter} (h : m.Regular) : 0 < m.unit := by
  obtain ⟨k, hk⟩ := h.unit_pow
  rw [hk]
  positivity

theorem Regular.positive {m : Meter} (h : m.Regular) : m.Positive := ⟨h.beats_pos, h.unit_pos⟩

theorem Positive.measure_eq {m : Meter} (h : m.Positive) :
    m.measure = .ok (m.beats / m.unit) := if_neg h.unit_pos.ne'

theorem Positive.beat_eq {m : Meter} (h : m.Positive) : m.beat = .ok (1 / m.unit) := by
  simp [Meter.beat, fraction, h.unit_pos.ne', pure, Except.pure]

theorem Positive.checkLength_eq {m : Meter} (h : m.Positive) {es : List Event}
    (filled : m.FilledBy es) : Rhythm.checkLength m es = .ok es := by
  rw [Rhythm.checkLength, spanOf_of_ne filled.nonzero, h.measure_eq]
  exact if_pos filled.total

theorem regular_of_mem_beatsFor {beats unit : Nat} (h : beats ∈ beatsFor unit) :
    (Meter.mk beats unit).Regular ∧ beats < 13 := by
  unfold beatsFor at h
  split at h
  all_goals simp only [List.mem_cons, List.not_mem_nil, or_false] at h
  · exact ⟨⟨by simp [h], 1, rfl⟩, by omega⟩
  · exact ⟨⟨by dsimp only; omega, 2, rfl⟩, by omega⟩
  · exact ⟨⟨by dsimp only; omega, 3, rfl⟩, by omega⟩

theorem regular_of_read {text : String} {m : Meter} (h : read text = .ok m) :
    m.Regular ∧ m.beats < 13 := by
  obtain ⟨beats, unit, -, hmem, rfl⟩ := notates_of_read h
  have hr := regular_of_mem_beatsFor (mem_supported_iff.mp hmem)
  exact ⟨hr.1, by dsimp only; omega⟩

end Meter
end Tonality
