import Tonality.Proofs.Rhythm.Measures

/-!
Notes without ties. In a measure filled with note values no note that begins between two
beats goes on beyond the next one, and a note that begins on a beat ends within it or on
another beat, so nothing has to be written as tied notes. Nothing in a filling looks for
this on the beat: there it comes from the lengths, which in ticks are powers of two, as the
eight ticks of a beat are.
-/

namespace Tonality.Rhythm
open Gen

def OnBeat (m : Meter) (t : Rat) : Prop := ∃ k : Nat, t = (k : Rat) / m.unit

/-- From its start on an event stays within one beat. -/
def InBeat (m : Meter) (start : Rat) (e : Event) : Prop :=
  ∃ k : Nat, (k : Rat) / m.unit ≤ start ∧ start + e.length ≤ ((k + 1 : Nat) : Rat) / m.unit

/-- There is room for an event in what is left of the measure, and off the beat in what is
left of the beat. -/
def HasRoom (m : Meter) (start : Rat) (e : Event) : Prop :=
  start + e.length ≤ m.beats / m.unit ∧ (¬OnBeat m start → InBeat m start e)

/-- A note and the time it starts at: a value of the level, or the unit where no value has
room, that stays within a beat or runs from one beat to another. -/
structure Untied (m : Meter) (level : Nat) (start : Rat) (e : Event) : Prop where
  sounds : 0 < e
  chosen : (∃ v ∈ noteValues level, e = Int.ofNat v.1) ∨
    (e = m.unit ∧ ∀ v ∈ noteValues level, ¬HasRoom m start (Int.ofNat v.1))
  fits : HasRoom m start e
  whole : InBeat m start e ∨ (OnBeat m start ∧ OnBeat m (start + e.length))

/-- The time after some ticks as a fraction of a whole note. -/
def timeAt (m : Meter) (ticks : Nat) : Rat := ticks / wholeTicks m

section
variable {m : Meter} {level : Nat}

theorem timeAt_add (a b : Nat) : timeAt m (a + b) = timeAt m a + timeAt m b := by
  simp only [timeAt, Nat.cast_add, add_div]

section
variable (regular : m.Regular)
include regular

theorem timeAt_le_iff {a b : Nat} : timeAt m a ≤ timeAt m b ↔ a ≤ b := by
  rw [timeAt, timeAt, div_le_div_iff_of_pos_right (wholeTicks_pos regular), Nat.cast_le]

theorem timeAt_inj {a b : Nat} : timeAt m a = timeAt m b ↔ a = b := by
  simp only [le_antisymm_iff, timeAt_le_iff regular]

theorem timeAt_beats (k : Nat) : timeAt m (8 * k) = (k : Rat) / m.unit := by
  have hwhole : (wholeTicks m : Rat) = 8 * m.unit := by
    have hunit := regular.unit_pos
    have hticks : (wholeTicks m : Int) = 8 * m.unit := by
      unfold wholeTicks
      omega
    exact_mod_cast hticks
  rw [timeAt, hwhole, Nat.cast_mul]
  exact mul_div_mul_left _ _ (by norm_num)

theorem timeAt_measure : timeAt m (measureTicks m) = m.beats / m.unit := by
  have hbeats : ((m.beats.toNat : Nat) : Rat) = m.beats := by
    have := regular.beats_pos
    exact_mod_cast Int.toNat_of_nonneg (by omega)
  have hticks : measureTicks m = 8 * m.beats.toNat := by
    have := measureTicks_eq regular
    omega
  rw [hticks, timeAt_beats regular, hbeats]

theorem onBeat_timeAt (position : Nat) : OnBeat m (timeAt m position) ↔ 8 ∣ position := by
  simp only [OnBeat, ← timeAt_beats regular, timeAt_inj regular]
  rfl

section
variable {e : Event} {ticks : Nat} (length : e.length = timeAt m ticks)
include length

theorem inBeat_timeAt (position : Nat) :
    InBeat m (timeAt m position) e ↔ position % 8 + ticks ≤ 8 := by
  simp only [InBeat, length, ← timeAt_add, ← timeAt_beats regular, timeAt_le_iff regular]
  refine ⟨?_, fun h => ⟨position / 8, ?_⟩⟩
  · rintro ⟨k, low, high⟩
    omega
  · omega

theorem hasRoom_timeAt {position remaining : Nat} (whole : position + remaining = measureTicks m) :
    HasRoom m (timeAt m position) e ↔ (ticks : Int) ≤ room m position remaining := by
  have hoffset : Int.fmod position 8 = (position % 8 : Nat) := by
    rw [Int.fmod_eq_emod_of_nonneg _ (by decide)]
    rfl
  rw [HasRoom, onBeat_timeAt regular, inBeat_timeAt regular length, length, ← timeAt_add,
    ← timeAt_measure regular, timeAt_le_iff regular, room, beatTicks_eq regular, hoffset]
  split_ifs with honbeat
  · omega
  · rw [le_min_iff]
    omega

end

theorem length_eq_timeAt {v : Nat × Nat} (h : v ∈ noteValues level) :
    Event.length (Int.ofNat v.1) = timeAt m (noteTicks m v.1) :=
  length_noteValue regular (dvd_eight h)

theorem NextNote.untied {position remaining ticks : Nat} {e : Event}
    (h : NextNote m level position remaining e ticks)
    (whole : position + remaining = measureTicks m) : Untied m level (timeAt m position) e := by
  have length : e.length = timeAt m ticks := h.length_eq regular
  have hroom := (hasRoom_timeAt regular length whole).mpr (h.le_room)
  refine ⟨h.pos regular, ?_, hroom, ?_⟩
  · cases h with
    | @value v fits => exact .inl ⟨v, (List.mem_filter.mp fits).1, rfl⟩
    | unit none _ =>
      refine .inr ⟨rfl, fun v hv => ?_⟩
      rw [hasRoom_timeAt regular (length_eq_timeAt regular hv) whole]
      simpa using List.filter_eq_nil_iff.mp none v hv
  · by_cases hbeat : 8 ∣ position
    · -- of two powers of two one divides the other
      obtain ⟨j, hj⟩ := h.exists_pow regular
      rcases le_total j 3 with hshort | hlong
      · have hticks : ticks ≤ 8 := by
          rw [hj]
          exact Nat.pow_le_pow_right Nat.two_pos hshort
        exact .inl ((inBeat_timeAt regular length position).mpr (by omega))
      · have hticks : 8 ∣ ticks := by
          rw [hj]
          exact pow_dvd_pow 2 hlong
        rw [length, ← timeAt_add, onBeat_timeAt regular, onBeat_timeAt regular]
        exact .inr ⟨hbeat, Nat.dvd_add hbeat hticks⟩
    · exact .inl (hroom.2 (by rwa [onBeat_timeAt regular]))

theorem Placing.untied {position remaining : Nat} {es before after : List Event} {e : Event}
    (h : Placing m level position remaining es) (whole : position + remaining = measureTicks m)
    (hes : es = before ++ e :: after) :
    Untied m level (timeAt m position + lengthOf before) e := by
  -- the ticks of the notes before add up to the position at which the note was chosen
  induction h generalizing before with
  | nil => simp at hes
  | cons next _ ih =>
    cases before with
    | nil =>
      obtain ⟨rfl, -⟩ := List.cons.inj hes
      rw [lengthOf_nil, add_zero]
      exact next.untied regular whole
    | cons first before =>
      obtain ⟨rfl, hrest⟩ := List.cons.inj hes
      have hticks := next.ticks_le
      have htime : timeAt m _ = _ := (next.length_eq regular).symm
      rw [lengthOf_cons, ← add_assoc, ← htime, ← timeAt_add]
      exact ih (by omega) hrest

end

/-- At low complexity the notes of a simple meter are values of the level, or the unit where none
of them has room, and none of them needs a tie, whatever is drawn. -/
theorem measure_untied {source : MeterSource} {n : Int} (get : source.get = .ok m)
    (regular : m.Regular) (simple : m.kind = .simple) (low : 1 ≤ n) (high : n ≤ 4) :
    Yields (measure source (.num (.int n))) fun es =>
      ∀ before e after, es = before ++ e :: after → Untied m n.toNat (lengthOf before) e := by
  have hnotes : usesNotes m n.toNat = true := by
    simp only [usesNotes, simple, decide_true, Bool.and_true, decide_eq_true_eq]
    omega
  have hstart : timeAt m 0 = 0 := by simp [timeAt]
  intro s
  rw [run_measure_eq get low (by omega)]
  refine (yields_fillMeasure_notes regular (by omega) hnotes).mono (fun es h => ?_) s
  intro before e after hes
  have huntied := h.untied regular (Nat.zero_add _) hes
  rwa [hstart, zero_add] at huntied

theorem measure_untied_thirteen :
    Yields (measure (.meter ⟨13, 16⟩) (.num (.int 3))) fun es =>
      ∀ before e after, es = before ++ e :: after → Untied ⟨13, 16⟩ 3 (lengthOf before) e := by
  have get : MeterSource.get (.meter ⟨13, 16⟩) = .ok ⟨13, 16⟩ := rfl
  have regular : (Meter.mk 13 16).Regular := ⟨by decide, 4, rfl⟩
  exact measure_untied get regular rfl (by decide) (by decide)

end

end Tonality.Rhythm
