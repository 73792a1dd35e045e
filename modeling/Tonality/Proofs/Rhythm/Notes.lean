import Mathlib.Data.List.Sublists
import Mathlib.Data.Nat.Prime.Basic
import Mathlib.Tactic.IntervalCases
import Mathlib.Tactic.Ring
import Tonality.Proofs.Rhythm.Length
import Tonality.Proofs.Yield

/-!
Filling a measure with note values. Time runs in ticks, and a grain is a number
of ticks that divides the beat and every note value of the level, and is itself
the beat or one of the note values. Position and remainder stay multiples of
the grain, so something always fits: off the beat the grain is a note value,
and on the beat the unit serves if no note value does.
-/

namespace Tonality.Rhythm
open Gen

/-- The notes that may come next at a position, each with its ticks. -/
inductive NextNote (m : Meter) (level position remaining : Nat) : Event → Nat → Prop
  | value {v : Nat × Nat} (fits : v ∈ fitting m level (room m position remaining)) :
    NextNote m level position remaining (Int.ofNat v.1) (noteTicks m v.1)
  | unit (none : fitting m level (room m position remaining) = [])
    (fits : 8 ≤ room m position remaining) : NextNote m level position remaining m.unit 8

/-- Runs of notes that take up the remaining ticks from a position on. -/
inductive Placing (m : Meter) (level : Nat) : Nat → Nat → List Event → Prop
  | nil {position : Nat} : Placing m level position 0 []
  | cons {position remaining ticks : Nat} {e : Event} {es : List Event}
    (next : NextNote m level position remaining e ticks)
    (rest : Placing m level (position + ticks) (remaining - ticks) es) :
    Placing m level position remaining (e :: es)

structure Grain (m : Meter) (level g : Nat) : Prop where
  beat : g ∣ 8
  note : ∀ v ∈ noteValues level, g ∣ noteTicks m v.1
  served : g = 8 ∨ ∃ v ∈ noteValues level, noteTicks m v.1 = g

section
variable {m : Meter} {level : Nat}

theorem dvd_eight {v : Nat × Nat} (h : v ∈ noteValues level) : v.1 ∣ 8 := by
  unfold noteValues at h
  split at h
  all_goals simp only [List.mem_cons, List.not_mem_nil, or_false] at h
  · rcases h with rfl | rfl | rfl <;> decide
  · rcases h with rfl | rfl | rfl <;> decide
  · rcases h with rfl | rfl | rfl <;> decide
  · rcases h with rfl | rfl | rfl | rfl <;> decide

theorem exists_finest (low : 1 ≤ level) (high : level ≤ 4) :
    ∃ w ∈ noteValues level, ∀ v ∈ noteValues level, v.1 ∣ w.1 := by
  interval_cases level <;> decide

theorem noteTicks_mul {v : Nat} (h : v ∣ 8) : noteTicks m v * v = wholeTicks m :=
  Nat.div_mul_cancel (h.mul_right _)

theorem noteTicks_pos (regular : m.Regular) {v : Nat} (h : v ∣ 8) : 0 < noteTicks m v := by
  have hwhole : 0 < wholeTicks m := by
    have := regular.unit_pos
    unfold wholeTicks
    omega
  rw [← noteTicks_mul h] at hwhole
  exact Nat.pos_of_mul_pos_right hwhole

theorem beatTicks_eq (regular : m.Regular) : beatTicks m = 8 := by
  simp [beatTicks, Int.sign_eq_one_of_pos regular.unit_pos]

theorem measureTicks_eq (regular : m.Regular) : (measureTicks m : Int) = 8 * m.beats := by
  have := regular.beats_pos
  rw [measureTicks, beatTicks_eq regular]
  omega

theorem noteTicks_eq_pow (regular : m.Regular) {v : Nat} (h : v ∣ 8) :
    ∃ j, noteTicks m v = 2 ^ j := by
  obtain ⟨k, hk⟩ := regular.unit_pow
  have hunit : m.unit.natAbs = 2 ^ k := by simp [hk, Int.natAbs_pow]
  have h8 : v ∣ 2 ^ 3 := h
  obtain ⟨i, hi, rfl⟩ := (Nat.dvd_prime_pow Nat.prime_two).mp h8
  refine ⟨3 + k - i, ?_⟩
  rw [noteTicks, wholeTicks, hunit, show 8 = 2 ^ 3 from rfl, ← pow_add,
    Nat.pow_div (by omega) Nat.two_pos]

theorem exists_grain (regular : m.Regular) (low : 1 ≤ level) (high : level ≤ 4) :
    ∃ g, Grain m level g := by
  -- the finest note value will do unless it is longer than a beat
  obtain ⟨w, hw, finest⟩ := exists_finest low high
  obtain ⟨j, hj⟩ := noteTicks_eq_pow regular (dvd_eight hw)
  have hdvd : ∀ v ∈ noteValues level, 2 ^ j ∣ noteTicks m v.1 := by
    intro v hv
    obtain ⟨c, hc⟩ := finest v hv
    have hticks : noteTicks m v.1 * v.1 = noteTicks m w.1 * c * v.1 := by
      rw [noteTicks_mul (dvd_eight hv), ← noteTicks_mul (dvd_eight hw), hc]
      ring
    have hpos : 0 < v.1 := Nat.pos_of_dvd_of_pos (dvd_eight hv) (by decide)
    exact ⟨c, by rw [← hj]; exact Nat.eq_of_mul_eq_mul_right hpos hticks⟩
  rcases le_total j 3 with h | h
  · exact ⟨2 ^ j, pow_dvd_pow 2 h, hdvd, .inr ⟨w, hw, hj⟩⟩
  · exact ⟨8, dvd_rfl, fun v hv => (pow_dvd_pow 2 h).trans (hdvd v hv), .inl rfl⟩

theorem room_le (position remaining : Nat) : room m position remaining ≤ remaining := by
  unfold room
  dsimp only
  split_ifs
  · exact le_refl _
  · exact min_le_left _ _

theorem Grain.le_room {g position remaining : Nat} (grain : Grain m level g) (regular : m.Regular)
    (hpos : g ∣ position) (hrem : g ∣ remaining) (left : 0 < remaining) :
    (g : Int) ≤ room m position remaining := by
  have hbeat : (g : Int) ∣ 8 := by exact_mod_cast grain.beat
  have hposition : (g : Int) ∣ position := by exact_mod_cast hpos
  have hremaining : (g : Int) ∣ remaining := by exact_mod_cast hrem
  have hmod : Int.fmod position 8 = (position : Int) - 8 * (position / 8) := by
    rw [Int.fmod_eq_emod_of_nonneg _ (by decide), Int.emod_def]
  have hoffset : (g : Int) ∣ Int.fmod position 8 := by
    rw [hmod]
    exact Int.dvd_sub hposition (hbeat.mul_right _)
  have hlt : Int.fmod position 8 < 8 := by omega
  rw [room, beatTicks_eq regular]
  split_ifs
  · exact Int.le_of_dvd (by omega) hremaining
  · exact le_min (Int.le_of_dvd (by omega) hremaining)
      (Int.le_of_dvd (by omega) (Int.dvd_sub hbeat hoffset))

theorem Grain.eight_le_room {g position remaining : Nat} (grain : Grain m level g)
    (regular : m.Regular) (hpos : g ∣ position) (hrem : g ∣ remaining) (left : 0 < remaining)
    (none : fitting m level (room m position remaining) = []) :
    8 ≤ room m position remaining := by
  have hroom := grain.le_room regular hpos hrem left
  rcases grain.served with rfl | ⟨v, hv, hticks⟩
  · exact hroom
  · have hmem : v ∈ fitting m level (room m position remaining) := by
      simp only [fitting, List.mem_filter, decide_eq_true_eq]
      exact ⟨hv, by rw [hticks]; exact hroom⟩
    rw [none] at hmem
    exact absurd hmem List.not_mem_nil

theorem NextNote.le_room {position remaining ticks : Nat} {e : Event}
    (h : NextNote m level position remaining e ticks) : (ticks : Int) ≤ room m position remaining := by
  cases h with
  | value fits => exact of_decide_eq_true (List.mem_filter.mp fits).2
  | unit _ fits => exact fits

theorem NextNote.ticks_le {position remaining ticks : Nat} {e : Event}
    (h : NextNote m level position remaining e ticks) : ticks ≤ remaining :=
  Int.ofNat_le.mp (h.le_room.trans (room_le position remaining))

theorem NextNote.ticks_pos (regular : m.Regular) {position remaining ticks : Nat} {e : Event}
    (h : NextNote m level position remaining e ticks) : 0 < ticks := by
  cases h with
  | value fits => exact noteTicks_pos regular (dvd_eight (List.mem_filter.mp fits).1)
  | unit _ _ => decide

theorem NextNote.exists_pow (regular : m.Regular) {position remaining ticks : Nat} {e : Event}
    (h : NextNote m level position remaining e ticks) : ∃ j, ticks = 2 ^ j := by
  cases h with
  | value fits => exact noteTicks_eq_pow regular (dvd_eight (List.mem_filter.mp fits).1)
  | unit _ _ => exact ⟨3, rfl⟩

theorem NextNote.dvd_ticks {g position remaining ticks : Nat} {e : Event}
    (h : NextNote m level position remaining e ticks) (grain : Grain m level g) : g ∣ ticks := by
  cases h with
  | value fits => exact grain.note _ (List.mem_filter.mp fits).1
  | unit _ _ => exact grain.beat

theorem NextNote.pos (regular : m.Regular) {position remaining ticks : Nat} {e : Event}
    (h : NextNote m level position remaining e ticks) : 0 < e := by
  cases h with
  | @value v fits =>
    have hv := Nat.pos_of_dvd_of_pos (dvd_eight (List.mem_filter.mp fits).1) (by decide)
    exact Int.ofNat_lt.mpr hv
  | unit _ _ => exact regular.unit_pos

theorem wholeTicks_pos (regular : m.Regular) : (0 : Rat) < wholeTicks m := by
  have hunit := regular.unit_pos
  have hwhole : 0 < wholeTicks m := by
    unfold wholeTicks
    omega
  exact_mod_cast hwhole

theorem length_noteValue (regular : m.Regular) {v : Nat} (h : v ∣ 8) :
    Event.length (Int.ofNat v) = noteTicks m v / wholeTicks m := by
  have hmul : (noteTicks m v : Rat) * v = wholeTicks m := by exact_mod_cast noteTicks_mul h
  have hpos : (0 : Rat) < v := by exact_mod_cast Nat.pos_of_dvd_of_pos h (by decide)
  rw [Event.length, Int.natAbs_ofNat', div_eq_div_iff hpos.ne' (wholeTicks_pos regular).ne', one_mul,
    hmul]

theorem NextNote.length_eq (regular : m.Regular) {position remaining ticks : Nat} {e : Event}
    (h : NextNote m level position remaining e ticks) : e.length = ticks / wholeTicks m := by
  cases h with
  | value fits => exact length_noteValue regular (dvd_eight (List.mem_filter.mp fits).1)
  | unit _ _ =>
    have hpos : (0 : Rat) < m.unit.natAbs := by
      exact_mod_cast Int.natAbs_pos.mpr regular.unit_pos.ne'
    rw [Event.length, div_eq_div_iff hpos.ne' (wholeTicks_pos regular).ne', one_mul, wholeTicks]
    push_cast
    ring

/-- The weights of note values can be chosen with, whichever of them fit. -/
theorem usable_noteValues :
    ∀ level ∈ [1, 2, 3, 4], ∀ vs ∈ (noteValues level).sublists,
      vs = [] ∨ Weight.isUsable (vs.map fun v => Number.int v.2) = true := by
  decide +kernel

theorem yields_chooseNote {g position remaining : Nat} (grain : Grain m level g)
    (regular : m.Regular) (low : 1 ≤ level) (high : level ≤ 4)
    (hpos : g ∣ position) (hrem : g ∣ remaining) (left : 0 < remaining) :
    Yields (chooseNote m level position remaining) fun c =>
      NextNote m level position remaining c.1 c.2 := by
  unfold chooseNote
  dsimp only
  split
  · rename_i none
    have hroom := grain.eight_le_room regular hpos hrem left none
    rw [if_pos hroom]
    exact yields_pure (.unit none hroom)
  · rename_i vs hne
    have hlevel : level ∈ [1, 2, 3, 4] := by simp; omega
    have hsub : fitting m level (room m position remaining) ∈ (noteValues level).sublists :=
      List.mem_sublists.mpr List.filter_sublist
    have husable := (usable_noteValues level hlevel _ hsub).resolve_left hne
    refine (yields_weighted (by simpa using hne) (by simp)
      (Weight.usable_of_isUsable husable)).bind ?_
    intro value hvalue
    obtain ⟨v, hv, rfl⟩ := List.mem_map.mp hvalue
    exact yields_pure (.value hv)

theorem yields_placeNotes {g : Nat} (grain : Grain m level g) (regular : m.Regular)
    (low : 1 ≤ level) (high : level ≤ 4) {bound position remaining : Nat}
    (hpos : g ∣ position) (hrem : g ∣ remaining) (enough : remaining ≤ bound) :
    Yields (placeNotes m level bound position remaining) (Placing m level position remaining) := by
  -- what the bound carries is that position and remainder are multiples of the grain
  induction bound generalizing position remaining with
  | zero =>
    obtain rfl : remaining = 0 := by omega
    exact yields_pure .nil
  | succ bound ih =>
    unfold placeNotes
    split_ifs with hzero
    · subst hzero
      exact yields_pure .nil
    · refine (yields_chooseNote grain regular low high hpos hrem (by omega)).bind ?_
      rintro ⟨e, ticks⟩ hnext
      have hdvd := hnext.dvd_ticks grain
      have htick := hnext.ticks_pos regular
      refine (ih (Nat.dvd_add hpos hdvd) (Nat.dvd_sub hrem hdvd) (by omega)).bind ?_
      intro es hes
      exact yields_pure (.cons hnext hes)

theorem Placing.pos (regular : m.Regular) {position remaining : Nat} {es : List Event}
    (h : Placing m level position remaining es) : ∀ e ∈ es, 0 < e := by
  induction h with
  | nil => exact fun e he => absurd he List.not_mem_nil
  | cons next _ ih =>
    intro e he
    rcases List.mem_cons.mp he with rfl | he
    · exact next.pos regular
    · exact ih e he

theorem Placing.lengthOf_eq (regular : m.Regular) {position remaining : Nat} {es : List Event}
    (h : Placing m level position remaining es) : lengthOf es = remaining / wholeTicks m := by
  induction h with
  | nil => simp
  | cons next _ ih =>
    rw [lengthOf_cons, ih, next.length_eq regular, ← add_div, Nat.cast_sub next.ticks_le,
      add_sub_cancel]

theorem Placing.filledBy (regular : m.Regular) {es : List Event}
    (h : Placing m level 0 (measureTicks m) es) : m.FilledBy es where
  nonzero e he := (h.pos regular e he).ne'
  total := by
    have hunit := regular.unit_pos
    have hticks : (measureTicks m : Rat) = 8 * m.beats := by
      exact_mod_cast measureTicks_eq regular
    have hwhole : (wholeTicks m : Rat) = 8 * m.unit := by
      have : (wholeTicks m : Int) = 8 * m.unit := by unfold wholeTicks; omega
      exact_mod_cast this
    rw [h.lengthOf_eq regular, hticks, hwhole, mul_div_mul_left _ _ (by norm_num)]

/-- A filling by note values always succeeds, and every note is one that may come next. -/
theorem yields_fillByNotes (regular : m.Regular) (low : 1 ≤ level) (high : level ≤ 4) :
    Yields (fillByNotes m level) (Placing m level 0 (measureTicks m)) := by
  obtain ⟨g, grain⟩ := exists_grain regular low high
  have hmeasure : g ∣ measureTicks m := by
    have h8 : (8 : Int) ∣ measureTicks m := ⟨m.beats, measureTicks_eq regular⟩
    exact grain.beat.trans (by exact_mod_cast h8)
  refine (yields_lift regular.positive.beat_eq trivial (P := fun _ => True)).bind ?_
  intro _ _
  exact yields_placeNotes grain regular low high (dvd_zero g) hmeasure le_rfl

end

end Tonality.Rhythm
