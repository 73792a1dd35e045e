import Mathlib.Order.Bounds.Basic
import Mathlib.Tactic.Positivity
import Tonality.Keyboard
import Tonality.Proofs.Text

/-!
Notes fitted into a range. Moving by octaves keeps the pitch class and ends within an octave of
the end of the range that is reached first, so a note from outside comes to rest on the nearest
of its octaves that the range holds. Where the range holds none of them, the note has jumped
over it and the far end takes its place. Moving down is moving up in a mirror.
-/

namespace Tonality.Keyboard

/-- The octaves of a note that lie in a range. -/
def octaves (note low high : Int) : Set Int := {m | low ≤ m ∧ m ≤ high ∧ m % 12 = note % 12}

/-- A note belongs where it is, or on the nearest of its octaves, or at the far end of a range that
has none of them. -/
structure Belongs (note low high place : Int) : Prop where
  inside : low ≤ place ∧ place ≤ high
  kept : low ≤ note → note ≤ high → place = note
  least : note < low → (octaves note low high).Nonempty → IsLeast (octaves note low high) place
  greatest : high < note → (octaves note low high).Nonempty →
    IsGreatest (octaves note low high) place
  top : note < low → octaves note low high = ∅ → place = high
  bottom : high < note → octaves note low high = ∅ → place = low

/-- One step up keeps the pitch class and does not lead beyond the octave above the lower end. -/
theorem raised_step {note low : Int} (below : note < low) :
    raised note low = raised (note + 12) low ∧ note + 12 < low + 12 ∧
      (note + 12) % 12 = note % 12 := by
  refine ⟨?_, by omega, by omega⟩
  rw [raised, if_pos below]

theorem raised_of_le {note low : Int} (reached : low ≤ note) : raised note low = note := by
  rw [raised, if_neg (by omega)]

/-- The way up ends at or above the lower end, and within an octave of it unless it ends where
it began. -/
theorem raised_run (note low : Int) :
    raised note low % 12 = note % 12 ∧ low ≤ raised note low ∧
      (raised note low = note ∨ raised note low < low + 12) := by
  -- along the steps: the end of the way is carried back, and the first step gives the bound
  fun_induction raised note low with
  | case1 note below ih =>
    obtain ⟨-, hclose, hclass⟩ := raised_step below
    obtain ⟨hkept, hreached, hnear⟩ := ih
    refine ⟨hkept.trans hclass, hreached, .inr ?_⟩
    rcases hnear with hstopped | hnear
    · rwa [hstopped]
    · exact hnear
  | case2 note reached => exact ⟨rfl, Int.not_lt.mp reached, .inl rfl⟩

theorem lowered_mirror (note high : Int) : lowered note high = -raised (-note) (-high) := by
  fun_induction lowered note high with
  | case1 note above ih =>
    obtain ⟨hstep, -, -⟩ := raised_step (Int.neg_lt_neg above)
    rw [ih, hstep, show -(note - 12) = -note + 12 by omega]
  | case2 note reached =>
    rw [raised_of_le (Int.neg_le_neg (Int.not_lt.mp reached)), Int.neg_neg]

theorem lowered_run (note high : Int) :
    lowered note high % 12 = note % 12 ∧ lowered note high ≤ high ∧
      (lowered note high = note ∨ high - 12 < lowered note high) := by
  obtain ⟨hkept, hreached, hnear⟩ := raised_run (-note) (-high)
  rw [lowered_mirror]
  omega

section
variable {note low high : Int}

/-- The way up stops at the first octave that it comes to. -/
theorem isLeast_raised (below : note < low) (held : (octaves note low high).Nonempty) :
    IsLeast (octaves note low high) (raised note low) := by
  obtain ⟨hkept, hreached, hnear⟩ := raised_run note low
  have hfirst : ∀ m ∈ octaves note low high, raised note low ≤ m := by
    rintro m ⟨hlow, -, hclass⟩
    omega
  obtain ⟨m, hm⟩ := held
  exact ⟨⟨hreached, (hfirst m hm).trans hm.2.1, hkept⟩, hfirst⟩

theorem isGreatest_lowered (above : high < note) (held : (octaves note low high).Nonempty) :
    IsGreatest (octaves note low high) (lowered note high) := by
  obtain ⟨hkept, hreached, hnear⟩ := lowered_run note high
  have hfirst : ∀ m ∈ octaves note low high, m ≤ lowered note high := by
    rintro m ⟨-, hhigh, hclass⟩
    omega
  obtain ⟨m, hm⟩ := held
  exact ⟨⟨hm.1.trans (hfirst m hm), hreached, hkept⟩, hfirst⟩

theorem high_lt_raised (empty : octaves note low high = ∅) : high < raised note low := by
  obtain ⟨hkept, hreached, -⟩ := raised_run note low
  by_contra inside
  have hmem : raised note low ∈ octaves note low high := ⟨hreached, Int.not_lt.mp inside, hkept⟩
  rwa [empty] at hmem

theorem lowered_lt_low (empty : octaves note low high = ∅) : lowered note high < low := by
  obtain ⟨hkept, hreached, -⟩ := lowered_run note high
  by_contra inside
  have hmem : lowered note high ∈ octaves note low high := ⟨Int.not_lt.mp inside, hreached, hkept⟩
  rwa [empty] at hmem

theorem Belongs.unique {place place' : Int} (h : Belongs note low high place)
    (h' : Belongs note low high place') : place = place' := by
  rcases Int.lt_or_le note low with below | hlow
  · rcases (octaves note low high).eq_empty_or_nonempty with empty | held
    · rw [h.top below empty, h'.top below empty]
    · exact (h.least below held).unique (h'.least below held)
  · rcases Int.lt_or_le high note with above | hhigh
    · rcases (octaves note low high).eq_empty_or_nonempty with empty | held
      · rw [h.bottom above empty, h'.bottom above empty]
      · exact (h.greatest above held).unique (h'.greatest above held)
    · rw [h.kept hlow hhigh, h'.kept hlow hhigh]

variable (range : low ≤ high)
include range

theorem belongs_of_below (below : note < low) :
    Belongs note low high (min high (raised note low)) where
  inside := ⟨Int.le_min.mpr ⟨range, (raised_run note low).2.1⟩, Int.min_le_left _ _⟩
  kept hlow _ := by omega
  least _ held := by
    have hleast := isLeast_raised below held
    rwa [Int.min_eq_right hleast.1.2.1]
  greatest above _ := by omega
  top _ empty := Int.min_eq_left (Int.le_of_lt (high_lt_raised empty))
  bottom above _ := by omega

theorem belongs_of_above (above : high < note) :
    Belongs note low high (max low (lowered note high)) where
  inside := ⟨Int.le_max_left _ _, Int.max_le.mpr ⟨range, (lowered_run note high).2.1⟩⟩
  kept _ hhigh := by omega
  least below _ := by omega
  greatest _ held := by
    have hgreatest := isGreatest_lowered above held
    rwa [Int.max_eq_right hgreatest.1.1]
  top below _ := by omega
  bottom _ empty := Int.max_eq_left (Int.le_of_lt (lowered_lt_low empty))

theorem fit_of_mem (hlow : low ≤ note) (hhigh : note ≤ high) : fit note low high = .ok note := by
  have hcovers : covers note low high = .ok true := by
    rw [covers, if_neg (Int.not_lt.mpr range)]
    simp [hlow, hhigh, pure, Except.pure]
  rw [fit, hcovers]
  rfl

theorem fit_of_not_mem (outside : note < low ∨ high < note) :
    fit note low high = .ok (fitted note low high) := by
  have hcovers : covers note low high = .ok false := by
    rw [covers, if_neg (Int.not_lt.mpr range)]
    simp only [pure, Except.pure, Except.ok.injEq, Bool.and_eq_false_iff, decide_eq_false_iff_not,
      Int.not_le]
    exact outside
  rw [fit, hcovers]
  rfl

theorem exists_belongs (note : Int) :
    ∃ place, fit note low high = .ok place ∧ Belongs note low high place := by
  rcases Int.lt_or_le note low with below | hlow
  · refine ⟨_, fit_of_not_mem range (.inl below), ?_⟩
    rw [fitted, if_pos below]
    exact belongs_of_below range below
  · rcases Int.lt_or_le high note with above | hhigh
    · refine ⟨_, fit_of_not_mem range (.inr above), ?_⟩
      rw [fitted, if_neg (Int.not_lt.mpr hlow)]
      exact belongs_of_above range above
    · refine ⟨note, fit_of_mem range hlow hhigh, ?_⟩
      exact
        { inside := ⟨hlow, hhigh⟩
          kept := fun _ _ => rfl
          least := fun below _ => by omega
          greatest := fun above _ => by omega
          top := fun below _ => by omega
          bottom := fun above _ => by omega }

end

theorem fit_of_inverted {low high : Int} (note : Int) (inverted : high < low) :
    fit note low high = .error (.showing [low, high] (.invertedRange low high)) := by
  rw [fit, covers, if_pos inverted]
  rfl

/-- In every range a note is given the one place where it belongs and is left there when it is
fitted once more. A range whose ends are the wrong way round is refused as a wrong input if its
ends can be written out in the report, and as something that cannot be written out if not. -/
theorem fit_nearest (note low high : Int) :
    (low ≤ high → ∃ place, fit note low high = .ok place ∧ fit place low high = .ok place) ∧
    (∀ place, fit note low high = .ok place ↔ low ≤ high ∧ Belongs note low high place) ∧
    (high < low → ∃ e, fit note low high = .error e ∧
      e.kind = if Text.isWritable low ∧ Text.isWritable high then .input else .badValue) := by
  refine ⟨fun range => ?_, fun place => ⟨fun h => ?_, ?_⟩,
    fun inverted => ⟨_, fit_of_inverted note inverted, ?_⟩⟩
  · obtain ⟨place, hplace, belongs⟩ := exists_belongs range note
    exact ⟨place, hplace, fit_of_mem range belongs.inside.1 belongs.inside.2⟩
  · rcases Int.lt_or_le high low with inverted | range
    · rw [fit_of_inverted note inverted] at h
      cases h
    · obtain ⟨place', hplace', belongs⟩ := exists_belongs range note
      obtain rfl : place' = place := Except.ok.inj (hplace'.symm.trans h)
      exact ⟨range, belongs⟩
  · rintro ⟨range, belongs⟩
    obtain ⟨place', hplace', belongs'⟩ := exists_belongs range note
    rw [hplace', belongs'.unique belongs]
  · have hends : [low, high].all Text.isWritable = true ↔
        Text.isWritable low ∧ Text.isWritable high := by simp
    rw [Error.kind_showing]
    exact if_congr hends rfl rfl

/-- The range from C to E has no A flat, so one that comes from below ends at its top; from E down
to C there is no range. -/
theorem fit_nearest_over : fit (-100) 48 52 = .ok 52 ∧ fit 52 48 52 = .ok 52 ∧
    ∃ e, fit (-100) 52 48 = .error e ∧ e.kind = .input := by
  obtain ⟨settled, exactly, -⟩ := fit_nearest (-100) 48 52
  obtain ⟨place, hplace, hagain⟩ := settled (by decide)
  obtain ⟨-, belongs⟩ := (exactly place).mp hplace
  have empty : octaves (-100) 48 52 = ∅ := by
    rw [Set.eq_empty_iff_forall_notMem]
    rintro m ⟨hlow, hhigh, hclass⟩
    omega
  obtain rfl : place = 52 := belongs.top (by decide) empty
  have writable : Text.isWritable 52 ∧ Text.isWritable 48 := by decide
  have refused := (fit_nearest (-100) 52 48).2.2 (by decide)
  rw [if_pos writable] at refused
  exact ⟨hplace, hagain, refused⟩

/-- From an end of 4301 digits down to zero there is no range either, but that is not reported as
a wrong input. -/
theorem fit_unreported :
    (0 : Int) < 10 ^ 4300 ∧ ∃ e, fit 0 (10 ^ 4300) 0 = .error e ∧ e.kind = .badValue := by
  have inverted : (0 : Int) < 10 ^ 4300 := by positivity
  have long : ¬Text.isWritable (10 ^ 4300) := by
    have hpow (k : Nat) : ((10 : Int) ^ k).natAbs = 10 ^ k := Int.natAbs_pow 10 k
    rw [Text.isWritable_iff, hpow, Text.digitLimit]
    exact Nat.lt_irrefl _
  refine ⟨inverted, _, fit_of_inverted 0 inverted, ?_⟩
  rw [Error.kind_showing, if_neg fun all => long (List.all_eq_true.mp all _ List.mem_cons_self)]

end Tonality.Keyboard
