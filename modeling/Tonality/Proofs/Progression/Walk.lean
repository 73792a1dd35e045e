import Mathlib.Data.List.Chain
import Mathlib.Tactic.SplitIfs
import Tonality.Proofs.Outcome
import Tonality.Proofs.Progression.Vocabulary

/-!
Progressions from every source of draws. A step takes one of the candidates, whichever
way its draws fall, so a walk stays within the vocabulary and never repeats a chord, and
the tonic before it and the cadence after it give the progression its shape. All that
can fail is the chance of honouring the targets, where an integer meets a double.
-/

namespace Tonality

namespace Number

theorem toDouble_int {n : Int} (h : n.natAbs < Binary64.bound) :
    (int n).toDouble = .ok (Float.ofInt n) := by
  simp [toDouble, h, pure, Except.pure]

theorem toDouble_int_of_large {n : Int} (h : ¬n.natAbs < Binary64.bound) :
    (int n).toDouble = .error .tooLargeForDouble := by
  simp only [toDouble, h, if_false]
  rfl

end Number

namespace Odds

/-- An integer that meets a double is not too large to become one. -/
def Fits (o : Odds) (level : Int) : Prop :=
  match o.base, o.step with
  | .real _, .int n => (n * level).natAbs < Binary64.bound
  | .int n, .real _ => n.natAbs < Binary64.bound
  | _, _ => True

theorem target_cases (o : Odds) {level : Int} (low : 0 ≤ level) (high : level ≤ 10) :
    (o.Fits level ∧ ∃ p, o.target (.int level) = .ok p) ∨
      (¬o.Fits level ∧ o.target (.int level) = .error .tooLargeForDouble) := by
  have hlevel : level.natAbs < Binary64.bound := by
    have hten : 10 < Binary64.bound := by decide +kernel
    omega
  obtain ⟨base, step, leave⟩ := o
  cases base with
  | int m =>
    cases step with
    | int n => exact .inl ⟨trivial, _, rfl⟩
    | real y =>
      have hproduct : (Number.real y).mul (.int level) = .ok (.real (y * Float.ofInt level)) := by
        rw [Number.mul, Number.toDouble_int hlevel]
        · rfl
        · simp
      by_cases h : m.natAbs < Binary64.bound
      · refine .inl ⟨h, ?_⟩
        simp only [target, hproduct, Number.add, Number.toDouble_int h, bind, Except.bind]
        exact ⟨_, rfl⟩
      · refine .inr ⟨h, ?_⟩
        simp only [target, hproduct, Number.add, Number.toDouble_int_of_large h, bind, Except.bind]
  | real x =>
    cases step with
    | int n =>
      have hproduct : (Number.int n).mul (.int level) = .ok (.int (n * level)) := rfl
      by_cases h : (n * level).natAbs < Binary64.bound
      · refine .inl ⟨h, ?_⟩
        simp only [target, hproduct, Number.add, Number.toDouble_int h, bind, Except.bind]
        exact ⟨_, rfl⟩
      · refine .inr ⟨h, ?_⟩
        simp only [target, hproduct, Number.add, Number.toDouble_int_of_large h, bind, Except.bind]
        rfl
    | real y =>
      refine .inl ⟨trivial, ?_⟩
      simp only [target, Number.mul, Number.add, Number.toDouble_int hlevel, bind, Except.bind]
      exact ⟨_, rfl⟩

end Odds

namespace Progression
open Gen

/-- What a step does when it does not honour the targets. -/
def passing (f : Functions) (o : Odds) (previous : String) (allowed : List String) : Gen String := do
  let others := (candidates previous allowed).filter fun c =>
    !(f.targets previous allowed).contains c
  if others.isEmpty then uniform (candidates previous allowed)
  else if ← chance o.leave then uniform others
  else uniform (candidates previous allowed)

/-- Where there is a target to go to, the first draw decides whether the step goes to one. -/
theorem next_eq {f : Functions} {o : Odds} {level : Number} {previous : String}
    {allowed : List String} (some : targeted f previous allowed ≠ []) :
    next f o previous allowed level = (do
      let k ← Gen.next
      let p ← lift (o.target level)
      if p.above (unitFraction k) then uniform (targeted f previous allowed)
      else passing f o previous allowed) := by
  have hsome : (targeted f previous allowed).isEmpty = false := List.isEmpty_eq_false_iff.mpr some
  unfold next
  dsimp only
  rw [← targeted, hsome]
  rfl

theorem yields_next {f : Functions} {o : Odds} {level p : Number} (target : o.target level = .ok p)
    {allowed : List String} (varied : Varied allowed) (previous : String) :
    Yields (next f o previous allowed level) (· ∈ candidates previous allowed) := by
  have hall : Yields (uniform (candidates previous allowed)) (· ∈ candidates previous allowed) :=
    yields_uniform (candidates_ne_nil varied previous)
  have hpart (q : String → Bool) (h : ((candidates previous allowed).filter q).isEmpty = false) :
      Yields (uniform ((candidates previous allowed).filter q)) (· ∈ candidates previous allowed) :=
    (yields_uniform (List.isEmpty_eq_false_iff.mp h)).mono fun _ hc => (List.mem_filter.mp hc).1
  unfold next
  dsimp only
  cases htargeted : ((candidates previous allowed).filter
      (f.targets previous allowed).contains).isEmpty with
  | true => simpa only [if_true] using hall
  | false =>
    refine Gen.yields_next.bind fun k _ => ?_
    refine (yields_lift target rfl (P := (· = p))).bind ?_
    rintro _ rfl
    split_ifs with habove hothers
    · exact hpart _ htargeted
    · exact hall
    · refine (yields_chance o.leave).bind fun leaves _ => ?_
      split_ifs
      · exact hpart _ (by simpa using hothers)
      · exact hall

/-- A target that cannot be computed is found out after the first draw, as long as there are
targets to go to. -/
theorem run_next_of_error {f : Functions} {o : Odds} {level : Number} {e : Error}
    (target : o.target level = .error e) {previous : String} {allowed : List String}
    (some : targeted f previous allowed ≠ []) (s : Draws) :
    run (next f o previous allowed level) s = (.error e, s.rest 1) := by
  simp only [next_eq some, run_bind, run_next, run_lift, target]

/-- As many chords as were asked for, all of them allowed and none like the one before. -/
structure Wandering (allowed : List String) (previous : String) (n : Nat) (chords : List String) :
    Prop where
  length : chords.length = n
  allowed : chords ⊆ allowed
  varied : (previous :: chords).IsChain (· ≠ ·)

theorem yields_walk {f : Functions} {o : Odds} {level : Number} {allowed : List String}
    (varied : Varied allowed) {n : Nat} (target : 0 < n → ∃ p, o.target level = .ok p)
    (previous : String) :
    Yields (walk f o allowed level previous n) (Wandering allowed previous n) := by
  induction n generalizing previous with
  | zero => exact yields_pure ⟨rfl, List.nil_subset _, List.isChain_singleton _⟩
  | succ n ih =>
    obtain ⟨p, hp⟩ := target n.succ_pos
    refine (yields_next hp varied previous).bind fun chord hchord => ?_
    rw [mem_candidates varied] at hchord
    refine (ih (fun _ => ⟨p, hp⟩) chord).bind fun chords h => yields_pure ?_
    exact
      { length := by rw [List.length_cons, h.length]
        allowed := List.cons_subset.mpr ⟨hchord.1, h.allowed⟩
        varied := List.isChain_cons_cons.mpr ⟨hchord.2.symm, h.varied⟩ }

/-- The shape of a progression at a level of complexity. -/
structure Shaped (f : Functions) (level : Int) (n : Nat) (chords : List String) : Prop where
  length : chords.length = n
  first : 0 < n → chords.head? = some f.tonic
  last : 0 < n → chords.getLast? = some f.tonic
  allowed : chords ⊆ f.vocabulary (.int level)
  cadence : 3 ≤ n → chords[n - 2]? = some (if 4 ≤ level then "V7" else "V")
  varied : (chords.take (n - 2)).IsChain (· ≠ ·)

/-- The cadence stands where the tonic and what is walked from it end. -/
theorem place_cadence (tonic : String) {middle : List String} {n : Nat}
    (length : middle.length = n) : n + 3 - 2 = (tonic :: middle).length := by
  rw [List.length_cons, length]
  rfl

theorem shaped_nil (f : Functions) (level : Int) : Shaped f level 0 [] :=
  ⟨rfl, by simp, by simp, by simp, by simp, by simp⟩

section
variable (mode : Mode) {level : Int}

theorem shaped_of_wandering {n : Nat} {middle : List String}
    (h : Wandering ((Functions.ofMode mode).vocabulary (.int level)) (Functions.ofMode mode).tonic
      n middle) :
    Shaped (Functions.ofMode mode) level (n + 3)
      ((Functions.ofMode mode).tonic :: middle ++
        [Progression.cadence (Functions.ofMode mode)
          ((Functions.ofMode mode).vocabulary (.int level)), (Functions.ofMode mode).tonic]) := by
  obtain ⟨htonic, -, -⟩ := Functions.vocabulary_ofMode mode (.int level)
  have hcadence := cadence_vocabulary mode (.int level)
  have hmem := cadence_mem mode (.int level)
  have hplace := place_cadence (Functions.ofMode mode).tonic h.length
  exact
    { length := by simp [h.length]
      first := fun _ => rfl
      last := by
        intro _
        rw [List.getLast?_append]
        rfl
      allowed := by
        apply List.append_subset.mpr
        exact ⟨List.cons_subset.mpr ⟨htonic, h.allowed⟩, by simp [hmem, htonic]⟩
      cadence := by
        intro _
        rw [hplace, List.getElem?_append_right (Nat.le_refl _), Nat.sub_self, hcadence]
        simp [Number.atLeast]
      varied := by
        rw [hplace, List.take_left]
        exact h.varied }

theorem yields_ofFunctions {o : Odds} {n : Nat}
    (target : 3 < n → ∃ p, o.target (.int level) = .ok p) :
    Yields (ofFunctions (Functions.ofMode mode) o level n)
      (Shaped (Functions.ofMode mode) level n) := by
  obtain ⟨htonic, -, -⟩ := Functions.vocabulary_ofMode mode (.int level)
  match n, target with
  | 0, _ => exact yields_pure (shaped_nil _ _)
  | 1, _ => exact yields_pure ⟨rfl, by simp, by simp, by simp [htonic], by simp, by simp⟩
  | 2, _ => exact yields_pure ⟨rfl, by simp, by simp, by simp [htonic], by simp, by simp⟩
  | n + 3, target =>
    have hvaried := varied_vocabulary mode (.int level)
    exact (yields_walk hvaried (fun h => target (by omega)) _).bind fun middle h =>
      yields_pure (shaped_of_wandering mode h)

theorem run_ofFunctions_of_error {o : Odds} {e : Error} {n : Nat} (long : 3 < n)
    (target : o.target (.int level) = .error e) (s : Draws) :
    run (ofFunctions (Functions.ofMode mode) o level n) s = (.error e, s.rest 1) := by
  obtain ⟨n, rfl⟩ : ∃ m, n = m + 4 := ⟨n - 4, by omega⟩
  obtain ⟨htonic, -, -⟩ := Functions.vocabulary_ofMode mode (.int level)
  have hnext := run_next_of_error target (targeted_ne_nil mode (.int level) _ htonic) s
  simp only [ofFunctions, walk, run_bind, hnext]

end

/-- Complexity as it is used. -/
def levelOf (complexity : Int) : Int := max 0 (min 10 complexity)

theorem levelOf_bounds (complexity : Int) : 0 ≤ levelOf complexity ∧ levelOf complexity ≤ 10 := by
  unfold levelOf
  omega

theorem clamp_int (complexity : Int) : clamp (.int complexity) = .ok (levelOf complexity) := rfl

theorem clamp_bounds {complexity : Number} {level : Int} (h : clamp complexity = .ok level) :
    0 ≤ level ∧ level ≤ 10 := by
  obtain ⟨n, -, hlevel⟩ := exists_of_bind (x := complexity.truncate) h
  obtain rfl : levelOf n = level := Except.ok.inj hlevel
  exact levelOf_bounds n

section
variable {key : KeySource} {k : Key} (get : key.get = .ok k)
include get

section
variable {complexity : Number} {level : Int} (clamped : clamp complexity = .ok level) (o : Odds)
include clamped

/-- Key and complexity once read, a progression is that of the mode's functions. -/
theorem run_inKey_eq (measures : Int) (s : Draws) :
    run (inKey o key measures complexity) s =
      run (ofFunctions (Functions.ofMode k.mode) o level measures.toNat) s := by
  unfold inKey
  split_ifs with hnone
  · rw [Int.toNat_of_nonpos hnone]
    rfl
  · simp only [run_bind, run_lift, get, clamped]

theorem run_inKey_of_large {o : Odds} (large : ¬o.Fits level) {measures : Int} (long : 3 < measures)
    (s : Draws) : run (inKey o key measures complexity) s = (.error .tooLargeForDouble, s.rest 1) := by
  obtain ⟨low, high⟩ := clamp_bounds clamped
  have htarget := (o.target_cases low high).resolve_left fun hfits => large hfits.1
  rw [run_inKey_eq get clamped]
  exact run_ofFunctions_of_error k.mode (by omega) htarget.2 s

end

variable {o : Odds} {measures complexity : Int}

theorem yields_inKey (given : measures ≤ 3 ∨ o.Fits (levelOf complexity)) :
    Yields (inKey o key measures (.int complexity))
      (Shaped (Functions.ofMode k.mode) (levelOf complexity) measures.toNat) := by
  obtain ⟨hlow, hhigh⟩ := levelOf_bounds complexity
  intro s
  rw [run_inKey_eq get (clamp_int complexity)]
  refine yields_ofFunctions k.mode (fun hlong => ?_) s
  have hfits := given.resolve_left (by omega)
  exact ((o.target_cases hlow hhigh).resolve_right fun hnot => hnot.1 hfits).2

theorem run_inKey_of_not_fits (long : 3 < measures) (h : ¬o.Fits (levelOf complexity))
    (s : Draws) :
    run (inKey o key measures (.int complexity)) s = (.error .tooLargeForDouble, s.rest 1) :=
  run_inKey_of_large get (clamp_int complexity) h long s

/-- Whatever the chances are, a progression that comes back has its shape. -/
theorem shaped_of_run {s : Draws} {chords : List String}
    (h : (run (inKey o key measures (.int complexity)) s).1 = .ok chords) :
    Shaped (Functions.ofMode k.mode) (levelOf complexity) measures.toNat chords := by
  by_cases given : measures ≤ 3 ∨ o.Fits (levelOf complexity)
  · obtain ⟨chords', t, hrun, shaped⟩ := yields_inKey get given s
    rw [hrun] at h
    obtain rfl := Except.ok.inj h
    exact shaped
  · rw [not_or, Int.not_le] at given
    rw [run_inKey_of_not_fits get given.1 given.2 s] at h
    cases h

end

/-- Every source of draws gives a progression of the right shape, whatever the chances are,
unless an integer among them is too large for the double that it meets; then the walk fails at
its first step. -/
theorem progression_shaped {key : KeySource} {k : Key} (get : key.get = .ok k) (o : Odds)
    (measures complexity : Int) :
    (measures ≤ 3 ∨ o.Fits (levelOf complexity) →
      Yields (inKey o key measures (.int complexity))
        (Shaped (Functions.ofMode k.mode) (levelOf complexity) measures.toNat)) ∧
    (¬(measures ≤ 3 ∨ o.Fits (levelOf complexity)) → ∀ s,
      run (inKey o key measures (.int complexity)) s = (.error .tooLargeForDouble, s.rest 1)) := by
  refine ⟨yields_inKey get, fun given s => ?_⟩
  rw [not_or, Int.not_le] at given
  exact run_inKey_of_not_fits get given.1 given.2 s

theorem progression_shaped_aMinor :
    Yields (inKey { base := .int (-3), leave := .int 7 } (.name (some "a min")) 7 (.int 12))
      (Shaped (Functions.ofMode .minor) 10 7) := by
  obtain ⟨k, get, hmode⟩ : ∃ k, KeySource.get (.name (some "a min")) = .ok k ∧ k.mode = .minor :=
    ⟨_, rfl, rfl⟩
  have fits : Odds.Fits { base := .int (-3), leave := .int 7 } (levelOf 12) := by
    have hthree : (-3 : Int).natAbs < Binary64.bound := by decide +kernel
    exact hthree
  rw [← hmode]
  exact (progression_shaped get { base := .int (-3), leave := .int 7 } 7 12).1 (.inr fits)

theorem progression_tooLarge :
    (∃ k, KeySource.get (.name (some "C")) = .ok k) ∧
      run (inKey { base := .int (Int.pow 10 400) } (.name (some "C")) 4 (.int 5))
        (Draws.cycle [0]) = (.error .tooLargeForDouble, (Draws.cycle [0]).rest 1) := by
  have fits : ¬Odds.Fits { base := .int (Int.pow 10 400) } (levelOf 5) := by
    have hlarge : ¬(Int.pow 10 400).natAbs < Binary64.bound := by decide +kernel
    exact hlarge
  exact ⟨⟨_, rfl⟩, run_inKey_of_not_fits rfl (by decide) fits _⟩

end Progression
end Tonality
