import Tonality.Proofs.Progression.Walk
import Tonality.Proofs.Spend

/-!
Longer progressions extend shorter ones. A step of the walk does not know how many steps are
still to come, so a longer walk is a shorter one that is continued, from the draws that the
shorter one leaves. Only the end of the walk is different: there the shorter progression
closes already, with the same chords as the longer one.
-/

namespace Tonality.Progression
open Gen

section
variable (f : Functions) (o : Odds) (allowed : List String) (level : Number)

theorem advances_next (previous : String) : Advances (next f o previous allowed level) := by
  unfold next
  dsimp only
  split
  · exact advances_uniform _
  · refine Gen.advances_next.bind fun k => (advances_lift _).bind fun p => ?_
    split_ifs
    · exact advances_uniform _
    · exact advances_uniform _
    · refine (advances_chance o.leave).bind fun leaves => ?_
      split_ifs
      · exact advances_uniform _
      · exact advances_uniform _

theorem advances_walk (previous : String) (n : Nat) :
    Advances (walk f o allowed level previous n) := by
  induction n generalizing previous with
  | zero => exact advances_pure []
  | succ n ih =>
    exact (advances_next f o allowed level previous).bind fun chord =>
      (ih chord).bind fun chords => advances_pure (chord :: chords)

/-- A walk goes on from where a shorter one stops. -/
theorem walk_add (previous : String) (a b : Nat) :
    walk f o allowed level previous (a + b) = (do
      let first ← walk f o allowed level previous a
      let rest ← walk f o allowed level (first.getLastD previous) b
      pure (first ++ rest)) := by
  induction a generalizing previous with
  | zero => simp [walk]
  | succ a ih =>
    simp only [walk, Nat.succ_add, ih, bind_assoc, pure_bind, List.getLastD_cons, List.cons_append]

end

/-- The longer progression begins as the shorter one does until that closes, and both close
alike. -/
structure Extends (short long : Nat) (cs cs' : List String) : Prop where
  length_short : cs.length = short
  length_long : cs'.length = long
  opening : cs.take (short - 2) = cs'.take (short - 2)
  closing : cs.drop (short - 2) = cs'.drop (long - 2)

theorem extends_append {opening middle closing : List String} {tonic : String} {a b : Nat}
    (two : closing.length = 2) (first : opening.length = a) (rest : middle.length = b) :
    Extends (a + 3) (a + b + 3) (tonic :: opening ++ closing)
      (tonic :: (opening ++ middle) ++ closing) where
  length_short := by
    rw [List.length_append, List.length_cons, two, first]
  length_long := by
    rw [List.length_append, List.length_cons, List.length_append, two, first, rest]
  opening := by
    rw [place_cadence tonic first, List.take_left, ← List.cons_append, List.append_assoc,
      List.take_left]
  closing := by
    have both : (opening ++ middle).length = a + b := by
      rw [List.length_append, first, rest]
    rw [place_cadence tonic first, place_cadence tonic both, List.drop_left, List.drop_left]

theorem exists_run_walk_add {f : Functions} {o : Odds} {level : Number} {allowed : List String}
    (varied : Varied allowed) {a b : Nat} (target : 0 < a + b → ∃ p, o.target level = .ok p)
    (previous : String) (s : Draws) :
    ∃ first rest i j, run (walk f o allowed level previous a) s = (.ok first, s.rest i) ∧
      run (walk f o allowed level previous (a + b)) s = (.ok (first ++ rest), s.rest (i + j)) ∧
      first.length = a ∧ rest.length = b := by
  obtain ⟨first, i, hfirst, first_wandering⟩ :=
    (yields_walk (f := f) varied (fun h => target (by omega)) previous (n := a)).run_rest
      (advances_walk f o allowed level previous a) s
  obtain ⟨rest, j, hrest, rest_wandering⟩ :=
    (yields_walk (f := f) varied (fun h => target (by omega)) (first.getLastD previous)
      (n := b)).run_rest (advances_walk f o allowed level _ b) (s.rest i)
  refine ⟨first, rest, i, j, hfirst, ?_, first_wandering.length, rest_wandering.length⟩
  simp only [walk_add, run_bind, hfirst, hrest, run_pure, Draws.rest_rest]

section
variable {mode : Mode} {o : Odds} {level : Int}

/-- What is walked stands between the tonic and the cadence. -/
theorem run_ofFunctions {f : Functions} {n : Nat} {middle : List String} {s t : Draws}
    (h : run (walk f o (f.vocabulary (.int level)) (.int level) f.tonic n) s = (.ok middle, t)) :
    run (ofFunctions f o level (n + 3)) s =
      (.ok (f.tonic :: middle ++ [cadence f (f.vocabulary (.int level)), f.tonic]), t) := by
  simp only [ofFunctions, run_bind, h, run_pure]

theorem exists_run_ofFunctions {a b : Nat}
    (target : 0 < a + b → ∃ p, o.target (.int level) = .ok p) (s : Draws) :
    ∃ cs cs' i j,
      run (ofFunctions (Functions.ofMode mode) o level (a + 3)) s = (.ok cs, s.rest i) ∧
      run (ofFunctions (Functions.ofMode mode) o level (a + b + 3)) s = (.ok cs', s.rest (i + j)) ∧
      Extends (a + 3) (a + b + 3) cs cs' := by
  obtain ⟨first, rest, i, j, hshort, hlong, hfirst, hrest⟩ :=
    exists_run_walk_add (f := Functions.ofMode mode) (varied_vocabulary mode (.int level)) target
      (Functions.ofMode mode).tonic s
  exact ⟨_, _, i, j, run_ofFunctions hshort, run_ofFunctions hlong, extends_append rfl hfirst hrest⟩

end

theorem run_inKey_three {key : KeySource} {k : Key} (get : key.get = .ok k) {complexity : Number}
    {level : Int} (clamped : clamp complexity = .ok level) (o : Odds) (s : Draws) :
    ∃ cs, run (inKey o key 3 complexity) s = (.ok cs, s) :=
  ⟨_, run_inKey_eq get clamped o 3 s⟩

/-- From the same draws a progression of three measures or more and a longer one are alike up to
where the shorter one closes, and in their last two chords, and the shorter one takes the first
of the draws that the longer one takes, none at all for three measures. Where a chance is too
large for the double that it meets, every walk fails at its first step, and three measures,
which have no walk, are all that there is. -/
theorem progression_extends {key : KeySource} {k : Key} (get : key.get = .ok k)
    {complexity : Number} {level : Int} (clamped : clamp complexity = .ok level) (o : Odds)
    {short long : Int} (three : 3 ≤ short) (le : short ≤ long) (s : Draws) :
    (long = 3 ∨ o.Fits level → ∃ cs cs' i j, i ≤ j ∧
      run (inKey o key short complexity) s = (.ok cs, s.rest i) ∧
      run (inKey o key long complexity) s = (.ok cs', s.rest j) ∧
      Extends short.toNat long.toNat cs cs') ∧
    (∃ cs, run (inKey o key 3 complexity) s = (.ok cs, s)) ∧
    (¬o.Fits level → ∀ measures > 3,
      run (inKey o key measures complexity) s = (.error .tooLargeForDouble, s.rest 1)) := by
  obtain ⟨low, high⟩ := clamp_bounds clamped
  refine ⟨fun given => ?_, run_inKey_three get clamped o s, fun large measures more =>
    run_inKey_of_large get clamped large more s⟩
  obtain ⟨a, ha⟩ : ∃ a, short.toNat = a + 3 := ⟨short.toNat - 3, by omega⟩
  obtain ⟨b, hb⟩ : ∃ b, long.toNat = a + b + 3 := ⟨long.toNat - short.toNat, by omega⟩
  have target : 0 < a + b → ∃ p, o.target (.int level) = .ok p := by
    intro walks
    have hfits := given.resolve_left (by omega)
    exact ((o.target_cases low high).resolve_right fun h => h.1 hfits).2
  rw [run_inKey_eq get clamped, run_inKey_eq get clamped, ha, hb]
  obtain ⟨cs, cs', i, j, hshort, hlong, hextends⟩ := exists_run_ofFunctions target s
  exact ⟨cs, cs', i, i + j, Nat.le_add_right i j, hshort, hlong, hextends⟩

theorem progression_extends_bFlatMinor :
    ∃ cs cs' i j, i ≤ j ∧
      run (inKey {} (.name (some "Bbm")) 5 (.int 12)) (Draws.cycle [7, 4000000000, 9]) =
        (.ok cs, (Draws.cycle [7, 4000000000, 9]).rest i) ∧
      run (inKey {} (.name (some "Bbm")) 8 (.int 12)) (Draws.cycle [7, 4000000000, 9]) =
        (.ok cs', (Draws.cycle [7, 4000000000, 9]).rest j) ∧
      Extends 5 8 cs cs' := by
  obtain ⟨k, get⟩ : ∃ k, KeySource.get (.name (some "Bbm")) = .ok k := ⟨_, rfl⟩
  have clamped : clamp (.int 12) = .ok 10 := rfl
  exact (progression_extends get clamped {} (by decide) (by decide) _).1 (.inr trivial)

/-- Three measures are there, but a fourth is not. -/
theorem progression_unextended :
    (∃ k, KeySource.get (.name (some "C")) = .ok k) ∧
      (∃ cs, run (inKey { base := .int (Int.pow 10 400) } (.name (some "C")) 3 (.int 5))
        (Draws.cycle [0]) = (.ok cs, Draws.cycle [0])) ∧
      ¬∃ cs cs' i j, i ≤ j ∧
        run (inKey { base := .int (Int.pow 10 400) } (.name (some "C")) 3 (.int 5))
          (Draws.cycle [0]) = (.ok cs, (Draws.cycle [0]).rest i) ∧
        run (inKey { base := .int (Int.pow 10 400) } (.name (some "C")) 4 (.int 5))
          (Draws.cycle [0]) = (.ok cs', (Draws.cycle [0]).rest j) ∧
        Extends 3 4 cs cs' := by
  obtain ⟨k, get⟩ : ∃ k, KeySource.get (.name (some "C")) = .ok k := ⟨_, rfl⟩
  have fits : ¬Odds.Fits { base := .int (Int.pow 10 400) } (levelOf 5) := by
    have hlarge : ¬(Int.pow 10 400).natAbs < Binary64.bound := by decide +kernel
    exact hlarge
  refine ⟨⟨k, get⟩, run_inKey_three get (clamp_int 5) _ _, ?_⟩
  rintro ⟨cs, cs', i, j, -, -, hlong, -⟩
  rw [run_inKey_of_not_fits get (by decide) fits] at hlong
  cases hlong

end Tonality.Progression
