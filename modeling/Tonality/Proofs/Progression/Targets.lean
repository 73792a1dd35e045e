import Tonality.Proofs.Chance
import Tonality.Proofs.Progression.Walk

/-!
Targets kept and targets left. From every chord that a walk can come to there is a target to
go to, at every complexity and in either mode. So with a chance of one every step of a walk
goes to a target, and with none, if targets are sure to be left, every step goes elsewhere as
long as there is anywhere else to go.
-/

namespace Tonality

namespace Progression
open Gen

section
variable {f : Functions} {o : Odds} {level p : Number} {previous : String} {allowed : List String}

section
variable (some : targeted f previous allowed ≠ []) (target : o.target level = .ok p)
include some target

theorem yields_next_honouring (sure : p.atLeast 1 = true) :
    Yields (next f o previous allowed level) (· ∈ targeted f previous allowed) := by
  rw [next_eq some]
  refine Gen.yields_next.bind fun k _ => ?_
  refine (yields_lift target rfl (P := (· = p))).bind ?_
  rintro _ rfl
  rw [if_pos (Number.above_unitFraction sure k)]
  exact yields_uniform some

theorem yields_next_passing {P : String → Prop} (never : p.above 0 = false)
    (passed : Yields (passing f o previous allowed) P) :
    Yields (next f o previous allowed level) P := by
  rw [next_eq some]
  refine Gen.yields_next.bind fun k _ => ?_
  refine (yields_lift target rfl (P := (· = p))).bind ?_
  rintro _ rfl
  rw [if_neg (by rw [Number.not_above_unitFraction never k]; exact Bool.false_ne_true)]
  exact passed

end

theorem yields_passing (some : candidates previous allowed ≠ []) (sure : o.leave.atLeast 1 = true) :
    Yields (passing f o previous allowed) fun c => c ∈ candidates previous allowed ∧
      ((∃ d ∈ candidates previous allowed, d ∉ f.targets previous allowed) →
        c ∉ f.targets previous allowed) := by
  unfold passing
  dsimp only
  split_ifs with hothers
  · -- nowhere else to go
    have hnone := List.filter_eq_nil_iff.mp (List.isEmpty_iff.mp hothers)
    refine (yields_uniform some).mono fun c hc => ⟨hc, ?_⟩
    rintro ⟨d, hd, hleft⟩
    exact absurd (by simpa using hleft) (hnone d hd)
  · refine (yields_chance_sure sure).bind ?_
    rintro _ rfl
    refine (yields_uniform (by simpa using hothers)).mono fun c hc => ?_
    obtain ⟨hmem, hleft⟩ := List.mem_filter.mp hc
    exact ⟨hmem, fun _ => by simpa using hleft⟩

/-- What holds of every step holds along the walk. -/
theorem yields_walk_chain {R : String → String → Prop}
    (step : ∀ previous ∈ allowed,
      Yields (next f o previous allowed level) fun c => c ∈ allowed ∧ R previous c)
    (mem : previous ∈ allowed) (n : Nat) :
    Yields (walk f o allowed level previous n) fun chords =>
      chords.length = n ∧ (previous :: chords).IsChain R := by
  induction n generalizing previous with
  | zero => exact yields_pure ⟨rfl, List.isChain_singleton _⟩
  | succ n ih =>
    refine (step previous mem).bind fun chord hchord => ?_
    refine (ih hchord.1).bind fun chords hchords => yields_pure ?_
    exact ⟨by rw [List.length_cons, hchords.1], List.isChain_cons_cons.mpr ⟨hchord.2, hchords.2⟩⟩

/-- What holds of every step holds up to the cadence. -/
theorem yields_ofFunctions_chain {level : Int} {R : String → String → Prop}
    (step : ∀ previous ∈ f.vocabulary (.int level),
      Yields (next f o previous (f.vocabulary (.int level)) (.int level)) fun c =>
        c ∈ f.vocabulary (.int level) ∧ R previous c)
    (tonic : f.tonic ∈ f.vocabulary (.int level)) (n : Nat) :
    Yields (ofFunctions f o level n) fun chords => (chords.take (n - 2)).IsChain R := by
  match n with
  | 0 => exact yields_pure (by simp)
  | 1 => exact yields_pure (by simp)
  | 2 => exact yields_pure (by simp)
  | n + 3 =>
    refine (yields_walk_chain step tonic n).bind ?_
    rintro middle ⟨hlength, hchain⟩
    refine yields_pure ?_
    rw [place_cadence f.tonic hlength, List.take_left]
    exact hchain

end

/-- A step to a target of the chord that it leaves. -/
def Honours (mode : Mode) (level : Int) (previous chord : String) : Prop :=
  chord ∈ (Functions.ofMode mode).targets previous ((Functions.ofMode mode).vocabulary (.int level))

/-- A step to another chord than a target, if there is one to step to. -/
def Leaves (mode : Mode) (level : Int) (previous chord : String) : Prop :=
  (∃ c ∈ (Functions.ofMode mode).vocabulary (.int level), c ≠ previous ∧
    ¬Honours mode level previous c) → ¬Honours mode level previous chord

/-- The chords that a walk can come to, by whatever draws. -/
inductive Visited (mode : Mode) (o : Odds) (level : Int) : String → Prop
  | tonic : Visited mode o level (Functions.ofMode mode).tonic
  | next {previous chord : String} {s : Draws} (before : Visited mode o level previous)
    (step : (run (next (Functions.ofMode mode) o previous
      ((Functions.ofMode mode).vocabulary (.int level)) (.int level)) s).1 = .ok chord) :
    Visited mode o level chord

section
variable {mode : Mode} {o : Odds} {level : Int}

theorem Visited.mem {c : String} (h : Visited mode o level c) :
    c ∈ (Functions.ofMode mode).vocabulary (.int level) := by
  induction h with
  | tonic => exact (Functions.vocabulary_ofMode mode (.int level)).1
  | @next previous chord s _ step ih =>
    have hvaried := varied_vocabulary mode (.int level)
    cases target : o.target (.int level) with
    | error e =>
      rw [run_next_of_error target (targeted_ne_nil mode (.int level) previous ih)] at step
      cases step
    | ok p =>
      obtain ⟨c, t, hrun, hc⟩ := yields_next target hvaried previous s
      rw [hrun] at step
      obtain rfl := Except.ok.inj step
      exact ((mem_candidates hvaried previous c).mp hc).1

section
variable {p : Number} (target : o.target (.int level) = .ok p) {previous : String}
  (mem : previous ∈ (Functions.ofMode mode).vocabulary (.int level))
include target mem

theorem yields_next_honours (sure : p.atLeast 1 = true) :
    Yields (next (Functions.ofMode mode) o previous
        ((Functions.ofMode mode).vocabulary (.int level)) (.int level)) fun c =>
      c ∈ (Functions.ofMode mode).vocabulary (.int level) ∧ Honours mode level previous c := by
  have hsome := targeted_ne_nil mode (.int level) previous mem
  refine (yields_next_honouring hsome target sure).mono fun c hc => ?_
  obtain ⟨hcandidate, htarget⟩ := List.mem_filter.mp hc
  exact ⟨((mem_candidates (varied_vocabulary mode _) previous c).mp hcandidate).1,
    List.contains_iff_mem.mp htarget⟩

theorem yields_next_leaves (never : p.above 0 = false) (sure : o.leave.atLeast 1 = true) :
    Yields (next (Functions.ofMode mode) o previous
        ((Functions.ofMode mode).vocabulary (.int level)) (.int level)) fun c =>
      c ∈ (Functions.ofMode mode).vocabulary (.int level) ∧ Leaves mode level previous c := by
  have hsome := targeted_ne_nil mode (.int level) previous mem
  have hpassing := yields_passing (f := Functions.ofMode mode)
    (candidates_ne_nil (varied_vocabulary mode (.int level)) previous) sure
  refine (yields_next_passing hsome target never hpassing).mono fun c hc => ?_
  simp only [mem_candidates (varied_vocabulary mode _)] at hc
  refine ⟨hc.1.1, ?_⟩
  rintro ⟨d, hd, hne, hleft⟩
  exact hc.2 ⟨d, ⟨hd, hne⟩, hleft⟩

end

end

theorem yields_inKey_chain {key : KeySource} {k : Key} (get : key.get = .ok k) {o : Odds}
    (measures : Int) {complexity : Int} {R : String → String → Prop}
    (step : ∀ previous ∈ (Functions.ofMode k.mode).vocabulary (.int (levelOf complexity)),
      Yields (next (Functions.ofMode k.mode) o previous
          ((Functions.ofMode k.mode).vocabulary (.int (levelOf complexity)))
          (.int (levelOf complexity))) fun c =>
        c ∈ (Functions.ofMode k.mode).vocabulary (.int (levelOf complexity)) ∧ R previous c) :
    Yields (inKey o key measures (.int complexity)) fun chords =>
      (chords.take (measures.toNat - 2)).IsChain R := by
  have htonic := (Functions.vocabulary_ofMode k.mode (.int (levelOf complexity))).1
  intro s
  rw [run_inKey_eq get (clamp_int complexity)]
  exact yields_ofFunctions_chain step htonic measures.toNat s

/-- When the chance of honouring the targets is one, every step before the cadence honours them;
when there is no such chance and leaving them is sure, every step leaves them if it can. And
whatever the chances are, the walk never stands on a chord without a target to go to. -/
theorem targets_honoured_or_left {key : KeySource} {k : Key} (get : key.get = .ok k) (o : Odds)
    (measures complexity : Int) :
    (∀ p, o.target (.int (levelOf complexity)) = .ok p → p.atLeast 1 = true →
      Yields (inKey o key measures (.int complexity)) fun chords =>
        (chords.take (measures.toNat - 2)).IsChain (Honours k.mode (levelOf complexity))) ∧
    (∀ p, o.target (.int (levelOf complexity)) = .ok p → p.above 0 = false →
      o.leave.atLeast 1 = true →
      Yields (inKey o key measures (.int complexity)) fun chords =>
        (chords.take (measures.toNat - 2)).IsChain (Leaves k.mode (levelOf complexity))) ∧
    ∀ c, Visited k.mode o (levelOf complexity) c →
      targeted (Functions.ofMode k.mode) c
        ((Functions.ofMode k.mode).vocabulary (.int (levelOf complexity))) ≠ [] := by
  refine ⟨fun p target sure => ?_, fun p target never sure => ?_, fun c visited => ?_⟩
  · exact yields_inKey_chain get measures fun _ mem => yields_next_honours target mem sure
  · exact yields_inKey_chain get measures fun _ mem => yields_next_leaves target mem never sure
  · exact targeted_ne_nil k.mode _ c visited.mem

theorem targets_honoured_or_left_fSharpMinor :
    Yields (inKey { base := .int 1, step := .int 0 } (.name (some "F#m")) 9 (.int 7)) (fun chords =>
        (chords.take 7).IsChain (Honours .minor 7)) ∧
      Yields (inKey { base := .int (-1), step := .int 0, leave := .int 1 } (.name (some "F#m")) 9
        (.int 7)) (fun chords => (chords.take 7).IsChain (Leaves .minor 7)) ∧
      targeted (Functions.ofMode .minor) "iv" ((Functions.ofMode .minor).vocabulary (.int 7)) ≠
        [] := by
  obtain ⟨k, get, hmode⟩ : ∃ k, KeySource.get (.name (some "F#m")) = .ok k ∧ k.mode = .minor :=
    ⟨_, rfl, rfl⟩
  have sure : (Number.real 1.0).atLeast 1 = true := by decide +kernel
  have visited : Visited .minor { base := .int (-1), step := .int 0, leave := .int 1 } 7 "iv" :=
    .next (s := Draws.cycle [0]) .tonic rfl
  have honoured := targets_honoured_or_left get { base := .int 1, step := .int 0 } 9 7
  have left := targets_honoured_or_left get
    { base := .int (-1), step := .int 0, leave := .int 1 } 9 7
  rw [hmode] at honoured left
  exact ⟨honoured.1 _ rfl sure, left.2.1 _ rfl rfl rfl, left.2.2 "iv" visited⟩

end Progression
end Tonality
