import Tonality.Proofs.Progression.Walk
import Tonality.Proofs.Reach

/-!
Every walk is reached. With chances that leave both outcomes of every test possible a step
can take each of its candidates: a target by honouring the targets, any other chord by
passing them over and leaving them, and where no candidate is a target the choice is open
anyway. So every row of allowed chords that begins on the tonic and never repeats a chord
is the beginning of a progression, for some draws.
-/

namespace Tonality

namespace Odds

/-- The targets may be honoured or not, and may be left for the other chords. -/
structure Open (o : Odds) (level p : Number) : Prop where
  target : o.target level = .ok p
  honours : p.above (unitFraction 0) = true
  passes : p.above (unitFraction 0xFFFFFFFF) = false
  leaves : o.leave.above (unitFraction 0) = true

def isOpen (o : Odds) (level : Number) : Bool :=
  match o.target level with
  | .ok p => p.above (unitFraction 0) && !p.above (unitFraction 0xFFFFFFFF) &&
      o.leave.above (unitFraction 0)
  | .error _ => false

theorem exists_open_of_isOpen {o : Odds} {level : Number} (h : o.isOpen level = true) :
    ∃ p, o.Open level p := by
  unfold isOpen at h
  split at h
  · rename_i p target
    simp only [Bool.and_eq_true, Bool.not_eq_true'] at h
    exact ⟨p, target, h.1.1, h.1.2, h.2⟩
  · cases h

/-- The chance of honouring the targets grows from 0.6 to 0.9. -/
theorem isOpen_default : ∀ level ∈ List.range 11, ({} : Odds).isOpen (.int level) = true := by
  decide +kernel

theorem exists_open {level : Int} (low : 0 ≤ level) (high : level ≤ 10) :
    ∃ p, ({} : Odds).Open (.int level) p := by
  obtain ⟨n, rfl⟩ := Int.eq_ofNat_of_zero_le low
  exact exists_open_of_isOpen (isOpen_default n (List.mem_range.mpr (by omega)))

end Odds

namespace Progression
open Gen

section
variable {f : Functions} {o : Odds} {level p : Number} {allowed : List String}

theorem length_candidates_le (previous : String) (allowed : List String) :
    (candidates previous allowed).length ≤ allowed.length := by
  unfold candidates
  split_ifs
  · exact List.length_filter_le _ _
  · exact le_rfl

theorem reaches_next (opened : o.Open level p) (few : allowed.length ≤ 0x100000000)
    {previous chord : String} (mem : chord ∈ candidates previous allowed) :
    Reaches (next f o previous allowed level) chord := by
  have hfew := (length_candidates_le previous allowed).trans few
  have hpart (q : String → Bool) (h : q chord = true) :
      Reaches (uniform ((candidates previous allowed).filter q)) chord :=
    reaches_uniform (List.mem_filter.mpr ⟨mem, h⟩) ((List.length_filter_le _ _).trans hfew)
  unfold next
  dsimp only
  split
  · exact reaches_uniform mem hfew
  cases htarget : (f.targets previous allowed).contains chord with
  | true =>
    refine (Gen.reaches_next 0).bind ((reaches_lift opened.target).bind ?_)
    rw [if_pos opened.honours]
    exact hpart _ htarget
  | false =>
    have hothers : ((candidates previous allowed).filter fun c =>
        !(f.targets previous allowed).contains c).isEmpty = false :=
      List.isEmpty_eq_false_iff.mpr
        (List.ne_nil_of_mem (List.mem_filter.mpr ⟨mem, by rw [htarget]; rfl⟩))
    refine (Gen.reaches_next 0xFFFFFFFF).bind ((reaches_lift opened.target).bind ?_)
    rw [if_neg (by rw [opened.passes]; exact Bool.false_ne_true), hothers]
    refine (reaches_chance opened.leaves).bind ?_
    exact hpart _ (by rw [htarget]; rfl)

theorem reaches_walk (opened : o.Open level p) (few : allowed.length ≤ 0x100000000)
    (two : Varied allowed) {previous : String} {chords : List String}
    (subset : chords ⊆ allowed) (varied : (previous :: chords).IsChain (· ≠ ·)) :
    Reaches (walk f o allowed level previous chords.length) chords := by
  -- on the chords to be reached; each of them is the previous one of the next
  induction chords generalizing previous with
  | nil => exact reaches_pure []
  | cons chord chords ih =>
    obtain ⟨mem, rest_subset⟩ := List.cons_subset.mp subset
    obtain ⟨ne, rest_varied⟩ := List.isChain_cons_cons.mp varied
    have hchord : chord ∈ candidates previous allowed :=
      (mem_candidates two previous chord).mpr ⟨mem, ne.symm⟩
    exact (reaches_next opened few hchord).bind
      ((ih rest_subset rest_varied).bind (reaches_pure _))

end

/-- A walk of allowed chords from the tonic, closed with the cadence. -/
theorem reaches_inKey {key : KeySource} {k : Key} (get : key.get = .ok k) (complexity : Int)
    {middle : List String}
    (subset : middle ⊆ (Functions.ofMode k.mode).vocabulary (.int (levelOf complexity)))
    (varied : ((Functions.ofMode k.mode).tonic :: middle).IsChain (· ≠ ·)) {measures : Int}
    (long : measures = middle.length + 3) :
    Reaches (inKey {} key measures (.int complexity))
      ((Functions.ofMode k.mode).tonic :: middle ++
        [cadence (Functions.ofMode k.mode)
          ((Functions.ofMode k.mode).vocabulary (.int (levelOf complexity))),
          (Functions.ofMode k.mode).tonic]) := by
  obtain ⟨low, high⟩ := levelOf_bounds complexity
  obtain ⟨p, opened⟩ := Odds.exists_open low high
  have hfew := Functions.length_vocabulary_le k.mode (.int (levelOf complexity))
  have hwalk := reaches_walk (f := Functions.ofMode k.mode) opened (hfew.trans (by decide))
    (varied_vocabulary k.mode _) subset varied
  have hsome : ¬measures ≤ 0 := by omega
  have hcount : measures.toNat = middle.length + 3 := by omega
  unfold inKey
  rw [if_neg hsome, hcount]
  exact (reaches_lift get).bind ((reaches_lift (clamp_int complexity)).bind
    (hwalk.bind (reaches_pure _)))

/-- With the usual chances every row of allowed chords that begins on the tonic and has no two
equal neighbours is what comes before the cadence of some progression, and the progression is
made from finitely many draws. -/
theorem progression_complete {key : KeySource} {k : Key} (get : key.get = .ok k) {measures : Int}
    (long : 3 ≤ measures) (complexity : Int) {chords : List String}
    (length : chords.length = measures - 2)
    (first : chords.head? = some (Functions.ofMode k.mode).tonic)
    (allowed : chords ⊆ (Functions.ofMode k.mode).vocabulary (.int (levelOf complexity)))
    (varied : chords.IsChain (· ≠ ·)) :
    ∃ (words : List UInt32) (progression : List String),
      run (inKey {} key measures (.int complexity)) (Draws.cycle words) =
          (.ok progression, (Draws.cycle words).rest words.length) ∧
        progression.take (measures - 2).toNat = chords := by
  obtain ⟨middle, rfl⟩ := List.head?_eq_some_iff.mp first
  have hlength : measures = middle.length + 3 := by
    rw [List.length_cons] at length
    omega
  have hreaches := reaches_inKey get complexity (List.cons_subset.mp allowed).2 varied hlength
  obtain ⟨words, hrun⟩ := hreaches.exists_cycle
  refine ⟨words, _, hrun, ?_⟩
  have htake : (measures - 2).toNat = ((Functions.ofMode k.mode).tonic :: middle).length := by
    rw [List.length_cons]
    omega
  rw [htake, List.take_left]

theorem progression_complete_mediant :
    ∃ (words : List UInt32) (progression : List String),
      run (inKey {} (.name (some "F#m")) 6 (.int 7)) (Draws.cycle words) =
          (.ok progression, (Draws.cycle words).rest words.length) ∧
        progression.take 4 = ["i", "III", "vii°", "III"] := by
  obtain ⟨k, get, hmode⟩ : ∃ k, KeySource.get (.name (some "F#m")) = .ok k ∧ k.mode = .minor :=
    ⟨_, rfl, rfl⟩
  have long : (3 : Int) ≤ 6 := by decide
  have length : (["i", "III", "vii°", "III"].length : Int) = 6 - 2 := rfl
  exact progression_complete get long 7 length (by rw [hmode]; rfl) (by rw [hmode]; decide)
    (by decide)

end Progression
end Tonality
