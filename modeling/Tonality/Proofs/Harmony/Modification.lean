import Tonality.Harmony.Modification
import Tonality.Proofs.Key.Degrees
import Tonality.Proofs.Numeral.Written

/-!
What a numeral makes of the chord on its degree. The root moves by the sign and
the triad is the one asked for; a seventh that is wanted is then built on that
triad, exactly when there is a standard chord with it and otherwise as the usual
chord of the triad, so that the last two ways are never taken. In a key on a root
every degree has a plain seventh as long as its chord has a symbol.
-/

namespace Tonality

namespace Quality

/-- The seventh chord that a triad gets when some seventh is wanted. -/
def withSeventh (q : Quality) (seventh : Interval) : Quality :=
  (standardSeventh? q.triad seventh).getD ((usualSeventh? q.triad).getD q)

theorem standardSeventh?_eq {triad q : Quality} {seventh : Interval}
    (h : standardSeventh? triad seventh = some q) : q.triad = triad ∧ q.isSeventh = true := by
  unfold standardSeventh? at h
  split_ifs at h <;> cases triad <;> cases h <;> decide

theorem exists_usualSeventh (q : Quality) :
    ∃ s, usualSeventh? q.triad = some s ∧ s.triad = q.triad ∧ s.isSeventh = true := by
  cases q <;> exact ⟨_, rfl, rfl, rfl⟩

theorem isSeventh_of_triad {q : Quality} (h : q.triad = q) : q.isSeventh = false := by
  cases q <;> first | rfl | cases h

theorem withSeventh_spec (q : Quality) (seventh : Interval) :
    (q.withSeventh seventh).triad = q.triad ∧ (q.withSeventh seventh).isSeventh = true := by
  obtain ⟨s, hs, htriad, hseventh⟩ := exists_usualSeventh q
  unfold withSeventh
  cases hstandard : standardSeventh? q.triad seventh with
  | none => rw [hs]; exact ⟨htriad, hseventh⟩
  | some q' => exact standardSeventh?_eq hstandard

end Quality

theorem Scale.triad_stackedTriad (d : Interval × Interval × Interval) :
    (stackedTriad d).triad = stackedTriad d := by
  unfold stackedTriad stackedTriad? Quality.ofSemitones?
  split_ifs <;> rfl

namespace Chord

/-- The first two ways are enough, the second only where the first fails. -/
theorem firstWay?_seventhWays (modified diatonic : Chord) (seventh : Interval) :
    firstWay? (seventhWays modified diatonic seventh) =
      let c := modified.recast (modified.quality.withSeventh seventh)
      some (if (Quality.standardSeventh? modified.quality.triad seventh).isSome then
          (0, "requested seventh", c)
        else (1, "nearest standard seventh", c)) := by
  obtain ⟨s, hs, -, -⟩ := modified.quality.exists_usualSeventh
  simp only [seventhWays, withSeventh?, withUsualSeventh?, Quality.withSeventh, hs]
  cases Quality.standardSeventh? modified.quality.triad seventh <;> rfl

/-- The chord with the seventh that is wanted, and the record of a fallback. -/
def completed (c : Chord) (roman key : String) : Option Interval → Modified
  | none => ⟨c, []⟩
  | some s =>
    let c' := c.recast (c.quality.withSeventh s)
    ⟨c', if (Quality.standardSeventh? c.quality.triad s).isSome then []
      else [⟨roman, key, "nearest standard seventh", c'.symbol⟩]⟩

end Chord

namespace Numeral

def triadOver (n : Numeral) (diatonic : Quality) : Quality :=
  if n.base.suspension.isSome then .suspended
  else match n.base.token with
    | some t => t.triad
    | none =>
      if n.base.sign.isSome then (if n.base.degree.upper then .major else .minor) else diatonic

def wantsSeventh (n : Numeral) : Bool := n.asksSeventh || n.base.token.any Token.impliesSeventh

/-- The chord that a numeral makes of the one on its degree. -/
structure Realizes (n : Numeral) (diatonic c : Chord) : Prop where
  root : c.root = diatonic.root.shift n.base.shift
  triad : c.quality.triad = n.triadOver diatonic.quality
  seventh : c.quality.isSeventh = n.wantsSeventh

theorem wantsSeventh_iff (n : Numeral) : n.wantsSeventh = true ↔
    n.base.seventh = true ∨ (∃ f ∈ seventhFigures, n.figure = some f) ∨
      n.base.token = some .slashed ∨ n.base.token = some .hd := by
  have hfigure : n.figure.any seventhFigures.contains = true ↔
      ∃ f ∈ seventhFigures, n.figure = some f := by
    cases n.figure <;> simp
  have htoken : n.base.token.any Token.impliesSeventh = true ↔
      n.base.token = some .slashed ∨ n.base.token = some .hd := by
    rcases n.base.token with _ | t
    · simp
    · cases t <;> decide
  rw [wantsSeventh, asksSeventh, Bool.or_eq_true, Bool.or_eq_true, hfigure, htoken, or_assoc]

def modified (n : Numeral) (diatonic : Chord) : Chord :=
  ⟨diatonic.root.shift n.base.shift, n.triadOver diatonic.quality⟩

theorem signed_eq (n : Numeral) (diatonic : Chord) :
    n.signed diatonic = ⟨diatonic.root.shift n.base.shift,
      if n.base.sign.isSome then (if n.base.degree.upper then .major else .minor)
      else diatonic.quality⟩ := by
  unfold signed Base.shift
  cases hsign : n.base.sign with
  | none => simp [Root.shift]
  | some s => simp

theorem modified_eq (n : Numeral) (diatonic : Chord) :
    (n.requested?.map (n.signed diatonic).recast).getD (n.signed diatonic) = n.modified diatonic := by
  rw [signed_eq]
  unfold requested? modified triadOver
  by_cases hsuspension : n.base.suspension.isSome
  · simp [hsuspension, Chord.recast]
  · cases htoken : n.base.token <;> simp [hsuspension, Chord.recast]

theorem triad_triadOver (n : Numeral) {diatonic : Quality} (h : diatonic.triad = diatonic) :
    (n.triadOver diatonic).triad = n.triadOver diatonic := by
  unfold triadOver
  by_cases hsuspension : n.base.suspension.isSome
  · rw [if_pos hsuspension]
    rfl
  · rw [if_neg hsuspension]
    cases n.base.token with
    | some t => cases t <;> rfl
    | none =>
      dsimp only
      split_ifs
      · rfl
      · rfl
      · exact h

end Numeral

namespace Key

/-- Only the search for a plain seventh can fail once the chord is known. -/
theorem modifyChord_eq {k : Key} {n : Numeral} {index : Int} {seventh : Option Interval}
    (h : n.seventh? k index = .ok seventh) (diatonic : Chord) (roman : String) :
    k.modifyChord diatonic roman n index =
      .ok ((n.modified diatonic).completed roman k.name seventh) := by
  unfold modifyChord
  simp only [Numeral.modified_eq, h, bind, Except.bind]
  cases seventh with
  | none => rfl
  | some s =>
    simp only [Chord.firstWay?_seventhWays]
    by_cases hstandard : (Quality.standardSeventh? (n.modified diatonic).quality.triad s).isSome
    · simp only [Chord.completed, if_pos hstandard]
      rfl
    · simp only [Chord.completed, if_neg hstandard]
      rfl

theorem modifyChord_error {k : Key} {n : Numeral} {index : Int} {e : Error}
    (h : n.seventh? k index = .error e) (diatonic : Chord) (roman : String) :
    k.modifyChord diatonic roman n index = .error e := by
  simp only [modifyChord, h, bind, Except.bind]

/-- A degree is in the range that is asked for. -/
theorem degree_inside (degree : Fin 7) :
    ¬((degree.val : Int) < 0 ∨ 6 < (degree.val : Int)) := by omega

theorem modify_eq {symbol roman : Option String} {c : Chord} {n : Numeral}
    (hc : Chord.read symbol = .ok c) (hn : Numeral.read roman = .ok n) (k : Key)
    (degree : Fin 7) :
    modify (some k) symbol roman degree.val =
      k.modifyChord c (Text.shown roman) n degree.val := by
  simp only [modify, if_neg (degree_inside degree), hc, hn, bind, Except.bind]

theorem modify_of_error {symbol : Option String} {e : Error} (hc : Chord.read symbol = .error e)
    (k : Key) (roman : Option String) (degree : Fin 7) :
    modify (some k) symbol roman degree.val = .error e := by
  simp only [modify, if_neg (degree_inside degree), hc, bind, Except.bind]

end Key

/-- The seventh chord that a plain 7 means on a degree: thirds stacked on it in the form of the
scale that the degree is taken from. -/
def Mode.seventhOn (mode : Mode) (degree : Fin 7) : Quality :=
  (if mode = .major then
      [.majorSeventh, .minorSeventh, .minorSeventh, .majorSeventh, .dominantSeventh,
        .minorSeventh, .halfDiminishedSeventh]
    else
      [.minorSeventh, .halfDiminishedSeventh, .majorSeventh, .minorSeventh, .dominantSeventh,
        .majorSeventh, .diminishedSeventh]).getD degree.val .dominantSeventh

theorem Mode.isSeventh_seventhOn (mode : Mode) (degree : Fin 7) :
    (mode.seventhOn degree).isSeventh = true := by
  cases mode <;> fin_cases degree <;> rfl

namespace Numeral

variable (n : Numeral) (r : Root) (mode : Mode)

def seventhIn : Option Interval :=
  if n.wantsSeventh then
    (n.base.token.bind Token.seventh?).or (mode.seventhOn n.base.degree.index).seventh?
  else none

def qualityIn : Quality :=
  let triad := n.triadOver (Scale.stackedTriad (Key.stackOn mode n.base.degree.index))
  (n.seventhIn mode).elim triad triad.withSeventh

/-- The chord that a numeral means in a key on a root. Only its root depends on the root. -/
def chordIn : Chord :=
  ⟨(Key.chordOn r mode n.base.degree.index).root.shift n.base.shift, n.qualityIn mode⟩

theorem isSome_seventhIn : (n.seventhIn mode).isSome = n.wantsSeventh := by
  have hplain := (Quality.isSeventh_iff _).mp (mode.isSeventh_seventhOn n.base.degree.index)
  unfold seventhIn
  split_ifs with hwants
  · simp [hplain, hwants]
  · simpa using hwants

theorem chord_completed (roman key : String) :
    ((n.modified (Key.chordOn r mode n.base.degree.index)).completed roman key
      (n.seventhIn mode)).chord = n.chordIn r mode := by
  unfold chordIn qualityIn
  cases n.seventhIn mode <;> rfl

theorem triad_isSeventh_qualityIn :
    (n.qualityIn mode).triad =
        n.triadOver (Scale.stackedTriad (Key.stackOn mode n.base.degree.index)) ∧
      (n.qualityIn mode).isSeventh = n.wantsSeventh := by
  have htriad := n.triad_triadOver (Scale.triad_stackedTriad (Key.stackOn mode n.base.degree.index))
  have hwants := n.isSome_seventhIn mode
  unfold qualityIn
  cases hseventh : n.seventhIn mode with
  | none =>
    rw [hseventh] at hwants
    exact ⟨htriad, (Quality.isSeventh_of_triad htriad).trans hwants⟩
  | some s =>
    rw [hseventh] at hwants
    obtain ⟨hkept, hadded⟩ := (n.triadOver _).withSeventh_spec s
    exact ⟨hkept.trans htriad, hadded.trans hwants⟩

theorem realizes_chordIn :
    n.Realizes (Key.chordOn r mode n.base.degree.index) (n.chordIn r mode) := by
  obtain ⟨htriad, hseventh⟩ := n.triad_isSeventh_qualityIn mode
  exact ⟨rfl, htriad, hseventh⟩

end Numeral

namespace Key

theorem plainSeventh_onRoot {r : Root} {mode : Mode} {degree : Fin 7}
    (few : (chordOn r mode degree).root.alter.natAbs ≤ 3) :
    (onRoot r mode).plainSeventh degree.val = .ok (mode.seventhOn degree) := by
  have hread := Chord.read_symbol few
  have hdiatonic := diatonic_onRoot r mode degree ""
  by_cases hmode : (onRoot r mode).mode = .major
  · obtain rfl : mode = .major := by
      cases mode with
      | major => rfl
      | minor => cases hmode
      | other name => cases hmode
    rw [plainSeventh, if_pos hmode]
    fin_cases degree <;> rfl
  · rw [plainSeventh, if_neg hmode, hdiatonic]
    simp only [bind, Except.bind, hread]
    cases mode with
    | major => exact absurd rfl hmode
    | minor => fin_cases degree <;> rfl
    | other name => fin_cases degree <;> rfl

section
variable {r : Root} {mode : Mode} {n : Numeral}
  (few : (chordOn r mode n.base.degree.index).root.alter.natAbs ≤ 3)
include few

theorem seventh?_onRoot :
    n.seventh? (onRoot r mode) n.base.degree.index.val = .ok (n.seventhIn mode) := by
  rw [Numeral.seventh?, ← Numeral.wantsSeventh, Numeral.seventhIn]
  split_ifs with hwants
  · cases n.base.token.bind Token.seventh? with
    | some s => rfl
    | none =>
      simp only [plainSeventh_onRoot few, bind, Except.bind]
      rfl
  · rfl

/-- What a numeral makes of the chord on its degree, whichever text it was read from. -/
theorem modify_onRoot {roman : Option String} (h : Numeral.read roman = .ok n) :
    ∃ log, modify (some (onRoot r mode)) (some (chordOn r mode n.base.degree.index).symbol) roman
      n.base.degree.index.val = .ok ⟨n.chordIn r mode, log⟩ := by
  rw [modify_eq (Chord.read_symbol few) h, modifyChord_eq (seventh?_onRoot few)]
  exact ⟨_, by rw [← n.chord_completed r mode]⟩

end

end Key
end Tonality
