import Tonality.Proofs.Chord.Symbol
import Tonality.Proofs.Pitch.Spelling
import Tonality.Voicing.Bass

/-!
Tokens for the bass. A token asks for a note above the root: an interval by its name, the
chord's own member or the step of the major scale by a number, or that step moved by signs.
The token and the quality tell how far the bass lies above the root, and the root only adds
its pitch class; a text that is no token is a fault of theory, and nothing else goes wrong.
-/

namespace Tonality

namespace Interval

theorem Specifier.eq_char {c : Char} {s : Specifier} (h : Specifier.ofChar? c = some s) :
    c = s.char := by
  unfold Specifier.ofChar? at h
  split at h
  case h_6 => cases h
  all_goals
    obtain rfl := Option.some.inj h
    rfl

theorem eq_stepsChar {c : Char} {steps : Fin 7} (h : stepsOfChar? c = some steps) :
    c = stepsChar steps := by
  unfold stepsOfChar? at h
  split at h
  case h_8 => cases h
  all_goals
    obtain rfl := Option.some.inj h
    rfl

theorem stepsOfChar?_stepsChar (steps : Fin 7) : stepsOfChar? (stepsChar steps) = some steps := by
  revert steps
  decide

theorem not_isSign_stepsChar (steps : Fin 7) : ¬IsSign (stepsChar steps) := by
  unfold IsSign
  revert steps
  decide

theorem not_isSign_specifier (s : Specifier) : ¬IsSign s.char := by
  unfold IsSign
  cases s <;> decide

theorem readChars?_eq_some_iff {cs : List Char} {i : Interval} :
    readChars? cs = some i ↔ cs = i.chars := by
  constructor
  · intro h
    unfold readChars? at h
    split at h
    · rename_i s n
      cases hs : Specifier.ofChar? s with
      | none => simp [hs] at h
      | some specifier =>
        cases hn : stepsOfChar? n with
        | none => simp [hs, hn] at h
        | some steps =>
          obtain rfl : ⟨specifier, steps⟩ = i := by simpa [hs, hn] using h
          rw [Specifier.eq_char hs, eq_stepsChar hn]
          rfl
    · cases h
  · rintro rfl
    exact readChars?_chars i

/-- Perfect intervals are the unison, fourth and fifth, and the others are major or minor; any
of them may be augmented or diminished. -/
def Given (i : Interval) : Prop :=
  (i.specifier = .perfect → i.steps ∈ [0, 3, 4]) ∧
    (i.specifier = .major ∨ i.specifier = .minor → i.steps ∈ [1, 2, 5, 6])

theorem isPossible_iff (i : Interval) : i.isPossible = true ↔ i.Given := by
  obtain ⟨specifier, steps⟩ := i
  unfold Given
  cases specifier <;> (revert steps; decide)

theorem semitones_natural (steps : Fin 7) : (natural steps).semitones = majorSemitones steps := by
  revert steps
  decide

end Interval

namespace Bass

/-- Under a chord of the quality a token asks for the note so many semitones above the root. -/
inductive Asks (q : Quality) : List Char → Int → Prop
  | named {i : Interval} (given : i.Given) : Asks q i.chars i.semitones
  | member {i : Interval} (h : i ∈ q.intervals) : Asks q [Interval.stepsChar i.steps] i.semitones
  | scale {steps : Fin 7} (absent : ∀ i ∈ q.intervals, i.steps ≠ steps) :
    Asks q [Interval.stepsChar steps] (Interval.majorSemitones steps)
  | signed {signs : List Char} {steps : Fin 7} (ne_nil : signs ≠ []) (all : ∀ c ∈ signs, IsSign c) :
    Asks q (signs ++ [Interval.stepsChar steps])
      (Interval.majorSemitones steps + ((signs.count '#' : Int) - signs.count 'b'))

/-- The name of an interval that there is, or a number from 1 to 7 after any signs. -/
inductive IsToken : List Char → Prop
  | named {i : Interval} (given : i.Given) : IsToken i.chars
  | number {signs : List Char} {steps : Fin 7} (all : ∀ c ∈ signs, IsSign c) :
    IsToken (signs ++ [Interval.stepsChar steps])

theorem asks_iff_isToken {q : Quality} {token : List Char} :
    (∃ s, Asks q token s) ↔ IsToken token := by
  constructor
  · rintro ⟨s, hasks⟩
    cases hasks with
    | named given => exact .named given
    | member h => exact .number (List.forall_mem_nil IsSign)
    | scale absent => exact .number (List.forall_mem_nil IsSign)
    | signed ne_nil all => exact .number all
  · intro htoken
    cases htoken with
    | named given => exact ⟨_, .named given⟩
    | @number signs steps all =>
      by_cases hsigns : signs = []
      · obtain rfl := hsigns
        by_cases hmember : ∃ i ∈ q.intervals, i.steps = steps
        · obtain ⟨i, hi, rfl⟩ := hmember
          exact ⟨_, .member hi⟩
        · exact ⟨_, .scale fun i hi hsteps => hmember ⟨i, hi, hsteps⟩⟩
      · exact ⟨_, .signed hsigns all⟩

theorem isSign_iff {c : Char} : isSign c = true ↔ IsSign c := by simp [isSign, IsSign]

theorem readGeneric?_eq_some {cs signs : List Char} {steps : Fin 7}
    (h : readGeneric? cs = some (signs, steps)) :
    cs = signs ++ [Interval.stepsChar steps] ∧ ∀ c ∈ signs, IsSign c := by
  unfold readGeneric? at h
  split at h
  · rename_i c hrest
    cases hsteps : Interval.stepsOfChar? c with
    | none => simp [hsteps] at h
    | some k =>
      rw [hsteps, Option.map_some] at h
      obtain ⟨rfl, rfl⟩ := Prod.mk.inj (Option.some.inj h)
      refine ⟨?_, fun c hc => isSign_iff.mp (List.mem_takeWhile_imp hc)⟩
      rw [← Interval.eq_stepsChar hsteps, ← hrest, List.takeWhile_append_dropWhile]
  · cases h

section
variable {signs : List Char} (all : ∀ c ∈ signs, IsSign c) (steps : Fin 7)
include all

theorem readGeneric?_generic :
    readGeneric? (signs ++ [Interval.stepsChar steps]) = some (signs, steps) := by
  have inside : ∀ c ∈ signs, isSign c = true := fun c hc => isSign_iff.mpr (all c hc)
  have stop : ∀ c, [Interval.stepsChar steps].head? = some c → isSign c = false := by
    rintro _ ⟨⟩
    rw [← Bool.not_eq_true, isSign_iff]
    exact Interval.not_isSign_stepsChar steps
  simp only [readGeneric?, Text.dropWhile_append_stop inside stop,
    Text.takeWhile_append_stop inside stop, Interval.stepsOfChar?_stepsChar, Option.map_some]

/-- What begins with a sign, or is a number alone, is no name of an interval. -/
theorem readChars?_generic : Interval.readChars? (signs ++ [Interval.stepsChar steps]) = none := by
  cases signs with
  | nil => rfl
  | cons c signs =>
    rw [Option.eq_none_iff_forall_ne_some]
    intro i h
    obtain ⟨rfl, -⟩ := List.cons.inj (Interval.readChars?_eq_some_iff.mp h)
    exact Interval.not_isSign_specifier _ (all _ List.mem_cons_self)

end

theorem memberAt_of_mem {c : Chord} {i : Interval} (h : i ∈ c.quality.intervals) :
    memberAt c i.steps = i := by
  have hq : ∀ q : Quality, ∀ j ∈ q.intervals,
      (q.intervals.find? fun k => k.steps = j.steps).getD (Interval.natural j.steps) = j := by
    intro q
    cases q <;> decide
  exact hq c.quality i h

theorem memberAt_of_absent {c : Chord} {steps : Fin 7}
    (h : ∀ i ∈ c.quality.intervals, i.steps ≠ steps) :
    memberAt c steps = Interval.natural steps := by
  have hfind : c.quality.intervals.find? (fun i => i.steps = steps) = none := by
    simpa using h
  rw [memberAt, hfind, Option.getD_none]

/-- Semitones from the root up to the bass, where the token tells them. -/
def distance? (c : Chord) (bass : Option String) : Option Int :=
  let token := Text.strip (bass.getD "").toList
  match Interval.readChars? token with
  | some i => if i.isPossible then some i.semitones else none
  | none => (readGeneric? token).map fun (signs, steps) =>
    (if signs.isEmpty then memberAt c steps else Interval.natural steps).semitones +
      ((signs.count '#' : Int) - signs.count 'b')

section
variable {c : Chord} {bass : Option String}

theorem distance?_generic {signs : List Char} {steps : Fin 7} (all : ∀ c ∈ signs, IsSign c)
    (h : Text.strip (bass.getD "").toList = signs ++ [Interval.stepsChar steps]) :
    distance? c bass =
      some ((if signs.isEmpty then memberAt c steps else Interval.natural steps).semitones +
        ((signs.count '#' : Int) - signs.count 'b')) := by
  simp only [distance?, h, readChars?_generic all, readGeneric?_generic all, Option.map_some]

theorem distance?_steps {steps : Fin 7}
    (h : Text.strip (bass.getD "").toList = [Interval.stepsChar steps]) :
    distance? c bass = some (memberAt c steps).semitones := by
  simpa using distance?_generic (c := c) (List.forall_mem_nil IsSign) h

theorem asks_of_distance? {s : Int} (h : distance? c bass = some s) :
    Asks c.quality (Text.strip (bass.getD "").toList) s := by
  unfold distance? at h
  dsimp only at h
  split at h
  · rename_i i hname
    split_ifs at h with hpossible
    obtain rfl := Option.some.inj h
    rw [Interval.readChars?_eq_some_iff.mp hname]
    exact .named ((Interval.isPossible_iff i).mp hpossible)
  · obtain ⟨⟨signs, steps⟩, hgeneric, rfl⟩ := Option.map_eq_some_iff.mp h
    obtain ⟨htoken, all⟩ := readGeneric?_eq_some hgeneric
    rw [htoken]
    cases signs with
    | nil =>
      by_cases hmember : ∃ i ∈ c.quality.intervals, i.steps = steps
      · obtain ⟨i, hi, rfl⟩ := hmember
        simpa [memberAt_of_mem hi] using Asks.member hi
      · have absent : ∀ i ∈ c.quality.intervals, i.steps ≠ steps := fun i hi hsteps =>
          hmember ⟨i, hi, hsteps⟩
        simpa [memberAt_of_absent absent, Interval.semitones_natural] using Asks.scale absent
    | cons sign signs =>
      simpa [Interval.semitones_natural] using Asks.signed (List.cons_ne_nil sign signs) all

theorem distance?_of_asks {s : Int}
    (h : Asks c.quality (Text.strip (bass.getD "").toList) s) : distance? c bass = some s := by
  generalize htoken : Text.strip (bass.getD "").toList = token at h
  cases h with
  | @named i given =>
    have hpossible := (Interval.isPossible_iff i).mpr given
    simp only [distance?, htoken, Interval.readChars?_chars, hpossible, if_true]
  | @member i hi => rw [distance?_steps htoken, memberAt_of_mem hi]
  | @scale steps absent =>
    rw [distance?_steps htoken, memberAt_of_absent absent, Interval.semitones_natural]
  | @signed signs steps ne_nil all =>
    rw [distance?_generic all htoken, if_neg (by simpa using ne_nil), Interval.semitones_natural]

end

section
variable {c : Chord} (few : c.root.alter.natAbs ≤ 3)
include few

theorem transpose_root (i : Interval) :
    c.root.note.transpose i = .ok (c.root.up i).note :=
  Root.transpose_note fun hf => by
    have halter : c.root.alter = -4 := hf.2.1
    omega

theorem pitchClass_cases (bass : Option String) :
    (∃ s, distance? c bass = some s ∧ pitchClass c bass = .ok ((c.root.pitchClass + s) % 12)) ∨
      distance? c bass = none ∧ ∃ e, pitchClass c bass = .error e ∧ e.kind = .theory := by
  have habove (i : Interval) : (c.root.up i).note.pitchClass =
      (c.root.pitchClass + i.semitones) % 12 := c.root.pitchClass_up i
  unfold distance? pitchClass
  dsimp only
  cases Interval.readChars? (Text.strip (bass.getD "").toList) with
  | some i =>
    by_cases hpossible : i.isPossible = true
    · refine .inl ⟨i.semitones, if_pos hpossible, ?_⟩
      simp only [if_pos hpossible, transpose_root few, bind, Except.bind, habove]
      rfl
    · exact .inr ⟨if_neg hpossible, _, if_neg hpossible, rfl⟩
  | none =>
    cases readGeneric? (Text.strip (bass.getD "").toList) with
    | none => exact .inr ⟨rfl, _, rfl, rfl⟩
    | some token =>
      refine .inl ⟨_, rfl, ?_⟩
      simp only [transpose_root few, bind, Except.bind, habove, Int.emod_add_emod, Int.add_assoc]
      rfl

theorem pitchClass_of_distance? {bass : Option String} {s : Int} (h : distance? c bass = some s) :
    pitchClass c bass = .ok ((c.root.pitchClass + s) % 12) := by
  rcases pitchClass_cases few bass with ⟨s', hs', hp⟩ | ⟨hnone, -⟩
  · obtain rfl : s = s' := by rwa [h, Option.some.injEq] at hs'
    exact hp
  · rw [h] at hnone
    cases hnone

/-- The bass is told by what its token asks for, whichever way the token is written, and a text
that is no token is refused as a fault of theory. -/
theorem bass_exactly (bass : Option String) :
    let token := Text.strip (bass.getD "").toList
    (∀ p, pitchClass c bass = .ok p ↔
      ∃ s, Asks c.quality token s ∧ p = (c.root.pitchClass + s) % 12) ∧
    ((∃ s, Asks c.quality token s) ↔ IsToken token) ∧
    (¬IsToken token → ∃ e, pitchClass c bass = .error e ∧ e.kind = .theory) := by
  intro token
  have hdistance {s : Int} : distance? c bass = some s ↔ Asks c.quality token s :=
    ⟨asks_of_distance?, distance?_of_asks⟩
  refine ⟨fun p => ⟨fun hp => ?_, ?_⟩, asks_iff_isToken, fun hno => ?_⟩
  · rcases pitchClass_cases few bass with ⟨s, hs, hok⟩ | ⟨-, e, herror, -⟩
    · exact ⟨s, hdistance.mp hs, Except.ok.inj (hp.symm.trans hok)⟩
    · rw [hp] at herror
      cases herror
  · rintro ⟨s, hasks, rfl⟩
    exact pitchClass_of_distance? few (hdistance.mpr hasks)
  · rcases pitchClass_cases few bass with ⟨s, hs, -⟩ | ⟨-, herror⟩
    · exact absurd (asks_iff_isToken.mp ⟨s, hdistance.mp hs⟩) hno
    · exact herror

end

/-- Signs that cancel out still take the third of the scale in place of the chord's own. -/
theorem bass_exactly_cancelling :
    pitchClass ⟨⟨.c, -3⟩, .minor⟩ (some "3") = .ok 0 ∧
      pitchClass ⟨⟨.c, -3⟩, .minor⟩ (some " b#3 ") = .ok 1 := by
  have few : (⟨⟨.c, -3⟩, .minor⟩ : Chord).root.alter.natAbs ≤ 3 := by decide
  have hmember : (⟨.minor, 2⟩ : Interval) ∈ Quality.minor.intervals := by decide
  have hsigned : Asks .minor (['b', '#'] ++ [Interval.stepsChar 2]) _ :=
    .signed (List.cons_ne_nil 'b' ['#']) (by simp [IsSign])
  constructor
  · exact ((bass_exactly few (some "3")).1 0).mpr ⟨_, .member hmember, by decide⟩
  · exact ((bass_exactly few (some " b#3 ")).1 1).mpr ⟨_, hsigned, by decide⟩

end Bass
end Tonality
