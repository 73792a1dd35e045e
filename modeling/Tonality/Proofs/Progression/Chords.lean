import Tonality.Command.Run
import Tonality.Proofs.Harmony.Resolution
import Tonality.Proofs.Progression.Walk

/-!
Progressions as chords. Whatever the complexity is, the vocabulary of a mode is taken from
the nine numerals of its functions, and in a key of that mode every one of them resolves
in root position to the chord that its spelling announces. So every progression resolves
in the key that it was made for.
-/

namespace Tonality

/-- What the spelling of a numeral says of its chord. -/
inductive Numeral.Announces : String → Quality → Prop
  | upper (degree : Fin 7) : Announces (Degree.upperText degree) .major
  | lower (degree : Fin 7) : Announces (Degree.lowerText degree) .minor
  | degreeSign (d : Degree) : Announces (d.text ++ "°") .diminished
  | dominantSeventh : Announces "V7" .dominantSeventh
  | leadingToneSeventh : Announces "vii°7" .diminishedSeventh

namespace Functions

def numerals (f : Functions) : List String :=
  [f.tonic, f.subdominant, f.supertonic, f.mediant, f.submediant, f.dominant, f.dominantSeventh,
    f.leadingTone, f.leadingToneSeventh]

/-- Putting one numeral in the place of another stays within the numerals. -/
theorem promoted_subset {chords numerals : List String} (h : chords ⊆ numerals) {a b : String}
    (hb : b ∈ numerals) (promotes : Bool) :
    (if promotes then chords.map fun c => if c = a then b else c else chords) ⊆ numerals := by
  split_ifs
  · intro d hd
    obtain ⟨c, hc, rfl⟩ := List.mem_map.mp hd
    split_ifs
    · exact hb
    · exact h hc
  · exact h

theorem vocabulary_subset (f : Functions) (complexity : Number) :
    f.vocabulary complexity ⊆ f.numerals := by
  have hbase : [f.tonic, f.subdominant, f.dominant] ++
      (if complexity.atLeast 3 then [f.submediant, f.supertonic] else []) ++
      (if complexity.atLeast 6 then [f.mediant, f.leadingTone] else []) ⊆ f.numerals := by
    rw [List.append_subset, List.append_subset]
    refine ⟨⟨?_, ?_⟩, ?_⟩
    · simp [numerals]
    · split_ifs <;> simp [numerals]
    · split_ifs <;> simp [numerals]
  intro c hc
  rw [vocabulary, List.mem_eraseDups] at hc
  exact promoted_subset (promoted_subset hbase (by simp [numerals]) _) (by simp [numerals]) _ hc

/-- The numerals of the two modes, each with the rule that announces its chord. -/
theorem announces_numerals {mode : Mode} (tonal : mode.Tonal) :
    ∀ c ∈ (ofMode mode).numerals, ∃ n, Numeral.read (some c) = .ok n ∧ n.bass = rootPosition ∧
      '/' ∉ c.toList ∧ Numeral.Announces c (n.qualityIn mode) := by
  rcases tonal with rfl | rfl <;> simp only [numerals, List.forall_mem_cons]
  · exact
      ⟨⟨_, rfl, rfl, by decide, .upper 0⟩, ⟨_, rfl, rfl, by decide, .upper 3⟩,
        ⟨_, rfl, rfl, by decide, .lower 1⟩, ⟨_, rfl, rfl, by decide, .lower 2⟩,
        ⟨_, rfl, rfl, by decide, .lower 5⟩, ⟨_, rfl, rfl, by decide, .upper 4⟩,
        ⟨_, rfl, rfl, by decide, .dominantSeventh⟩,
        ⟨_, rfl, rfl, by decide, .degreeSign ⟨6, false⟩⟩,
        ⟨_, rfl, rfl, by decide, .leadingToneSeventh⟩, List.forall_mem_nil _⟩
  · exact
      ⟨⟨_, rfl, rfl, by decide, .lower 0⟩, ⟨_, rfl, rfl, by decide, .lower 3⟩,
        ⟨_, rfl, rfl, by decide, .degreeSign ⟨1, false⟩⟩, ⟨_, rfl, rfl, by decide, .upper 2⟩,
        ⟨_, rfl, rfl, by decide, .upper 5⟩, ⟨_, rfl, rfl, by decide, .upper 4⟩,
        ⟨_, rfl, rfl, by decide, .dominantSeventh⟩,
        ⟨_, rfl, rfl, by decide, .degreeSign ⟨6, false⟩⟩,
        ⟨_, rfl, rfl, by decide, .leadingToneSeventh⟩, List.forall_mem_nil _⟩

end Functions

namespace Resolution

/-- A numeral resolves in root position to a chord of the announced quality. -/
def AsAnnounced (name : Option String) (c : String) : Prop :=
  ∃ r chord, ofTexts (some c) name = .ok r ∧ r.voicing.bass = none ∧
    Chord.read (some r.voicing.symbol) = .ok chord ∧ Numeral.Announces c chord.quality

theorem asAnnounced_numerals {name : Option String} {k : Key} (hname : Key.read name = .ok k)
    {c : String} (hc : c ∈ (Functions.ofMode k.mode).numerals) : AsAnnounced name c := by
  obtain ⟨r, mode, rfl, canonical, tonal⟩ := Key.read_ok hname
  rw [Key.mode_onRoot r tonal] at hc
  obtain ⟨n, hn, hbass, slashless, announces⟩ := Functions.announces_numerals tonal c hc
  obtain ⟨b, log, hb, hresult⟩ := ofTexts_slashless slashless hn hname canonical tonal
  have few := (n.realizes_chordIn r mode).alter (spellable_of_canonical canonical mode n)
  have hroot : Voicing.bassOf (n.chordIn r mode) (some rootPosition) = .ok none := rfl
  rw [hbass, hroot] at hb
  obtain rfl := Except.ok.inj hb
  exact ⟨_, n.chordIn r mode, hresult, rfl, Chord.read_symbol few, announces⟩

end Resolution

namespace Progression
open Gen

theorem Shaped.asAnnounced {name : Option String} {k : Key} (hname : Key.read name = .ok k)
    {level : Int} {n : Nat} {chords : List String}
    (h : Shaped (Functions.ofMode k.mode) level n chords) :
    ∀ c ∈ chords, Resolution.AsAnnounced name c := by
  intro c hc
  exact Resolution.asAnnounced_numerals hname (Functions.vocabulary_subset _ _ (h.allowed hc))

section
variable {name : String} {k : Key} (hname : Key.read (some name) = .ok k) (measures complexity : Int)
include hname

theorem yields_asAnnounced : Yields (inKey {} (.name (some name)) measures (.int complexity))
    fun chords => ∀ c ∈ chords, Resolution.AsAnnounced (some name) c := by
  have get : KeySource.get (.name (some name)) = .ok k := hname
  have fits : Odds.Fits {} (levelOf complexity) := trivial
  exact (yields_inKey get (.inr fits)).mono fun _ shaped => shaped.asAnnounced hname

theorem yields_progressionLines (resolve : Bool) :
    Yields (Command.progressionLines name measures complexity resolve) fun _ => True := by
  refine (yields_asAnnounced hname measures complexity).bind fun chords announced => ?_
  have hsymbols : ∃ ls, Command.symbols name chords = .ok ls := by
    apply exists_mapM_eq_ok
    intro c hc
    obtain ⟨r, -, hresult, -⟩ := announced c hc
    exact ⟨r.voicing.symbol, by rw [hresult]; rfl⟩
  obtain ⟨ls, hls⟩ := hsymbols
  split_ifs
  · exact (yields_lift hls (P := fun _ => True) trivial).bind fun _ _ => yields_pure trivial
  · exact yields_pure trivial

end

/-- Every progression made for a key resolves in it, numeral by numeral, to chords of the
qualities that the spellings announce, so that asking for the chords never fails, whatever the
seed is that the draws come from. A negative seed gives no draws. -/
theorem progression_announced {name : String} {k : Key} (hname : Key.read (some name) = .ok k)
    (measures complexity : Int) :
    Yields (inKey {} (.name (some name)) measures (.int complexity))
        (fun chords => ∀ c ∈ chords, Resolution.AsAnnounced (some name) c) ∧
      (∀ o s chords, (run (inKey o (.name (some name)) measures (.int complexity)) s).1 =
        .ok chords → ∀ c ∈ chords, Resolution.AsAnnounced (some name) c) ∧
      ∀ seed : Option Int, (∀ n ∈ seed, 0 ≤ n) → ∀ stream,
        (Command.Outcome.ofResult ((Command.Request.progression name measures complexity seed
          true).seeded stream)).exit = 0 := by
  refine ⟨yields_asAnnounced hname measures complexity, ?_, ?_⟩
  · intro o s chords hrun
    have get : KeySource.get (.name (some name)) = .ok k := hname
    exact (shaped_of_run get hrun).asAnnounced hname
  · intro seed nonneg stream
    obtain ⟨s, hs⟩ := Draws.exists_seeded nonneg stream
    obtain ⟨ls, t, hrun, -⟩ := yields_progressionLines hname measures complexity true s
    have hlines : (Command.Request.progression name measures complexity seed true).seeded stream =
        .ok ls := by
      rw [Command.Request.seeded, Command.Request.seed?, hs]
      exact congrArg Prod.fst hrun
    rw [hlines]
    rfl

theorem progression_announced_bFlatMinor :
    Yields (inKey {} (.name (some "Bbm")) 16 (.int 9))
        (fun chords => ∀ c ∈ chords, Resolution.AsAnnounced (some "Bbm") c) ∧
      (∀ o s chords, (run (inKey o (.name (some "Bbm")) 16 (.int 9)) s).1 = .ok chords →
        ∀ c ∈ chords, Resolution.AsAnnounced (some "Bbm") c) ∧
      ∀ stream, (Command.Outcome.ofResult ((Command.Request.progression "Bbm" 16 9 (some 7)
        true).seeded stream)).exit = 0 := by
  have hname : Key.read (some "Bbm") = .ok (Key.onRoot ⟨.b, -1⟩ .minor) := rfl
  obtain ⟨announced, any, never⟩ := progression_announced hname 16 9
  exact ⟨announced, any, never (some 7) (by simp)⟩

end Progression
end Tonality
