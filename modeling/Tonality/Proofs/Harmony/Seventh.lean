import Tonality.Proofs.Harmony.Modification

/-!
Sevenths that numerals ask for. Over any key a numeral turns a triad into the triad it asks
for, and a wanted seventh is added to that triad alone: the standard chord where there is one
with that seventh, and otherwise the usual chord of the triad, which is put on record. The
triad on the degree never serves in its place. Only a key that has no plain seventh on the
degree can stand in the way.
-/

namespace Tonality

theorem Quality.triad_of_not_isSeventh (q : Quality) : q.isSeventh = false → q.triad = q := by
  cases q <;> decide

namespace Numeral

/-- The seventh that is wanted over a degree of a key, one that the quality word fixes or else
the plain one. -/
inductive Asks (n : Numeral) (k : Key) (degree : Fin 7) : Interval → Prop
  | fixed {t : Token} {s : Interval} (wanted : n.wantsSeventh = true)
    (token : n.base.token = some t) (seventh : t.seventh? = some s) : Asks n k degree s
  | plain {q : Quality} {s : Interval} (wanted : n.wantsSeventh = true)
    (free : n.base.token.bind Token.seventh? = none)
    (given : k.plainSeventh degree.val = .ok q) (seventh : q.seventh? = some s) : Asks n k degree s

/-- What becomes of the triad that a numeral asks for. -/
inductive Completes (n : Numeral) (k : Key) (degree : Fin 7) (roman : String) (t : Chord) :
    Except Error Modified → Prop
  | triad (unwanted : n.wantsSeventh = false) : Completes n k degree roman t (.ok ⟨t, []⟩)
  | standard {s : Interval} {q : Quality} (asks : n.Asks k degree s)
    (given : Quality.standardSeventh? t.quality s = some q) :
    Completes n k degree roman t (.ok ⟨t.recast q, []⟩)
  | usual {s : Interval} {q : Quality} (asks : n.Asks k degree s)
    (missing : Quality.standardSeventh? t.quality s = none)
    (given : Quality.usualSeventh? t.quality = some q) :
    Completes n k degree roman t
      (.ok ⟨t.recast q, [⟨roman, k.name, "nearest standard seventh", (t.recast q).symbol⟩]⟩)
  | refused {e : Error} (wanted : n.wantsSeventh = true)
    (free : n.base.token.bind Token.seventh? = none)
    (missing : k.plainSeventh degree.val = .error e) : Completes n k degree roman t (.error e)

section
variable {n : Numeral} {k : Key} {degree : Fin 7}

theorem Asks.wanted {s : Interval} (h : n.Asks k degree s) : n.wantsSeventh = true := by
  cases h with
  | fixed wanted _ _ => exact wanted
  | plain wanted _ _ _ => exact wanted

theorem seventh?_of_unwanted (h : n.wantsSeventh = false) :
    n.seventh? k degree.val = .ok none := by
  rw [seventh?, ← wantsSeventh, h]
  rfl

theorem Asks.seventh?_eq {s : Interval} (h : n.Asks k degree s) :
    n.seventh? k degree.val = .ok (some s) := by
  rw [seventh?, ← wantsSeventh]
  cases h with
  | fixed wanted token seventh =>
    rw [if_pos wanted, token, Option.bind_some, seventh]
    rfl
  | plain wanted free given seventh =>
    rw [if_pos wanted, free]
    simp only [given, bind, Except.bind, seventh]
    rfl

theorem seventh?_of_error {e : Error} (wanted : n.wantsSeventh = true)
    (free : n.base.token.bind Token.seventh? = none) (h : k.plainSeventh degree.val = .error e) :
    n.seventh? k degree.val = .error e := by
  rw [seventh?, ← wantsSeventh, if_pos wanted, free]
  simp only [h, bind, Except.bind]

end

end Numeral

namespace Key

/-- How a key reports that it has no plain seventh on a degree. -/
def Lacking (e : Error) : Prop :=
  e.kind = .theory ∧ ∀ numeral chord, e ≠ .noSeventhChord numeral chord

theorem diatonic_cases (k : Key) (degree : Fin 7) (numeral : String) :
    (∃ symbol, k.diatonic degree.val numeral = .ok symbol) ∨
      ∃ e, k.diatonic degree.val numeral = .error e ∧ Lacking e := by
  rw [diatonic, if_neg (degree_inside degree)]
  dsimp only
  split
  · exact .inl ⟨_, rfl⟩
  · exact .inr ⟨_, rfl, rfl, fun _ _ => nofun⟩

theorem exists_majorSeventh (degree : Fin 7) :
    ∃ q s, majorSeventh? degree.val = some q ∧ q.seventh? = some s := by
  fin_cases degree <;> exact ⟨_, _, rfl, rfl⟩

theorem exists_seventh_of_table {raised : Bool} {triad q : Quality}
    (h : (if raised then harmonicSeventh? else naturalSeventh?) triad = some q) :
    ∃ s, q.seventh? = some s := by
  cases raised <;> cases triad <;> cases h <;> exact ⟨_, rfl⟩

theorem plainSeventh_cases (k : Key) (degree : Fin 7) :
    (∃ q s, k.plainSeventh degree.val = .ok q ∧ q.seventh? = some s) ∨
      ∃ e, k.plainSeventh degree.val = .error e ∧ Lacking e := by
  unfold plainSeventh
  by_cases major : k.mode = .major
  · obtain ⟨q, s, hq, hs⟩ := exists_majorSeventh degree
    rw [if_pos major, hq]
    exact .inl ⟨q, s, rfl, hs⟩
  · rw [if_neg major]
    rcases k.diatonic_cases degree "" with ⟨symbol, hsymbol⟩ | ⟨e, he, lacking⟩
    · simp only [hsymbol, bind, Except.bind]
      cases hread : Chord.read (some symbol) with
      | error e =>
        obtain rfl := Chord.read_eq_error hread
        exact .inr ⟨_, rfl, rfl, fun _ _ => nofun⟩
      | ok c =>
        dsimp only
        split
        · rename_i q hq
          obtain ⟨s, hs⟩ := exists_seventh_of_table hq
          exact .inl ⟨q, s, rfl, hs⟩
        · exact .inr ⟨_, rfl, rfl, fun _ _ => nofun⟩
    · simp only [he, bind, Except.bind]
      exact .inr ⟨e, rfl, lacking⟩

theorem lacking_of_error {k : Key} {degree : Fin 7} {e : Error}
    (h : k.plainSeventh degree.val = .error e) : Lacking e := by
  rcases k.plainSeventh_cases degree with ⟨q, s, hq, -⟩ | ⟨e', he, lacking⟩
  · rw [hq] at h
    cases h
  · rwa [Except.error.inj (h.symm.trans he)]

section
variable {n : Numeral} {k : Key} {degree : Fin 7} {roman : String}

theorem modifyChord_of_completes {c : Chord} {x : Except Error Modified}
    (triad : (n.modified c).quality.triad = (n.modified c).quality)
    (h : n.Completes k degree roman (n.modified c) x) :
    k.modifyChord c roman n degree.val = x := by
  cases h with
  | triad unwanted => exact modifyChord_eq (Numeral.seventh?_of_unwanted unwanted) c roman
  | standard asks given =>
    rw [modifyChord_eq asks.seventh?_eq]
    simp only [Chord.completed, Quality.withSeventh, triad, given, Option.getD_some,
      Option.isSome_some, if_true]
  | usual asks missing given =>
    rw [modifyChord_eq asks.seventh?_eq]
    simp only [Chord.completed, Quality.withSeventh, triad, missing, given, Option.getD_none,
      Option.getD_some, Option.isSome_none, Bool.false_eq_true, if_false]
  | refused wanted free missing =>
    exact modifyChord_error (Numeral.seventh?_of_error wanted free missing) c roman

theorem exists_completes {t : Chord} (triad : t.quality.triad = t.quality) :
    ∃ x, n.Completes k degree roman t x := by
  have hasks {s : Interval} (asks : n.Asks k degree s) : ∃ x, n.Completes k degree roman t x := by
    obtain ⟨q, hq, -, -⟩ := t.quality.exists_usualSeventh
    rw [triad] at hq
    cases hstandard : Quality.standardSeventh? t.quality s with
    | some q' => exact ⟨_, .standard asks hstandard⟩
    | none => exact ⟨_, .usual asks hstandard hq⟩
  cases wanted : n.wantsSeventh with
  | false => exact ⟨_, .triad wanted⟩
  | true =>
    cases free : n.base.token.bind Token.seventh? with
    | some s =>
      obtain ⟨t, htoken, hs⟩ := Option.bind_eq_some_iff.mp free
      exact hasks (.fixed wanted htoken hs)
    | none =>
      rcases k.plainSeventh_cases degree with ⟨q, s, hq, hs⟩ | ⟨e, he, -⟩
      · exact hasks (.plain wanted free hq hs)
      · exact ⟨_, .refused wanted free he⟩

theorem completed_shape {t : Chord} (triad : t.quality.triad = t.quality) {m : Modified}
    (h : n.Completes k degree roman t (.ok m)) :
    m.chord.root = t.root ∧ m.chord.quality.triad = t.quality ∧
      m.chord.quality.isSeventh = n.wantsSeventh := by
  cases h with
  | triad unwanted => exact ⟨rfl, triad, by rw [Quality.isSeventh_of_triad triad, unwanted]⟩
  | standard asks given =>
    obtain ⟨hkept, hseventh⟩ := Quality.standardSeventh?_eq given
    exact ⟨rfl, hkept, hseventh.trans asks.wanted.symm⟩
  | usual asks missing given =>
    obtain ⟨q, hq, hkept, hseventh⟩ := t.quality.exists_usualSeventh
    rw [triad] at hq hkept
    obtain rfl := Option.some.inj (hq.symm.trans given)
    exact ⟨rfl, hkept, hseventh.trans asks.wanted.symm⟩

end

/-- Over any key a numeral completes the triad that it asks for, and fails only where it needs a
plain seventh that the key does not have on the degree. -/
theorem modify_completes {symbol roman : Option String} {c : Chord} {n : Numeral}
    (hc : Chord.read symbol = .ok c) (plain : c.quality.isSeventh = false)
    (hn : Numeral.read roman = .ok n) (k : Key) (degree : Fin 7) :
    let t := n.modified c
    let result := modify (some k) symbol roman degree.val
    (∀ x, result = x ↔ n.Completes k degree (Text.shown roman) t x) ∧
    (∀ m, result = .ok m → m.chord.root = t.root ∧ m.chord.quality.triad = t.quality ∧
      m.chord.quality.isSeventh = n.wantsSeventh) ∧
    ∀ e, result = .error e → Lacking e := by
  intro t result
  have triad : t.quality.triad = t.quality :=
    n.triad_triadOver (c.quality.triad_of_not_isSeventh plain)
  have complete (x : Except Error Modified) (h : n.Completes k degree (Text.shown roman) t x) :
      result = x := (modify_eq hc hn k degree).trans (modifyChord_of_completes triad h)
  have completes : n.Completes k degree (Text.shown roman) t result := by
    obtain ⟨x, h⟩ := exists_completes triad
    rwa [complete x h]
  refine ⟨fun x => ⟨fun h => h ▸ completes, complete x⟩, fun m h => ?_, fun e h => ?_⟩
  · rw [h] at completes
    exact completed_shape triad completes
  · rw [h] at completes
    cases completes with
    | refused wanted free missing => exact lacking_of_error missing

/-- A suspended chord takes the usual seventh where the key, which has no chords at all, means a
major one. -/
theorem modify_completes_suspended :
    modify (some { tonic := "C", mode := .major, scale := [], chords := [] }) (some "F")
        (some "#IVsus65/V") 3 =
      .ok ⟨⟨⟨.f, 1⟩, .suspendedSeventh⟩,
        [⟨"#IVsus65/V", "C major", "nearest standard seventh", "F#7sus4"⟩]⟩ := by
  have hc : Chord.read (some "F") = .ok ⟨⟨.f, 0⟩, .major⟩ := rfl
  have hn : Numeral.read (some "#IVsus65/V") = .ok
      ⟨"#IVsus", ⟨some .sharp, ⟨3, true⟩, some .sus, false, none⟩, "3", some "65", some "V"⟩ := rfl
  have key := modify_completes hc rfl hn { tonic := "C", mode := .major, scale := [], chords := [] } 3
  exact (key.1 _).mpr (.usual (.plain rfl rfl rfl rfl) rfl rfl)

end Key
end Tonality
