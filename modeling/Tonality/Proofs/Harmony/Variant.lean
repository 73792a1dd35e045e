import Tonality.Harmony.Tonicization
import Tonality.Proofs.Harmony.Seventh

/-!
The forms of a minor key. Every degree of a minor key takes its chord from one form of the scale.
Besides the tonic and the mode, only the chords of that form have a say in the chord on the degree,
in its plain seventh, in the key that stands on it and in what a numeral makes of a chord there.
Where the form is missing or has no chord for the degree, none of the other chords stands in for it
and the fault is one of theory.
-/

namespace Tonality.Key

/-- The form of a minor key that a degree takes its chord from. -/
def form? (k : Key) (degree : Fin 7) : Option Variant :=
  if degree = 4 ∨ degree = 6 then k.harmonic else k.natural

def formName (degree : Fin 7) : String :=
  if degree = 4 ∨ degree = 6 then "Harmonic minor" else "Natural minor"

/-- Two minor keys with the same tonic and the same chords in the form of a degree, whatever else
they hold. -/
structure AgreeOn (degree : Fin 7) (k k' : Key) : Prop where
  tonic : k.tonic = k'.tonic
  minor : k.mode = .minor
  minor' : k'.mode = .minor
  chords : (k.form? degree).map Variant.chords = (k'.form? degree).map Variant.chords

/-- The form of the degree is missing, or it has no chord for the degree. -/
def Missing (k : Key) (degree : Fin 7) : Prop :=
  ∀ form, k.form? degree = some form → form.chords.length ≤ degree.val

/-- Refused for a fault of theory. -/
def Refused {α : Type} (x : Except Error α) : Prop := ∃ e, x = .error e ∧ e.kind = .theory

theorem source_minor {k : Key} (minor : k.mode = .minor) (degree : Fin 7) :
    k.source degree.val = (((k.form? degree).map Variant.chords).getD [], formName degree) := by
  have hmode : ¬k.mode = .major := by rw [minor]; nofun
  rw [source, if_neg hmode]
  fin_cases degree <;> rfl

section
variable {degree : Fin 7} {k k' : Key} (h : AgreeOn degree k k')
include h

theorem AgreeOn.source_eq : k.source degree.val = k'.source degree.val := by
  rw [source_minor h.minor, source_minor h.minor', h.chords]

theorem AgreeOn.mode_eq : k.mode = k'.mode := h.minor.trans h.minor'.symm

theorem AgreeOn.name_eq : k.name = k'.name := by
  rw [name, name, h.tonic, h.mode_eq]

theorem AgreeOn.diatonic_eq (numeral : String) :
    k.diatonic degree.val numeral = k'.diatonic degree.val numeral := by
  rw [diatonic, diatonic, h.source_eq, h.name_eq]

theorem AgreeOn.plainSeventh_eq : k.plainSeventh degree.val = k'.plainSeventh degree.val := by
  rw [plainSeventh, plainSeventh, h.mode_eq, h.diatonic_eq, h.name_eq]

theorem AgreeOn.tonicized_eq {target : String} {t : Target}
    (ht : Target.readChars? target.toList = some t) (hdegree : t.degree.index = degree) :
    tonicized (some k) target = tonicized (some k') target := by
  subst hdegree
  simp only [tonicized, ht, diatonic?, h.diatonic_eq]

theorem AgreeOn.seventh?_eq (n : Numeral) : n.seventh? k degree.val = n.seventh? k' degree.val := by
  rw [Numeral.seventh?, Numeral.seventh?, h.plainSeventh_eq]

theorem AgreeOn.modify_eq (symbol roman : Option String) :
    modify (some k) symbol roman degree.val = modify (some k') symbol roman degree.val := by
  simp only [modify, modifyChord, h.seventh?_eq, h.name_eq]

end

section
variable {degree : Fin 7} {k : Key} (minor : k.mode = .minor) (missing : k.Missing degree)
include minor missing

theorem diatonic_of_missing (numeral : String) :
    k.diatonic degree.val numeral =
      .error (.degreeNotFound degree.val numeral k.name (formName degree)) := by
  have hnone : (((k.form? degree).map Variant.chords).getD [])[degree.val]? = none := by
    rw [List.getElem?_eq_none_iff]
    cases hform : k.form? degree with
    | none => exact Nat.zero_le _
    | some form => exact missing form hform
  rw [diatonic, if_neg (degree_inside degree), source_minor minor]
  simp only [Int.toNat_natCast, hnone]
  rfl

theorem plainSeventh_of_missing :
    k.plainSeventh degree.val =
      .error (.degreeNotFound degree.val "" k.name (formName degree)) := by
  have hmode : ¬k.mode = .major := by rw [minor]; nofun
  rw [plainSeventh, if_neg hmode, diatonic_of_missing minor missing]
  rfl

theorem tonicized_of_missing {target : String} {t : Target}
    (ht : Target.readChars? target.toList = some t) (hdegree : t.degree.index = degree) :
    tonicized (some k) target =
      .error (.degreeNotFound degree.val target k.name (formName degree)) := by
  subst hdegree
  simp only [tonicized, ht, diatonic?, diatonic_of_missing minor missing, bind, Except.bind]

/-- The chord to start from may be refused first, and is refused as a fault of theory too. -/
theorem modify_of_missing {n : Numeral} {roman : Option String} (hn : Numeral.read roman = .ok n)
    (wanted : n.wantsSeventh = true) (free : n.base.token.bind Token.seventh? = none)
    (symbol : Option String) : Refused (modify (some k) symbol roman degree.val) := by
  cases hc : Chord.read symbol with
  | error e =>
    obtain rfl := Chord.read_eq_error hc
    exact ⟨_, modify_of_error hc k roman degree, rfl⟩
  | ok c =>
    have hseventh :=
      Numeral.seventh?_of_error wanted free (plainSeventh_of_missing minor missing)
    refine ⟨.degreeNotFound degree.val "" k.name (formName degree), ?_, rfl⟩
    rw [Key.modify_eq hc hn, modifyChord_error hseventh]

end

/-- A degree of a minor key asks one form for its chord and no other: keys that agree on the form
give the same results and the same faults, and a key without the form's chord refuses the degree,
and every numeral that needs its plain seventh. -/
theorem forms_stand_alone (degree : Fin 7) :
    (∀ k k', AgreeOn degree k k' →
      (∀ numeral, k.diatonic degree.val numeral = k'.diatonic degree.val numeral) ∧
      k.plainSeventh degree.val = k'.plainSeventh degree.val ∧
      (∀ target t, Target.readChars? target.toList = some t → t.degree.index = degree →
        tonicized (some k) target = tonicized (some k') target) ∧
      ∀ symbol roman,
        modify (some k) symbol roman degree.val = modify (some k') symbol roman degree.val) ∧
    ∀ k : Key, k.mode = .minor → k.Missing degree →
      (∀ numeral, Refused (k.diatonic degree.val numeral)) ∧
      Refused (k.plainSeventh degree.val) ∧
      (∀ target t, Target.readChars? target.toList = some t → t.degree.index = degree →
        Refused (tonicized (some k) target)) ∧
      ∀ symbol roman n, Numeral.read roman = .ok n → n.wantsSeventh = true →
        n.base.token.bind Token.seventh? = none →
        Refused (modify (some k) symbol roman degree.val) := by
  constructor
  · intro k k' h
    exact ⟨h.diatonic_eq, h.plainSeventh_eq, fun _ _ => h.tonicized_eq, h.modify_eq⟩
  · intro k minor missing
    refine ⟨fun numeral => ?_, ?_, fun target t ht hdegree => ?_,
      fun symbol roman n hn wanted free => ?_⟩
    · exact ⟨_, diatonic_of_missing minor missing numeral, rfl⟩
    · exact ⟨_, plainSeventh_of_missing minor missing, rfl⟩
    · exact ⟨_, tonicized_of_missing minor missing ht hdegree, rfl⟩
    · exact modify_of_missing minor missing hn wanted free symbol

/-- C minor with all chords on its own scale, of its forms only the harmonic one, and that one up to
its fifth degree. -/
def truncated : Key :=
  { tonic := "C", mode := .minor, scale := ["C", "D", "Eb", "F", "G", "Ab", "Bb"],
    chords := ["Cm", "Ddim", "EbM", "Fm", "Gm", "AbM", "BbM"],
    harmonic := some ⟨[], ["Cm", "Ddim", "Ebaug", "Fm", "GM"]⟩ }

/-- The fifth degree is found where the key has it, and the seventh is not taken from the chords
on the scale. -/
theorem forms_stand_alone_truncated :
    truncated.plainSeventh 4 = { truncated with scale := [], chords := [] }.plainSeventh 4 ∧
    Refused (truncated.diatonic 6 "vii") ∧ Refused (truncated.plainSeventh 6) ∧
    Refused (tonicized (some truncated) "VII") ∧
    Refused (modify (some truncated) (some "Bdim") (some "vii7") 6) := by
  have agree : AgreeOn 4 truncated { truncated with scale := [], chords := [] } :=
    ⟨rfl, rfl, rfl, rfl⟩
  have missing : truncated.Missing 6 := by
    intro form hform
    obtain rfl := Option.some.inj hform
    decide
  obtain ⟨-, hplain, -, -⟩ := (forms_stand_alone 4).1 _ _ agree
  obtain ⟨hdiatonic, hseventh, htarget, hmodify⟩ := (forms_stand_alone 6).2 truncated rfl missing
  exact ⟨hplain, hdiatonic "vii", hseventh, htarget "VII" ⟨none, ⟨6, true⟩⟩ (by decide) rfl,
    hmodify (some "Bdim") (some "vii7")
      ⟨"vii7", ⟨none, ⟨6, false⟩, none, true, none⟩, "1", none, none⟩ rfl (by decide) rfl⟩

end Tonality.Key
