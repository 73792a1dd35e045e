import Tonality.Proofs.Harmony.Resolution

/-!
Numerals over a target. The target takes the place of the key, so the root of the
numeral's degree lies two degrees and two signs away from the home tonic among the
fifths. It stays within three signs unless the signs of target and numeral add up,
or the home tonic is as far up as a key with a name can have it.
-/

namespace Tonality

namespace Resolution

/-- Numeral and target do not shift the same way, nor upward from the sharpest key. -/
def Apart (home : Key) (t : Target) (n : Numeral) : Prop :=
  (t.sign = none ∨ t.sign ≠ n.base.sign) ∧
    (home.tonic ≠ "A#" ∨ t.sign ≠ some .sharp ∧ n.base.sign ≠ some .sharp)

theorem spellable_targetRoot {home : Root} (canonical : home.Canonical) (mode : Mode) {t : Target}
    {n : Numeral} (apart : t.sign = none ∨ t.sign ≠ n.base.sign)
    (near : home ≠ ⟨.a, 1⟩ ∨ t.sign ≠ some .sharp ∧ n.base.sign ≠ some .sharp) :
    n.Spellable (Key.chordOn (Key.targetRoot home mode t) (Key.targetMode t)
      n.base.degree.index) := by
  obtain ⟨hlow, hhigh⟩ := canonical.fifths_bounds
  have hnine : home.fifths ≤ 9 ∨ t.sign ≠ some .sharp ∧ n.base.sign ≠ some .sharp :=
    near.imp_left canonical.fifths_le
  obtain ⟨hdown, hup⟩ := Key.fifths_stackOn mode t.degree.index
  obtain ⟨hdown', hup'⟩ := Key.fifths_stackOn (Key.targetMode t) n.base.degree.index
  have hshift := Sign.shift_natAbs t.sign
  have htarget := Key.fifths_targetRoot canonical mode t
  rw [Target.shift] at htarget
  have hroot := Key.fifths_chordOn (r := Key.targetRoot home mode t) (by omega) (by omega)
    (Key.targetMode t) n.base.degree.index
  unfold Numeral.Spellable
  rw [Root.alter_le_iff, Root.alter_le_iff, Root.fifths_shift, hroot, htarget, Base.shift]
  generalize t.sign = s at apart hnine ⊢
  generalize n.base.sign = s' at apart hnine ⊢
  -- three signs reach from 22 fifths below C to 26 above
  rcases s with _ | _ | _ <;> rcases s' with _ | _ | _ <;>
    simp [Sign.shift] at apart hnine ⊢ <;> omega

section
variable {text target : String} {name : Option String} {n : Numeral} {t : Target}
  (slashless : '/' ∉ text.toList) (hn : Numeral.read (some text) = .ok n)
  (ht : Target.readChars? target.toList = some t)
include slashless hn ht

theorem ofTexts_related {r : Root} {mode : Mode} (canonical : r.Canonical)
    (hhome : Key.read name = .ok (Key.onRoot r mode)) :
    ofTexts (some (text ++ "/" ++ target)) name =
      inKeys (Key.onRoot r mode) (Key.onRoot (Key.targetRoot r mode t) (Key.targetMode t))
        (some (text ++ "/" ++ target)) { n with secondary := some t.text } := by
  have hread := Numeral.read_relation slashless hn ht
  have hkey := Key.tonicized_onRoot canonical mode t.readChars?_text
  rw [ofTexts_of_some hread hhome rfl, hkey]
  rfl

/-- A numeral over a target resolves in a key with a name exactly when the root of its degree
in the target's key has three signs at most, both as it is and after the numeral's own sign;
otherwise the symbol of the chord is refused. It does so wherever numeral and target are apart. -/
theorem related_resolves_iff {home : Key} (hhome : Key.read name = .ok home) :
    ∃ (k : Key) (c : Chord), Key.tonicized (some home) target = .ok k ∧
      k.diatonic n.base.degree.index.val n.written = .ok c.symbol ∧
      ((∃ r, ofTexts (some (text ++ "/" ++ target)) name = .ok r) ↔
        c.root.alter.natAbs ≤ 3 ∧ (c.root.shift n.base.shift).alter.natAbs ≤ 3) ∧
      ((¬∃ r, ofTexts (some (text ++ "/" ++ target)) name = .ok r) →
        ∃ symbol, ofTexts (some (text ++ "/" ++ target)) name = .error (.unknownChord symbol)) ∧
      (Apart home t n → ∃ r, ofTexts (some (text ++ "/" ++ target)) name = .ok r) := by
  obtain ⟨r, mode, rfl, canonical, tonal⟩ := Key.read_ok hhome
  have plain := Numeral.plain_of_read slashless hn
  have hread := Numeral.read_relation slashless hn ht
  have hrelated := ofTexts_related slashless hn ht canonical hhome
  have hresolves (h : n.Spellable (Key.chordOn (Key.targetRoot r mode t) (Key.targetMode t)
      n.base.degree.index)) : ∃ res, ofTexts (some (text ++ "/" ++ target)) name = .ok res := by
    obtain ⟨m, b, -, hm⟩ := inKeys_of_figure tonal hread canonical h plain.figured.bass_mem
    exact ⟨_, hrelated.trans hm⟩
  have hrefused (h : ¬n.Spellable (Key.chordOn (Key.targetRoot r mode t) (Key.targetMode t)
      n.base.degree.index)) :
      ∃ symbol, ofTexts (some (text ++ "/" ++ target)) name = .error (.unknownChord symbol) := by
    rw [hrelated]
    exact inKeys_of_not_spellable tonal hread h
  refine ⟨_, Key.chordOn (Key.targetRoot r mode t) (Key.targetMode t) n.base.degree.index,
    Key.tonicized_onRoot canonical mode ht, Key.diatonic_onRoot _ _ _ _, ⟨?_, hresolves⟩, ?_, ?_⟩
  · rintro ⟨res, hres⟩
    by_contra h
    obtain ⟨symbol, hsymbol⟩ := hrefused h
    rw [hres] at hsymbol
    cases hsymbol
  · intro hnone
    exact hrefused fun h => hnone (hresolves h)
  · rintro ⟨apart, near⟩
    apply hresolves
    apply spellable_targetRoot canonical mode apart
    refine near.imp_left fun htonic hroot => htonic ?_
    rw [Key.tonic_onRoot, hroot]
    decide

end

theorem related_resolves_bMajor :
    ∃ r, ofTexts (some ("#iv°7" ++ "/" ++ "V")) (some "B") = .ok r := by
  have hread : Numeral.read (some "#iv°7") =
      .ok ⟨"#iv°7", ⟨some .sharp, ⟨3, false⟩, some .degree, true, none⟩, "1", none, none⟩ := rfl
  have htarget : Target.readChars? "V".toList = some ⟨none, ⟨4, true⟩⟩ := by decide
  have hhome : Key.read (some "B") = .ok (Key.onRoot ⟨.b, 0⟩ .major) := rfl
  have apart : Apart (Key.onRoot ⟨.b, 0⟩ .major) ⟨none, ⟨4, true⟩⟩
      ⟨"#iv°7", ⟨some .sharp, ⟨3, false⟩, some .degree, true, none⟩, "1", none, none⟩ :=
    ⟨.inl rfl, .inl (by decide)⟩
  obtain ⟨-, -, -, -, -, -, h⟩ := related_resolves_iff (by decide) hread htarget hhome
  exact h apart

/-- The raised leading tone of the sharpest key has a leading tone of its own with four sharps. -/
theorem sharp_over_sharp_refused :
    (∃ n, Numeral.read (some "vii") = .ok n) ∧ '/' ∉ "vii".toList ∧
      (Target.readChars? "#VII".toList).isSome = true ∧
      (∃ home, Key.read (some "A#") = .ok home) ∧
      ofTexts (some ("vii" ++ "/" ++ "#VII")) (some "A#") =
        .error (.unknownChord "F####dim") :=
  ⟨⟨_, rfl⟩, by decide, by decide, ⟨_, rfl⟩, rfl⟩

end Resolution
end Tonality
