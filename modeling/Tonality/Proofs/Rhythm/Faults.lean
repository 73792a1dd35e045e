import Tonality.Proofs.Rhythm.Measures

/-!
Faults of meters and complexities. Whatever is handed in as a meter is either a supported
meter or refused as one, and a measure asked for with it is made or refused for its meter or
its complexity, as long as every number can be turned into text or back: an integer is not
written out, and a field not read, beyond 4300 digits. Past that limit the fault is one of
conversion, which no report of a meter or a complexity speaks of.
-/

namespace Tonality

variable {α β : Type} {c : Prop} {kinds kinds' : List Kind} {P : α → Prop} {Q : β → Prop}

/-- A value with the property or a fault of the kinds, exactly when the condition holds, and a
fault of conversion otherwise. -/
structure Reports (c : Prop) (kinds : List Kind) (P : α → Prop) (x : Except Error α) : Prop where
  documented : c → Within kinds P x
  foreign : ¬c → ∃ e, x = .error e ∧ e.kind = .badValue

namespace Reports

/-- A fault that is passed on stays what it is. -/
theorem error {e : Error} (h : Reports c kinds P (.error e)) (subset : kinds ⊆ kinds') :
    Reports c kinds' Q (.error e) where
  documented hc := subset (h.documented hc)
  foreign hc := by
    obtain ⟨e', he, hkind⟩ := h.foreign hc
    exact ⟨e, rfl, by rwa [Except.error.inj he]⟩

theorem ok {a : α} {b : β} (h : Reports c kinds P (.ok a)) (hb : Q b) :
    Reports c kinds' Q (.ok b) where
  documented _ := hb
  foreign hc := nomatch h.foreign hc

end Reports

namespace Value

variable {v : Value}

theorem reports_refuse {fault : Error} (h : fault.kind ∈ kinds) :
    Reports (v.isWritable = true) kinds P (v.refuse fault) where
  documented writable := by
    rw [refuse, writable]
    exact h
  foreign long := by
    rw [refuse, if_neg long]
    exact ⟨_, rfl, rfl⟩

/-- A measure can be asked for at this complexity. -/
def IsLevel (v : Value) : Prop := ∃ n : Int, v = .num (.int n) ∧ 1 ≤ n ∧ n ≤ 10

theorem IsLevel.isWritable (h : v.IsLevel) : v.isWritable = true := by
  obtain ⟨n, rfl, low, high⟩ := h
  have hpow : 10 ^ 2 ≤ 10 ^ Text.digitLimit := Nat.pow_le_pow_right (by decide) (by decide)
  rw [Value.isWritable, Text.isWritable_iff]
  omega

end Value

namespace Meter

def Supported (m : Meter) : Prop := ∃ p ∈ supported, m = ⟨p.1, p.2⟩

/-- A text is read, or any other value written out, within the limit on digits. -/
def Convertible : Value → Prop
  | .str s => Short s.toList
  | v => v.isWritable = true

theorem reports_read (s : String) : Reports (Short s.toList) [.meter] Supported (read s) where
  documented short := by
    by_cases h : ∃ m, Notates s.toList m
    · obtain ⟨m, notates⟩ := h
      rw [read_of_notates short notates]
      obtain ⟨beats, unit, -, hmem, rfl⟩ := notates
      exact ⟨_, hmem, rfl⟩
    · obtain ⟨e, he, hkind⟩ := read_of_not_notates short h
      rw [he]
      exact List.mem_singleton.mpr hkind
  foreign long := by
    exact ⟨_, read_of_long long, rfl⟩

theorem reports_ofValue (v : Value) :
    Reports (Convertible v) [.meter] Supported (ofValue v) := by
  cases v with
  | str s => exact reports_read s
  | _ => exact Value.reports_refuse (List.mem_singleton.mpr rfl)

theorem ofValue_ok {v : Value} {m : Meter} (h : ofValue v = .ok m) :
    ∃ s, v = .str s ∧ read s = .ok m := by
  unfold ofValue at h
  split at h
  · exact ⟨_, rfl, h⟩
  · cases h

end Meter

namespace Rhythm
open Gen

theorem exists_levelOf {complexity : Value} (h : complexity.IsLevel) :
    ∃ level, levelOf complexity = .ok level := by
  obtain ⟨n, rfl, low, high⟩ := h
  exact ⟨n.toNat, levelOf_int low high⟩

theorem levelOf_of_not_isLevel {complexity : Value} (h : ¬complexity.IsLevel) :
    levelOf complexity = complexity.refuse (.complexityOutside complexity.text) := by
  unfold levelOf
  split
  · rename_i n
    exact if_neg fun hn => h ⟨n, rfl, hn⟩
  · rfl

section
variable {source : MeterSource} {complexity : Value} {e : Error} (s : Draws)

theorem run_measure_of_not_isLevel (h : ¬complexity.IsLevel) :
    (run (measure source complexity) s).1 =
      complexity.refuse (.complexityOutside complexity.text) := by
  have hlevel := levelOf_of_not_isLevel h
  rw [measure, run_bind, run_lift, hlevel]
  rfl

theorem run_measure_of_error (level : complexity.IsLevel) (h : source.get = .error e) :
    (run (measure source complexity) s).1 = .error e := by
  obtain ⟨n, hn⟩ := exists_levelOf level
  simp only [measure, run_bind, run_lift, hn, h]

theorem run_measure_of_read {text : String} {m : Meter} (level : complexity.IsLevel)
    (h : Meter.read text = .ok m) :
    ∃ es, (run (measure (.value (.str text)) complexity) s).1 = .ok es ∧ m.FilledBy es := by
  obtain ⟨n, rfl, low, high⟩ := level
  have get : (MeterSource.value (.str text)).get = .ok m := h
  obtain ⟨es, t, hrun, filled⟩ := yields_measure get low high (playable_of_read h n.toNat) s
  exact ⟨es, by rw [hrun], filled⟩

end

/-- A value handed in as a meter is a supported meter or is refused as one, and a measure asked
for with it is made or refused for its meter or its complexity, exactly when the limit on digits
is not passed. The meter is looked at only after the complexity has been found right. The stack
that it takes to write out a nested value is taken for granted. -/
theorem faults_reported (v complexity : Value) (s : Draws) :
    Reports (Meter.Convertible v) [.meter] Meter.Supported (Meter.ofValue v) ∧
      Reports (complexity.isWritable = true ∧ (complexity.IsLevel → Meter.Convertible v))
        [.input, .meter] (fun es => ∃ m, Meter.ofValue v = .ok m ∧ m.FilledBy es)
        (run (measure (.value v) complexity) s).1 := by
  have meter := Meter.reports_ofValue v
  refine ⟨meter, ?_⟩
  by_cases level : complexity.IsLevel
  · rw [and_iff_right level.isWritable, imp_iff_right level]
    cases h : Meter.ofValue v with
    | error e =>
      have get : (MeterSource.value v).get = .error e := h
      rw [run_measure_of_error s level get]
      exact (h ▸ meter).error (List.subset_cons_self _ _)
    | ok m =>
      obtain ⟨text, rfl, hread⟩ := Meter.ofValue_ok h
      obtain ⟨es, hes, filled⟩ := run_measure_of_read s level hread
      rw [hes]
      exact (h ▸ meter).ok ⟨m, rfl, filled⟩
  · rw [and_iff_left fun h => absurd h level, run_measure_of_not_isLevel s level]
    exact Value.reports_refuse List.mem_cons_self

/-- Four in the unit and one digit too many in the beats. -/
def longText : String := String.ofList (List.replicate 4301 '1' ++ ['/', '4'])

theorem not_short_longText : ¬Meter.Short longText.toList := by
  have blank : Text.Blank [] := List.forall_mem_nil _
  have number : Text.Digits (List.replicate 4301 '1') := by
    refine ⟨List.cons_ne_nil _ _, fun c hc => ?_⟩
    rw [List.eq_of_mem_replicate hc]
    rfl
  have unit : Text.Digits ['4'] :=
    ⟨List.cons_ne_nil _ _, List.forall_mem_singleton.mpr rfl⟩
  have spells := Meter.Spells.intro blank number blank blank unit blank
  have htext : longText.toList =
      [] ++ (List.replicate 4301 '1' ++ ([] ++ '/' :: ([] ++ (['4'] ++ [])))) :=
    String.toList_ofList
  intro short
  have hlength := (short _ _ (htext ▸ spells)).1
  rw [List.length_replicate] at hlength
  exact absurd hlength (by decide)

/-- A field that is too long is reported neither as a meter nor as an input. -/
theorem longText_unreported :
    ¬Within [.meter] Meter.Supported (Meter.ofValue (.str longText)) ∧
      ¬Within [.input, .meter] (fun _ => True)
        (run (measure (.value (.str longText)) (.num (.int 5))) (Draws.cycle [])).1 := by
  have level : (Value.num (.int 5)).IsLevel := ⟨5, rfl, by decide, by decide⟩
  obtain ⟨e, he, hkind⟩ := (Meter.reports_ofValue (.str longText)).foreign not_short_longText
  have get : (MeterSource.value (.str longText)).get = .error e := he
  have hrun := run_measure_of_error (Draws.cycle []) level get
  constructor
  · rw [he, Within, hkind]
    decide
  · rw [hrun, Within, hkind]
    decide

end Rhythm
end Tonality
