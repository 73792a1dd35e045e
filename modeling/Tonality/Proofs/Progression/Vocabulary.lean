import Tonality.Proofs.Yield
import Tonality.Progression

/-!
The chords that a complexity allows. Whatever it is, tonic and subdominant are among
them, so some chord other than the last one can always follow, and one of those that can is
a target of the last one; and the cadence is the best dominant that the complexity allows,
which is one of them too.
-/

namespace Tonality

namespace Functions

theorem ofMode_eq (mode : Mode) : ofMode mode = ofMode .major ∨ ofMode mode = ofMode .minor := by
  cases mode with
  | major => exact .inl rfl
  | minor => exact .inr rfl
  | other name => exact .inr rfl

section
variable (mode : Mode) (complexity : Number)

/-- The vocabulary depends on four comparisons, and so do its tonic, subdominant, length and
cadence. -/
theorem vocabulary_ofMode :
    (ofMode mode).tonic ∈ (ofMode mode).vocabulary complexity ∧
      (ofMode mode).subdominant ∈ (ofMode mode).vocabulary complexity ∧
      ((ofMode mode).vocabulary complexity).length ≤ 7 ∧
      (ofMode mode).cadences.find? ((ofMode mode).vocabulary complexity).contains =
        some (if complexity.atLeast 4 then "V7" else "V") := by
  unfold vocabulary
  generalize complexity.atLeast 3 = secondary
  generalize complexity.atLeast 4 = seventh
  generalize complexity.atLeast 6 = colour
  generalize complexity.atLeast 8 = diminished
  rcases ofMode_eq mode with h | h <;> rw [h] <;>
    (revert secondary seventh colour diminished; decide)

theorem length_vocabulary_le : ((ofMode mode).vocabulary complexity).length ≤ 7 :=
  (vocabulary_ofMode mode complexity).2.2.1

end

theorem subdominant_ne_tonic (mode : Mode) : (ofMode mode).subdominant ≠ (ofMode mode).tonic := by
  rcases ofMode_eq mode with h | h <;> rw [h] <;> decide

end Functions

namespace Progression

/-- There are two chords to go between. -/
def Varied (allowed : List String) : Prop := ∃ a ∈ allowed, ∃ b ∈ allowed, a ≠ b

theorem varied_vocabulary (mode : Mode) (complexity : Number) :
    Varied ((Functions.ofMode mode).vocabulary complexity) := by
  obtain ⟨htonic, hsubdominant, -⟩ := Functions.vocabulary_ofMode mode complexity
  exact ⟨_, hsubdominant, _, htonic, Functions.subdominant_ne_tonic mode⟩

/-- The targets among the chords that may follow. -/
def targeted (f : Functions) (previous : String) (allowed : List String) : List String :=
  (candidates previous allowed).filter (f.targets previous allowed).contains

/-- A table of every chord against every complexity: targets name chords that may be missing at a
complexity or be there under another name, but never all of them. -/
theorem targeted_ne_nil (mode : Mode) (complexity : Number) :
    ∀ previous ∈ (Functions.ofMode mode).vocabulary complexity,
      targeted (Functions.ofMode mode) previous ((Functions.ofMode mode).vocabulary complexity) ≠
        [] := by
  unfold Functions.vocabulary
  generalize complexity.atLeast 3 = secondary
  generalize complexity.atLeast 4 = seventh
  generalize complexity.atLeast 6 = colour
  generalize complexity.atLeast 8 = diminished
  rcases Functions.ofMode_eq mode with h | h <;> rw [h] <;>
    (revert secondary seventh colour diminished; decide)

theorem cadence_vocabulary (mode : Mode) (complexity : Number) :
    cadence (Functions.ofMode mode) ((Functions.ofMode mode).vocabulary complexity) =
      if complexity.atLeast 4 then "V7" else "V" := by
  obtain ⟨-, -, -, hcadence⟩ := Functions.vocabulary_ofMode mode complexity
  rw [cadence, hcadence, Option.getD_some]

theorem cadence_mem (mode : Mode) (complexity : Number) :
    cadence (Functions.ofMode mode) ((Functions.ofMode mode).vocabulary complexity) ∈
      (Functions.ofMode mode).vocabulary complexity := by
  obtain ⟨-, -, -, hcadence⟩ := Functions.vocabulary_ofMode mode complexity
  rw [cadence, hcadence, Option.getD_some]
  simpa using List.find?_some hcadence

section
variable {allowed : List String} (varied : Varied allowed) (previous : String)
include varied

theorem mem_candidates (c : String) :
    c ∈ candidates previous allowed ↔ c ∈ allowed ∧ c ≠ previous := by
  have hlong : 1 < allowed.length := by
    obtain ⟨a, ha, b, hb, hab⟩ := varied
    match allowed, ha, hb with
    | [c], ha, hb =>
      rw [List.mem_singleton] at ha hb
      exact absurd (ha.trans hb.symm) hab
    | _ :: _ :: _, _, _ => simp
  rw [candidates, if_pos hlong]
  simp

theorem candidates_ne_nil : candidates previous allowed ≠ [] := by
  obtain ⟨a, ha, b, hb, hab⟩ := id varied
  by_cases hprevious : a = previous
  · exact List.ne_nil_of_mem
      ((mem_candidates varied previous b).mpr ⟨hb, fun h => hab (hprevious.trans h.symm)⟩)
  · exact List.ne_nil_of_mem ((mem_candidates varied previous a).mpr ⟨ha, hprevious⟩)

end

end Progression
end Tonality
