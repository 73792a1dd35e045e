import Tonality.Keyboard
import Tonality.Proofs.Voicing.Register

/-!
The pool of notes on the keyboard. It holds, in ascending order, the keys that share a pitch
class with some note, so that only the pitch classes of the notes count. Since the keyboard has
every pitch class, a pool has the pitch classes of the notes that it was made from and is its own
pool. A chord stands in a register that the keyboard covers, and so its notes are in its pool.
-/

namespace Tonality.Keyboard

/-- Notes that fit into signed 64-bit words. -/
def Words (notes : List Int) : Prop :=
  ∀ n ∈ notes, -0x8000000000000000 ≤ n ∧ n < 0x8000000000000000

def SameClasses (xs ys : List Int) : Prop :=
  ∀ p : Int, (∃ n ∈ xs, n % 12 = p) ↔ ∃ n ∈ ys, n % 12 = p

structure IsPool (notes keys : List Int) : Prop where
  ascending : keys.Pairwise (· < ·)
  mem : ∀ k, k ∈ keys ↔ 21 ≤ k ∧ k ≤ 108 ∧ ∃ n ∈ notes, n % 12 = k % 12

theorem mem_keys {k : Int} : k ∈ keys ↔ 21 ≤ k ∧ k ≤ 108 := by
  unfold keys lowest
  rw [List.mem_map]
  constructor
  · rintro ⟨n, hn, rfl⟩
    rw [List.mem_range] at hn
    omega
  · rintro ⟨hlow, hhigh⟩
    refine ⟨(k - 21).toNat, ?_, ?_⟩
    · rw [List.mem_range]
      omega
    · omega

theorem keys_ascending : keys.Pairwise (· < ·) := by
  unfold keys
  rw [List.pairwise_map]
  exact List.pairwise_lt_range.imp fun h => by omega

section
variable {notes : List Int}

theorem isPool_pool (notes : List Int) : IsPool notes (pool notes) where
  ascending := keys_ascending.filter _
  mem k := by
    rw [pool, List.mem_filter, mem_keys, and_assoc]
    simp only [List.any_eq_true, beq_iff_eq]

/-- Every pitch class has a key in the octave from C to B. -/
theorem sameClasses_of_isPool {keys : List Int} (h : IsPool notes keys) :
    SameClasses keys notes := by
  intro p
  constructor
  · rintro ⟨k, hk, rfl⟩
    exact ((h.mem k).mp hk).2.2
  · rintro ⟨n, hn, rfl⟩
    exact ⟨24 + n % 12, (h.mem _).mpr ⟨by omega, by omega, n, hn, by omega⟩, by omega⟩

theorem pool_congr {xs ys : List Int} (same : SameClasses xs ys) : pool xs = pool ys := by
  apply List.filter_congr
  intro k _
  rw [Bool.eq_iff_iff]
  simpa only [List.any_eq_true, beq_iff_eq] using same (k % 12)

theorem pool_eq_iff {xs ys : List Int} : pool xs = pool ys ↔ SameClasses xs ys := by
  refine ⟨fun h p => ?_, pool_congr⟩
  have hxs := sameClasses_of_isPool (isPool_pool xs) p
  rw [h] at hxs
  exact hxs.symm.trans (sameClasses_of_isPool (isPool_pool ys) p)

theorem mem_pool_append {xs ys : List Int} {k : Int} :
    k ∈ pool (xs ++ ys) ↔ k ∈ pool xs ∨ k ∈ pool ys := by
  simp only [pool, List.any_append, List.mem_filter, Bool.or_eq_true, and_or_left]

theorem words_pool (notes : List Int) : Words (pool notes) := by
  intro k hk
  obtain ⟨hlow, hhigh, -⟩ := ((isPool_pool notes).mem k).mp hk
  omega

theorem poolFor_eq (words : Words notes) : poolFor notes = .ok (pool notes) := by
  have hcheck : notes.mapM Word.check = .ok (notes.map id) :=
    mapM_eq_ok fun n hn => Word.check_of_fits ((Word.fits_iff n).mpr (words n hn))
  rw [List.map_id] at hcheck
  rw [poolFor, hcheck]
  rfl

theorem poolFor_pool (notes : List Int) : poolFor (pool notes) = .ok (pool notes) := by
  rw [poolFor_eq (words_pool notes), pool_congr (sameClasses_of_isPool (isPool_pool notes))]

end

theorem subset_pool {notes : List Int} (register : ∀ n ∈ notes, 21 ≤ n ∧ n ≤ 108) :
    notes ⊆ pool notes := by
  intro n hn
  obtain ⟨hlow, hhigh⟩ := register n hn
  exact ((isPool_pool notes).mem n).mpr ⟨hlow, hhigh, n, hn, rfl⟩

theorem register_of_ofSymbol {symbol bass : Option String} {mode : Mode} {tonic : String}
    {v : Voicing} (h : Voicing.ofSymbol symbol bass mode tonic = .ok v) :
    ∀ n ∈ v.notes, 21 ≤ n ∧ n ≤ 108 := by
  obtain ⟨c, t, b, few, rfl⟩ := Voicing.exists_sounding h
  intro n hn
  obtain ⟨hlow, hhigh⟩ := (Voicing.rootPosition_sounding few t b).register n hn
  omega

/-- The pool of notes is made of the keys of their pitch classes. It is the same for all notes
with these pitch classes, its own keys among them, and the pool of two rows of notes together has
the keys of both; the pool of a chord holds the notes of the chord and no other pitch class. -/
theorem pool_exactly :
    (∀ notes, Words notes → ∃ keys, poolFor notes = .ok keys ∧ IsPool notes keys ∧
      poolFor keys = .ok keys ∧
      ∀ others, Words others → ∃ keys', poolFor others = .ok keys' ∧
        (keys = keys' ↔ SameClasses notes others) ∧
        ∃ union, poolFor (notes ++ others) = .ok union ∧ ∀ k, k ∈ union ↔ k ∈ keys ∨ k ∈ keys') ∧
    ∀ symbol bass mode tonic v, Voicing.ofSymbol symbol bass mode tonic = .ok v →
      ∃ keys, poolFor v.notes = .ok keys ∧ v.notes ⊆ keys ∧
        ∀ p, p ∈ v.pitchClasses ↔ ∃ k ∈ keys, k % 12 = p := by
  refine ⟨fun notes words => ?_, fun symbol bass mode tonic v hv => ?_⟩
  · refine ⟨_, poolFor_eq words, isPool_pool notes, poolFor_pool notes, fun others words' => ?_⟩
    have together : Words (notes ++ others) := by
      intro n hn
      rcases List.mem_append.mp hn with hn | hn
      · exact words n hn
      · exact words' n hn
    exact ⟨_, poolFor_eq words', pool_eq_iff, _, poolFor_eq together, fun k => mem_pool_append⟩
  · have register := register_of_ofSymbol hv
    have words : Words v.notes := by
      intro n hn
      obtain ⟨hlow, hhigh⟩ := register n hn
      omega
    refine ⟨_, poolFor_eq words, subset_pool register, fun p => ?_⟩
    rw [Voicing.mem_pitchClasses]
    exact (sameClasses_of_isPool (isPool_pool v.notes) p).symm

/-- A B below the keyboard and one far above it have the pool of any B, and a chord on C with three
flats has its four notes in its pool. -/
theorem pool_exactly_distant :
    (∃ keys, poolFor [-1, 0x1000000000000007] = .ok keys ∧ poolFor [11] = .ok keys ∧
      23 ∈ keys ∧ 24 ∉ keys) ∧
    ∃ v keys, Voicing.ofSymbol (some "Cbbbdim7") (some "b3") .minor "C" = .ok v ∧
      v.notes = [45, 48, 51, 54] ∧ poolFor v.notes = .ok keys ∧ v.notes ⊆ keys := by
  obtain ⟨rows, chords⟩ := pool_exactly
  constructor
  · obtain ⟨keys, hkeys, isPool, -, among⟩ :=
      rows [-1, 0x1000000000000007] (by unfold Words; decide)
    obtain ⟨keys', hkeys', same, -⟩ := among [11] (by unfold Words; decide)
    obtain rfl := same.mpr fun p => by simp
    have hmem := isPool.mem
    refine ⟨keys, hkeys, hkeys', (hmem 23).mpr (by decide), fun h => ?_⟩
    exact absurd ((hmem 24).mp h) (by decide)
  · have hc : Chord.read (some "Cbbbdim7") = .ok ⟨⟨.c, -3⟩, .diminishedSeventh⟩ := rfl
    have hw := Voicing.ofSymbol_eq hc (rfl : readPitchClass "C" = .ok 0) (.inr rfl) (some "b3")
    have hb : Voicing.bassOf ⟨⟨.c, -3⟩, .diminishedSeventh⟩ (some "b3") = .ok (some 0) := rfl
    rw [hb] at hw
    obtain ⟨keys, hkeys, hsubset, -⟩ := chords _ _ _ _ _ hw
    exact ⟨_, keys, hw, by decide, hkeys, hsubset⟩

end Tonality.Keyboard
