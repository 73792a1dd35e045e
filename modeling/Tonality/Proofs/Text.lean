import Mathlib.Algebra.Group.Nat.Defs
import Mathlib.Data.List.TakeWhile
import Mathlib.Tactic.SplitIfs
import Tonality.Text.Integer

/-!
Taking blanks off the ends of a text. Stripped text has no blank at either end,
and text without a blank at either end is its own stripped form. What is taken off
are blanks, and blanks put around a text make no difference to its stripped form.
Digits are not blank, and the digits of a number are read as that number. A
number can be written out as long as it is small enough for the limit on digits.
-/

namespace Tonality.Text

def Blank (cs : List Char) : Prop := ∀ c ∈ cs, isBlank c = true

instance (cs : List Char) : Decidable (Blank cs) :=
  decidable_of_iff (cs.all isBlank = true) List.all_eq_true

theorem dropBlanks_of_head {cs : List Char} (h : ∀ c, cs.head? = some c → isBlank c = false) :
    dropBlanks cs = cs := by
  cases cs with
  | nil => rfl
  | cons c cs =>
    have hc : ¬isBlank c = true := by rw [h c rfl]; exact Bool.false_ne_true
    exact List.dropWhile_cons_of_neg hc

theorem dropBlanksEnd_of_last {cs : List Char}
    (h : ∀ c, cs.getLast? = some c → isBlank c = false) : dropBlanksEnd cs = cs := by
  have hreverse : dropBlanks cs.reverse = cs.reverse := by
    apply dropBlanks_of_head
    intro c hc
    exact h c (by rwa [List.head?_reverse] at hc)
  rw [dropBlanksEnd, hreverse, List.reverse_reverse]

theorem strip_of_ends {cs : List Char} (first : ∀ c, cs.head? = some c → isBlank c = false)
    (last : ∀ c, cs.getLast? = some c → isBlank c = false) : strip cs = cs := by
  rw [strip, dropBlanks_of_head first, dropBlanksEnd_of_last last]

theorem strip_of_noBlank {cs : List Char} (h : ∀ c ∈ cs, isBlank c = false) : strip cs = cs :=
  strip_of_ends (fun c hc => h c (List.mem_of_head? hc))
    (fun c hc => h c (List.mem_of_getLast? hc))

theorem noBlank_of_all {cs : List Char} (h : cs.all (fun c => !isBlank c) = true) :
    ∀ c ∈ cs, isBlank c = false := by
  intro c hc
  have hall := List.all_eq_true.mp h c hc
  rwa [Bool.not_eq_true'] at hall

theorem mem_strip {cs : List Char} {c : Char} (h : isBlank c = false) : c ∈ strip cs ↔ c ∈ cs := by
  have hdrop (ds : List Char) : c ∈ dropBlanks ds ↔ c ∈ ds := by
    constructor
    · intro hc
      exact (List.dropWhile_suffix isBlank).mem hc
    · intro hc
      rw [← List.takeWhile_append_dropWhile (p := isBlank) (l := ds), List.mem_append] at hc
      rcases hc with hfront | hrest
      · have hblank := List.mem_takeWhile_imp hfront
        rw [h] at hblank
        cases hblank
      · exact hrest
  rw [strip, dropBlanksEnd, List.mem_reverse, hdrop, List.mem_reverse, hdrop]

theorem strip_append_cons {c : Char} (h : isBlank c = false) (xs ys : List Char) :
    strip (xs ++ c :: ys) = dropBlanks xs ++ c :: dropBlanksEnd ys := by
  have hdrop (xs ys : List Char) : dropBlanks (xs ++ c :: ys) = dropBlanks xs ++ c :: ys := by
    have hc : dropBlanks (c :: ys) = c :: ys := dropBlanks_of_head fun d hd => by
      rwa [← Option.some.inj hd]
    unfold dropBlanks at hc ⊢
    rw [List.dropWhile_append]
    split
    · rename_i hempty
      rw [hc, List.isEmpty_iff.mp hempty, List.nil_append]
    · rfl
  rw [strip, hdrop, dropBlanksEnd, dropBlanksEnd, List.reverse_append, List.reverse_cons,
    List.append_assoc, List.singleton_append, hdrop, List.reverse_append, List.reverse_cons]
  simp

theorem strip_dropBlanks (cs : List Char) : strip (dropBlanks cs) = strip cs := by
  have hdrop : dropBlanks (dropBlanks cs) = dropBlanks cs :=
    dropBlanks_of_head fun _ hc => head_dropBlanks hc
  rw [strip, hdrop, strip]

theorem dropBlanksEnd_of_blank {cs : List Char} (blank : Blank cs) : dropBlanksEnd cs = [] := by
  have hdrop : dropBlanks cs.reverse = [] :=
    List.dropWhile_eq_nil_iff.mpr fun c hc => blank c (List.mem_reverse.mp hc)
  rw [dropBlanksEnd, hdrop, List.reverse_nil]

theorem dropBlanksEnd_solid {xs : List Char} (solid : ∀ c ∈ xs, isBlank c = false)
    (ys : List Char) : dropBlanksEnd (xs ++ ys) = xs ++ dropBlanksEnd ys := by
  have hxs : dropBlanks xs.reverse = xs.reverse := dropBlanks_of_head fun c hc =>
    solid c (List.mem_reverse.mp (List.mem_of_head? hc))
  unfold dropBlanks at hxs
  rw [dropBlanksEnd, dropBlanksEnd, dropBlanks, dropBlanks, List.reverse_append,
    List.dropWhile_append]
  split_ifs with hempty
  · rw [List.isEmpty_iff.mp hempty, hxs, List.reverse_reverse, List.reverse_nil, List.append_nil]
  · rw [List.reverse_append, List.reverse_reverse]

theorem dropBlanksEnd_append {xs line : List Char} (solid : ∀ c ∈ xs, isBlank c = false)
    (blank : ∀ c ∈ line, isBlank c = true) : dropBlanksEnd (xs ++ line) = xs := by
  rw [dropBlanksEnd_solid solid, dropBlanksEnd_of_blank blank, List.append_nil]

theorem exists_append_dropBlanks (cs : List Char) :
    ∃ xs, (∀ c ∈ xs, isBlank c = true) ∧ cs = xs ++ dropBlanks cs :=
  ⟨cs.takeWhile isBlank, fun _ hc => List.mem_takeWhile_imp hc,
    List.takeWhile_append_dropWhile.symm⟩

theorem exists_dropBlanksEnd_append (cs : List Char) :
    ∃ ys, (∀ c ∈ ys, isBlank c = true) ∧ cs = dropBlanksEnd cs ++ ys := by
  obtain ⟨xs, hblank, hcs⟩ := exists_append_dropBlanks cs.reverse
  refine ⟨xs.reverse, fun c hc => hblank c (List.mem_reverse.mp hc), ?_⟩
  rw [dropBlanksEnd, ← List.reverse_append, ← hcs, List.reverse_reverse]

/-- What stands around the stripped text is blank. -/
theorem exists_padding (cs : List Char) :
    ∃ xs ys, (∀ c ∈ xs, isBlank c = true) ∧ (∀ c ∈ ys, isBlank c = true) ∧
      cs = xs ++ strip cs ++ ys := by
  obtain ⟨xs, hxs, hfront⟩ := exists_append_dropBlanks cs
  obtain ⟨ys, hys, hback⟩ := exists_dropBlanksEnd_append (dropBlanks cs)
  refine ⟨xs, ys, hxs, hys, ?_⟩
  rw [strip, List.append_assoc, ← hback]
  exact hfront

theorem getLast_strip {cs : List Char} {c : Char} (h : (strip cs).getLast? = some c) :
    isBlank c = false := by
  rw [strip, dropBlanksEnd, List.getLast?_reverse] at h
  exact head_dropBlanks h

theorem head_strip {cs : List Char} {c : Char} (h : (strip cs).head? = some c) :
    isBlank c = false := by
  obtain ⟨ys, -, hcs⟩ := exists_dropBlanksEnd_append (dropBlanks cs)
  have hfront : (dropBlanks cs).head? = some c := by
    rw [strip] at h
    rw [hcs, List.head?_append, h, Option.some_or]
  exact head_dropBlanks hfront

/-- Cut in two, stripped text has blanks next to the cut only. -/
theorem sides_of_strip {cs head tail : List Char} {c : Char} (h : strip cs = head ++ c :: tail) :
    ∃ before after, (∀ d ∈ before, isBlank d = true) ∧ (∀ d ∈ after, isBlank d = true) ∧
      head = strip head ++ before ∧ tail = after ++ strip tail := by
  obtain ⟨xs, before, hxs, hbefore, hhead⟩ := exists_padding head
  obtain ⟨after, ys, hafter, hys, htail⟩ := exists_padding tail
  have hxsnil : xs = [] := by
    rw [List.eq_nil_iff_forall_not_mem]
    intro d hd
    obtain ⟨e, zs, rfl⟩ := List.exists_cons_of_ne_nil (List.ne_nil_of_mem hd)
    have hfirst : (strip cs).head? = some e := by rw [h, hhead]; rfl
    have hblank := hxs e List.mem_cons_self
    rw [head_strip hfirst] at hblank
    cases hblank
  have hysnil : ys = [] := by
    rcases List.eq_nil_or_concat ys with rfl | ⟨zs, e, rfl⟩
    · rfl
    · have hlast : (strip cs).getLast? = some e := by
        rw [h, htail, List.getLast?_append, List.getLast?_cons, List.getLast?_append]
        simp
      have hblank := hys e (by simp)
      rw [getLast_strip hlast] at hblank
      cases hblank
  refine ⟨before, after, hbefore, hafter, ?_, ?_⟩
  · simpa [hxsnil] using hhead
  · simpa [hysnil] using htail

theorem strip_strip (cs : List Char) : strip (strip cs) = strip cs :=
  strip_of_ends (fun _ => head_strip) fun _ => getLast_strip

theorem dropBlanks_append {xs : List Char} (blank : ∀ c ∈ xs, isBlank c = true) (cs : List Char) :
    dropBlanks (xs ++ cs) = dropBlanks cs :=
  List.dropWhile_append_of_pos blank

theorem strip_append {ys : List Char} (blank : ∀ c ∈ ys, isBlank c = true) (cs : List Char) :
    strip (cs ++ ys) = strip cs := by
  have hend (ds : List Char) : dropBlanksEnd (ds ++ ys) = dropBlanksEnd ds := by
    rw [dropBlanksEnd, List.reverse_append,
      dropBlanks_append (fun c hc => blank c (List.mem_reverse.mp hc)), dropBlanksEnd]
  have hys : dropBlanks ys = [] := List.dropWhile_eq_nil_iff.mpr blank
  by_cases hcs : dropBlanks cs = []
  · have hall : ∀ c ∈ cs, isBlank c = true := List.dropWhile_eq_nil_iff.mp hcs
    rw [strip, dropBlanks_append hall, hys, strip, hcs]
  · have hrest : dropBlanks (cs ++ ys) = dropBlanks cs ++ ys := by
      unfold dropBlanks at hcs ⊢
      rw [List.dropWhile_append, if_neg (by simpa using hcs)]
    rw [strip, hrest, hend, strip]

theorem strip_padded {xs ys : List Char} (front : ∀ c ∈ xs, isBlank c = true)
    (back : ∀ c ∈ ys, isBlank c = true) (cs : List Char) : strip (xs ++ cs ++ ys) = strip cs := by
  rw [strip_append back, strip, dropBlanks_append front, strip]

theorem takeWhile_append_stop {p : Char → Bool} {xs ys : List Char}
    (inside : ∀ c ∈ xs, p c = true) (stop : ∀ c, ys.head? = some c → p c = false) :
    (xs ++ ys).takeWhile p = xs := by
  have hys : ys.takeWhile p = [] := by
    cases ys with
    | nil => rfl
    | cons y ys => simp [stop y rfl]
  rw [List.takeWhile_append_of_pos inside, hys, List.append_nil]

theorem dropWhile_append_stop {p : Char → Bool} {xs ys : List Char}
    (inside : ∀ c ∈ xs, p c = true) (stop : ∀ c, ys.head? = some c → p c = false) :
    (xs ++ ys).dropWhile p = ys := by
  rw [List.dropWhile_append_of_pos inside]
  cases ys with
  | nil => rfl
  | cons y ys => simp [stop y rfl]

theorem isBlank_of_visible {c : Char} (low : 33 ≤ c.toNat) (high : c.toNat ≤ 126) :
    isBlank c = false := by
  rw [isBlank, List.any_eq_false]
  intro r hr
  have houtside : r.2 < 33 ∨ 126 < r.1 := by
    revert r
    decide
  simp only [Bool.and_eq_true, decide_eq_true_eq]
  omega

theorem isDigit_iff {c : Char} : isDigit c = true ↔ 48 ≤ c.toNat ∧ c.toNat ≤ 57 := by
  rw [isDigit, Bool.and_eq_true, decide_eq_true_eq, decide_eq_true_eq, Char.le_def, Char.le_def,
    UInt32.le_iff_toNat_le, UInt32.le_iff_toNat_le]
  rfl

theorem isBlank_of_isDigit {c : Char} (h : isDigit c = true) : isBlank c = false := by
  obtain ⟨low, high⟩ := isDigit_iff.mp h
  exact isBlank_of_visible (by omega) (by omega)

theorem isDigit_of_isBlank {c : Char} (h : isBlank c = true) : isDigit c = false := by
  by_contra hdigit
  rw [isBlank_of_isDigit (by simpa using hdigit)] at h
  cases h

/-- One digit or more. -/
structure Digits (cs : List Char) : Prop where
  ne_nil : cs ≠ []
  digit : ∀ c ∈ cs, isDigit c = true

theorem Digits.isEmpty {cs : List Char} (h : Digits cs) : cs.isEmpty = false :=
  List.isEmpty_eq_false_iff.mpr h.ne_nil

theorem Digits.head_append {cs rest : List Char} (h : Digits cs) (c : Char)
    (hc : (cs ++ rest).head? = some c) : isBlank c = false := by
  cases cs with
  | nil => exact absurd rfl h.ne_nil
  | cons d cs =>
    obtain rfl := Option.some.inj hc
    exact isBlank_of_isDigit (h.digit d List.mem_cons_self)

theorem digits_toDigits (n : Nat) : Digits (Nat.toDigits 10 n) :=
  ⟨Nat.toDigits_ne_nil, fun _ hc => Nat.isDigit_of_mem_toDigits (by decide) (by decide) hc⟩

theorem digitsValue_eq (cs : List Char) : digitsValue cs = Nat.ofDigitChars 10 cs 0 :=
  Nat.ofDigitChars_eq_foldl.symm

theorem digitsValue_toDigits (n : Nat) : digitsValue (Nat.toDigits 10 n) = n := by
  rw [digitsValue_eq, Nat.ofDigitChars_ten_toDigits]

theorem isWritable_iff (n : Int) : isWritable n = true ↔ n.natAbs < 10 ^ digitLimit := by
  have hbase : 1 < 10 := by decide
  have hlimit : 0 < digitLimit := by decide
  rw [isWritable, decide_eq_true_iff, Nat.length_toDigits_le_iff hbase hlimit]

end Tonality.Text
