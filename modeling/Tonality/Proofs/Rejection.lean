import Mathlib.Tactic.SplitIfs
import Tonality.Progression
import Tonality.Rhythm

/-!
Rejections. A call is rejected when its input, its key or its meter is wrong. All of these
are looked at before the first draw, and whatever goes wrong later, from a note that fits
nowhere to a chance that cannot be computed, is an error of another kind.
-/

namespace Tonality

/-- The faults of what a caller hands in; a wrong key or meter is a wrong input too. -/
def Kind.isRejection : Kind → Bool
  | .input | .key | .meter => true
  | _ => false

/-- What cannot be written out is no rejection, so a report that is none stays none. -/
theorem Meter.fault_not_isRejection (m : Meter) (parts : List Rat) {report : Error}
    (h : report.kind.isRejection = false) : (m.fault parts report).kind.isRejection = false := by
  rw [Meter.fault, Error.kind_showing]
  split_ifs
  · exact h
  · rfl

variable {α β : Type}

/-- A value, or an error that is no rejection. -/
def Accepted (x : Except Error α) : Prop := ∀ e, x = .error e → e.kind.isRejection = false

namespace Accepted

theorem ok (a : α) : Accepted (.ok a) := fun _ h => nomatch h

theorem error {e : Error} (h : e.kind.isRejection = false) :
    Accepted (.error e : Except Error α) := by
  rintro _ ⟨⟩
  exact h

theorem bind {x : Except Error α} {f : α → Except Error β} (hx : Accepted x)
    (hf : ∀ a, Accepted (f a)) : Accepted (x >>= f) := by
  cases x with
  | error e => exact error (hx e rfl)
  | ok a => exact hf a

theorem map {x : Except Error α} (hx : Accepted x) (f : α → β) : Accepted (f <$> x) := by
  cases x with
  | error e => exact error (hx e rfl)
  | ok a => exact ok (f a)

theorem mapM {f : α → Except Error β} (hf : ∀ a, Accepted (f a)) (as : List α) :
    Accepted (as.mapM f) := by
  induction as with
  | nil => exact ok []
  | cons a as ih =>
    rw [List.mapM_cons]
    exact (hf a).bind fun b => ih.bind fun bs => ok (b :: bs)

end Accepted

namespace Gen

/-- No source of draws is answered with a rejection. -/
def Accepts (g : Gen α) : Prop := ∀ s, Accepted (run g s).1

/-- A rejection comes before the first draw. -/
def RejectsFirst (g : Gen α) : Prop :=
  ∀ s e t, run g s = (.error e, t) → e.kind.isRejection = true → t = s

theorem accepts_pure (a : α) : Accepts (pure a) := fun _ => .ok a

theorem accepts_throw {e : Error} (h : e.kind.isRejection = false) : Accepts (throw e : Gen α) :=
  fun _ => .error h

theorem accepts_lift {x : Except Error α} (h : Accepted x) : Accepts (lift x) := fun _ => h

theorem accepts_next : Accepts next := fun s => .ok (s.word s.used)

theorem Accepts.bind {g : Gen α} {f : α → Gen β} (hg : Accepts g) (hf : ∀ a, Accepts (f a)) :
    Accepts (g >>= f) := by
  intro s
  have hs := hg s
  rw [run_bind]
  cases h : run g s with
  | mk r t =>
    rw [h] at hs
    cases r with
    | error e => exact .error (hs e rfl)
    | ok a => exact hf a t

theorem Accepts.not_isRejection {g : Gen α} (h : Accepts g) {s t : Draws} {e : Error}
    (hrun : run g s = (.error e, t)) : ¬e.kind.isRejection = true := by
  rw [h s e (congrArg Prod.fst hrun)]
  exact Bool.false_ne_true

theorem Accepts.rejectsFirst {g : Gen α} (h : Accepts g) : RejectsFirst g :=
  fun _ _ _ hrun hrejection => absurd hrejection (h.not_isRejection hrun)

/-- What is only looked at takes no draw. -/
theorem rejectsFirst_lift_bind (x : Except Error α) {f : α → Gen β} (hf : ∀ a, RejectsFirst (f a)) :
    RejectsFirst (lift x >>= f) := by
  intro s e t hrun hrejection
  rw [run_bind, run_lift] at hrun
  cases x with
  | error e => exact (Prod.mk.inj hrun).2.symm
  | ok a => exact hf a s e t hrun hrejection

theorem RejectsFirst.bind {g : Gen α} {f : α → Gen β} (hg : RejectsFirst g)
    (hf : ∀ a, Accepts (f a)) : RejectsFirst (g >>= f) := by
  intro s e t hrun hrejection
  rw [run_bind] at hrun
  cases h : run g s with
  | mk r u =>
    rw [h] at hrun
    cases r with
    | error e' =>
      obtain ⟨he, rfl⟩ := Prod.mk.inj hrun
      obtain rfl := Except.error.inj he
      exact hg s e' u h hrejection
    | ok a => exact absurd hrejection ((hf a).not_isRejection hrun)

theorem accepts_chance (p : Number) : Accepts (chance p) :=
  accepts_next.bind fun k => accepts_pure (p.above (unitFraction k))

theorem accepts_uniform (items : List α) : Accepts (uniform items) := by
  unfold uniform
  split
  · exact accepts_throw rfl
  · exact accepts_next.bind fun _ => accepts_pure _

theorem accepts_weighted [Weight β] (ready : ∀ w : β, Accepted (Weight.ready w)) (items : List α)
    (weights : List β) : Accepts (weighted items weights) := by
  unfold weighted
  split
  · exact accepts_throw rfl
  · dsimp only
    -- after a throw the rest is not run, so the error itself is all there is to look at
    split_ifs
    · exact fun _ => .error rfl
    refine (accepts_lift (.mapM ready weights)).bind fun ws => ?_
    split
    · exact fun _ => .error rfl
    split
    · exact fun _ => .error rfl
    · exact accepts_next.bind fun _ => accepts_pure _

end Gen

namespace Number

theorem accepted_toDouble (x : Number) : Accepted x.toDouble := by
  unfold toDouble
  split
  · split_ifs
    · exact .ok _
    · exact .error rfl
  · exact .ok _

theorem accepted_ready (x : Number) : Accepted (Weight.ready x) := x.accepted_toDouble.map real

theorem accepted_mul (x y : Number) : Accepted (x.mul y) := by
  unfold mul
  split
  · exact .ok _
  · exact (accepted_toDouble _).bind fun _ => (accepted_toDouble _).bind fun _ => .ok _

theorem accepted_add (x y : Number) : Accepted (x.add y) := by
  unfold add
  split
  · exact .ok _
  · exact (accepted_toDouble _).bind fun _ => (accepted_toDouble _).bind fun _ => .ok _

theorem accepted_truncate (x : Number) : Accepted x.truncate := by
  unfold truncate
  split
  · exact .ok _
  · split
    · exact .error rfl
    · exact .error rfl
    · exact .ok _

end Number

theorem accepted_fraction (n d : Int) : Accepted (fraction n d) := by
  unfold fraction
  split_ifs
  · exact .error rfl
  · exact .ok _

theorem Word.accepted_checkRow (n : Int) : Accepted (checkRow n) := by
  have hcheck : Accepted (check n) := by
    unfold check
    split_ifs
    · exact .ok n
    · exact .error rfl
  refine hcheck.bind fun n => ?_
  split_ifs
  · exact .error rfl
  · exact .ok n

theorem Meter.accepted_plan (m : Meter) : Accepted m.plan :=
  (Word.accepted_checkRow m.beats).bind fun _ => .ok m.groups

theorem Cell.accepted_weightIn (c : Cell) (group : Int) (m : Meter) (complexity : Int)
    (afterRun : Bool) : Accepted (c.weightIn group m complexity afterRun) := by
  cases c with
  | nil => exact .error rfl
  | cons e c => exact .ok _

namespace Rhythm
open Gen

theorem accepted_checkLength (m : Meter) (es : List Event) : Accepted (checkLength m es) := by
  have hspan : Accepted (spanOf es) :=
    (Accepted.mapM (fun e => accepted_fraction 1 _) es).bind fun _ => .ok _
  refine hspan.bind fun actual => (accepted_fraction _ _).bind fun expected => ?_
  split_ifs
  · exact .ok es
  · exact .error (m.fault_not_isRejection _ rfl)

section
variable (m : Meter) (level : Nat)

theorem accepts_chooseNote (position remaining : Nat) :
    Accepts (chooseNote m level position remaining) := by
  unfold chooseNote
  dsimp only
  split
  · split_ifs
    · exact accepts_pure _
    · exact accepts_throw (m.fault_not_isRejection _ rfl)
  · exact (accepts_weighted Number.accepted_ready _ _).bind fun _ => accepts_pure _

theorem accepts_placeNotes (bound position remaining : Nat) :
    Accepts (placeNotes m level bound position remaining) := by
  induction bound generalizing position remaining with
  | zero => exact accepts_pure []
  | succ bound ih =>
    unfold placeNotes
    split_ifs
    · exact accepts_pure []
    · exact (accepts_chooseNote m level position remaining).bind fun note =>
        (ih _ _).bind fun rest => accepts_pure (note.1 :: rest)

theorem accepts_chooseCell (cells : List Cell) (group : Nat) (afterRun : Bool) :
    Accepts (chooseCell m level cells group afterRun) := by
  have hweights := Accepted.mapM (fun c : Cell => c.accepted_weightIn group m level afterRun) cells
  exact (accepts_lift hweights).bind fun _ => accepts_weighted Number.accepted_ready _ _

theorem accepts_fillGroups (beat : Rat) (groups : List Nat) (group : Nat) (afterRun : Bool) :
    Accepts (fillGroups m beat level groups group afterRun) := by
  induction groups generalizing group afterRun with
  | nil => exact accepts_pure []
  | cons units groups ih =>
    unfold fillGroups
    split
    · exact (ih _ _).bind fun _ => accepts_pure _
    · exact (accepts_chooseCell m level _ group afterRun).bind fun cell =>
        (ih _ _).bind fun _ => accepts_pure _

theorem accepts_fillMeasure : Accepts (fillMeasure m level) := by
  have hnotes : Accepts (fillByNotes m level) :=
    (accepts_lift (accepted_fraction 1 m.unit)).bind fun _ => accepts_placeNotes m level _ _ _
  have hgroups : Accepts (fillByGroups m level) :=
    (accepts_lift m.accepted_plan).bind fun groups =>
      (accepts_lift (accepted_fraction 1 m.unit)).bind fun beat =>
        accepts_fillGroups m level beat groups 0 false
  unfold fillMeasure
  split_ifs
  · exact hnotes.bind fun es => accepts_lift (accepted_checkLength m es)
  · exact hgroups.bind fun es => accepts_lift (accepted_checkLength m es)

end

theorem rejectsFirst_measure (meter : MeterSource) (complexity : Value) :
    RejectsFirst (measure meter complexity) :=
  rejectsFirst_lift_bind _ fun level => rejectsFirst_lift_bind _ fun m =>
    (accepts_fillMeasure m level).rejectsFirst

/-- Once a complexity has been found right, it is right for every measure. -/
theorem accepts_repeated (m : Meter) {complexity : Value} {level : Nat}
    (h : levelOf complexity = .ok level) (count : Nat) :
    Accepts (repeated m complexity count) := by
  have hmeasure : Accepts (measure (.meter m) complexity) :=
    (accepts_lift (h ▸ .ok level)).bind fun l => (accepts_lift (.ok m)).bind fun m =>
      accepts_fillMeasure m l
  induction count with
  | zero => exact accepts_pure []
  | succ count ih => exact hmeasure.bind fun first => ih.bind fun rest => accepts_pure (first :: rest)

theorem rejectsFirst_repeated (m : Meter) (complexity : Value) (count : Nat) :
    RejectsFirst (repeated m complexity count) := by
  cases h : levelOf complexity with
  | ok level => exact (accepts_repeated m h count).rejectsFirst
  | error e =>
    cases count with
    | zero => exact (accepts_pure []).rejectsFirst
    | succ count =>
      -- the first measure fails before it looks at anything else
      intro s e' t hrun _
      simp only [repeated, measure, run_bind, run_lift, h] at hrun
      exact (Prod.mk.inj hrun).2.symm

theorem rejectsFirst_measures (meter : MeterSource) (complexity : Value) (count : Int) :
    RejectsFirst (measures meter complexity count) :=
  rejectsFirst_lift_bind _ fun m => rejectsFirst_repeated m complexity count.toNat

end Rhythm

theorem Odds.accepted_target (o : Odds) (complexity : Number) : Accepted (o.target complexity) :=
  (Number.accepted_mul _ _).bind fun _ => (Number.accepted_add _ _).bind fun _ => .ok _

namespace Progression
open Gen

section
variable (f : Functions) (o : Odds)

theorem accepts_next (previous : String) (allowed : List String) (complexity : Number) :
    Accepts (next f o previous allowed complexity) := by
  unfold next
  dsimp only
  split
  · exact accepts_uniform _
  · refine Gen.accepts_next.bind fun k => (accepts_lift (o.accepted_target complexity)).bind
      fun p => ?_
    split_ifs
    · exact accepts_uniform _
    · exact accepts_uniform _
    · refine (accepts_chance o.leave).bind fun leaves => ?_
      split_ifs
      · exact accepts_uniform _
      · exact accepts_uniform _

theorem accepts_walk (allowed : List String) (level : Number) (previous : String) (n : Nat) :
    Accepts (walk f o allowed level previous n) := by
  induction n generalizing previous with
  | zero => exact accepts_pure []
  | succ n ih =>
    exact (accepts_next f o previous allowed level).bind fun chord =>
      (ih chord).bind fun chords => accepts_pure (chord :: chords)

theorem accepts_ofFunctions (level : Int) (measures : Nat) :
    Accepts (ofFunctions f o level measures) := by
  unfold ofFunctions
  dsimp only
  split
  · exact accepts_pure _
  · exact accepts_pure _
  · exact accepts_pure _
  · exact (accepts_walk f o _ _ _ _).bind fun middle => accepts_pure _

end

theorem rejectsFirst_inKey (o : Odds) (key : KeySource) (measures : Int) (complexity : Number) :
    RejectsFirst (inKey o key measures complexity) := by
  have hlevel : Accepted (clamp complexity) :=
    complexity.accepted_truncate.bind fun _ => .ok _
  unfold inKey
  split_ifs
  · exact (accepts_pure []).rejectsFirst
  · exact rejectsFirst_lift_bind _ fun k =>
      ((accepts_lift hlevel).bind fun level => accepts_ofFunctions _ o level _).rejectsFirst

end Progression

end Tonality
