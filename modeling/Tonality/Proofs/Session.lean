import Tonality.Proofs.Rejection

/-!
Sessions. Calls are played one after the other on one source of draws, and a failure does
not end the session. A rejected call takes no draw, so the rejected calls can be left out
without a change to any other answer.
-/

namespace Tonality

/-- The calls that draw: one measure of rhythm, some measures, or a progression. -/
inductive Call
  | measure (meter : MeterSource) (complexity : Value)
  | measures (meter : MeterSource) (complexity : Value) (count : Int)
  | progression (odds : Odds) (key : KeySource) (count : Int) (complexity : Number)

inductive Answer
  | measure (events : List Event)
  | measures (rows : List (List Event))
  | progression (numerals : List String)

namespace Call
open Gen

def play : Call → Gen Answer
  | measure meter complexity => do pure (.measure (← Rhythm.measure meter complexity))
  | measures meter complexity count => do
    pure (.measures (← Rhythm.measures meter complexity count))
  | progression odds key count complexity => do
    pure (.progression (← Progression.inKey odds key count complexity))

theorem rejectsFirst_play (c : Call) : RejectsFirst c.play := by
  cases c with
  | measure meter complexity =>
    exact (Rhythm.rejectsFirst_measure meter complexity).bind fun events =>
      accepts_pure (Answer.measure events)
  | measures meter complexity count =>
    exact (Rhythm.rejectsFirst_measures meter complexity count).bind fun rows =>
      accepts_pure (Answer.measures rows)
  | progression odds key count complexity =>
    exact (Progression.rejectsFirst_inKey odds key count complexity).bind fun numerals =>
      accepts_pure (Answer.progression numerals)

end Call

/-- A call as it was played: its answer and what it left of the source. -/
structure Played where
  call : Call
  answer : Except Error Answer
  left : Draws

namespace Played

def isRejected (p : Played) : Bool :=
  match p.answer with
  | .ok _ => false
  | .error e => e.kind.isRejection

def stands (p : Played) : Bool := !p.isRejected

end Played

namespace Session

def play (c : Call) (s : Draws) : Played := ⟨c, (c.play.run s).1, (c.play.run s).2⟩

def run : List Call → Draws → List Played × Draws
  | [], s => ([], s)
  | c :: cs, s =>
    let first := play c s
    let rest := run cs first.left
    (first :: rest.1, rest.2)

/-- The calls of a session that were not rejected. -/
def standing (cs : List Call) (s : Draws) : List Played := (run cs s).1.filter Played.stands

theorem left_of_isRejected {c : Call} {s : Draws} (h : (play c s).isRejected = true) :
    (play c s).left = s := by
  cases hrun : Gen.run c.play s with
  | mk r t =>
    simp only [Played.isRejected, play, hrun] at h ⊢
    cases r with
    | ok a => cases h
    | error e => exact c.rejectsFirst_play s e t hrun h

theorem standing_of_isRejected {c : Call} {s : Draws} (h : (play c s).isRejected = true)
    (cs : List Call) : standing (c :: cs) s = standing cs s := by
  simp only [standing, run, left_of_isRejected h]
  simp [Played.stands, h]

theorem standing_of_stands {c : Call} {s : Draws} (h : (play c s).isRejected = false)
    (cs : List Call) : standing (c :: cs) s = play c s :: standing cs (play c s).left := by
  simp [standing, run, Played.stands, h]

/-- A rejected call takes no draw, and without its rejected calls a session gives the other
calls the same answers and leaves the same draws. -/
theorem run_standing :
    (∀ (c : Call) (s : Draws), (play c s).isRejected = true → (play c s).left = s) ∧
      ∀ (cs : List Call) (s : Draws),
        run ((standing cs s).map Played.call) s = (standing cs s, (run cs s).2) := by
  refine ⟨fun _ _ => left_of_isRejected, fun cs => ?_⟩
  -- on the calls, for every source: a rejected call hands its own source on to the rest
  induction cs with
  | nil => exact fun _ => rfl
  | cons c cs ih =>
    intro s
    cases h : (play c s).isRejected with
    | true =>
      have hleft : (run (c :: cs) s).2 = (run cs s).2 := by
        simp only [run, left_of_isRejected h]
      rw [standing_of_isRejected h, hleft, ih]
    | false =>
      have hcall : (play c s).call = c := rfl
      rw [standing_of_stands h, List.map_cons, hcall]
      simp only [run, ih]

/-- Six measures of C major in which no target is honoured that can be left. -/
def leaving : Call := .progression ⟨.int 0, .int 0, .int 1⟩ (.name (some "C")) 6 (.int 5)

/-- Rows of measures at a complexity that there is not, and of a meter that there is not. -/
def tooComplex : Call := .measures (.value (.str "4/4")) (.num (.int 11)) 2

def thirdNotes : Call := .measures (.value (.str "4/3")) (.num (.int 5)) 2

def threeWords : Draws := Draws.cycle [0x80000000, 5, 0xC0000000]

/-- Two progressions take fifteen draws, and they are the same ones with two rejected calls
between them as without. -/
theorem run_standing_cMajor :
    standing [tooComplex, leaving, thirdNotes, leaving] threeWords =
        (run [leaving, leaving] threeWords).1 ∧
      (run [tooComplex, leaving, thirdNotes, leaving] threeWords).2 =
        (run [leaving, leaving] threeWords).2 ∧
      (run [leaving, leaving] threeWords).2.used = 15 := by
  have hcalls : (standing [tooComplex, leaving, thirdNotes, leaving] threeWords).map Played.call =
      [leaving, leaving] := rfl
  have hrun := run_standing.2 [tooComplex, leaving, thirdNotes, leaving] threeWords
  rw [hcalls] at hrun
  exact ⟨(congrArg Prod.fst hrun).symm, (congrArg Prod.snd hrun).symm, rfl⟩

end Session
end Tonality
