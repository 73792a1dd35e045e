import Tonality.Harmony.Diatonic
import Tonality.Numeral

/-!
What a numeral asks of the chord on its degree. A sign shifts the root and lets
the case of the numeral choose the triad, a quality word or a suspension
replaces the triad, and a seventh is built by the first of four ways that
gives a chord. Falling back on any way but the first is put on record.
-/

namespace Tonality

structure Fallback where
  numeral : String
  key : String
  way : String
  symbol : String
  deriving DecidableEq, Repr

namespace Fallback

def text (f : Fallback) : String :=
  s!"'{f.numeral}' in {f.key}: {f.way} gives {f.symbol}"

end Fallback

structure Modified where
  chord : Chord
  log : List Fallback
  deriving DecidableEq, Repr

namespace Numeral

def signed (n : Numeral) (diatonic : Chord) : Chord :=
  if n.base.sign.isSome then
    ⟨diatonic.root.shift n.base.shift, if n.base.degree.upper then .major else .minor⟩
  else diatonic

/-- The triad asked for by a suspension or else by a quality word. -/
def requested? (n : Numeral) : Option Quality :=
  if n.base.suspension.isSome then some .suspended else n.base.token.map Token.triad

def seventh? (n : Numeral) (k : Key) (index : Int) : Except Error (Option Interval) :=
  if n.asksSeventh || n.base.token.any Token.impliesSeventh then
    match n.base.token.bind Token.seventh? with
    | some i => pure (some i)
    | none => do pure (← k.plainSeventh index).seventh?
  else pure none

end Numeral

namespace Chord

def withSeventh? (c : Chord) (seventh : Interval) : Option Chord :=
  (c.quality.triad.standardSeventh? seventh).map c.recast

def withUsualSeventh? (c : Chord) : Option Chord :=
  c.quality.triad.usualSeventh?.map c.recast

/-- The ways to build a seventh chord, best first. -/
def seventhWays (modified diatonic : Chord) (seventh : Interval) :
    List (String × Option Chord) :=
  [("requested seventh", modified.withSeventh? seventh),
   ("nearest standard seventh", modified.withUsualSeventh?),
   ("requested seventh on diatonic chord", diatonic.withSeventh? seventh),
   ("nearest standard seventh on diatonic chord", diatonic.withUsualSeventh?)]

def firstWay? (ways : List (String × Option Chord)) : Option (Nat × String × Chord) :=
  ways.zipIdx.findSome? fun w => w.1.2.map fun c => (w.2, w.1.1, c)

end Chord

def Key.modifyChord (k : Key) (diatonic : Chord) (roman : String) (n : Numeral) (index : Int) :
    Except Error Modified := do
  let plain := n.signed diatonic
  let chord := (n.requested?.map plain.recast).getD plain
  match ← n.seventh? k index with
  | none => pure ⟨chord, []⟩
  | some seventh =>
    match Chord.firstWay? (Chord.seventhWays chord plain seventh) with
    | none => throw (.noSeventhChord roman chord.symbol)
    | some (place, way, c) =>
      pure ⟨c, if place = 0 then [] else [⟨roman, k.name, way, c.symbol⟩]⟩

def Key.modify (k : Option Key) (symbol roman : Option String) (index : Int) :
    Except Error Modified :=
  match k with
  | none => throw (.keyMissing (Text.shown roman))
  | some k =>
    if index < 0 ∨ 6 < index then throw (.showing [index] (.degreeOutside index))
    else do
      let diatonic ← Chord.read symbol
      let n ← Numeral.read roman
      k.modifyChord diatonic (Text.shown roman) n index

end Tonality
