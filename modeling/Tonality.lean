import Tonality.Decimal.Reading
import Tonality.Logging
import Tonality.Difficulty
import Tonality.Pitch.Compound
import Tonality.Main
import Tonality.Proofs.Yield
import Tonality.Proofs.Outcome
import Tonality.Proofs.Rhythm.Length
import Tonality.Proofs.Rhythm.Groups
import Tonality.Proofs.Rhythm.Notes
import Tonality.Proofs.Rhythm.Measures
import Tonality.Proofs.Chord.Symbol
import Tonality.Proofs.Pitch.Spelling
import Tonality.Proofs.Key.Degrees
import Tonality.Proofs.Key.Canonical
import Tonality.Proofs.Numeral.Written
import Tonality.Proofs.Harmony.Modification
import Tonality.Proofs.Voicing
import Tonality.Proofs.Harmony.Resolution
import Tonality.Proofs.Harmony.Relation
import Tonality.Proofs.Numeral.Grammar
import Tonality.Proofs.Numeral.Printed
import Tonality.Proofs.Harmony.Agreement
import Tonality.Proofs.Progression.Vocabulary
import Tonality.Proofs.Progression.Walk
import Tonality.Proofs.Voicing.Bass
import Tonality.Proofs.Harmony.Closure
import Tonality.Proofs.Harmony.Equivariance
import Tonality.Proofs.Harmony.Letters
import Tonality.Proofs.Progression.Chords
import Tonality.Proofs.Key.Form
import Tonality.Proofs.Harmony.Reached
import Tonality.Proofs.Key.Grammar
import Tonality.Proofs.Progression.Complete
import Tonality.Proofs.Rejection
import Tonality.Proofs.Session
import Tonality.Proofs.Rhythm.Faults
import Tonality.Proofs.Voicing.Register
import Tonality.Proofs.Harmony.Inversion
import Tonality.Proofs.Harmony.Seventh
import Tonality.Proofs.Rhythm.Boundaries
import Tonality.Proofs.Rhythm.Ties
import Tonality.Proofs.Chance
import Tonality.Proofs.Progression.Targets
import Tonality.Proofs.Spend
import Tonality.Proofs.Progression.Extension
import Tonality.Proofs.Rhythm.Bars
import Tonality.Proofs.Chord.Grammar
import Tonality.Proofs.Keyboard.Range
import Tonality.Proofs.Keyboard.Pool
import Tonality.Proofs.Harmony.Variant
import Tonality.Proofs.Weighted
