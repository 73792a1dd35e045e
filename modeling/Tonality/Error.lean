import Tonality.Text.Integer
import Tonality.Text.Quoted

/-!
Every way in which an operation of the library can fail, one constructor for
each cause, together with the wording of the report and the kind of fault that
it is. Constructors carry what the report shows.
-/

namespace Tonality

/-- The kind of fault behind an error. A wrong key or meter is also a wrong input. -/
inductive Kind
  | input
  | key
  | signature
  | meter
  | theory
  | generation
  | pitch
  | accidental
  | interval
  | badValue
  | overflow
  | memory
  | zeroDivision
  | noElement
  | noEntry
  deriving DecidableEq, Repr

inductive Error
  -- spelled notes and intervals
  | emptyName
  | octaveFirst
  | octaveTooLong
  | unknownStep (step : String)
  | unknownAccidental (written : String)
  | unknownInterval (name : String)
  | intervalTooLong
  | impossibleInterval (name : String)
  | noSpecifier (size : String) (offset : Int)
  | noLetter (step : Int)
  | emptySpelling
  -- chords
  | unknownChord (symbol : String)
  | notTertian (root third fifth : String)
  -- keys
  | unreadableKey (name : String)
  | unknownMode (mode name : String)
  | unusableTonic (tonic name : String)
  | quarterToneKey
  -- numerals
  | emptyNumeral
  | unreadableNumeral (text : String)
  | oneSidedSlash (text : String)
  | invalidBase (base : String)
  -- harmony
  | keyMissingForChord (numeral : String)
  | keyMissing (numeral : String)
  | degreeOutOfRange (index : Int) (numeral : String)
  | degreeOutside (index : Int)
  | degreeNotFound (index : Int) (numeral key source : String)
  | noDefaultSeventh (triad : String) (index : Int) (key : String)
  | degreeWithoutSeventh (index : Int)
  | noSeventhChord (numeral chord : String)
  | invalidTarget (target : String)
  -- voicing
  | unknownKeyMode (mode : String)
  | intervalMissing (token : String)
  | unresolvedBass (bass chord : String)
  | invertedRange (low high : Int)
  -- meters and rhythm
  | meterNotText (value : String)
  | unreadableMeter (text : String)
  | meterFieldTooLong
  | meterNotPositive (text : String)
  | unsupportedUnit (unit : Int) (text : String)
  | unsupportedMeter (text : String)
  | zeroLength
  | complexityOutside (value : String)
  | noNoteFits (room position meter : String)
  | measureMismatch (meter expected actual : String)
  | emptyCell
  -- choices
  | noWeightedCandidates
  | weightCount (weights candidates : Nat)
  | unusableWeights (weights : String)
  | unbalancedShares
  | noUniformCandidates
  -- numbers
  | beyondWord (number : Int)
  | rowTooLong (entries : Int)
  | negativeSeed (seed : Int)
  | notANumber
  | infiniteNumber
  | tooLargeForDouble
  | integerTooLong
  -- difficulty
  | unknownStyle (style : String)
  deriving DecidableEq, Repr

namespace Error

def kind : Error → Kind
  | emptyName | unknownStep _ => .pitch
  | unknownAccidental _ => .accidental
  | unknownInterval _ | impossibleInterval _ | noSpecifier .. => .interval
  | noLetter _ | emptySpelling | emptyCell => .noElement
  | unreadableKey _ | unknownMode .. | unusableTonic .. => .key
  | quarterToneKey => .signature
  | keyMissingForChord _ | keyMissing _ | unknownKeyMode _ | invertedRange ..
  | complexityOutside _ | unknownStyle _ => .input
  | unknownChord _ | notTertian .. | emptyNumeral | unreadableNumeral _ | oneSidedSlash _
  | invalidBase _ | degreeOutOfRange .. | degreeOutside _ | degreeNotFound ..
  | noDefaultSeventh .. | noSeventhChord .. | invalidTarget _ | intervalMissing _
  | unresolvedBass .. => .theory
  | degreeWithoutSeventh _ => .noEntry
  | meterNotText _ | unreadableMeter _ | meterNotPositive _ | unsupportedUnit ..
  | unsupportedMeter _ => .meter
  | octaveFirst | octaveTooLong | intervalTooLong | meterFieldTooLong | unbalancedShares
  | negativeSeed _ | notANumber | integerTooLong => .badValue
  | rowTooLong _ => .memory
  | beyondWord _ | infiniteNumber | tooLargeForDouble => .overflow
  | zeroLength => .zeroDivision
  | noNoteFits .. | measureMismatch .. | noWeightedCandidates | weightCount ..
  | unusableWeights _ | noUniformCandidates => .generation

def message : Error → String
  | emptyName => "Cannot make a name out of ''"
  | octaveFirst => "The octave of a note stands before its letter."
  | octaveTooLong => "The octave of a note has more digits than can be read."
  | unknownStep step => s!"Cannot make a step out of {Text.quoted step}"
  | unknownAccidental written => s!"{written} is not a supported accidental type"
  | unknownInterval name => s!"Cannot read an interval from '{name}'"
  | intervalTooLong => "The number of an interval has more digits than can be read."
  | impossibleInterval name => s!"Cannot create a '{name}'"
  | noSpecifier size offset =>
    s!"cannot get a specifier for a note with this many semitones off of {size}: {offset}"
  | noLetter step => s!"No letter stands {step} steps above C."
  | emptySpelling => "A note name without any letter cannot be altered."
  | unknownChord symbol => s!"Unrecognized chord symbol '{symbol}'."
  | notTertian root third fifth =>
    s!"Notes {root}-{third}-{fifth} do not form a tertian triad."
  | unreadableKey name => s!"Could not parse key name '{name}'."
  | unknownMode mode name => s!"Could not infer a mode from '{mode}' in key name '{name}'."
  | unusableTonic tonic name =>
    s!"Tonic '{tonic}' in key name '{name}' has no canonical key signature."
  | quarterToneKey => "Cannot determine sharps for quarter-tone keys! silly!"
  | emptyNumeral => "Could not parse base Roman numeral from an empty string."
  | unreadableNumeral text =>
    s!"Could not parse base Roman numeral from '{text}'. Check format."
  | oneSidedSlash text => s!"Slash notation in '{text}' needs text on both sides."
  | invalidBase base => s!"Invalid base Roman numeral '{base}'."
  | keyMissingForChord numeral => s!"Invalid key details provided for chord '{numeral}'."
  | keyMissing numeral => s!"Invalid key details provided for '{numeral}'."
  | degreeOutOfRange index numeral =>
    s!"Scale degree index {index} ({numeral}) is out of range 0-6."
  | degreeOutside index => s!"Scale degree index {index} is out of range 0-6."
  | degreeNotFound index numeral key source =>
    s!"Diatonic chord for scale degree {index} ({numeral}) not found in key {key}. " ++
      s!"{source} chords array is too short or undefined."
  | noDefaultSeventh triad index key =>
    s!"No default seventh for a {triad} triad on degree {index} of {key}."
  | degreeWithoutSeventh index => s!"No seventh chord stands on degree {index}."
  | noSeventhChord numeral chord =>
    s!"Could not build a seventh chord for '{numeral}' on {chord}."
  | invalidTarget target => s!"Invalid secondary target '{target}'."
  | unknownKeyMode mode => s!"Unknown key mode '{mode}'."
  | intervalMissing token => s!"Interval '{token}' does not exist."
  | unresolvedBass bass chord => s!"Cannot resolve bass interval '{bass}' for chord '{chord}'."
  | invertedRange low high => s!"Invalid range: low {low} is greater than high {high}."
  | meterNotText value => s!"Meter must be a string like '4/4', got {value}."
  | unreadableMeter text =>
    s!"Invalid meter string '{text}'. Expected 'beats/unit', e.g. '4/4'."
  | meterFieldTooLong => "A meter field has more digits than can be read."
  | meterNotPositive text => s!"Meter fields must be positive integers in '{text}'."
  | unsupportedUnit unit text =>
    s!"Unsupported beat unit {unit} in '{text}'. Use one of: 1, 2, 4, 8, 16, 32."
  | unsupportedMeter text => s!"Unsupported or uncommon meter '{text}'."
  | zeroLength => "A fraction of a whole note has denominator zero."
  | complexityOutside value => s!"Complexity must be integer 1-10. Got {value}"
  | noNoteFits room position meter =>
    s!"No note value fits {room} at position {position} in {meter}."
  | measureMismatch meter expected actual =>
    s!"Internal rhythm generation mismatch for {meter}: expected {expected} got {actual}."
  | emptyCell => "A cell without events has no weight."
  | noWeightedCandidates => "Weighted choice called with no candidates."
  | weightCount weights candidates => s!"Got {weights} weights for {candidates} candidates."
  | unusableWeights weights =>
    s!"Weights must be non-negative with a positive total, got {weights}."
  | unbalancedShares => "The shares of a weighted choice do not add up to one."
  | noUniformCandidates => "Uniform choice called with no candidates."
  | beyondWord number => s!"The number {number} does not fit into 64 bits."
  | rowTooLong entries => s!"A row of {entries} entries does not fit into memory."
  | negativeSeed seed => s!"A seed is not negative, got {seed}."
  | notANumber => "A number was wanted that is not one."
  | infiniteNumber => "An infinite number has no integer part."
  | tooLargeForDouble => "An integer is too large for a double."
  | integerTooLong => "An integer has more digits than can be written out."
  | unknownStyle style => s!"Unknown generation style '{style}'."

/-- A fault whose report shows integers, and another one where these cannot be written out. -/
def showing (ns : List Int) (fault : Error) : Error :=
  if ns.all Text.isWritable then fault else .integerTooLong

theorem kind_showing (ns : List Int) (fault : Error) :
    (showing ns fault).kind = if ns.all Text.isWritable then fault.kind else .badValue := by
  unfold showing
  split <;> rfl

end Error
end Tonality
