/-!
The package's log. It has one handler, attached when it is first configured,
and one level, which every handler takes over: everything when verbose, and
warnings otherwise.
-/

namespace Tonality

inductive Level
  | debug
  | warning
  deriving DecidableEq, Repr

def Level.rank : Level → Nat
  | debug => 10
  | warning => 30

structure Logger where
  name : String
  handlers : List Level
  level : Option Level
  deriving DecidableEq, Repr

namespace Logger

def fresh : Logger := ⟨"tonalgen", [], none⟩

/-- Configuring again changes levels and adds no second handler. -/
def setVerbose (l : Logger) (verbose : Bool) : Logger :=
  let level : Level := if verbose then .debug else .warning
  { l with handlers := List.replicate (max 1 l.handlers.length) level, level := some level }

def states (l : Logger) : List Bool → List Logger
  | [] => []
  | v :: vs => l.setVerbose v :: (l.setVerbose v).states vs

end Logger
end Tonality
