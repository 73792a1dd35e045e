import Tonality.Command.Run

/-!
The command line itself: where a request names no seed, one is taken from the
system. The answer is printed and its exit code returned.
-/

open Tonality Command

def main (args : List String) : IO UInt32 := do
  let fresh ← IO.rand 0 0x4000000000000000
  let outcome := answer args fun r => r.seeded fun seed => Draws.ofSeed (seed.getD fresh)
  IO.print outcome.stdout
  IO.eprint outcome.stderr
  if outcome.exit = 2 then IO.eprintln "Usage: tonalgen [OPTIONS] COMMAND [ARGS]..."
  pure outcome.exit.toUInt32
