import WindowedLsb.Lint.Grammar.Attribute
import WindowedLsb.Proofs.Lint.Runs

/-!
Which attributes count: documentation goes by the path alone, and the mark of what is for tests only
has the path and the argument of the test configuration and nothing else.
-/

namespace WindowedLsb.Lint

/-! ## Attributes -/

namespace Grammar

open WindowedLsb.Lint.Parser

variable {g : Grammar} {i j k : Input} {a : Attributes} {w : String}

end Grammar

namespace Attributes

end Attributes
end WindowedLsb.Lint
