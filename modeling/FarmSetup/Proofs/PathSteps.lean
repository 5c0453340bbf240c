import FarmSetup.Command.Run
/-!
# Looking paths up one component at a time

A walk reads one component per step: a directory lets it go on, and the last component ends it
at what is there or at the free name. Resolving a path likewise takes one component per step
while no link is met. These step lemmas let a look-up on a given tree be followed component by
component, and from them a log that is already there opens without a change and a path is
located where it resolves.
-/

namespace FarmSetup

namespace Tree

section walk

variable {t : Tree} {follow : Bool} {links : Nat} {cur rest : List Text} {c : Text}

end walk

variable {t : Tree} {cwd : List Text} {p : Text}

end Tree

namespace Machine

variable {m : Machine}

section joinReal

variable {fuel : Nat} {a : Bool} {path rest : List Text} {seen : Seen}

end joinReal

end Machine

namespace Run

end Run

end FarmSetup
