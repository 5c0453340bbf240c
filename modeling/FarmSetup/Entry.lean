import FarmSetup.Field
import FarmSetup.Farm
import FarmSetup.ByteSize
import FarmSetup.Notice
/-!
A farm entry: one directory and one size, each a validated field, and the number of the latest
directory selection. Every step returns the new entry and what it leaves behind: requests for
its list and notices. The entry never sees whether a request arrives, so a closed or full
channel cannot change it.

A directory selection is two steps. Starting one takes the next ticket; the probe's answer is
applied only if no later selection started meanwhile, so the last selection issued wins. An
applied answer or a size edit is one update cycle: all four change flags are cleared, the field
is set, and a validity update is requested exactly when the entry's validity flipped in that
cycle.
-/

namespace FarmSetup

/-- What a step of an entry leaves behind. -/
inductive Effect where
  /-- A request to send to the list. -/
  | send (e : Event)
  /-- A notice to log. -/
  | note (n : Notice)
deriving DecidableEq

/-- A farm entry. -/
structure Entry where
  id : EntryId
  path : Field (Option Path)
  size : Field Text
  generation : Nat
deriving DecidableEq

namespace Entry

/-- An entry is valid when both its fields are. -/
def isValid (e : Entry) : Bool := e.path.valid && e.size.valid

/-- Whether to show that the chosen directory is missing or not writable. -/
def showPathError (e : Entry) : Bool := !e.path.valid && e.path.value.isSome

/-- The farm an entry stands for. -/
def toFarm (e : Entry) : Farm := ⟨e.path.value, e.size.value⟩

/-- The entry after its first validation, given whether its directory, if any, takes files.
It always requests a validity update, since its list may have been drawn before. -/
def initial (id : EntryId) (path : Option Path) (size : Text) (writable : Bool) : Entry × List Effect :=
  let pathValid := path.isSome && writable
  let e : Entry := ⟨id, Field.create path pathValid, Field.create size (sizeIsValid size), 0⟩
  (e, [.note ⟨.info, .entry, .initialized id pathValid e.size.valid⟩,
       .send ⟨.validityUpdate, id⟩])

/-- Clears all four change flags, as each update cycle starts. -/
def beginCycle (e : Entry) : Entry :=
  { e with path := e.path.resetFlags, size := e.size.resetFlags }

/-- What a cycle leaves when the validity before it was `was`: a notice and a validity update
if the validity flipped, nothing otherwise. -/
def flipEffects (was : Bool) (e : Entry) : List Effect :=
  if was != e.isValid then
    [.note ⟨.debug, .entry, .flipped e.id was e.isValid⟩, .send ⟨.validityUpdate, e.id⟩]
  else []

/-- Applies a new size text; a text that is no valid size is kept, so it can be corrected. -/
def changeSize (e : Entry) (text : Text) : Entry × List Effect :=
  let was := e.isValid
  let c := e.beginCycle
  let e' := { c with size := (c.size.setValidity (sizeIsValid text)).replaceValue text }
  (e', flipEffects was e')

/-- Starts a directory selection: the entry with its new selection number, which is the
selection's ticket. -/
def startSelect (e : Entry) : Entry × Nat :=
  ({ e with generation := e.generation + 1 }, e.generation + 1)

/-- Applies the probe's answer for the selection with a ticket, unless a later selection has
started since; a stale answer changes nothing and only leaves a notice. -/
def finishSelect (e : Entry) (ticket : Nat) (path : Path) (writable : Bool) : Entry × List Effect :=
  if ticket != e.generation then
    (e, [.note ⟨.debug, .entry, .stale path ticket e.generation⟩])
  else
    let was := e.isValid
    let c := e.beginCycle
    let e' := { c with path := (c.path.setValidity writable).replaceValue (some path) }
    (e', flipEffects was e')

/-- A request the entry sends about itself. -/
def request (e : Entry) (kind : EventKind) : List Effect := [.send ⟨kind, e.id⟩]

/-- The description of an entry, given the name and position of its identity. -/
def describe (name : EntryId → Text) (index : Nat) (e : Entry) : Text :=
  Text.ofString "FarmEntry(identity=" ++ Message.identity name e.id index ++
    Text.ofString ", path=" ++ ((e.path.value.map Path.toText).getD (Text.ofString "None")) ++
    Text.ofString ", size=" ++ Literal.quoteText e.size.value ++
    Text.ofString ", valid=" ++ Message.truth e.isValid ++ Text.ofString ")"

@[simp] theorem beginCycle_isValid (e : Entry) : e.beginCycle.isValid = e.isValid := rfl
@[simp] theorem startSelect_isValid (e : Entry) : e.startSelect.1.isValid = e.isValid := rfl

end Entry

end FarmSetup
