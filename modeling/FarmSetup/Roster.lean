import FarmSetup.Entry
import FarmSetup.Files.Machine
/-!
The farm list and its surroundings: the machine its probes look at, the channel its entries
send through, the order of identities with their display positions, the entries whose first
validation finished and that the list still holds, every entry it ever held (a caller may keep
one after its removal), a supply of fresh identities, and the notices so far.

An identity joins the order when its entry is requested, before the entry's first validation;
the entry joins the list only if its identity is still in the order then. Removing an identity
takes it out of the order and out of the list, and renumbers the rest.
-/

namespace FarmSetup

/-- The farm list with everything it acts on. -/
structure Roster where
  machine : Machine
  channel : Channel
  order : List EntryId
  ready : List EntryId
  store : List (EntryId × Entry)
  shown : List (EntryId × Nat)
  fresh : Nat
  journal : Array Notice

/-- Why a farm list refuses a lookup. -/
inductive RosterError where
  /-- No entry with the identity has finished validation and is still held. -/
  | notReady (id : EntryId) (index : Nat)
  /-- The identity is not in the order. -/
  | notListed (id : EntryId) (index : Nat)
  /-- No identity stands at the position. -/
  | noPosition (pos : Int)
deriving DecidableEq

namespace RosterError

/-- The message of a refused lookup, given the name of each identity. -/
def message (name : EntryId → Text) : RosterError → Text
  | notReady id idx => Text.ofString "No initialized farm with identity " ++ Message.identity name id idx
  | notListed id idx => Text.ofString "No farm with identity " ++ Message.identity name id idx
  | noPosition pos => Text.ofString ("No farm at position " ++ toString pos)

end RosterError

namespace Roster

/-- An empty list on a machine, with a channel of a capacity (zero or less for none). -/
def create (m : Machine) (capacity : Int) : Roster :=
  ⟨m, Channel.create capacity, [], [], [], [], 0, #[]⟩

/-- Logs a notice. -/
def note (r : Roster) (n : Notice) : Roster := { r with journal := r.journal.push n }

/-- Carries out what an entry left behind: requests are sent, and a request the channel
refuses becomes a warning. -/
def apply (r : Roster) (effects : List Effect) : Roster :=
  effects.foldl (fun r fx =>
    match fx with
    | .note n => r.note n
    | .send ev =>
      match r.channel.send (.event ev) with
      | .ok c => { r with channel := c }
      | .error err => r.note ⟨.warning, .entry, .cannotSend ev.kind err⟩) r

/-- A fresh identity, never given before. -/
def freshId (r : Roster) : Roster × EntryId := ({ r with fresh := r.fresh + 1 }, ⟨r.fresh⟩)

/-- The position last given to an identity; zero for one never placed. -/
def indexOf (r : Roster) (id : EntryId) : Nat := ((r.shown.find? (·.1 == id)).map Prod.snd).getD 0

/-- Gives every identity in the order its position. -/
def renumber (r : Roster) : Roster :=
  let placed := r.order.zipIdx
  { r with shown := placed ++ r.shown.filter fun (id, _) => !r.order.contains id }

/-- The entry the list ever held under an identity, removed or not. -/
def held? (r : Roster) (id : EntryId) : Option Entry := (r.store.find? (·.1 == id)).map Prod.snd

/-- Replaces a held entry. -/
def keep (r : Roster) (e : Entry) : Roster :=
  { r with store := (r.store.filter (·.1 != e.id)) ++ [(e.id, e)] }

/-- The entry under an identity, if it finished validation and the list still holds it. -/
def entry (r : Roster) (id : EntryId) : Except RosterError Entry :=
  if r.ready.contains id then
    match r.held? id with
    | some e => .ok e
    | none => .error (.notReady id (r.indexOf id))
  else .error (.notReady id (r.indexOf id))

/-- The position of an identity in the order. -/
def position (r : Roster) (id : EntryId) : Except RosterError Nat :=
  match r.order.idxOf? id with
  | some i => .ok i
  | none => .error (.notListed id (r.indexOf id))

/-- The identity at a position; a negative position counts from the end. -/
def identityAt (r : Roster) (pos : Int) : Except RosterError EntryId :=
  let n : Int := r.order.length
  let i := if pos < 0 then pos + n else pos
  if 0 ≤ i ∧ i < n then
    match r.order[i.toNat]? with
    | some id => .ok id
    | none => .error (.noPosition pos)
  else .error (.noPosition pos)

/-- The entries the list holds, in order. -/
def entries (r : Roster) : List Entry :=
  r.order.filterMap fun id => if r.ready.contains id then r.held? id else none

/-- The farms of the list, in order. -/
def farms (r : Roster) : List Farm := r.entries.map Entry.toFarm

/-- The list is valid when it is not empty, every identity has its entry, and every entry is
valid. -/
def isValid (r : Roster) : Bool :=
  !r.order.isEmpty && r.ready.length == r.order.length && r.entries.all Entry.isValid

/-- Removes an identity from the order and its entry from the list. -/
def remove (r : Roster) (id : EntryId) : Except RosterError Roster := do
  let pos ← r.position id
  let r := { r with order := r.order.eraseIdx pos, ready := r.ready.filter (· != id) }
  return (r.renumber).note ⟨.info, .list, .removed pos⟩

/-- Closes the channel; buffered parcels are dropped, and a notice tells how many. -/
def close (r : Roster) : Roster :=
  let (n, c) := r.channel.close
  let r := { r with channel := c }
  if n > 0 then r.note ⟨.debug, .channel, .closedWith n⟩ else r

/-- Probes whether a directory takes files; an unexpected error leaves a notice. -/
def probe (r : Roster) (p : Path) : Roster × Bool :=
  match r.machine.probe p with
  | (ok, none) => (r, ok)
  | (ok, some note) => (r.note ⟨.debug, .probe, .probeFailed note⟩, ok)

/-- Requests an entry into the list: its identity joins the order at the end. -/
def reserve (r : Roster) : Roster × EntryId :=
  let (r, id) := r.freshId
  ({ r with order := r.order ++ [id] }.renumber, id)

/-- Finishes an entry's first validation; the entry joins the list only if its identity is
still in the order. -/
def enroll (r : Roster) (id : EntryId) (farm : Farm) (writable : Bool) : Roster :=
  let (e, fx) := Entry.initial id farm.path farm.size writable
  let r := r.apply fx
  if r.order.contains id then { r.keep e with ready := r.ready ++ [id] }
  else r.note ⟨.info, .list, .removedEarly id⟩

/-- Applies a step to a held entry and carries out what it left. -/
def update (r : Roster) (e : Entry) (step : Entry → Entry × List Effect) : Roster :=
  let (e', fx) := step e
  (r.keep e').apply fx

/-- Applies a new size text to the entry under an identity, if the list holds it. -/
def changeSize (r : Roster) (id : EntryId) (text : Text) : Except RosterError Roster :=
  (r.entry id).map fun e => r.update e fun e => e.changeSize text

end Roster

end FarmSetup
