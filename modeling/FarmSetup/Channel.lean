import FarmSetup.Text.Point
/-!
The channel from farm entries to their list. An entry asks for a directory chooser, for its
own removal, or tells that its validity changed; each request names the entry. The channel
is a first-in, first-out buffer with an optional capacity: a send fails when the channel is
closed or full, and then buffers nothing. Draining hands over every buffered parcel in the
order sent. Closing discards what is buffered and refuses every later send.
-/

namespace FarmSetup

/-- The identity a list gives each of its entries. Identities are compared by key only. -/
structure EntryId where
  key : Nat
deriving DecidableEq, Repr

/-- What an entry asks of its list. -/
inductive EventKind where
  | validityUpdate
  | delete
  | openDirectory
deriving DecidableEq, Repr

/-- A request from an entry, naming the entry. -/
structure Event where
  kind : EventKind
  id : EntryId
deriving DecidableEq, Repr

/-- What travels through the channel: an event, or a stray value of another kind, known by
the name of its kind and its literal form. -/
inductive Parcel where
  | event (e : Event)
  | stray (kindName : String) (literal : Text)
deriving DecidableEq, Repr

namespace EventKind

/-- The name of the kind of event. -/
def name : EventKind → String
  | validityUpdate => "ValidityUpdate"
  | delete => "Delete"
  | openDirectory => "OpenDirectory"

/-- The words for the kind in a report of a failed send. -/
def words : EventKind → String
  | validityUpdate => "validity update"
  | delete => "delete"
  | openDirectory => "open directory"

end EventKind

namespace Parcel

/-- The name of the kind of a parcel. -/
def kindName : Parcel → String
  | event e => e.kind.name
  | stray k _ => k

end Parcel

/-- Why a send failed, with the kind of the parcel refused. -/
inductive SendError where
  | closed (kindName : String)
  | full (kindName : String)
deriving DecidableEq, Repr

/-- The message of a failed send. -/
def SendError.message : SendError → Text
  | closed k => Text.ofString ("Receiver closed, dropping " ++ k)
  | full k => Text.ofString ("Event queue full, dropping " ++ k)

/-- The channel: its capacity (zero or less for none), the buffered parcels, oldest first, and
whether the receiving side is gone. -/
structure Channel where
  capacity : Int
  queue : List Parcel
  closed : Bool
deriving DecidableEq, Repr

namespace Channel

/-- An open, empty channel with a capacity. -/
def create (capacity : Int) : Channel := ⟨capacity, [], false⟩

/-- Whether the channel holds as many parcels as it may. -/
def isFull (c : Channel) : Bool := 0 < c.capacity && c.capacity ≤ c.queue.length

/-- Sends a parcel: it joins the end of the buffer, unless the channel is closed or full. -/
def send (c : Channel) (p : Parcel) : Except SendError Channel :=
  if c.closed then .error (.closed p.kindName)
  else if c.isFull then .error (.full p.kindName)
  else .ok { c with queue := c.queue ++ [p] }

/-- Takes every buffered parcel, oldest first. -/
def drain (c : Channel) : List Parcel × Channel := (c.queue, { c with queue := [] })

/-- Closes the channel; returns how many buffered parcels were discarded. -/
def close (c : Channel) : Nat × Channel := (c.queue.length, { c with queue := [], closed := true })

@[simp] theorem drain_fst (c : Channel) : c.drain.1 = c.queue := rfl
@[simp] theorem drain_queue (c : Channel) : c.drain.2.queue = [] := rfl

theorem send_queue {c d : Channel} {p : Parcel} (h : c.send p = .ok d) :
    d.queue = c.queue ++ [p] := by
  unfold send at h
  split at h
  · cases h
  · split at h
    · cases h
    · cases h; rfl

end Channel

end FarmSetup
