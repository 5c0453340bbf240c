import FarmSetup.Channel
import FarmSetup.Path
/-!
Notices: the log records the farm list and its entries leave behind. Each has a level, the
part of the program that speaks, and a message whose identities stay symbolic until the notice
is written, so that a reader can name them as it likes. A message that names an identity with
its position carries the position it had when the notice was made.
-/

namespace FarmSetup

/-- How much a notice matters. -/
inductive Level where
  | debug
  | info
  | warning
deriving DecidableEq, Repr

/-- The part of the program that speaks. -/
inductive Source where
  | entry
  | list
  | channel
  | probe
deriving DecidableEq, Repr

/-- What a notice says. -/
inductive Message where
  /-- An entry finished its first validation. -/
  | initialized (id : EntryId) (pathValid sizeValid : Bool)
  /-- An entry's overall validity changed. -/
  | flipped (id : EntryId) (was now : Bool)
  /-- A selection's probe came back after a newer selection started. -/
  | stale (path : Path) (ticket current : Nat)
  /-- A farm left the list from a position. -/
  | removed (position : Nat)
  /-- An entry was removed before its first validation finished. -/
  | removedEarly (id : EntryId)
  /-- A deletion named an identity the list does not hold; with its position then. -/
  | unknownDelete (id : EntryId) (index : Nat)
  /-- A chooser was asked for, but none was given. -/
  | noChooser
  /-- A parcel that is no event, by its literal form. -/
  | unexpected (literal : Text)
  /-- The channel was closed with parcels still buffered. -/
  | closedWith (count : Nat)
  /-- An entry could not send a request. -/
  | cannotSend (kind : EventKind) (err : SendError)
  /-- A probe met an unexpected error. -/
  | probeFailed (note : Text)
deriving DecidableEq

/-- A log record. -/
structure Notice where
  level : Level
  source : Source
  message : Message
deriving DecidableEq

namespace Level

/-- The level's name. -/
def name : Level → String
  | debug => "DEBUG"
  | info => "INFO"
  | warning => "WARNING"

end Level

namespace Source

/-- The name the part of the program logs under. -/
def name : Source → String
  | entry => "farm_config.farm_entry"
  | list => "farm_config.farm_list"
  | channel => "farm_config.sender"
  | probe => "farm_config.validation"

end Source

namespace Message

/-- The words for a truth value. -/
def truth (b : Bool) : Text := Text.ofString (if b then "True" else "False")

/-- How an identity is written, given its name and position. -/
def identity (name : EntryId → Text) (id : EntryId) (index : Nat) : Text :=
  Text.ofString "StableId(" ++ name id ++ Text.ofString ", display_index=" ++ Text.ofNat index ++
    Text.ofString ")"

/-- The text of a message, given the name of each identity. -/
def text (name : EntryId → Text) : Message → Text
  | initialized .. => Text.ofString "Farm entry initialized"
  | flipped id was now => Text.ofString "Farm " ++ name id ++ Text.ofString " validity changed: " ++
      truth was ++ Text.ofString " -> " ++ truth now
  | stale p ticket current => Text.ofString "Discarding stale probe for " ++ p.toText ++
      Text.ofString (" (generation " ++ toString ticket ++ ", current " ++ toString current ++ ")")
  | removed pos => Text.ofString ("Removed farm at position " ++ toString pos)
  | removedEarly id => Text.ofString "Farm " ++ name id ++
      Text.ofString " removed before initialization finished"
  | unknownDelete id idx => Text.ofString "Delete requested for unknown farm " ++ identity name id idx
  | noChooser => Text.ofString "Open directory requested but no directory chooser is available"
  | unexpected lit => Text.ofString "Unexpected farm event: " ++ lit
  | closedWith n => Text.ofString ("OutputSender closed with " ++ toString n ++ " pending event(s)")
  | cannotSend k err => Text.ofString ("Can't send " ++ k.words ++ " output: ") ++ err.message
  | probeFailed note => note

end Message

end FarmSetup
