import FarmSetup.Roster
/-!
Operations of the farm list that wait for a directory probe, and the schedule that runs several
of them at once. Operations start one at a time, in order, and a group among them lines its
members up behind every operation already waiting to start. Once all have started, probes are
answered one at a time, in the order they were asked; a waiting operation resumes when its
probe is answered and runs on until it finishes or asks for the next probe, which queues behind
those already asked. Nothing else interrupts an operation.

Routing handles the parcels that were buffered when it started, each once and in order: a
validity update marks the list changed, a deletion removes its identity if listed, a request
for a chooser asks the chooser, whose answers are given in turn, and selects the chosen
directory for an entry the list still holds. Parcels sent meanwhile wait for the next routing.
-/

namespace FarmSetup

/-- Routing in progress: the parcels still to handle, whether the list changed, the chooser's
answers still to give (none when there is no chooser), and the chooser's calls so far, each
with the identity and its position then. -/
structure Routing where
  pending : List Parcel
  changed : Bool
  answers : Option (List (Option Path))
  calls : List (EntryId × Nat)

/-- An operation waiting for a probe of a path. -/
inductive Waiting where
  /-- An entry's first validation. -/
  | joining (id : EntryId) (farm : Farm) (path : Path)
  /-- A directory selection with its ticket, then the rest of a routing, if it came from one. -/
  | selecting (id : EntryId) (ticket : Nat) (path : Path) (rest : Option Routing)

/-- What an operation that may wait gives back when it finishes. -/
inductive Outcome where
  | joined (id : EntryId)
  | selected
  | routed (changed : Bool) (calls : List (EntryId × Nat))

/-- How far an operation got: finished with a result, or waiting for a probe. -/
inductive Progress (ρ : Type) where
  | finished (r : ρ)
  | waiting (w : Waiting)

/-- Operations to run together: one operation, or a group whose members run together, each as a
task of its own. -/
inductive Plan (α : Type) where
  | one (op : α)
  | group (members : List (Plan α))

namespace Plan

instance {α : Type} : Inhabited (Plan α) := ⟨group []⟩

mutual

/-- The number of operations and groups in a plan. -/
def size {α : Type} : Plan α → Nat
  | one _ => 1
  | group members => sizeAll members + 1

/-- The number of operations and groups in plans. -/
def sizeAll {α : Type} : List (Plan α) → Nat
  | [] => 0
  | p :: ps => p.size + sizeAll ps

end

mutual

/-- The results of a plan at a place, an operation's found with its place among `found`; an
operation without one is left out. -/
def fill {α ρ : Type} (found : List (List Nat × ρ)) (place : List Nat) : Plan α → Option (Plan ρ)
  | one _ => (found.find? (·.1 == place)).map fun (_, v) => one v
  | group members => some (group (fillAll found place 0 members))

/-- The results of the plans at the places after `place`, from position `k` on. -/
def fillAll {α ρ : Type} (found : List (List Nat × ρ)) (place : List Nat) (k : Nat) :
    List (Plan α) → List (Plan ρ)
  | [] => []
  | p :: ps =>
    match fill found (place ++ [k]) p with
    | some q => q :: fillAll found place (k + 1) ps
    | none => fillAll found place (k + 1) ps

end

end Plan

namespace Waiting

/-- The path the operation waits to have probed. -/
def path : Waiting → Path
  | joining _ _ p => p
  | selecting _ _ p _ => p

/-- A bound on how many more times the operation can wait. -/
def weight : Waiting → Nat
  | joining .. => 1
  | selecting _ _ _ none => 1
  | selecting _ _ _ (some r) => 1 + r.pending.length

end Waiting

namespace Roster

/-- Starts adding an entry for a farm: it waits for its probe if it has a directory. -/
def startAdd (r : Roster) (farm : Farm) : Roster × Progress Outcome :=
  let (r, id) := r.reserve
  match farm.path with
  | some p => (r, .waiting (.joining id farm p))
  | none => (r.enroll id farm false, .finished (.joined id))

/-- Starts a directory selection on a held entry. -/
def startSelectOn (r : Roster) (e : Entry) (path : Path) (rest : Option Routing) : Roster × Waiting :=
  let (e', ticket) := e.startSelect
  (r.keep e', .selecting e.id ticket path rest)

/-- Starts a directory selection on an entry of the list. -/
def startSelect (r : Roster) (id : EntryId) (path : Path) : Except RosterError (Roster × Waiting) :=
  (r.entry id).map fun e => r.startSelectOn e path none

/-- Routes parcels until all are handled or a selection has to wait for its probe. -/
def route (r : Roster) (rt : Routing) : Roster × Progress Outcome :=
  match _h : rt.pending with
  | [] => (r, .finished (.routed rt.changed rt.calls))
  | p :: rest =>
    let rt := { rt with pending := rest }
    match p with
    | .event ⟨.validityUpdate, _⟩ => r.route { rt with changed := true }
    | .event ⟨.delete, id⟩ =>
      match r.remove id with
      | .ok r' => r'.route { rt with changed := true }
      | .error _ => (r.note ⟨.warning, .list, .unknownDelete id (r.indexOf id)⟩).route rt
    | .event ⟨.openDirectory, id⟩ =>
      match rt.answers with
      | none => (r.note ⟨.warning, .list, .noChooser⟩).route rt
      | some answers =>
        let rt := { rt with answers := some answers.tail, calls := rt.calls ++ [(id, r.indexOf id)] }
        match answers.head?.getD none, r.entry id with
        | some path, .ok e =>
          let (r', w) := r.startSelectOn e path (some rt)
          (r', .waiting w)
        | _, _ => r.route rt
    | .stray _ lit => (r.note ⟨.warning, .list, .unexpected lit⟩).route rt
termination_by rt.pending.length
decreasing_by all_goals simp [_h]

/-- Starts routing the parcels buffered now, with a chooser's answers or none. -/
def startRoute (r : Roster) (answers : Option (List (Option Path))) : Roster × Progress Outcome :=
  let (parcels, c) := r.channel.drain
  { r with channel := c }.route ⟨parcels, false, answers, []⟩

/-- Resumes a waiting operation with its probe's answer. -/
def resume (r : Roster) (w : Waiting) (writable : Bool) : Roster × Progress Outcome :=
  match w with
  | .joining id farm _ => (r.enroll id farm writable, .finished (.joined id))
  | .selecting id ticket path rest =>
    let r := match r.held? id with
      | some e => r.update e fun e => e.finishSelect ticket path writable
      | none => r
    match rest with
    | none => (r, .finished .selected)
    | some rt => r.route rt

/-- Starts the operations of a line in turn: each runs until it finishes or waits for a probe,
and a group puts its members at the end of the line, so they start after every task that was
already waiting to start. Each operation carries its place, the positions that lead to it in
the plans. `look` is called before each starts and after each finishes. -/
def launch {σ ρ α : Type} (look : Roster → σ → σ) (start : Roster → σ → α → Roster × σ × Progress ρ) :
    Nat → Roster → σ → List (List Nat × Plan α) → List (List Nat × ρ) → List (List Nat × Waiting) →
      Roster × σ × List (List Nat × ρ) × List (List Nat × Waiting)
  | 0, r, s, _, done, queue => (r, s, done, queue)
  | _ + 1, r, s, [], done, queue => (r, s, done, queue)
  | fuel + 1, r, s, (place, .one op) :: line, done, queue =>
    match start r (look r s) op with
    | (r, s, .finished v) => launch look start fuel r (look r s) line (done ++ [(place, v)]) queue
    | (r, s, .waiting w) => launch look start fuel r s line done (queue ++ [(place, w)])
  | fuel + 1, r, s, (place, .group members) :: line, done, queue =>
    let joining := members.zipIdx.map fun (m, k) => (place ++ [k], m)
    launch look start fuel r (look r s) (line ++ joining) done queue

/-- Answers probes in the order asked and resumes their operations, until none waits; each
result is kept with its operation's place. -/
def drive {σ ρ : Type} (look : Roster → σ → σ) (embed : Outcome → ρ) :
    Nat → Roster → σ → List (List Nat × Waiting) → List (List Nat × ρ) → Roster × σ × List (List Nat × ρ)
  | 0, r, s, _, done => (r, s, done)
  | _ + 1, r, s, [], done => (r, s, done)
  | fuel + 1, r, s, (place, w) :: queue, done =>
    let (r, ok) := r.probe w.path
    match r.resume w ok with
    | (r, .finished o) => drive look embed fuel r (look r s) queue (done ++ [(place, embed o)])
    | (r, .waiting w') => drive look embed fuel r s (queue ++ [(place, w')]) done

/-- Runs plans together: every operation starts, in the order `launch` gives, and runs until it
finishes or waits for a probe; then probes are answered in order. The results have the shape of
the plans. -/
def together {σ ρ α : Type} (look : Roster → σ → σ) (start : Roster → σ → α → Roster × σ × Progress ρ)
    (embed : Outcome → ρ) (r : Roster) (s : σ) (plans : List (Plan α)) : Roster × σ × List (Plan ρ) :=
  let line := plans.zipIdx.map fun (p, k) => ([k], p)
  let (r, s, done, queue) := launch look start (Plan.sizeAll plans + 1) r s line [] []
  let fuel := queue.foldl (fun n (_, w) => n + w.weight) 0 + 1
  let (r, s, done) := drive look embed fuel r s queue done
  (r, s, Plan.fillAll done [] 0 plans)

/-- Runs one operation that may wait, to its end. -/
def finish (r : Roster) (start : Roster × Progress Outcome) : Roster × Option Outcome :=
  let (r, _, out) := together (fun _ s => s) (fun _ s (_ : Unit) => (start.1, s, start.2)) id
    r () [.one ()]
  match out with
  | [.one o] => (r, some o)
  | _ => (r, none)

/-- The list built from farms, each added and validated in turn. -/
def ofFarms (r : Roster) (farms : List Farm) : Roster :=
  farms.foldl (fun r farm => (finish r (r.startAdd farm)).1) r

end Roster

end FarmSetup
