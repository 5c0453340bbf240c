import FarmSetup.Proofs.EntryRuns
import FarmSetup.Proofs.ListBuilding
import FarmSetup.Proofs.Lookups
/-!
# A channel that refuses requests

An entry never looks at the channel it sends through: a request that the channel refuses, being
closed or full, becomes a warning in the log and nothing else. Every operation of a farm list
short of routing reaches the channel only by sending, and reads neither the channel nor the log.
So two lists alike but for their channels and logs stay alike under the same operations, and what
the second channel takes is part of what the first takes, in the same order.

`Roster.Carries f r effects` says this of one operation `f` at a list `r`: changing the channel
and the log before it changes only the channel and the log after it, and the channel gains part
of the parcels `effects` sends, all of them when it takes everything. A run interleaves the
list's operations with others acting on the channel, who may close, fill or drain it at any
point. Main statement: `ChannelRun.run_ignores_channel`.
-/

namespace FarmSetup

/-- The parcels a list of effects sends, in order. -/
def Effect.parcels (effects : List Effect) : List Parcel :=
  (effects.filterMap Effect.event?).map Parcel.event

@[simp] theorem Effect.parcels_nil : Effect.parcels [] = [] := rfl

theorem Effect.parcels_cons (fx : Effect) (rest : List Effect) :
    Effect.parcels (fx :: rest) = Effect.parcels [fx] ++ Effect.parcels rest := by
  rw [← List.singleton_append, Effect.parcels, List.filterMap_append, List.map_append]
  rfl

namespace Channel

/-- An open channel without a capacity: it takes every send. -/
def TakesAll (c : Channel) : Prop := c.capacity ≤ 0 ∧ c.closed = false

instance : DecidablePred TakesAll := fun _ => inferInstanceAs (Decidable (_ ∧ _))

theorem send_of_takesAll {c : Channel} (h : c.TakesAll) (p : Parcel) :
    c.send p = .ok { c with queue := c.queue ++ [p] } := by
  have hfull : c.isFull = false := by simp [isFull, h.1]
  simp [send, h.2, hfull]

theorem eq_of_send {c d : Channel} {p : Parcel} (h : c.send p = .ok d) :
    d = { c with queue := c.queue ++ [p] } := by
  unfold send at h
  split at h
  · cases h
  · split at h
    · cases h
    · cases h; rfl

end Channel

namespace Roster

/-! ## Carrying out effects -/

/-- Carrying out effects adds to the channel part of the parcels they send, in order, and
changes the channel no other way. -/
theorem apply_channel (r : Roster) (effects : List Effect) :
    ∃ acc, acc.Sublist (Effect.parcels effects) ∧
      (r.apply effects).channel = { r.channel with queue := r.channel.queue ++ acc } := by
  induction effects generalizing r with
  | nil => exact ⟨[], List.nil_sublist _, by simp [apply]⟩
  | cons fx rest ih =>
    -- the first effect is sent, refused or logged; the rest go on from there
    have first : ∃ acc, acc.Sublist (Effect.parcels [fx]) ∧
        (r.apply [fx]).channel = { r.channel with queue := r.channel.queue ++ acc } := by
      cases fx with
      | note n => exact ⟨[], List.nil_sublist _, by simp [apply, note]⟩
      | send ev =>
        simp only [apply, List.foldl_cons, List.foldl_nil]
        split
        · rename_i c hc
          exact ⟨[.event ev], by simp [Effect.parcels], Channel.eq_of_send hc⟩
        · exact ⟨[], List.nil_sublist _, by simp [note]⟩
    obtain ⟨acc₁, hsub₁, h₁⟩ := first
    obtain ⟨acc₂, hsub₂, h₂⟩ := ih (r.apply [fx])
    have split_first : r.apply (fx :: rest) = (r.apply [fx]).apply rest := rfl
    refine ⟨acc₁ ++ acc₂, ?_, ?_⟩
    · rw [Effect.parcels_cons]
      exact hsub₁.append hsub₂
    · rw [split_first, h₂, h₁]
      simp

/-- A channel that takes everything takes every parcel the effects send. -/
theorem apply_channel_of_takesAll {r : Roster} (h : r.channel.TakesAll) (effects : List Effect) :
    (r.apply effects).channel = { r.channel with queue := r.channel.queue ++ Effect.parcels effects } := by
  induction effects generalizing r with
  | nil => simp [apply, Effect.parcels]
  | cons fx rest ih =>
    have first : (r.apply [fx]).channel =
        { r.channel with queue := r.channel.queue ++ Effect.parcels [fx] } := by
      cases fx with
      | note n => simp [apply, note, Effect.parcels, List.filterMap_cons]
      | send ev => simp [apply, Channel.send_of_takesAll h, Effect.parcels]
    have htakes : (r.apply [fx]).channel.TakesAll := by
      rw [first]
      exact h
    have split_first : r.apply (fx :: rest) = (r.apply [fx]).apply rest := rfl
    rw [split_first, ih htakes, first, Effect.parcels_cons fx rest]
    simp

/-- Changing the channel and the log before carrying out effects changes only the channel and
the log after. -/
theorem apply_blind (r : Roster) (effects : List Effect) (c : Channel) (js : Array Notice) :
    ∃ c' js', ({ r with channel := c, journal := js } : Roster).apply effects =
      { r.apply effects with channel := c', journal := js' } := by
  obtain ⟨c₁, js₁, h₁⟩ := apply_frame { r with channel := c, journal := js } effects
  obtain ⟨c₂, js₂, h₂⟩ := apply_frame r effects
  exact ⟨c₁, js₁, by rw [h₁, h₂]⟩

/-! ## Operations that only send -/

/-- The operation `f` at the list `r` reaches the channel only by sending the parcels of
`effects`: run on `r` with any other channel and log, it gives the same result but for its
channel and log, and that channel has gained part of the parcels, all of them when it takes
everything. -/
structure Carries {α : Type} (f : Roster → Roster × α) (r : Roster) (effects : List Effect) :
    Prop where
  blind : ∀ c js, ∃ c' js', f { r with channel := c, journal := js } =
    ({ (f r).1 with channel := c', journal := js' }, (f r).2)
  gain : ∀ c js, ∃ acc, acc.Sublist (Effect.parcels effects) ∧
    (f { r with channel := c, journal := js }).1.channel = { c with queue := c.queue ++ acc }
  gain_all : ∀ c js, c.TakesAll →
    (f { r with channel := c, journal := js }).1.channel =
      { c with queue := c.queue ++ Effect.parcels effects }

section carries

variable (r : Roster)

/-- An operation that carries out effects on a list that differs from `r` only by a step that is
blind to channel and log and keeps the channel. -/
theorem Carries.of_apply {α : Type} {f : Roster → Roster × α} (g : Roster → Roster) (effects : List Effect)
    (hf : ∀ c js, f { r with channel := c, journal := js } =
      ((g { r with channel := c, journal := js }).apply effects, (f r).2))
    (hg : ∀ c js, g { r with channel := c, journal := js } = { g r with channel := c, journal := js }) :
    Carries f r effects where
  blind c js := by
    obtain ⟨c', js', h⟩ := apply_blind (g r) effects c js
    refine ⟨c', js', ?_⟩
    rw [hf, hg, h, show r = { r with channel := r.channel, journal := r.journal } from rfl, hf, hg]
  gain c js := by
    obtain ⟨acc, hsub, h⟩ := apply_channel { g r with channel := c, journal := js } effects
    exact ⟨acc, hsub, by rw [hf, hg, h]⟩
  gain_all c js hc := by
    rw [hf, hg, apply_channel_of_takesAll (r := { g r with channel := c, journal := js }) hc]

theorem carries_apply (effects : List Effect) :
    Carries (fun r => (r.apply effects, ())) r effects :=
  Carries.of_apply r id effects (fun _ _ => rfl) (fun _ _ => rfl)

theorem carries_update (e : Entry) (step : Entry → Entry × List Effect) :
    Carries (fun r => (r.update e step, ())) r (step e).2 :=
  Carries.of_apply r (·.keep (step e).1) (step e).2 (fun _ _ => rfl) (fun _ _ => rfl)

theorem carries_startSelectOn (e : Entry) (path : Path) :
    Carries (fun r => r.startSelectOn e path none) r [] :=
  Carries.of_apply r (·.keep e.startSelect.1) [] (fun _ _ => rfl) (fun _ _ => rfl)

/-- The first validation carries out the entry's first effects, then files the entry or logs its
removal, by the order alone. -/
theorem carries_enroll (id : EntryId) (farm : Farm) (writable : Bool) :
    Carries (fun r => (r.enroll id farm writable, ())) r
      (Entry.initial id farm.path farm.size writable).2 where
  blind c js := by
    obtain ⟨c₁, js₁, h₁⟩ := apply_frame { r with channel := c, journal := js }
      (Entry.initial id farm.path farm.size writable).2
    obtain ⟨c₂, js₂, h₂⟩ := apply_frame r (Entry.initial id farm.path farm.size writable).2
    unfold enroll
    dsimp only
    rw [h₁, h₂]
    by_cases hin : r.order.contains id = true
    · simp only [hin, if_true]
      exact ⟨c₁, js₁, rfl⟩
    · simp only [hin, if_false, Bool.false_eq_true]
      exact ⟨c₁, js₁.push _, rfl⟩
  gain c js := by
    obtain ⟨acc, hsub, h⟩ := apply_channel { r with channel := c, journal := js }
      (Entry.initial id farm.path farm.size writable).2
    refine ⟨acc, hsub, ?_⟩
    unfold enroll
    dsimp only
    split <;> exact h
  gain_all c js hc := by
    have h := apply_channel_of_takesAll (r := { r with channel := c, journal := js }) hc
      (Entry.initial id farm.path farm.size writable).2
    unfold enroll
    dsimp only
    split <;> exact h

/-- Adding a farm reserves a slot, then, for a farm without a directory, validates it at once. -/
theorem carries_startAdd (farm : Farm) :
    Carries (fun r => r.startAdd farm) r
      (if farm.path.isSome then [] else (Entry.initial ⟨r.fresh⟩ farm.path farm.size false).2) := by
  cases hp : farm.path with
  | some p =>
    simp only [Option.isSome_some, if_true]
    exact Carries.of_apply r (·.reserve.1) [] (fun _ _ => by simp only [startAdd, hp]; rfl)
      (fun _ _ => rfl)
  | none =>
    simp only [Option.isSome_none, Bool.false_eq_true, if_false]
    have h := carries_enroll r.reserve.1 ⟨r.fresh⟩ farm false
    refine ⟨fun c js => ?_, fun c js => ?_, fun c js hc => ?_⟩
    · obtain ⟨c', js', h'⟩ := h.blind c js
      exact ⟨c', js', by simp only [startAdd, hp]; exact congrArg (·.1, _) h'⟩
    · obtain ⟨acc, hsub, h'⟩ := h.gain c js
      exact ⟨acc, hsub, by simp only [startAdd, hp]; exact h'⟩
    · simp only [startAdd, hp]
      exact h.gain_all c js hc

/-- An operation that gives what one carrying `effects` gives, with its own result. -/
theorem Carries.of_eq {α β : Type} {f : Roster → Roster × α} {g : Roster → Roster × β}
    {effects : List Effect} (hg : Carries g r effects) (x : α)
    (hf : ∀ c js, f { r with channel := c, journal := js } = ((g { r with channel := c, journal := js }).1, x)) :
    Carries f r effects where
  blind c js := by
    obtain ⟨c', js', h⟩ := hg.blind c js
    refine ⟨c', js', ?_⟩
    rw [hf, h, show r = { r with channel := r.channel, journal := r.journal } from rfl, hf]
  gain c js := by
    obtain ⟨acc, hsub, h⟩ := hg.gain c js
    exact ⟨acc, hsub, by rw [hf, h]⟩
  gain_all c js hc := by rw [hf, hg.gain_all c js hc]

end carries

end Roster

/-- An operation set aside that came from no routing: a first validation, or a directory
selection made on its own. -/
def Waiting.direct : Waiting → Bool
  | .joining .. => true
  | .selecting _ _ _ rest => rest.isNone

namespace Roster

/-- Answering an operation set aside that came from no routing carries out what the answer
leaves: the first validation's effects, or those of the selection's answer on the entry held
under its identity, if there is one. Either way the operation finishes. -/
theorem carries_resume (r : Roster) {w : Waiting} (hw : w.direct = true) (writable : Bool) :
    ∃ effects, Carries (fun r => r.resume w writable) r effects ∧
      (r.resume w writable).2.waiting? = none := by
  cases w with
  | joining id farm p =>
    exact ⟨_, Carries.of_eq r (carries_enroll r id farm writable) (.finished (.joined id))
      (fun _ _ => rfl), rfl⟩
  | selecting id ticket path rest =>
    have hrest : rest = none := Option.isNone_iff_eq_none.mp hw
    subst hrest
    cases hh : r.held? id with
    | some e =>
      refine ⟨_, Carries.of_eq r (carries_update r e (·.finishSelect ticket path writable))
        (.finished .selected) (fun c js => ?_), by simp [resume, hh, Progress.waiting?]⟩
      have hh' : ({ r with channel := c, journal := js } : Roster).held? id = some e := hh
      simp only [resume, hh']
    | none =>
      refine ⟨[], Carries.of_eq r (carries_apply r []) (.finished .selected) (fun c js => ?_),
        by simp [resume, hh, Progress.waiting?]⟩
      have hh' : ({ r with channel := c, journal := js } : Roster).held? id = none := hh
      simp only [resume, hh']
      rfl

end Roster

namespace ChannelRun

/-- A farm list between two routings, with the operations set aside for their probes and the
parcels its channel took. -/
structure State where
  roster : Roster
  waiting : List Waiting
  received : List Parcel

/-- What is done to a list between two routings: its own operations, an entry's own steps on an
entry it ever held, and the answer to the probe of the `k`-th operation set aside. -/
inductive Op where
  | add (farm : Farm)
  | select (id : EntryId) (path : Path)
  | changeSize (id : EntryId) (text : Text)
  | selectHeld (id : EntryId) (path : Path)
  | changeHeld (id : EntryId) (text : Text)
  | request (id : EntryId) (kind : EventKind)
  | answer (k : Nat) (writable : Bool)

/-- A turn of a run: an operation, or others acting on the channel, who may close, fill or drain
it, leaving it in any state. -/
inductive Turn where
  | op (o : Op)
  | others (c : Channel)

def Turn.isOp : Turn → Bool
  | .op _ => true
  | .others _ => false

namespace State

def start (r : Roster) : State := ⟨r, [], []⟩

/-- The state once an operation left the list `r` and set aside `w`, if anything: the channel
took what its queue gained. -/
def after (s : State) (rest : List Waiting) (r : Roster) (w : Option Waiting) : State :=
  ⟨r, rest ++ w.toList, s.received ++ r.channel.queue.drop s.roster.channel.queue.length⟩

/-- Performs an operation; one whose lookup fails changes nothing. -/
def perform (s : State) : Op → State
  | .add farm => s.after s.waiting (s.roster.startAdd farm).1 (s.roster.startAdd farm).2.waiting?
  | .select id path =>
    match s.roster.startSelect id path with
    | .ok p => s.after s.waiting p.1 (some p.2)
    | .error _ => s
  | .changeSize id text =>
    match s.roster.changeSize id text with
    | .ok r => s.after s.waiting r none
    | .error _ => s
  | .selectHeld id path =>
    match s.roster.held? id with
    | some e => s.after s.waiting (s.roster.startSelectOn e path none).1
        (some (s.roster.startSelectOn e path none).2)
    | none => s
  | .changeHeld id text =>
    match s.roster.held? id with
    | some e => s.after s.waiting (s.roster.update e (·.changeSize text)) none
    | none => s
  | .request id kind =>
    match s.roster.held? id with
    | some e => s.after s.waiting (s.roster.apply (e.request kind)) none
    | none => s
  | .answer k writable =>
    match s.waiting[k]? with
    | some w => s.after (s.waiting.eraseIdx k) (s.roster.resume w writable).1
        (s.roster.resume w writable).2.waiting?
    | none => s

def turn (s : State) : Turn → State
  | .op o => s.perform o
  | .others c => { s with roster := { s.roster with channel := c } }

def run (s : State) (turns : List Turn) : State := turns.foldl turn s

section lookups

variable {s : State} {id : EntryId}

theorem perform_select_error {path : Path} {err : RosterError} (he : s.roster.entry id = .error err) :
    s.perform (.select id path) = s := by
  simp only [perform, Roster.startSelect, he]
  rfl

theorem perform_select_ok {path : Path} {e : Entry} (he : s.roster.entry id = .ok e) :
    s.perform (.select id path) = s.after s.waiting (s.roster.startSelectOn e path none).1
      (some (s.roster.startSelectOn e path none).2) := by
  simp only [perform, Roster.startSelect, he]
  rfl

theorem perform_changeSize_error {text : Text} {err : RosterError}
    (he : s.roster.entry id = .error err) : s.perform (.changeSize id text) = s := by
  simp only [perform, Roster.changeSize, he]
  rfl

theorem perform_changeSize_ok {text : Text} {e : Entry} (he : s.roster.entry id = .ok e) :
    s.perform (.changeSize id text) = s.after s.waiting (s.roster.update e (·.changeSize text)) none := by
  simp only [perform, Roster.changeSize, he]
  rfl

end lookups

end State

/-- Two states alike but for channel and log: the same entries and list, the same operations
waiting, and the second channel took part of what the first took, in the same order. -/
structure Alike (s₁ s₂ : State) : Prop where
  roster : ∃ c js, s₂.roster = { s₁.roster with channel := c, journal := js }
  waiting : s₂.waiting = s₁.waiting
  received : s₂.received.Sublist s₁.received

/-- Two runs from one list: the first on a channel that takes everything and that nobody else
touches, the second on any channel. They are alike, none of the waiting operations comes from a
routing, and the first channel keeps after `queue₀` all it took. -/
structure Mirrors (queue₀ : List Parcel) (s₁ s₂ : State) : Prop extends Alike s₁ s₂ where
  direct : ∀ w ∈ s₁.waiting, w.direct = true
  takesAll : s₁.roster.channel.TakesAll
  kept : s₁.roster.channel.queue = queue₀ ++ s₁.received

section mirrors

variable {queue₀ : List Parcel} {s₁ s₂ : State}

theorem start_mirrors {r : Roster} (hr : r.channel.TakesAll) (c : Channel) (js : Array Notice) :
    Mirrors r.channel.queue (State.start r) (State.start { r with channel := c, journal := js }) where
  roster := ⟨c, js, rfl⟩
  waiting := rfl
  direct _ h := absurd h List.not_mem_nil
  takesAll := hr
  kept := (List.append_nil _).symm
  received := List.Sublist.slnil

/-- An operation that only sends keeps two runs mirrored. -/
theorem Mirrors.after (h : Mirrors queue₀ s₁ s₂) {α : Type} {f : Roster → Roster × α}
    {effects : List Effect} (hf : Roster.Carries f s₁.roster effects) (out : α → Option Waiting)
    (rest : List Waiting) (hrest : ∀ w ∈ rest ++ (out (f s₁.roster).2).toList, w.direct = true) :
    Mirrors queue₀ (s₁.after rest (f s₁.roster).1 (out (f s₁.roster).2))
      (s₂.after rest (f s₂.roster).1 (out (f s₂.roster).2)) := by
  obtain ⟨c, js, hr⟩ := h.roster
  obtain ⟨c', js', hblind⟩ := hf.blind c js
  obtain ⟨acc, hsub, hgain⟩ := hf.gain c js
  -- the first run is the second with its own channel and log
  have hall : (f s₁.roster).1.channel =
      { s₁.roster.channel with queue := s₁.roster.channel.queue ++ Effect.parcels effects } :=
    hf.gain_all s₁.roster.channel s₁.roster.journal h.takesAll
  rw [hr, hblind]
  rw [hblind] at hgain
  refine ⟨⟨⟨c', js', rfl⟩, rfl, ?_⟩, hrest, ?_, ?_⟩
  · show (s₂.received ++ c'.queue.drop s₂.roster.channel.queue.length).Sublist
      (s₁.received ++ (f s₁.roster).1.channel.queue.drop s₁.roster.channel.queue.length)
    have hc' : c' = { c with queue := c.queue ++ acc } := hgain
    rw [hall, hc', hr]
    simpa using h.received.append hsub
  · show (f s₁.roster).1.channel.TakesAll
    rw [hall]
    exact h.takesAll
  · show (f s₁.roster).1.channel.queue = queue₀ ++ (s₁.received ++
      (f s₁.roster).1.channel.queue.drop s₁.roster.channel.queue.length)
    rw [hall]
    simp [h.kept]

theorem startAdd_direct (r : Roster) (farm : Farm) :
    ∀ w ∈ (r.startAdd farm).2.waiting?.toList, w.direct = true := by
  cases hp : farm.path <;> simp [Roster.startAdd, hp, Progress.waiting?, Waiting.direct]

/-- The same operation keeps two runs mirrored: both look the same entries up, and an operation
that finds its entry only sends. -/
theorem Mirrors.perform (h : Mirrors queue₀ s₁ s₂) (o : Op) :
    Mirrors queue₀ (s₁.perform o) (s₂.perform o) := by
  obtain ⟨c, js, hr⟩ := h.roster
  -- lookups read neither channel nor log, so both runs find the same
  have hheld : ∀ id, s₂.roster.held? id = s₁.roster.held? id := fun id => by rw [hr]; rfl
  have hentry : ∀ id, s₂.roster.entry id = s₁.roster.entry id := fun id => by rw [hr]; rfl
  have hdirect (w : Waiting) (hw : w.direct = true) :
      ∀ x ∈ s₁.waiting ++ (some w).toList, x.direct = true := by
    intro x hx
    rcases List.mem_append.1 hx with hx | hx
    · exact h.direct x hx
    · rw [Option.toList_some, List.mem_singleton] at hx
      exact hx ▸ hw
  have hquiet : ∀ x ∈ s₁.waiting ++ (none : Option Waiting).toList, x.direct = true := by
    rw [Option.toList_none, List.append_nil]
    exact h.direct
  cases o with
  | add farm =>
    simp only [State.perform, h.waiting]
    exact h.after (Roster.carries_startAdd s₁.roster farm) Progress.waiting? s₁.waiting
      (fun w hw => (List.mem_append.1 hw).elim (h.direct w) (startAdd_direct s₁.roster farm w))
  | select id path =>
    cases he : s₁.roster.entry id with
    | error err =>
      rw [State.perform_select_error he, State.perform_select_error ((hentry id).trans he)]
      exact h
    | ok e =>
      rw [State.perform_select_ok he, State.perform_select_ok ((hentry id).trans he), h.waiting]
      exact h.after (Roster.carries_startSelectOn s₁.roster e path) some s₁.waiting
        (hdirect _ rfl)
  | changeSize id text =>
    cases he : s₁.roster.entry id with
    | error err =>
      rw [State.perform_changeSize_error he, State.perform_changeSize_error ((hentry id).trans he)]
      exact h
    | ok e =>
      rw [State.perform_changeSize_ok he, State.perform_changeSize_ok ((hentry id).trans he),
        h.waiting]
      exact h.after (Roster.carries_update s₁.roster e (·.changeSize text)) (fun _ => none)
        s₁.waiting hquiet
  | selectHeld id path =>
    cases hh : s₁.roster.held? id with
    | none => simpa [State.perform, hh, (hheld id).trans hh] using h
    | some e =>
      simp only [State.perform, hh, (hheld id).trans hh, h.waiting]
      exact h.after (Roster.carries_startSelectOn s₁.roster e path) some s₁.waiting
        (hdirect _ rfl)
  | changeHeld id text =>
    cases hh : s₁.roster.held? id with
    | none => simpa [State.perform, hh, (hheld id).trans hh] using h
    | some e =>
      simp only [State.perform, hh, (hheld id).trans hh, h.waiting]
      exact h.after (Roster.carries_update s₁.roster e (·.changeSize text)) (fun _ => none)
        s₁.waiting hquiet
  | request id kind =>
    cases hh : s₁.roster.held? id with
    | none => simpa [State.perform, hh, (hheld id).trans hh] using h
    | some e =>
      simp only [State.perform, hh, (hheld id).trans hh, h.waiting]
      exact h.after (Roster.carries_apply s₁.roster (e.request kind)) (fun _ => none)
        s₁.waiting hquiet
  | answer k writable =>
    cases hw : s₁.waiting[k]? with
    | none => simpa [State.perform, hw, h.waiting] using h
    | some w =>
      have hmem : w ∈ s₁.waiting := List.mem_of_getElem? hw
      obtain ⟨effects, hcarries, hout⟩ := Roster.carries_resume s₁.roster (h.direct w hmem) writable
      simp only [State.perform, hw, h.waiting]
      refine h.after hcarries Progress.waiting? (s₁.waiting.eraseIdx k) ?_
      rw [hout, Option.toList_none, List.append_nil]
      exact fun x hx => h.direct x ((List.eraseIdx_sublist _ _).subset hx)

/-- Others acting on the second channel keep two runs mirrored. -/
theorem Mirrors.others (h : Mirrors queue₀ s₁ s₂) (c : Channel) :
    Mirrors queue₀ s₁ (s₂.turn (.others c)) := by
  obtain ⟨c₀, js, hr⟩ := h.roster
  exact ⟨⟨⟨c, js, by simp [State.turn, hr]⟩, h.waiting, h.received⟩, h.direct, h.takesAll, h.kept⟩

/-- Runs that take the same operations in the same order stay mirrored, whatever others do to
the second channel in between. -/
theorem Mirrors.run (h : Mirrors queue₀ s₁ s₂) (turns : List Turn) :
    Mirrors queue₀ (s₁.run (turns.filter Turn.isOp)) (s₂.run turns) := by
  induction turns generalizing s₁ s₂ with
  | nil => exact h
  | cons t rest ih =>
    cases t with
    | op o => exact ih (h.perform o)
    | others c => exact ih (h.others c)

end mirrors

/-- A list run on a channel that takes everything, and the same list with any other channel and
log, run through the same operations while others close, fill or drain that channel at any point:
after every run the two are alike. Every entry and the list itself are the same, the same
operations wait for their probes, and the second channel took part of what the first took, in
the same order. No operation fails for the channel's sake: a refused send is only logged. -/
theorem run_ignores_channel {r : Roster} (hr : r.channel.TakesAll) (c : Channel)
    (js : Array Notice) (turns : List Turn) :
    Alike ((State.start r).run (turns.filter Turn.isOp))
      ((State.start { r with channel := c, journal := js }).run turns) :=
  ((start_mirrors hr c js).run turns).toAlike

/-- Two farms added to an empty list, one of them on a channel closed from the start, that others
reopen with room for one parcel before the second farm. -/
theorem run_ignores_closed_channel :
    (Roster.create ⟨⟨[]⟩, [], []⟩ 0).channel.TakesAll ∧
      Alike ((State.start (Roster.create ⟨⟨[]⟩, [], []⟩ 0)).run
          ([.op (.add ⟨none, Text.ofString "3 GB"⟩), .others (Channel.create 1),
            .op (.add ⟨none, Text.ofString "1 GB"⟩)].filter Turn.isOp))
        ((State.start { Roster.create ⟨⟨[]⟩, [], []⟩ 0 with
            channel := (Channel.create 0).close.2, journal := #[] }).run
          [.op (.add ⟨none, Text.ofString "3 GB"⟩), .others (Channel.create 1),
            .op (.add ⟨none, Text.ofString "1 GB"⟩)]) :=
  ⟨by decide, run_ignores_channel (by decide) _ _ _⟩

end ChannelRun

end FarmSetup
