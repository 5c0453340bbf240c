import Mathlib.Algebra.Ring.Parity
import Mathlib.Data.List.Nodup
import FarmSetup.Entry
/-!
# Runs of one farm entry

An entry meets size edits, requests and directory selections in any interleaving. A selection is
two steps: its start takes a ticket, and its probe answers later, in any order with the answers
of other selections and with any result. Events the entry sends are kept in the order sent; with
an open sender of no capacity every one of them is delivered, so they are what its list sees.

Beside the entry the state keeps the histories the laws speak of: every selection started, every
answer given with its result, and the selections whose answer the entry took.
-/

namespace FarmSetup

/-- The event a step hands to the sender, if it sends one. -/
def Effect.event? : Effect → Option Event
  | .send e => some e
  | .note _ => none

@[simp] theorem Effect.event?_send (e : Event) : (Effect.send e).event? = some e := rfl
@[simp] theorem Effect.event?_note (n : Notice) : (Effect.note n).event? = none := rfl

/-- The validity updates among events. -/
def updates (events : List Event) : List Event := events.filter (·.kind == .validityUpdate)

@[simp] theorem updates_append (l m : List Event) : updates (l ++ m) = updates l ++ updates m :=
  List.filter_append ..

@[simp] theorem updates_update (id : EntryId) : updates [⟨.validityUpdate, id⟩] = [⟨.validityUpdate, id⟩] :=
  rfl

namespace Entry

variable (e : Entry)

@[simp] theorem changeSize_id (text : Text) : (e.changeSize text).1.id = e.id := rfl
@[simp] theorem changeSize_generation (text : Text) :
    (e.changeSize text).1.generation = e.generation := rfl
@[simp] theorem changeSize_path (text : Text) : (e.changeSize text).1.path = e.path.resetFlags := rfl
@[simp] theorem startSelect_id : e.startSelect.1.id = e.id := rfl
@[simp] theorem startSelect_generation : e.startSelect.1.generation = e.generation + 1 := rfl
@[simp] theorem startSelect_ticket : e.startSelect.2 = e.generation + 1 := rfl
@[simp] theorem startSelect_path : e.startSelect.1.path = e.path := rfl

/-- A cycle sends one validity update, naming the entry, exactly when the validity flipped. -/
theorem flipEffects_events (was : Bool) :
    (flipEffects was e).filterMap Effect.event? =
      if was = e.isValid then [] else [⟨.validityUpdate, e.id⟩] := by
  by_cases h : was = e.isValid <;> simp [flipEffects, h, List.filterMap_cons]

theorem changeSize_events (text : Text) :
    (e.changeSize text).2.filterMap Effect.event? =
      if e.isValid = (e.changeSize text).1.isValid then [] else [⟨.validityUpdate, e.id⟩] :=
  flipEffects_events _ _

/-- An answer whose ticket is not the latest leaves the entry as it is and sends nothing. -/
theorem finishSelect_stale {ticket : Nat} (path : Path) (writable : Bool)
    (h : ticket ≠ e.generation) :
    e.finishSelect ticket path writable = (e, [.note ⟨.debug, .entry, .stale path ticket e.generation⟩]) := by
  simp [finishSelect, h]

section current

variable (path : Path) (writable : Bool)

@[simp] theorem finishSelect_id : (e.finishSelect e.generation path writable).1.id = e.id := by
  simp [finishSelect, beginCycle]

@[simp] theorem finishSelect_generation :
    (e.finishSelect e.generation path writable).1.generation = e.generation := by
  simp [finishSelect, beginCycle]

@[simp] theorem finishSelect_value :
    (e.finishSelect e.generation path writable).1.path.value = some path := by
  simp [finishSelect]

@[simp] theorem finishSelect_valid :
    (e.finishSelect e.generation path writable).1.path.valid = writable := by
  simp [finishSelect, Field.replaceValue]

theorem finishSelect_events :
    (e.finishSelect e.generation path writable).2.filterMap Effect.event? =
      if e.isValid = (e.finishSelect e.generation path writable).1.isValid then []
      else [⟨.validityUpdate, e.id⟩] := by
  simpa [finishSelect, beginCycle] using
    flipEffects_events (e.finishSelect e.generation path writable).1 e.isValid

end current

theorem request_events (kind : EventKind) : (e.request kind).filterMap Effect.event? = [⟨kind, e.id⟩] :=
  rfl

end Entry

namespace EntryRun

/-- A directory selection whose probe has not answered: its number among the selections of the
run (from one), the ticket the entry gave it, and the directory chosen. -/
structure Probe where
  index : Nat
  ticket : Nat
  path : Path
deriving DecidableEq

/-- An entry with its selections in flight, the histories of selections started, answers given
and answers taken, and the events it sent. -/
structure State where
  entry : Entry
  probes : List Probe
  chosen : List Path
  answered : List (Nat × Bool)
  taken : List Nat
  sent : List Event

/-- What may happen to an entry next. -/
inductive Act where
  | editSize (text : Text)
  | select (path : Path)
  | answer (index : Nat) (writable : Bool)
  | requestDelete
  | requestChooser

/-- An entry as its first validation leaves it, given whether its directory takes files. -/
def start (id : EntryId) (path : Option Path) (size : Text) (writable : Bool) : State :=
  let (e, fx) := Entry.initial id path size writable
  ⟨e, [], [], [], [], fx.filterMap Effect.event?⟩

/-- Any entry, before anything happens to it. -/
def ofEntry (e : Entry) : State := ⟨e, [], [], [], [], []⟩

namespace State

/-- A new size text is applied. -/
def editSize (s : State) (text : Text) : State :=
  { s with entry := (s.entry.changeSize text).1
           sent := s.sent ++ (s.entry.changeSize text).2.filterMap Effect.event? }

/-- A selection starts: it takes the next ticket and waits for its probe. -/
def select (s : State) (path : Path) : State :=
  { s with entry := s.entry.startSelect.1
           probes := s.probes ++ [⟨s.chosen.length + 1, s.entry.startSelect.2, path⟩]
           chosen := s.chosen ++ [path] }

/-- The probe of a selection answers; `rest` are the selections still waiting. The answer is
taken when the entry's check of the ticket lets it through. -/
def answer (s : State) (rest : List Probe) (p : Probe) (writable : Bool) : State :=
  { s with entry := (s.entry.finishSelect p.ticket p.path writable).1
           probes := rest
           answered := s.answered ++ [(p.index, writable)]
           taken := if p.ticket = s.entry.generation then s.taken ++ [p.index] else s.taken
           sent := s.sent ++ (s.entry.finishSelect p.ticket p.path writable).2.filterMap Effect.event? }

/-- The entry sends a request about itself. -/
def request (s : State) (kind : EventKind) : State :=
  { s with sent := s.sent ++ (s.entry.request kind).filterMap Effect.event? }

end State

/-- One step of a run. An answer is given to any selection still waiting. -/
inductive Step : State → Act → State → Prop where
  | editSize (s : State) (text : Text) : Step s (.editSize text) (s.editSize text)
  | select (s : State) (path : Path) : Step s (.select path) (s.select path)
  | answer (s : State) (before : List Probe) (p : Probe) (after : List Probe) (writable : Bool)
      (hq : s.probes = before ++ p :: after) :
      Step s (.answer p.index writable) (s.answer (before ++ after) p writable)
  | requestDelete (s : State) : Step s .requestDelete (s.request .delete)
  | requestChooser (s : State) : Step s .requestChooser (s.request .openDirectory)

inductive Execution : State → State → Prop where
  | refl (s : State) : Execution s s
  | tail {s u v : State} {a : Act} : Execution s u → Step u a v → Execution s v

/-- A step that is an update cycle: a size edit, or the answer of the latest selection. -/
def Cycle (s : State) : Act → Prop
  | .editSize _ => True
  | .answer k _ => k = s.chosen.length
  | _ => False

instance (s : State) : (a : Act) → Decidable (Cycle s a)
  | .editSize _ => isTrue trivial
  | .answer k _ => inferInstanceAs (Decidable (k = s.chosen.length))
  | .select _ => isFalse fun h => h
  | .requestDelete => isFalse fun h => h
  | .requestChooser => isFalse fun h => h

/-- What every run keeps, for an entry with identity `id` whose selections numbered `g₀` when
the run began. Tickets are numbered on from `g₀`, so a waiting selection's ticket is the entry's
count of selections exactly when no later selection has started. -/
structure Invariant (id : EntryId) (g₀ : Nat) (s : State) : Prop where
  identity : s.entry.id = id
  generation : s.entry.generation = g₀ + s.chosen.length
  ticket : ∀ p ∈ s.probes, p.ticket = g₀ + p.index
  chosen : ∀ p ∈ s.probes, 0 < p.index ∧ s.chosen[p.index - 1]? = some p.path
  distinct : (s.probes.map Probe.index).Nodup
  waiting_untaken : ∀ p ∈ s.probes, p.index ∉ s.taken
  waiting_unanswered : ∀ p ∈ s.probes, ∀ w, (p.index, w) ∉ s.answered
  answered_le : ∀ a ∈ s.answered, a.1 ≤ s.chosen.length
  taken_le : ∀ k ∈ s.taken, k ≤ s.chosen.length
  taken_sorted : s.taken.Pairwise (· < ·)
  latest : ∀ p w, s.chosen.getLast? = some p → (s.chosen.length, w) ∈ s.answered →
    s.entry.path.value = some p ∧ s.entry.path.valid = w

section invariant

variable {id : EntryId} {g₀ : Nat} {s : State}

theorem Invariant.index_le (hs : Invariant id g₀ s) {p : Probe} (hp : p ∈ s.probes) :
    p.index ≤ s.chosen.length := by
  obtain ⟨pos, hget⟩ := hs.chosen p hp
  have := (List.getElem?_eq_some_iff.mp hget).1
  omega

/-- The entry takes an answer exactly when its selection is the latest one started. -/
theorem Invariant.takes_iff (hs : Invariant id g₀ s) {p : Probe} (hp : p ∈ s.probes) :
    p.ticket = s.entry.generation ↔ p.index = s.chosen.length := by
  rw [hs.ticket p hp, hs.generation]
  omega

theorem start_invariant (id : EntryId) (path : Option Path) (size : Text) (writable : Bool) :
    Invariant id 0 (start id path size writable) := by
  constructor <;> simp [start, Entry.initial, Field.create]

theorem ofEntry_invariant (e : Entry) : Invariant e.id e.generation (ofEntry e) := by
  constructor <;> simp [ofEntry]

theorem editSize_invariant (hs : Invariant id g₀ s) (text : Text) :
    Invariant id g₀ (s.editSize text) where
  identity := by simpa [State.editSize] using hs.identity
  generation := by simpa [State.editSize] using hs.generation
  ticket := hs.ticket
  chosen := hs.chosen
  distinct := hs.distinct
  waiting_untaken := hs.waiting_untaken
  waiting_unanswered := hs.waiting_unanswered
  answered_le := hs.answered_le
  taken_le := hs.taken_le
  taken_sorted := hs.taken_sorted
  latest := by simpa [State.editSize] using hs.latest

theorem select_invariant (hs : Invariant id g₀ s) (path : Path) :
    Invariant id g₀ (s.select path) := by
  have fresh : ∀ p ∈ s.probes, p.index ≠ s.chosen.length + 1 := fun p hp =>
    Nat.ne_of_lt (Nat.lt_succ_of_le (hs.index_le hp))
  constructor
  · simpa [State.select] using hs.identity
  · simp [State.select, hs.generation]; omega
  · intro p hp
    simp only [State.select, List.mem_append, List.mem_singleton] at hp
    rcases hp with hp | rfl
    · exact hs.ticket p hp
    · simp [hs.generation]; omega
  · intro p hp
    simp only [State.select, List.mem_append, List.mem_singleton] at hp
    rcases hp with hp | rfl
    · obtain ⟨pos, hget⟩ := hs.chosen p hp
      have hlt : p.index - 1 < s.chosen.length := by have := hs.index_le hp; omega
      exact ⟨pos, by simpa [State.select, List.getElem?_append_left hlt] using hget⟩
    · simp [State.select]
  · simp only [State.select, List.map_append, List.map_singleton]
    refine List.nodup_append.mpr ⟨hs.distinct, List.nodup_cons.mpr ⟨by simp, List.nodup_nil⟩, ?_⟩
    rintro _ hk _ hl
    obtain ⟨p, hp, rfl⟩ := List.mem_map.mp hk
    rw [List.mem_singleton.mp hl]
    exact fresh p hp
  · intro p hp
    simp only [State.select, List.mem_append, List.mem_singleton] at hp
    rcases hp with hp | rfl
    · exact hs.waiting_untaken p hp
    · intro hk; have := hs.taken_le _ hk; dsimp only at this; omega
  · intro p hp w
    simp only [State.select, List.mem_append, List.mem_singleton] at hp
    rcases hp with hp | rfl
    · exact hs.waiting_unanswered p hp w
    · intro ha; have := hs.answered_le _ ha; dsimp only at this; omega
  · intro a ha; have := hs.answered_le a ha; simp [State.select]; omega
  · intro k hk; have := hs.taken_le k hk; simp [State.select]; omega
  · exact hs.taken_sorted
  · intro p w _ ha
    have := hs.answered_le _ ha
    simp only [State.select, List.length_append, List.length_singleton] at this
    omega

theorem request_invariant (hs : Invariant id g₀ s) (kind : EventKind) :
    Invariant id g₀ (s.request kind) where
  identity := hs.identity
  generation := hs.generation
  ticket := hs.ticket
  chosen := hs.chosen
  distinct := hs.distinct
  waiting_untaken := hs.waiting_untaken
  waiting_unanswered := hs.waiting_unanswered
  answered_le := hs.answered_le
  taken_le := hs.taken_le
  taken_sorted := hs.taken_sorted
  latest := hs.latest

/-- The answered selection leaves the others waiting, each with a number of its own. -/
theorem Invariant.answer_split (hs : Invariant id g₀ s) {before after : List Probe} {p : Probe}
    (hq : s.probes = before ++ p :: after) :
    p ∈ s.probes ∧ ((before ++ after).map Probe.index).Nodup ∧
      ∀ q ∈ before ++ after, q ∈ s.probes ∧ q.index ≠ p.index := by
  have hd := hs.distinct
  rw [hq, List.map_append, List.map_cons, List.nodup_middle, List.nodup_cons,
    ← List.map_append] at hd
  refine ⟨by simp [hq], hd.2, fun q hq' => ⟨?_, ?_⟩⟩
  · rw [hq]
    rcases List.mem_append.mp hq' with h | h <;> simp [h]
  · intro he
    exact hd.1 (List.mem_map.mpr ⟨q, hq', he⟩)

/-- The latest selection is the last one chosen. -/
theorem Invariant.getLast_chosen (hs : Invariant id g₀ s) {p : Probe} (hp : p ∈ s.probes)
    (hk : p.index = s.chosen.length) : s.chosen.getLast? = some p.path := by
  obtain ⟨pos, hget⟩ := hs.chosen p hp
  rw [List.getLast?_eq_getElem?, ← hk, hget]

theorem answer_invariant (hs : Invariant id g₀ s) {before after : List Probe} {p : Probe}
    (hq : s.probes = before ++ p :: after) (w : Bool) :
    Invariant id g₀ (s.answer (before ++ after) p w) := by
  obtain ⟨hp, hnd, hrest⟩ := hs.answer_split hq
  have hle := hs.index_le hp
  have hnew : ∀ a ∈ (s.answer (before ++ after) p w).answered, a ∈ s.answered ∨ a = (p.index, w) := by
    simp [State.answer]
  -- the selections left waiting and the answers given are the same whether the answer is taken
  have unanswered : ∀ q ∈ before ++ after, ∀ w',
      (q.index, w') ∉ (s.answer (before ++ after) p w).answered := by
    intro q hq' w' ha
    rcases hnew _ ha with ha | ha
    · exact hs.waiting_unanswered q (hrest q hq').1 w' ha
    · exact (hrest q hq').2 (Prod.mk.inj ha).1
  have answered_le : ∀ a ∈ (s.answer (before ++ after) p w).answered, a.1 ≤ s.chosen.length := by
    intro a ha
    rcases hnew a ha with ha | rfl
    · exact hs.answered_le a ha
    · exact hle
  by_cases hc : p.ticket = s.entry.generation
  · have hk := (hs.takes_iff hp).mp hc
    have he : (s.answer (before ++ after) p w).entry =
        (s.entry.finishSelect s.entry.generation p.path w).1 := by simp [State.answer, hc]
    constructor
    · simp [he, hs.identity]
    · rw [he, Entry.finishSelect_generation]; exact hs.generation
    · exact fun q hq' => hs.ticket q (hrest q hq').1
    · exact fun q hq' => hs.chosen q (hrest q hq').1
    · exact hnd
    · intro q hq'
      simp only [State.answer, hc, if_true, List.mem_append, List.mem_singleton, not_or]
      exact ⟨hs.waiting_untaken q (hrest q hq').1, (hrest q hq').2⟩
    · exact unanswered
    · exact answered_le
    · intro k hk'
      simp only [State.answer, hc, if_true, List.mem_append, List.mem_singleton] at hk'
      rcases hk' with hk' | rfl
      · exact hs.taken_le k hk'
      · exact hle
    · simp only [State.answer, hc, if_true, List.pairwise_append, List.pairwise_singleton,
        List.mem_singleton, true_and]
      refine ⟨hs.taken_sorted, fun k hk' j hj => ?_⟩
      have hne : k ≠ p.index := fun h => hs.waiting_untaken p hp (h ▸ hk')
      have := hs.taken_le k hk'
      omega
    · intro q w' hlast ha
      change s.chosen.getLast? = some q at hlast
      change (s.chosen.length, w') ∈ _ at ha
      have hq : q = p.path := by
        rw [hs.getLast_chosen hp hk] at hlast
        exact (Option.some.inj hlast).symm
      subst hq
      rcases hnew _ ha with ha | ha
      · exact absurd (hk ▸ ha) (hs.waiting_unanswered p hp w')
      · simp [he, (Prod.mk.inj ha).2]
  · have hk : p.index ≠ s.chosen.length := fun h => hc ((hs.takes_iff hp).mpr h)
    have he : (s.answer (before ++ after) p w).entry = s.entry := by
      simp [State.answer, Entry.finishSelect_stale _ _ _ hc]
    have ht : (s.answer (before ++ after) p w).taken = s.taken := by simp [State.answer, hc]
    constructor
    · rw [he]; exact hs.identity
    · rw [he]; exact hs.generation
    · exact fun q hq' => hs.ticket q (hrest q hq').1
    · exact fun q hq' => hs.chosen q (hrest q hq').1
    · exact hnd
    · intro q hq'
      rw [ht]
      exact hs.waiting_untaken q (hrest q hq').1
    · exact unanswered
    · exact answered_le
    · rw [ht]; exact hs.taken_le
    · rw [ht]; exact hs.taken_sorted
    · intro q w' hlast ha
      rw [he]
      rcases hnew _ ha with ha | ha
      · exact hs.latest q w' hlast ha
      · exact absurd (Prod.mk.inj ha).1.symm hk

theorem step_preserves_invariant (hs : Invariant id g₀ s) {a : Act} {t : State} (h : Step s a t) :
    Invariant id g₀ t := by
  cases h with
  | editSize text => exact editSize_invariant hs text
  | select path => exact select_invariant hs path
  | answer before p after w hq => exact answer_invariant hs hq w
  | requestDelete => exact request_invariant hs .delete
  | requestChooser => exact request_invariant hs .openDirectory

theorem Execution.invariant {s₀ s : State} (h : Execution s₀ s) (h₀ : Invariant id g₀ s₀) :
    Invariant id g₀ s := by
  induction h with
  | refl => exact h₀
  | tail _ step ih => exact step_preserves_invariant ih step

end invariant

/-! ## Validity updates -/

section updates

variable {id : EntryId} {g₀ : Nat} {s t : State} {a : Act}

/-- Each step sends one validity update exactly when it is an update cycle that flipped the
entry's validity, compared with the validity just before the cycle. -/
theorem step_updates (hs : Invariant id g₀ s) (h : Step s a t) :
    updates t.sent = updates s.sent ++
      if Cycle s a ∧ s.entry.isValid ≠ t.entry.isValid then [⟨.validityUpdate, id⟩] else [] := by
  cases h with
  | editSize text =>
    by_cases hv : s.entry.isValid = (s.entry.changeSize text).1.isValid <;>
      simp [State.editSize, Entry.changeSize_events, hv, Cycle, hs.identity]
  | select path => simp [State.select, Cycle]
  | answer before p after w hq =>
    have hp := (hs.answer_split hq).1
    by_cases hc : p.ticket = s.entry.generation
    · have hk := (hs.takes_iff hp).mp hc
      have he := Entry.finishSelect_events s.entry p.path w
      rw [← hc] at he
      by_cases hv : s.entry.isValid = (s.entry.finishSelect p.ticket p.path w).1.isValid <;>
        simp [State.answer, he, hv, Cycle, hk, hs.identity]
    · have hk : p.index ≠ s.chosen.length := fun h => hc ((hs.takes_iff hp).mpr h)
      simp [State.answer, Entry.finishSelect_stale _ _ _ hc, Cycle, hk, List.filterMap_cons]
  | requestDelete => simp [State.request, Entry.request_events, Cycle, updates]
  | requestChooser => simp [State.request, Entry.request_events, Cycle, updates]

/-- Outside update cycles the entry's validity does not move: a selection's start, a stale
answer and a request leave it as it was. -/
theorem step_isValid (hs : Invariant id g₀ s) (h : Step s a t) (hc : ¬Cycle s a) :
    t.entry.isValid = s.entry.isValid := by
  cases h with
  | editSize text => exact absurd trivial hc
  | select path => exact Entry.startSelect_isValid s.entry
  | answer before p after w hq =>
    have hp := (hs.answer_split hq).1
    have hstale : p.ticket ≠ s.entry.generation := fun h => hc ((hs.takes_iff hp).mp h)
    simp [State.answer, Entry.finishSelect_stale _ _ _ hstale]
  | requestDelete => rfl
  | requestChooser => rfl

/-- Every step sends one validity update when the validity flipped and none otherwise. -/
theorem step_updates_length (hs : Invariant id g₀ s) (h : Step s a t) :
    (updates t.sent).length =
      (updates s.sent).length + if s.entry.isValid = t.entry.isValid then 0 else 1 := by
  rw [step_updates hs h]
  by_cases hc : Cycle s a
  · by_cases hv : s.entry.isValid = t.entry.isValid <;> simp [hc, hv]
  · simp [hc, step_isValid hs h hc]

/-- Along a run, the updates sent after the start number the validity flips, so their parity
tells whether the validity differs from where it started. -/
theorem Execution.flip_count {s₀ : State} (h : Execution s₀ s) (h₀ : Invariant id g₀ s₀) :
    ∃ n, (updates s.sent).length = (updates s₀.sent).length + n ∧
      (Odd n ↔ s.entry.isValid ≠ s₀.entry.isValid) := by
  induction h with
  | refl => exact ⟨0, rfl, by simp⟩
  | @tail u v b hrun step ih =>
    obtain ⟨n, hn, hodd⟩ := ih
    rw [step_updates_length (hrun.invariant h₀) step]
    by_cases hv : u.entry.isValid = v.entry.isValid
    · exact ⟨n, by simp [hv, hn], hv ▸ hodd⟩
    · refine ⟨n + 1, by simp [hv, hn]; omega, ?_⟩
      rw [Nat.odd_add_one, hodd]
      cases hu : u.entry.isValid <;> cases hw : v.entry.isValid <;>
        cases h0 : s₀.entry.isValid <;> simp_all

end updates

/-- The flip law of an entry. Its first validation sends one validity update; afterwards every
step sends a validity update, naming the entry, exactly when it is an update cycle (a size edit,
or the answer of a selection no later selection has overtaken) whose validity after differs from
the validity just before it; so at every point the updates after the first are odd in number
exactly when the entry's validity differs from the one its first validation gave. -/
theorem validity_updates_follow_flips (id : EntryId) (path : Option Path) (size : Text)
    (writable : Bool) {s : State} (h : Execution (start id path size writable) s) :
    (start id path size writable).sent = [⟨.validityUpdate, id⟩] ∧
    (∀ a t, Step s a t → updates t.sent = updates s.sent ++
      if Cycle s a ∧ s.entry.isValid ≠ t.entry.isValid then [⟨.validityUpdate, id⟩] else []) ∧
    (Odd ((updates s.sent).length - 1) ↔
      s.entry.isValid ≠ (start id path size writable).entry.isValid) := by
  have h₀ := start_invariant id path size writable
  have hs := h.invariant h₀
  have first : (start id path size writable).sent = [⟨.validityUpdate, id⟩] := by
    simp [start, Entry.initial, List.filterMap_cons]
  refine ⟨first, fun a t step => step_updates hs step, ?_⟩
  obtain ⟨n, hn, hodd⟩ := h.flip_count h₀
  rw [hn, first]
  simpa using hodd

/-- A selection of `/srv/farm`, then a size edit of `3 GB` while its probe is out, then the
probe's answer that the directory takes files. -/
def editDuringProbe : State :=
  (((start ⟨1⟩ none [] false).select (Path.ofText (Text.ofString "/srv/farm"))).editSize
    (Text.ofString "3 GB")).answer [] ⟨1, 1, Path.ofText (Text.ofString "/srv/farm")⟩ true

/-- The edit during the probe leaves the entry invalid and the answer then makes it valid: the
law holds there, with one update after the first. -/
theorem validity_updates_follow_flips_edit_during_probe :
    Execution (start ⟨1⟩ none [] false) editDuringProbe ∧
    (start ⟨1⟩ none [] false).sent = [⟨.validityUpdate, ⟨1⟩⟩] ∧
    (∀ a t, Step editDuringProbe a t → updates t.sent = updates editDuringProbe.sent ++
      if Cycle editDuringProbe a ∧ editDuringProbe.entry.isValid ≠ t.entry.isValid then
        [⟨.validityUpdate, ⟨1⟩⟩] else []) ∧
    (Odd ((updates editDuringProbe.sent).length - 1) ↔
      editDuringProbe.entry.isValid ≠ (start ⟨1⟩ none [] false).entry.isValid) := by
  have run : Execution (start ⟨1⟩ none [] false) editDuringProbe :=
    .tail (.tail (.tail (.refl _) (.select _ _)) (.editSize _ _)) (.answer _ [] _ [] true rfl)
  exact ⟨run, validity_updates_follow_flips _ _ _ _ run⟩

/-! ## The last selection issued wins -/

section selections

variable {id : EntryId} {g₀ : Nat} {s t : State} {k : Nat} {w : Bool}

/-- An answer is taken exactly when its selection is the latest started. -/
theorem answer_taken_iff (hs : Invariant id g₀ s) (h : Step s (.answer k w) t) :
    k ∈ t.taken ↔ k = s.chosen.length := by
  cases h with
  | answer before p after _ hq =>
    have hp := (hs.answer_split hq).1
    have hfresh := hs.waiting_untaken p hp
    by_cases hc : p.ticket = s.entry.generation
    · simp [State.answer, hc, (hs.takes_iff hp).mp hc]
    · have hk : p.index ≠ s.chosen.length := fun h => hc ((hs.takes_iff hp).mpr h)
      simp [State.answer, hc, hfresh, hk]

/-- A discarded answer leaves the entry, both its fields with their flags, and what it sent as
they were. -/
theorem answer_discarded (hs : Invariant id g₀ s) (h : Step s (.answer k w) t) (hk : k ∉ t.taken) :
    t.entry = s.entry ∧ t.sent = s.sent := by
  cases h with
  | answer before p after _ hq =>
    have hp := (hs.answer_split hq).1
    by_cases hc : p.ticket = s.entry.generation
    · exact absurd (by simp [State.answer, hc]) hk
    · simp [State.answer, Entry.finishSelect_stale _ _ _ hc]

end selections

/-- Last issued wins. Whatever the order in which probes answer and whatever they answer, in
every state of a run from any entry: the answer of the `k`-th selection is taken exactly when no
later selection has started; the selections whose answers were taken were taken in increasing
order; a discarded answer changes neither field nor sends anything; and once the latest
selection has its answer, the entry holds its directory with that answer as validity. -/
theorem last_selection_wins (e₀ : Entry) {s : State} (h : Execution (ofEntry e₀) s) :
    (∀ k w t, Step s (.answer k w) t → (k ∈ t.taken ↔ k = s.chosen.length)) ∧
    s.taken.Pairwise (· < ·) ∧
    (∀ k w t, Step s (.answer k w) t → k ∉ t.taken → t.entry = s.entry ∧ t.sent = s.sent) ∧
    (∀ p w, s.chosen.getLast? = some p → (s.chosen.length, w) ∈ s.answered →
      s.entry.path.value = some p ∧ s.entry.path.valid = w) := by
  have hs := h.invariant (ofEntry_invariant e₀)
  exact ⟨fun _ _ _ step => answer_taken_iff hs step, hs.taken_sorted,
    fun _ _ _ step hk => answer_discarded hs step hk, hs.latest⟩

/-- A slow selection of `/srv/slow` overtaken by a selection of `/srv/fast`, whose probe answers
first; the slow probe answers last, with the opposite result. -/
def overtaken : State :=
  let slow := Path.ofText (Text.ofString "/srv/slow")
  let fast := Path.ofText (Text.ofString "/srv/fast")
  let e₀ : Entry := ⟨⟨1⟩, Field.create none false, Field.create (Text.ofString "2 GB") true, 0⟩
  ((((ofEntry e₀).select slow).select fast).answer [⟨1, 1, slow⟩] ⟨2, 2, fast⟩ true).answer []
    ⟨1, 1, slow⟩ false

/-- The fast selection's answer is taken and the slow one's discarded, so the entry keeps the
fast directory as valid. -/
theorem last_selection_wins_overtaken :
    Execution (ofEntry ⟨⟨1⟩, Field.create none false, Field.create (Text.ofString "2 GB") true, 0⟩)
      overtaken ∧
    (∀ k w t, Step overtaken (.answer k w) t → (k ∈ t.taken ↔ k = overtaken.chosen.length)) ∧
    overtaken.taken.Pairwise (· < ·) ∧
    (∀ k w t, Step overtaken (.answer k w) t → k ∉ t.taken →
      t.entry = overtaken.entry ∧ t.sent = overtaken.sent) ∧
    (∀ p w, overtaken.chosen.getLast? = some p → (overtaken.chosen.length, w) ∈ overtaken.answered →
      overtaken.entry.path.value = some p ∧ overtaken.entry.path.valid = w) := by
  have run : Execution (ofEntry ⟨⟨1⟩, Field.create none false,
      Field.create (Text.ofString "2 GB") true, 0⟩) overtaken :=
    .tail (.tail (.tail (.tail (.refl _) (.select _ _)) (.select _ _))
      (.answer _ [⟨1, 1, _⟩] ⟨2, 2, _⟩ [] true rfl)) (.answer _ [] ⟨1, 1, _⟩ [] false rfl)
  exact ⟨run, last_selection_wins _ run⟩

end EntryRun

end FarmSetup
