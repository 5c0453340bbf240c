import FarmSetup.Proofs.RosterLayout
/-!
# Routing calls

A routing call takes every parcel buffered in the channel when it starts and handles them in the
order they were sent. A validity update marks the list changed. A deletion removes its identity,
wherever the identity stands in the order then, and marks the list changed, when the identity is
listed; otherwise it changes nothing but the log. A request for a chooser asks the chooser once,
when there is one, and selects the chosen directory when a directory is chosen and the list holds
an entry for the identity; the call then waits for the selection's probe, and while it waits
other tasks may change the list in any way. A parcel that is no event is logged and dropped.

The rules are stated on their own as `Routes`, one constructor per rule, and the router is shown
to follow them; a whole call, segments of routing with waits between them, follows them segment
by segment (`Call`). So a call handles exactly the parcels buffered when it started, each once and
in order, and reports a change exactly when it handled a validity update or a deletion that
removed an identity. After its start the call never takes a parcel out of the channel, so what is
sent meanwhile stays buffered, in order, for a later routing.
-/

namespace FarmSetup

namespace Routing

/-- What routing did with one parcel. -/
inductive Handled where
  /-- A validity update: the list is marked changed. -/
  | update (id : EntryId)
  /-- A deletion that removed its identity from the list. -/
  | removed (id : EntryId)
  /-- A deletion of an identity the list did not hold. -/
  | unlisted (id : EntryId)
  /-- A request for a chooser when none was given. -/
  | unasked (id : EntryId)
  /-- The chooser was asked about the identity, at the position shown for it, and its answer was
  dropped: no directory, or no entry held for the identity. -/
  | declined (id : EntryId) (index : Nat)
  /-- The chooser was asked and chose a directory for an entry the list holds, whose selection
  started. -/
  | selected (id : EntryId) (index : Nat) (path : Path)
  /-- A parcel that is no event. -/
  | stray (kindName : String) (literal : Text)

namespace Handled

/-- The parcel handled. -/
def parcel : Handled → Parcel
  | update id => .event ⟨.validityUpdate, id⟩
  | removed id => .event ⟨.delete, id⟩
  | unlisted id => .event ⟨.delete, id⟩
  | unasked id => .event ⟨.openDirectory, id⟩
  | declined id _ => .event ⟨.openDirectory, id⟩
  | selected id _ _ => .event ⟨.openDirectory, id⟩
  | stray k lit => .stray k lit

/-- Whether the handling counts as a change of the list: a validity update, or a deletion that
removed its identity. -/
def counts : Handled → Bool
  | update _ => true
  | removed _ => true
  | unlisted _ => false
  | unasked _ => false
  | declined _ _ => false
  | selected _ _ _ => false
  | stray _ _ => false

/-- The chooser's call the handling made, with the identity and its position then. -/
def call? : Handled → Option (EntryId × Nat)
  | update _ => none
  | removed _ => none
  | unlisted _ => none
  | unasked _ => none
  | declined id index => some (id, index)
  | selected id index _ => some (id, index)
  | stray _ _ => none

end Handled

/-- The rules of routing. `Routes r rt log r' out` says that routing `rt`, on the list `r`, handles
its pending parcels in order as `log` tells, and ends on the list `r'`, finished or waiting for
the probe of a selection it started. -/
inductive Routes : Roster → Routing → List Handled → Roster → Progress Outcome → Prop
  /-- With nothing left to handle, routing finishes and reports what it found. -/
  | done {r : Roster} {rt : Routing} (h : rt.pending = []) :
      Routes r rt [] r (.finished (.routed rt.changed rt.calls))
  /-- A validity update marks the list changed. -/
  | update {r r' : Roster} {rt : Routing} {id : EntryId} {rest : List Parcel} {log : List Handled}
      {out : Progress Outcome} (h : rt.pending = .event ⟨.validityUpdate, id⟩ :: rest)
      (next : Routes r { rt with pending := rest, changed := true } log r' out) :
      Routes r rt (.update id :: log) r' out
  /-- A deletion of a listed identity removes it, wherever it stands, and marks the list
  changed. -/
  | removed {r r₁ r' : Roster} {rt : Routing} {id : EntryId} {rest : List Parcel}
      {log : List Handled} {out : Progress Outcome} (h : rt.pending = .event ⟨.delete, id⟩ :: rest)
      (hid : id ∈ r.order) (hr : r.remove id = .ok r₁)
      (next : Routes r₁ { rt with pending := rest, changed := true } log r' out) :
      Routes r rt (.removed id :: log) r' out
  /-- A deletion of an identity not listed changes nothing but the log. -/
  | unlisted {r r' : Roster} {rt : Routing} {id : EntryId} {rest : List Parcel}
      {log : List Handled} {out : Progress Outcome} (h : rt.pending = .event ⟨.delete, id⟩ :: rest)
      (hid : id ∉ r.order)
      (next : Routes (r.note ⟨.warning, .list, .unknownDelete id (r.indexOf id)⟩)
        { rt with pending := rest } log r' out) :
      Routes r rt (.unlisted id :: log) r' out
  /-- A request for a chooser when none is given is logged and dropped. -/
  | unasked {r r' : Roster} {rt : Routing} {id : EntryId} {rest : List Parcel}
      {log : List Handled} {out : Progress Outcome}
      (h : rt.pending = .event ⟨.openDirectory, id⟩ :: rest) (ha : rt.answers = none)
      (next : Routes (r.note ⟨.warning, .list, .noChooser⟩) { rt with pending := rest } log r' out) :
      Routes r rt (.unasked id :: log) r' out
  /-- The chooser is asked once; when it chooses a directory and the list holds an entry for the
  identity, the entry's selection starts and routing waits for its probe. -/
  | selected {r : Roster} {rt : Routing} {id : EntryId} {rest : List Parcel}
      {answers : List (Option Path)} {path : Path} {e : Entry}
      (h : rt.pending = .event ⟨.openDirectory, id⟩ :: rest) (ha : rt.answers = some answers)
      (hpath : answers.head?.getD none = some path) (he : r.entry id = .ok e) :
      Routes r rt [.selected id (r.indexOf id) path] (r.keep e.startSelect.1)
        (.waiting (.selecting e.id e.startSelect.2 path (some { rt with
          pending := rest, answers := some answers.tail, calls := rt.calls ++ [(id, r.indexOf id)] })))
  /-- Otherwise the chooser's answer is dropped. -/
  | declined {r r' : Roster} {rt : Routing} {id : EntryId} {rest : List Parcel}
      {answers : List (Option Path)} {log : List Handled} {out : Progress Outcome}
      (h : rt.pending = .event ⟨.openDirectory, id⟩ :: rest) (ha : rt.answers = some answers)
      (hno : ∀ path e, answers.head?.getD none = some path → r.entry id ≠ .ok e)
      (next : Routes r { rt with
        pending := rest, answers := some answers.tail, calls := rt.calls ++ [(id, r.indexOf id)] }
        log r' out) :
      Routes r rt (.declined id (r.indexOf id) :: log) r' out
  /-- A parcel that is no event is logged and dropped. -/
  | stray {r r' : Roster} {rt : Routing} {kindName : String} {literal : Text} {rest : List Parcel}
      {log : List Handled} {out : Progress Outcome} (h : rt.pending = .stray kindName literal :: rest)
      (next : Routes (r.note ⟨.warning, .list, .unexpected literal⟩) { rt with pending := rest } log r' out) :
      Routes r rt (.stray kindName literal :: log) r' out

end Routing

namespace Roster

open Routing

theorem mem_order_of_remove {r r' : Roster} {id : EntryId} (h : r.remove id = .ok r') : id ∈ r.order := by
  obtain ⟨pos, hpos, -⟩ := remove_spec h
  obtain ⟨hlt, hget, -⟩ := List.idxOf?_eq_some_iff.mp hpos
  exact hget ▸ List.getElem_mem hlt

theorem not_mem_order_of_remove {r : Roster} {id : EntryId} {err : RosterError}
    (h : r.remove id = .error err) : id ∉ r.order := by
  intro hid
  unfold remove position at h
  split at h
  · cases h
  · rename_i hnone
    exact List.idxOf?_eq_none_iff.mp hnone hid

/-- The router follows the rules of routing. -/
theorem route_routes (r : Roster) (rt : Routing) :
    ∃ log, Routes r rt log (r.route rt).1 (r.route rt).2 := by
  fun_induction Roster.route r rt with
  | case1 r rt hnil => exact ⟨[], .done hnil⟩
  | case2 r rt rest rt₁ id h₁ h₂ ih =>
    obtain ⟨log, hlog⟩ := ih
    exact ⟨_, .update h₁ hlog⟩
  | case3 r rt rest rt₁ id h₁ r' hr h₂ ih =>
    obtain ⟨log, hlog⟩ := ih
    exact ⟨_, .removed h₁ (mem_order_of_remove hr) hr hlog⟩
  | case4 r rt rest rt₁ id h₁ err hr h₂ ih =>
    obtain ⟨log, hlog⟩ := ih
    exact ⟨_, .unlisted h₁ (not_mem_order_of_remove hr) hlog⟩
  | case5 r rt rest rt₁ id h₁ hnone h₂ ih =>
    obtain ⟨log, hlog⟩ := ih
    exact ⟨_, .unasked h₁ hnone hlog⟩
  | case6 r rt rest rt₁ id h₁ answers hsome rt₂ path e he hpath r' w hsel h₂ =>
    rw [startSelectOn_eq] at hsel
    obtain ⟨rfl, rfl⟩ := Prod.mk.inj hsel
    exact ⟨_, .selected h₁ hsome hpath he⟩
  | case7 r rt rest rt₁ id h₁ answers hsome rt₂ hnot h₂ ih =>
    obtain ⟨log, hlog⟩ := ih
    exact ⟨_, .declined h₁ hsome (fun path e hp he => hnot path e hp he) hlog⟩
  | case8 r rt rest rt₁ name lit h₁ h₂ ih =>
    obtain ⟨log, hlog⟩ := ih
    exact ⟨_, .stray h₁ hlog⟩

/-! ## The channel -/

@[simp] theorem note_channel (r : Roster) (n : Notice) : (r.note n).channel = r.channel := rfl
@[simp] theorem keep_channel (r : Roster) (e : Entry) : (r.keep e).channel = r.channel := rfl
@[simp] theorem renumber_channel (r : Roster) : r.renumber.channel = r.channel := rfl

theorem remove_channel {r r' : Roster} {id : EntryId} (h : r.remove id = .ok r') :
    r'.channel = r.channel := by
  obtain ⟨pos, -, rfl⟩ := remove_spec h
  rfl

/-- Carrying out what an entry left only adds to the channel: a request the channel takes joins
its end, and one it refuses leaves it as it was. -/
theorem apply_queue_prefix (r : Roster) (effects : List Effect) :
    r.channel.queue <+: (r.apply effects).channel.queue := by
  induction effects generalizing r with
  | nil => exact List.prefix_refl _
  | cons fx rest ih =>
    have first : r.channel.queue <+: (r.apply [fx]).channel.queue := by
      cases fx with
      | note n => exact List.prefix_refl _
      | send ev =>
        simp only [apply, List.foldl_cons, List.foldl_nil]
        split
        · rename_i c hc
          rw [Channel.send_queue hc]
          exact List.prefix_append _ _
        · exact List.prefix_refl _
    have split_first : r.apply (fx :: rest) = (r.apply [fx]).apply rest := rfl
    rw [split_first]
    exact first.trans (ih (r.apply [fx]))

theorem update_queue_prefix (r : Roster) (e : Entry) (step : Entry → Entry × List Effect) :
    r.channel.queue <+: (r.update e step).channel.queue :=
  apply_queue_prefix (r.keep (step e).1) (step e).2

/-- The list once a selection's probe has answered: the entry held under the identity, if any,
takes the answer. -/
def answered (r : Roster) (id : EntryId) (ticket : Nat) (path : Path) (writable : Bool) : Roster :=
  match r.held? id with
  | some e => r.update e fun e => e.finishSelect ticket path writable
  | none => r

theorem resume_routing (r : Roster) (id : EntryId) (ticket : Nat) (path : Path) (rt : Routing)
    (writable : Bool) :
    r.resume (.selecting id ticket path (some rt)) writable = (r.answered id ticket path writable).route rt :=
  rfl

theorem answered_queue_prefix (r : Roster) (id : EntryId) (ticket : Nat) (path : Path) (writable : Bool) :
    r.channel.queue <+: (r.answered id ticket path writable).channel.queue := by
  unfold answered
  split
  · exact update_queue_prefix _ _ _
  · exact List.prefix_refl _

end Roster

/-- Where a routing stands: the parcels it has still to handle, whether it found a change, and the
chooser's calls so far; none for progress that is not a routing's. -/
def Progress.routed? : Progress Outcome → Option (List Parcel × Bool × List (EntryId × Nat))
  | .waiting (.selecting _ _ _ (some rt)) => some (rt.pending, rt.changed, rt.calls)
  | .finished (.routed changed calls) => some ([], changed, calls)
  | _ => none

namespace Routing

section routes

variable {r r' : Roster} {rt : Routing} {log : List Handled} {out : Progress Outcome}

/-- Handling one parcel moves the account of a routing on by that parcel. -/
theorem progress_cons {rt rt' : Routing} {x : Handled}
    (ih : ∃ pending, out.routed? = some (pending, rt'.changed || log.any Handled.counts,
      rt'.calls ++ log.filterMap Handled.call?) ∧ log.map Handled.parcel ++ pending = rt'.pending)
    (hp : rt.pending = x.parcel :: rt'.pending) (hc : rt'.changed = (rt.changed || x.counts))
    (hcalls : rt'.calls = rt.calls ++ x.call?.toList) :
    ∃ pending, out.routed? = some (pending, rt.changed || (x :: log).any Handled.counts,
      rt.calls ++ (x :: log).filterMap Handled.call?) ∧
      (x :: log).map Handled.parcel ++ pending = rt.pending := by
  obtain ⟨pending, hout, hlog⟩ := ih
  refine ⟨pending, ?_, ?_⟩
  · rw [hout, hc, hcalls, List.any_cons, Bool.or_assoc]
    cases hx : x.call? <;> simp [hx]
  · rw [hp, ← hlog]
    rfl

/-- Routing handles its pending parcels from the front, and reports what it had found together
with what it handled: a change when it handled a validity update or a removing deletion, and the
chooser's calls in the order made. -/
theorem Routes.progress (h : Routes r rt log r' out) :
    ∃ pending, out.routed? = some (pending, rt.changed || log.any Handled.counts,
      rt.calls ++ log.filterMap Handled.call?) ∧ log.map Handled.parcel ++ pending = rt.pending := by
  induction h with
  | done h => exact ⟨[], by simp [Progress.routed?], by simp [h]⟩
  | update h _ ih | removed h _ _ _ ih | unlisted h _ _ ih | unasked h _ _ ih | stray h _ ih =>
    exact progress_cons ih h (by simp [Handled.counts]) (by simp [Handled.call?])
  | @selected r rt id rest answers path e h _ _ _ =>
    exact ⟨rest, by simp [Progress.routed?, Handled.counts, Handled.call?], by simp [h, Handled.parcel]⟩
  | declined h _ _ _ ih => exact progress_cons ih h (by simp [Handled.counts]) rfl

/-- Routing never touches the channel. -/
theorem Routes.channel (h : Routes r rt log r' out) : r'.channel = r.channel := by
  induction h with
  | done | selected => rfl
  | update _ _ ih | unlisted _ _ _ ih | unasked _ _ _ ih | declined _ _ _ _ ih | stray _ _ ih => exact ih
  | removed _ _ hr _ ih => exact ih.trans (Roster.remove_channel hr)

end routes

/-- A routing call by the rules: started on the list `r₀` with the chooser's answers (none when
there is no chooser), it has handled the parcels of `log` and is on the list `r` with progress
`out`. Between its segments it waits for a selection's probe; meanwhile the list changes as `Env`
allows, then the probe's answer goes to the entry held under the selection's identity and routing
goes on. -/
inductive Call (Env : Roster → Roster → Prop) (r₀ : Roster) (answers : Option (List (Option Path))) :
    List Handled → Roster → Progress Outcome → Prop
  | start {log : List Handled} {r : Roster} {out : Progress Outcome}
      (h : Routes { r₀ with channel := r₀.channel.drain.2 } ⟨r₀.channel.queue, false, answers, []⟩
        log r out) :
      Call Env r₀ answers log r out
  | resume {log log' : List Handled} {r r' r'' : Roster} {id : EntryId} {ticket : Nat} {path : Path}
      {rt : Routing} {out : Progress Outcome} (writable : Bool)
      (hc : Call Env r₀ answers log r (.waiting (.selecting id ticket path (some rt))))
      (henv : Env r r') (h : Routes (r'.answered id ticket path writable) rt log' r'' out) :
      Call Env r₀ answers (log ++ log') r'' out

/-- A routing call of the list as the program runs it: started on `r₀` with the chooser's
answers, it is on the list `r` with progress `out`; while it waits for a probe the list changes
as `Env` allows, and then the probe answers. -/
inductive Runs (Env : Roster → Roster → Prop) (r₀ : Roster) (answers : Option (List (Option Path))) :
    Roster → Progress Outcome → Prop
  | start : Runs Env r₀ answers (r₀.startRoute answers).1 (r₀.startRoute answers).2
  | resume {r r' : Roster} {w : Waiting} (writable : Bool) (hr : Runs Env r₀ answers r (.waiting w))
      (henv : Env r r') : Runs Env r₀ answers (r'.resume w writable).1 (r'.resume w writable).2

section call

variable {Env : Roster → Roster → Prop} {r₀ : Roster} {answers : Option (List (Option Path))}
  {log : List Handled} {r : Roster} {out : Progress Outcome}

/-- Along a call, what is handled is the start of the batch it took, what is reported is what was
handled, and the call waits only on selections it started, with its routing to go on. -/
theorem Call.progress (h : Call Env r₀ answers log r out) :
    ∃ pending, out.routed? = some (pending, log.any Handled.counts, log.filterMap Handled.call?) ∧
      log.map Handled.parcel ++ pending = r₀.channel.queue := by
  induction h with
  | start h =>
    obtain ⟨pending, hout, hp⟩ := h.progress
    exact ⟨pending, by simpa using hout, hp⟩
  | resume writable _ _ h ih =>
    obtain ⟨pending, hout, hp⟩ := ih
    obtain ⟨pending', hout', hp'⟩ := h.progress
    simp only [Progress.routed?, Option.some.injEq, Prod.mk.injEq] at hout
    obtain ⟨rfl, hchanged, hcalls⟩ := hout
    refine ⟨pending', ?_, ?_⟩
    · rw [hout', hchanged, hcalls, List.any_append, List.filterMap_append]
    · rw [List.map_append, List.append_assoc, hp', hp]

/-- A call waits only on the probe of a selection it started, with its routing to go on. -/
theorem Call.waiting {w : Waiting} (h : Call Env r₀ answers log r (.waiting w)) :
    ∃ id ticket path rt, w = .selecting id ticket path (some rt) := by
  obtain ⟨pending, hout, -⟩ := h.progress
  match w, hout with
  | .selecting id ticket path (some rt), _ => exact ⟨id, ticket, path, rt, rfl⟩

/-- The program's routing calls follow the rules. -/
theorem Runs.call (h : Runs Env r₀ answers r out) : ∃ log, Call Env r₀ answers log r out := by
  induction h with
  | start =>
    obtain ⟨log, hlog⟩ := Roster.route_routes { r₀ with channel := r₀.channel.drain.2 }
      ⟨r₀.channel.queue, false, answers, []⟩
    exact ⟨log, .start hlog⟩
  | resume writable _ henv ih =>
    obtain ⟨log, hlog⟩ := ih
    obtain ⟨id, ticket, path, rt, rfl⟩ := hlog.waiting
    rw [Roster.resume_routing]
    obtain ⟨log', hlog'⟩ := Roster.route_routes _ rt
    exact ⟨_, .resume writable hlog henv hlog'⟩

end call

end Routing

/-- Routing calls handle their batch. Whatever the list's other tasks do while a call waits for a
probe, as `Env` allows, every routing call of a list, started on any list with any chooser's
answers or none, goes by the rules of routing segment by segment (`Routing.Call`): a validity update
marks a change; a deletion removes its identity wherever it stands, and marks a change, exactly
when the identity is listed then, and otherwise changes nothing but the log; a request for a
chooser asks the chooser once when there is one, and selects the chosen directory exactly when a
directory is chosen and the list then holds an entry for the identity. The parcels it has handled
are the first of those buffered when it started, each once and in order, the others still to come;
it reports a change exactly when it has handled a validity update or a deletion that removed its
identity, and lists the chooser's calls in the order made. Its start takes the whole batch out of
the channel and nothing else, and each later segment only adds to the channel, so parcels sent
during the call are not handled by it and stay buffered, in order. -/
theorem routing_call_handles_batch (Env : Roster → Roster → Prop) (r₀ : Roster)
    (answers : Option (List (Option Path))) {r : Roster} {out : Progress Outcome}
    (h : Routing.Runs Env r₀ answers r out) :
    (∃ log, Routing.Call Env r₀ answers log r out ∧
      ∃ pending, out.routed? = some (pending, log.any Routing.Handled.counts,
          log.filterMap Routing.Handled.call?) ∧
        log.map Routing.Handled.parcel ++ pending = r₀.channel.queue) ∧
    (r₀.startRoute answers).1.channel = { r₀.channel with queue := [] } ∧
    ∀ (r' : Roster) id ticket path rt writable,
      r'.channel.queue <+: (r'.resume (.selecting id ticket path (some rt)) writable).1.channel.queue := by
  obtain ⟨log, hlog⟩ := h.call
  refine ⟨⟨log, hlog, hlog.progress⟩, ?_, fun r' id ticket path rt writable => ?_⟩
  · obtain ⟨log₀, hlog₀⟩ := Roster.route_routes { r₀ with channel := r₀.channel.drain.2 }
      ⟨r₀.channel.queue, false, answers, []⟩
    exact hlog₀.channel
  · obtain ⟨log', hlog'⟩ := Roster.route_routes (r'.answered id ticket path writable) rt
    rw [Roster.resume_routing, hlog'.channel]
    exact Roster.answered_queue_prefix r' id ticket path writable

/-- A list on an empty machine whose channel holds a validity update, a request for a chooser and
a deletion of an identity it does not hold. -/
def busyList : Roster :=
  { Roster.create ⟨⟨[]⟩, [], []⟩ 8 with
    channel := ⟨8, [.event ⟨.validityUpdate, ⟨0⟩⟩, .event ⟨.openDirectory, ⟨0⟩⟩, .event ⟨.delete, ⟨3⟩⟩],
      false⟩ }

theorem routing_call_handles_batch_busy_list :
    (∃ log, Routing.Call (fun _ _ => True) busyList (some [none]) log
        (busyList.startRoute (some [none])).1 (busyList.startRoute (some [none])).2 ∧
      ∃ pending, (busyList.startRoute (some [none])).2.routed? = some (pending,
          log.any Routing.Handled.counts, log.filterMap Routing.Handled.call?) ∧
        log.map Routing.Handled.parcel ++ pending = busyList.channel.queue) ∧
    (busyList.startRoute (some [none])).1.channel = { busyList.channel with queue := [] } ∧
    ∀ (r' : Roster) id ticket path rt writable,
      r'.channel.queue <+: (r'.resume (.selecting id ticket path (some rt)) writable).1.channel.queue :=
  routing_call_handles_batch (fun _ _ => True) busyList (some [none]) .start

end FarmSetup
