import Mathlib.Data.List.DropRight
import FarmSetup.Channel
/-!
# The channel over a whole history of calls

Entries send parcels through a channel, and their list drains it or closes it. Over any sequence
of these calls on a channel made with capacity `m`, each call is answered as the calls before it
say: a send is refused when a close came before it, or when `m` is positive and `m` parcels are
pending, and it is taken otherwise; a drain hands over, oldest first, exactly the parcels taken
since the last drain or close; a close reports how many of those it discards, and after it every
send is refused and every drain hands over nothing. So every parcel taken is handed over once,
in the order sent, unless a close discards it.

A history is recorded as its trace, each call with its reply. `Channel.Follows m T c` says what
the trace `T` tells of the channel `c` it leaves; every call keeps it (`Follows.call`), so every
run does (`Follows.calls`). Main statement: `Channel.calls_lossless_fifo`.
-/

namespace FarmSetup

namespace Channel

/-- A call on a channel: an entry sends a parcel, or the list drains or closes the channel. -/
inductive Call where
  | output (p : Parcel)
  | drain
  | close
deriving DecidableEq, Repr

/-- The answer to a call: the parcel is taken or refused, the buffered parcels are handed over,
or closing discarded so many of them. -/
inductive Reply where
  | accepted
  | refused (e : SendError)
  | drained (ps : List Parcel)
  | closed (dropped : Nat)
deriving DecidableEq, Repr

namespace Call

def empties : Call → Bool
  | output _ => false
  | _ => true

def isClose : Call → Bool
  | close => true
  | _ => false

end Call

namespace Reply

def handed : Reply → List Parcel
  | drained ps => ps
  | _ => []

def dropped : Reply → Nat
  | closed n => n
  | _ => 0

end Reply

/-- Makes a call; a refused send leaves the channel as it was. -/
def call (c : Channel) : Call → Reply × Channel
  | .output p =>
    match c.send p with
    | .ok d => (.accepted, d)
    | .error e => (.refused e, c)
  | .drain => (.drained c.drain.1, c.drain.2)
  | .close => (.closed c.close.1, c.close.2)

def record (s : List (Call × Reply) × Channel) (k : Call) : List (Call × Reply) × Channel :=
  (s.1 ++ [(k, (s.2.call k).1)], (s.2.call k).2)

/-- Makes the calls in order: the trace of each call with its reply, and the channel after. -/
def calls (c : Channel) (ks : List Call) : List (Call × Reply) × Channel := ks.foldl record ([], c)

/-! ## Reading a trace -/

namespace Trace

def taken? : Call × Reply → Option Parcel
  | (.output p, .accepted) => some p
  | _ => none

/-- The parcels a trace shows taken, in the order sent. -/
def accepted (T : List (Call × Reply)) : List Parcel := T.filterMap taken?

/-- The part of a trace after its last drain or close; all of it when there was none. -/
def sinceEmptied (T : List (Call × Reply)) : List (Call × Reply) :=
  T.rtakeWhile fun e => !e.1.empties

/-- The parcels taken since the last drain or close. -/
def pending (T : List (Call × Reply)) : List Parcel := accepted (sinceEmptied T)

def closed (T : List (Call × Reply)) : Bool := T.any fun e => e.1.isClose

def delivered (T : List (Call × Reply)) : List Parcel := T.flatMap fun e => e.2.handed

def discarded (T : List (Call × Reply)) : Nat := T.foldl (fun n e => n + e.2.dropped) 0

/-- The reply a call gets after the trace `T` on a channel made with capacity `m`: a send is
refused when a close came, or when the capacity is positive and as many parcels are pending, and
taken otherwise; a drain hands over what is pending; a close reports how many are pending. -/
def reply (m : Int) (T : List (Call × Reply)) : Call → Reply
  | .output p =>
    if closed T then .refused (.closed p.kindName)
    else if 0 < m ∧ ((pending T).length : Int) = m then .refused (.full p.kindName)
    else .accepted
  | .drain => .drained (pending T)
  | .close => .closed (pending T).length

theorem reply_output (m : Int) (T : List (Call × Reply)) (p : Parcel) :
    reply m T (.output p) = .accepted ∨ ∃ err, reply m T (.output p) = .refused err := by
  unfold reply
  split_ifs <;> simp

/-- The reply a call gets once the channel is closed. -/
def replyClosed : Call → Reply
  | .output p => .refused (.closed p.kindName)
  | .drain => .drained []
  | .close => .closed 0

/-- Every reply in the trace is the one that the calls before it call for. -/
def Answered (m : Int) (T : List (Call × Reply)) : Prop :=
  ∀ pre k r post, T = pre ++ (k, r) :: post → r = reply m pre k

section concat

variable (T : List (Call × Reply)) (e : Call × Reply)

@[simp] theorem accepted_nil : accepted [] = [] := rfl

@[simp] theorem accepted_concat : accepted (T ++ [e]) = accepted T ++ (taken? e).toList := by
  cases h : taken? e <;> simp [accepted, h]

theorem sinceEmptied_concat :
    sinceEmptied (T ++ [e]) = if e.1.empties then [] else sinceEmptied T ++ [e] := by
  cases h : e.1.empties <;> simp [sinceEmptied, h]

theorem pending_concat :
    pending (T ++ [e]) = if e.1.empties then [] else pending T ++ (taken? e).toList := by
  cases h : e.1.empties <;> simp [pending, sinceEmptied_concat, h]

@[simp] theorem closed_concat : closed (T ++ [e]) = (closed T || e.1.isClose) := by
  simp [closed]

@[simp] theorem delivered_concat : delivered (T ++ [e]) = delivered T ++ e.2.handed := by
  simp [delivered]

@[simp] theorem discarded_concat : discarded (T ++ [e]) = discarded T + e.2.dropped := by
  simp [discarded]

end concat

/-- A split of a trace with one entry more ends at that entry or is a split of the trace. -/
theorem eq_concat_split {T pre post : List (Call × Reply)} {e x : Call × Reply}
    (h : T ++ [e] = pre ++ x :: post) :
    (pre = T ∧ x = e ∧ post = []) ∨ ∃ post', post = post' ++ [e] ∧ T = pre ++ x :: post' := by
  rcases List.eq_nil_or_concat post with rfl | ⟨post', z, rfl⟩
  · obtain ⟨h₁, h₂⟩ := List.append_inj' h rfl
    exact .inl ⟨h₁.symm, (List.singleton_inj.1 h₂).symm, rfl⟩
  · have h' : T ++ [e] = (pre ++ x :: post') ++ [z] := by simpa using h
    obtain ⟨h₁, h₂⟩ := List.append_inj' h' rfl
    obtain rfl := List.singleton_inj.1 h₂
    exact .inr ⟨post', by simp, h₁⟩

theorem Answered.concat {m : Int} {T : List (Call × Reply)} (h : Answered m T) (k : Call) :
    Answered m (T ++ [(k, reply m T k)]) := by
  intro pre k' r post hsplit
  rcases eq_concat_split hsplit with ⟨rfl, hx, -⟩ | ⟨post', -, hT⟩
  · obtain ⟨rfl, rfl⟩ := Prod.mk.inj hx
    rfl
  · exact h pre k' r post' hT

theorem Answered.of_concat {m : Int} {T : List (Call × Reply)} {e : Call × Reply}
    (h : Answered m (T ++ [e])) : Answered m T ∧ e.2 = reply m T e.1 :=
  ⟨fun pre k r post hT => h pre k r (post ++ [e]) (by simp [hT]),
    h T e.1 e.2 [] (by simp)⟩

theorem Answered.of_append {m : Int} {T U : List (Call × Reply)} (h : Answered m (T ++ U)) :
    Answered m T :=
  fun pre k r post hT => h pre k r (post ++ U) (by simp [hT])

/-- Once a close came, nothing is pending: the close emptied the buffer, and every later send
is refused. -/
theorem Answered.pending_of_closed {m : Int} {T : List (Call × Reply)} (h : Answered m T)
    (hc : closed T = true) : pending T = [] := by
  induction T using List.reverseRecOn with
  | nil => simp [closed] at hc
  | append_singleton T e ih =>
    obtain ⟨hT, he⟩ := h.of_concat
    obtain ⟨k, r⟩ := e
    simp only at he
    subst he
    cases k with
    | drain | close => simp [pending_concat, Call.empties]
    | output p =>
      -- a send after the close was refused, so what is pending stays as it was
      have hcT : closed T = true := by simpa [Call.isClose] using hc
      simp [pending_concat, Call.empties, reply, hcT, taken?, ih hT hcT]

/-- Once a close came, every send is refused as closed, every drain hands over nothing and every
close discards nothing. -/
theorem Answered.eq_replyClosed {m : Int} {T pre post : List (Call × Reply)} {k : Call} {r : Reply}
    (h : Answered m T) (hT : T = pre ++ (k, r) :: post) (hc : closed pre = true) :
    r = replyClosed k := by
  have hpre : Answered m pre := (hT ▸ h).of_append
  rw [h pre k r post hT]
  cases k with
  | output p => simp [reply, replyClosed, hc]
  | drain | close => simp [reply, replyClosed, hpre.pending_of_closed hc]

end Trace

/-! ## What a trace tells of the channel -/

/-- What the trace `T` of calls on a channel made with capacity `m` tells of the channel `c` it
leaves: the channel holds the parcels pending in the trace, never more than a positive capacity,
none once closed; every reply was the one called for; and the parcels taken are those handed
over, then some that closes discarded, then those pending. -/
structure Follows (m : Int) (T : List (Call × Reply)) (c : Channel) : Prop where
  capacity : c.capacity = m
  closed : c.closed = Trace.closed T
  queue : c.queue = Trace.pending T
  bounded : 0 < m → (c.queue.length : Int) ≤ m
  answered : Trace.Answered m T
  conserved : ∃ lost, Trace.accepted T = Trace.delivered T ++ lost ++ c.queue ∧
    lost.length = Trace.discarded T ∧ (Trace.closed T = false → lost = [])

theorem follows_create (m : Int) : Follows m [] (create m) where
  capacity := rfl
  closed := rfl
  queue := rfl
  bounded hm := by
    simp only [create, List.length_nil, Int.natCast_zero]
    omega
  answered _ _ _ _ h := absurd h.symm (by simp)
  conserved := ⟨[], by simp [Trace.accepted, Trace.delivered, create], rfl, fun _ => rfl⟩

section step

variable {m : Int} {T : List (Call × Reply)} {c : Channel}

/-- A send is refused exactly as the trace says, and a refused send keeps the channel. -/
theorem Follows.call_output (h : Follows m T c) (p : Parcel) :
    c.call (.output p) = (Trace.reply m T (.output p),
      if Trace.reply m T (.output p) = .accepted then { c with queue := c.queue ++ [p] } else c) := by
  -- the channel is full exactly when a positive capacity is reached, as it is never exceeded
  have hfull : c.isFull = true ↔ 0 < m ∧ ((Trace.pending T).length : Int) = m := by
    have hb := h.bounded
    rw [h.queue] at hb
    simp only [isFull, h.capacity, h.queue, Bool.and_eq_true, decide_eq_true_eq]
    constructor
    · rintro ⟨hm, hle⟩
      exact ⟨hm, by have := hb hm; omega⟩
    · rintro ⟨hm, heq⟩
      exact ⟨hm, by omega⟩
  cases hcl : c.closed with
  | true =>
    have hT : Trace.closed T = true := h.closed ▸ hcl
    simp [call, send, hcl, Trace.reply, hT]
  | false =>
    have hT : Trace.closed T = false := h.closed ▸ hcl
    cases hf : c.isFull with
    | true => simp [call, send, hcl, hf, Trace.reply, hT, hfull.1 hf]
    | false =>
      have hr : ¬(0 < m ∧ ((Trace.pending T).length : Int) = m) := fun hr => by
        simp [hfull.2 hr] at hf
      simp [call, send, hcl, hf, Trace.reply, hT, hr]

theorem Follows.call_reply (h : Follows m T c) (k : Call) : (c.call k).1 = Trace.reply m T k := by
  cases k with
  | output p => rw [h.call_output p]
  | drain => simp [call, Trace.reply, h.queue]
  | close => simp [call, close, Trace.reply, h.queue]

theorem Follows.refuse (h : Follows m T c) {p : Parcel} {err : SendError}
    (hr : Trace.reply m T (.output p) = .refused err) :
    Follows m (T ++ [(.output p, .refused err)]) c where
  capacity := h.capacity
  closed := by simp [h.closed, Call.isClose]
  queue := by simp [h.queue, Trace.pending_concat, Call.empties, Trace.taken?]
  bounded := h.bounded
  answered := hr ▸ h.answered.concat (.output p)
  conserved := by
    obtain ⟨lost, hacc, hlen, hopen⟩ := h.conserved
    exact ⟨lost, by simpa [Trace.taken?, Reply.handed] using hacc, by simpa [Reply.dropped] using hlen,
      by simpa [Call.isClose] using hopen⟩

theorem Follows.accept (h : Follows m T c) {p : Parcel} (hr : Trace.reply m T (.output p) = .accepted) :
    Follows m (T ++ [(.output p, .accepted)]) { c with queue := c.queue ++ [p] } where
  capacity := h.capacity
  closed := by simp [h.closed, Call.isClose]
  queue := by simp [h.queue, Trace.pending_concat, Call.empties, Trace.taken?]
  bounded hm := by
    -- taken below a positive capacity: one more still fits
    have hroom : ¬(0 < m ∧ ((Trace.pending T).length : Int) = m) := by
      intro hfull
      cases hcl : Trace.closed T <;> simp [Trace.reply, hcl, hfull] at hr
    have hb := h.bounded hm
    rw [h.queue] at hb ⊢
    simp only [List.length_append, List.length_singleton]
    omega
  answered := hr ▸ h.answered.concat (.output p)
  conserved := by
    obtain ⟨lost, hacc, hlen, hopen⟩ := h.conserved
    exact ⟨lost, by simp [hacc, Trace.taken?, Reply.handed], by simpa [Reply.dropped] using hlen,
      by simpa [Call.isClose] using hopen⟩

theorem Follows.drain (h : Follows m T c) :
    Follows m (T ++ [(.drain, .drained (Trace.pending T))]) c.drain.2 where
  capacity := h.capacity
  closed := by simp [Channel.drain, h.closed, Call.isClose]
  queue := by simp [Trace.pending_concat, Call.empties]
  bounded hm := by
    simp only [Channel.drain, List.length_nil, Int.natCast_zero]
    omega
  answered := h.answered.concat .drain
  conserved := by
    obtain ⟨lost, hacc, hlen, hopen⟩ := h.conserved
    refine ⟨lost, ?_, by simpa [Reply.dropped] using hlen, by simpa [Call.isClose] using hopen⟩
    -- what was lost came before a close, and after a close nothing is pending
    cases hcl : Trace.closed T with
    | false =>
      have hnil := hopen hcl
      simp [hacc, hnil, h.queue, Trace.taken?, Reply.handed]
    | true =>
      have hq : c.queue = [] := h.queue.trans (h.answered.pending_of_closed hcl)
      simp [hacc, hq, ← h.queue, Trace.taken?, Reply.handed]

theorem Follows.close (h : Follows m T c) :
    Follows m (T ++ [(.close, .closed (Trace.pending T).length)]) c.close.2 where
  capacity := h.capacity
  closed := by simp [Channel.close, Call.isClose]
  queue := by simp [Channel.close, Trace.pending_concat, Call.empties]
  bounded hm := by
    simp only [Channel.close, List.length_nil, Int.natCast_zero]
    omega
  answered := h.answered.concat .close
  conserved := by
    obtain ⟨lost, hacc, hlen, -⟩ := h.conserved
    refine ⟨lost ++ c.queue, ?_, ?_, by simp [Call.isClose]⟩
    · simp [Channel.close, hacc, Trace.taken?, Reply.handed]
    · simp [hlen, h.queue, Reply.dropped]

/-- Every call keeps what the trace tells of the channel. -/
theorem Follows.call (h : Follows m T c) (k : Call) :
    Follows m (T ++ [(k, (c.call k).1)]) (c.call k).2 := by
  rw [h.call_reply k]
  cases k with
  | output p =>
    rw [h.call_output p]
    rcases Trace.reply_output m T p with hr | ⟨err, hr⟩
    · simpa [hr] using h.accept hr
    · simpa [hr] using h.refuse hr
  | drain => exact h.drain
  | close => exact h.close

theorem Follows.calls (ks : List Call) :
    ∀ {s : List (Call × Reply) × Channel}, Follows m s.1 s.2 →
      Follows m (ks.foldl record s).1 (ks.foldl record s).2 := by
  induction ks with
  | nil => exact fun h => h
  | cons k ks ih => exact fun h => ih (h.call k)

end step

theorem calls_follows (m : Int) (ks : List Call) :
    Follows m ((create m).calls ks).1 ((create m).calls ks).2 :=
  Follows.calls ks (follows_create m)

theorem call_output_of_refused {c : Channel} {p : Parcel} (h : (c.call (.output p)).1 ≠ .accepted) :
    (c.call (.output p)).2 = c := by
  cases hs : c.send p with
  | ok d => simp [call, hs] at h
  | error e => simp [call, hs]

/-- Over every history of calls on a channel made with capacity `m`: each call gets the reply
that the calls before it call for (`Trace.reply`), a refused send changing nothing; after a
close every send is refused, every drain hands over nothing and every close discards nothing;
the channel is closed exactly when a close came, holds exactly the parcels taken since the last
drain or close, and never more than a positive capacity; and the parcels taken are, in the order
sent, those the drains handed over, then those the closes reported discarded, then those still
pending. -/
theorem calls_lossless_fifo (m : Int) (ks : List Call) :
    let T := ((create m).calls ks).1
    let c := ((create m).calls ks).2
    (∀ pre k r post, T = pre ++ (k, r) :: post → r = Trace.reply m pre k) ∧
    (∀ p, (c.call (.output p)).1 ≠ .accepted → (c.call (.output p)).2 = c) ∧
    (∀ pre k r post, T = pre ++ (k, r) :: post → Trace.closed pre = true →
      r = Trace.replyClosed k) ∧
    c.closed = Trace.closed T ∧ c.queue = Trace.pending T ∧
    (0 < m → (c.queue.length : Int) ≤ m) ∧
    ∃ lost, Trace.accepted T = Trace.delivered T ++ lost ++ Trace.pending T ∧
      lost.length = Trace.discarded T ∧ (Trace.closed T = false → lost = []) := by
  intro T c
  have h : Follows m T c := calls_follows m ks
  obtain ⟨lost, hacc, hlen, hopen⟩ := h.conserved
  exact ⟨h.answered, fun _ => call_output_of_refused,
    fun _ _ _ _ hT hc => h.answered.eq_replyClosed hT hc, h.closed, h.queue, h.bounded,
    lost, h.queue ▸ hacc, hlen, hopen⟩

/-- With room for one parcel, a second send is refused until a drain hands over the first. -/
example :
    (((create 1).calls [.output (.event ⟨.validityUpdate, ⟨0⟩⟩), .output (.event ⟨.delete, ⟨0⟩⟩),
      .drain]).1.map Prod.snd) =
      [.accepted, .refused (.full "Delete"), .drained [.event ⟨.validityUpdate, ⟨0⟩⟩]] := by
  decide

end Channel

end FarmSetup
