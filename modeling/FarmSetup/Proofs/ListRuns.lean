import FarmSetup.Proofs.RosterLayout
/-!
# Runs of a farm list

A farm list is driven by its callers: farms are added and removed, directories are selected and
sizes changed through the list or on an entry it once held, entries post requests, the buffered
parcels are routed, parcels are posted to the channel and the channel is closed. An operation
that waits for a directory probe is set aside, and the probes are answered later, one at a time
and in any order, each with any result. A run is a sequence of such steps from an empty list.

Beside the list a run keeps its history: the identities the adds reserved, in the order the adds
started; the identities taken out of the order; the identities whose first validation finished;
and the operations set aside. Along every run the list's layout agrees with this history: its
order is the added identities without those taken out, it holds an entry exactly for the listed
identities whose first validation finished, it shows each identity at its place, and it is
valid exactly when it lists an identity, no listed identity is still being added, and every
entry it holds is valid.
-/

namespace FarmSetup

/-- The identity whose first validation an operation waits for, if it waits for one. -/
def Waiting.joiner? : Waiting → Option EntryId
  | .joining id _ _ => some id
  | .selecting .. => none

/-- The identity whose first validation finished, if the progress says so. -/
def Progress.joined? : Progress Outcome → Option EntryId
  | .finished (.joined id) => some id
  | _ => none

/-- The operation set aside, if the progress waits. -/
def Progress.waiting? {ρ : Type} : Progress ρ → Option Waiting
  | .finished _ => none
  | .waiting w => some w

theorem Progress.Quiet.joined? {p : Progress Outcome} (hq : p.Quiet) : p.joined? = none := by
  cases p with
  | finished o =>
    cases o with
    | joined id => exact hq.elim
    | selected | routed changed calls => rfl
  | waiting w => rfl

theorem Progress.Quiet.joiners {p : Progress Outcome} (hq : p.Quiet) :
    p.waiting?.toList.filterMap Waiting.joiner? = [] := by
  cases p with
  | finished o => rfl
  | waiting w =>
    cases w with
    | joining id farm path => exact hq.elim
    | selecting id ticket path rest => rfl

namespace ListRun

/-- A farm list with the history of its run. -/
structure State where
  roster : Roster
  waiting : List Waiting
  added : List EntryId
  gone : List EntryId
  joined : List EntryId

namespace State

/-- The identities whose first validation is set aside, waiting for its probe. -/
def joiners (s : State) : List EntryId := s.waiting.filterMap Waiting.joiner?

/-- The run once a step left the list `r`: the identities the step took out of the order are
gone. -/
def move (s : State) (r : Roster) : State :=
  { s with roster := r, gone := s.gone ++ s.roster.order.filter (· ∉ r.order) }

/-- The run once an operation ran until it finished or waited, with `rest` still set aside. -/
def settle (s : State) (rest : List Waiting) (out : Roster × Progress Outcome) : State :=
  { s.move out.1 with
    waiting := rest ++ out.2.waiting?.toList
    joined := s.joined ++ out.2.joined?.toList }

/-- Starts adding a farm; the identity it reserves is added. -/
def add (s : State) (farm : Farm) : State :=
  { s.settle s.waiting (s.roster.startAdd farm) with added := s.added ++ [s.roster.reserve.2] }

/-- Answers the probe of an operation set aside, the others being `rest`. -/
def answer (s : State) (rest : List Waiting) (w : Waiting) (writable : Bool) : State :=
  s.settle rest (s.roster.resume w writable)

end State

/-- An empty list on a machine, with a channel of a capacity. -/
def start (m : Machine) (capacity : Int) : State := ⟨Roster.create m capacity, [], [], [], []⟩

/-- What a caller does to the list. -/
inductive Op where
  | add (farm : Farm)
  | answer (w : Waiting) (writable : Bool)
  | remove (id : EntryId)
  | select (id : EntryId) (path : Path)
  | changeSize (id : EntryId) (text : Text)
  | selectHeld (id : EntryId) (path : Path)
  | changeHeld (id : EntryId) (text : Text)
  | request (id : EntryId) (kind : EventKind)
  | processEvents (answers : Option (List (Option Path)))
  | post (p : Parcel)
  | close

/-- The steps of a run. Selecting or changing a size through the list needs an entry it holds
now; acting on an entry directly needs only one it ever held, removed or not. A lookup or a
post that fails changes nothing, so it is no step. -/
inductive Step : State → Op → State → Prop where
  | add (s : State) (farm : Farm) : Step s (.add farm) (s.add farm)
  | answer (s : State) (before : List Waiting) (w : Waiting) (after : List Waiting)
      (writable : Bool) (hw : s.waiting = before ++ w :: after) :
      Step s (.answer w writable) (s.answer (before ++ after) w writable)
  | remove (s : State) (id : EntryId) (r : Roster) (h : s.roster.remove id = .ok r) :
      Step s (.remove id) (s.move r)
  | select (s : State) (id : EntryId) (path : Path) (r : Roster) (w : Waiting)
      (h : s.roster.startSelect id path = .ok (r, w)) :
      Step s (.select id path) (s.settle s.waiting (r, .waiting w))
  | changeSize (s : State) (id : EntryId) (text : Text) (e : Entry)
      (h : s.roster.entry id = .ok e) :
      Step s (.changeSize id text) (s.move (s.roster.update e (·.changeSize text)))
  | selectHeld (s : State) (id : EntryId) (path : Path) (e : Entry) (h : s.roster.held? id = some e) :
      Step s (.selectHeld id path)
        (s.settle s.waiting ((s.roster.startSelectOn e path none).1,
          .waiting (s.roster.startSelectOn e path none).2))
  | changeHeld (s : State) (id : EntryId) (text : Text) (e : Entry) (h : s.roster.held? id = some e) :
      Step s (.changeHeld id text) (s.move (s.roster.update e (·.changeSize text)))
  | request (s : State) (id : EntryId) (kind : EventKind) (e : Entry)
      (h : s.roster.held? id = some e) :
      Step s (.request id kind) (s.move (s.roster.apply (e.request kind)))
  | processEvents (s : State) (answers : Option (List (Option Path))) :
      Step s (.processEvents answers) (s.settle s.waiting (s.roster.startRoute answers))
  | post (s : State) (p : Parcel) (c : Channel) (h : s.roster.channel.send p = .ok c) :
      Step s (.post p) (s.move { s.roster with channel := c })
  | close (s : State) : Step s .close (s.move s.roster.close)

inductive Execution : State → State → Prop where
  | refl (s : State) : Execution s s
  | tail {s u v : State} {op : Op} : Execution s u → Step u op v → Execution s v

/-! ## Orders without repeats -/

section lists

variable {α : Type} [DecidableEq α]

/-- A sublist of a list without repeats is what the list keeps of its members. -/
theorem filter_mem_of_sublist {l₁ l₂ : List α} (h : l₁.Sublist l₂) (hnd : l₂.Nodup) :
    l₂.filter (· ∈ l₁) = l₁ := by
  induction h with
  | slnil => rfl
  | cons a h ih =>
    have ha : a ∉ _ := fun ha => (List.nodup_cons.mp hnd).1 (h.subset ha)
    rw [List.filter_cons_of_neg (by simpa using ha), ih (List.nodup_cons.mp hnd).2]
  | cons_cons a h ih =>
    have ha := (List.nodup_cons.mp hnd).1
    rw [List.filter_cons_of_pos (by simp)]
    congr 1
    refine (List.filter_congr fun x hx => ?_).trans (ih (List.nodup_cons.mp hnd).2)
    have hxa : x ≠ a := fun hxa => ha (hxa ▸ hx)
    simp [hxa]

/-- If an order is a history's added members without the gone ones, what remains of the order
after some members leave is the added members without the gone ones and those that left. -/
theorem filter_after_leaving {added gone old new : List α} (hold : old = added.filter (· ∉ gone))
    (hnd : old.Nodup) (hsub : new.Sublist old) :
    new = added.filter (· ∉ gone ++ old.filter (· ∉ new)) := by
  calc new = old.filter (· ∈ new) := (filter_mem_of_sublist hsub hnd).symm
    _ = (added.filter (· ∉ gone)).filter (· ∈ new) := by rw [hold]
    _ = added.filter (· ∉ gone ++ old.filter (· ∉ new)) := by
      rw [List.filter_filter]
      apply List.filter_congr
      intro x hx
      by_cases hg : x ∈ gone
      · simp [hg]
      · have hxold : x ∈ old := hold ▸ List.mem_filter.mpr ⟨hx, by simpa using hg⟩
        simp [hg, hxold]

end lists

/-! ## The invariant -/

/-- The layout of the list agrees with the history of its run. -/
structure Invariant (s : State) : Prop where
  sound : s.roster.Sound s.joined
  added_nodup : s.added.Nodup
  added_fresh : ∀ id ∈ s.added, id.key < s.roster.fresh
  gone_added : ∀ id ∈ s.gone, id ∈ s.added
  order : s.roster.order = s.added.filter (· ∉ s.gone)
  joined_added : ∀ id ∈ s.joined, id ∈ s.added
  joiners : ∀ id ∈ s.joiners, id ∈ s.added ∧ id ∉ s.joined
  joiners_nodup : s.joiners.Nodup
  pending : ∀ id ∈ s.roster.order, id ∈ s.joined ∨ id ∈ s.joiners

section invariant

variable {s : State}

theorem start_invariant (m : Machine) (capacity : Int) : Invariant (start m capacity) where
  sound := Roster.create_sound m capacity
  added_nodup := List.nodup_nil
  added_fresh := by simp [start]
  gone_added := by simp [start]
  order := rfl
  joined_added := by simp [start]
  joiners := by simp [start, State.joiners]
  joiners_nodup := List.nodup_nil
  pending := by simp [start, Roster.create]

theorem Invariant.order_subset (h : Invariant s) {id : EntryId} (hid : id ∈ s.roster.order) :
    id ∈ s.added := by
  rw [h.order] at hid
  exact (List.mem_filter.mp hid).1

/-- A step that leaves a sound list whose order only lost identities, and that gives no fresh
identity, keeps the invariant. -/
theorem Invariant.move (h : Invariant s) {r : Roster} (hs : r.Sound s.joined)
    (hsub : r.order.Sublist s.roster.order) (hfresh : r.fresh = s.roster.fresh) :
    Invariant (s.move r) where
  sound := hs
  added_nodup := h.added_nodup
  added_fresh := fun id hid => hfresh ▸ h.added_fresh id hid
  gone_added := by
    intro id hid
    rcases List.mem_append.mp hid with hg | hl
    · exact h.gone_added id hg
    · exact h.order_subset (List.mem_filter.mp hl).1
  order := filter_after_leaving h.order h.sound.nodup hsub
  joined_added := h.joined_added
  joiners := h.joiners
  joiners_nodup := h.joiners_nodup
  pending := fun id hid => h.pending id (hsub.subset hid)

/-- Setting operations aside or answering them keeps the invariant while the identities
awaiting their first validation stay the same. -/
theorem Invariant.rewait (h : Invariant s) {ws : List Waiting}
    (hw : ws.filterMap Waiting.joiner? = s.joiners) : Invariant { s with waiting := ws } where
  sound := h.sound
  added_nodup := h.added_nodup
  added_fresh := h.added_fresh
  gone_added := h.gone_added
  order := h.order
  joined_added := h.joined_added
  joiners := by simpa only [State.joiners, hw] using h.joiners
  joiners_nodup := by simpa only [State.joiners, hw] using h.joiners_nodup
  pending := by simpa only [State.joiners, hw] using h.pending

/-- An operation that neither finishes nor awaits a first validation keeps the invariant, when
it leaves a sound list whose order only lost identities and the operations set aside keep the
same identities awaiting their first validation. -/
theorem Invariant.settle_quiet (h : Invariant s) {rest : List Waiting}
    {out : Roster × Progress Outcome} (hs : out.1.Sound s.joined)
    (hsub : out.1.order.Sublist s.roster.order) (hfresh : out.1.fresh = s.roster.fresh)
    (hq : out.2.Quiet) (hrest : rest.filterMap Waiting.joiner? = s.joiners) :
    Invariant (s.settle rest out) := by
  have hsettle : s.settle rest out = { s.move out.1 with waiting := rest ++ out.2.waiting?.toList } := by
    simp only [State.settle, hq.joined?, Option.toList_none, List.append_nil]
    rfl
  rw [hsettle]
  exact (h.move hs hsub hfresh).rewait (by simp [List.filterMap_append, hq.joiners, hrest]; rfl)

/-! ## Adding and answering -/

theorem move_of_subset {r : Roster} (ho : s.roster.order ⊆ r.order) :
    s.move r = { s with roster := r } := by
  have hnil : s.roster.order.filter (· ∉ r.order) = [] :=
    List.filter_eq_nil_iff.mpr fun x hx => by simpa using ho hx
  rw [State.move, hnil, List.append_nil]

theorem settle_of_subset {rest : List Waiting} {r : Roster} {p : Progress Outcome}
    (ho : s.roster.order ⊆ r.order) :
    s.settle rest (r, p) =
      { s with roster := r, waiting := rest ++ p.waiting?.toList, joined := s.joined ++ p.joined?.toList } := by
  unfold State.settle
  dsimp only
  rw [move_of_subset ho]

/-- The run once an add reserved its slot and set aside its first validation. -/
def State.reserved (s : State) (farm : Farm) (p : Path) : State :=
  { s with
    roster := s.roster.reserve.1
    waiting := s.waiting ++ [.joining s.roster.reserve.2 farm p]
    added := s.added ++ [s.roster.reserve.2] }

theorem reserved_joiners (farm : Farm) (p : Path) :
    (s.reserved farm p).joiners = s.joiners ++ [s.roster.reserve.2] := by
  simp [State.reserved, State.joiners, List.filterMap_append, Waiting.joiner?]

/-- An add of a farm with a directory reserves its slot and waits for the probe. -/
theorem add_of_path {farm : Farm} {p : Path} (hp : farm.path = some p) :
    s.add farm = s.reserved farm p := by
  have hstart : s.roster.startAdd farm =
      (s.roster.reserve.1, .waiting (.joining s.roster.reserve.2 farm p)) := by
    simp only [Roster.startAdd, hp]
  rw [State.add, hstart, settle_of_subset (by simp)]
  simp [State.reserved, Progress.waiting?, Progress.joined?]

/-- An add of a farm without a directory reserves its slot and finishes its first validation at
once, as if its probe were answered. -/
theorem add_of_no_path {farm : Farm} (hp : farm.path = none) (p : Path) :
    s.add farm = (s.reserved farm p).answer s.waiting (.joining s.roster.reserve.2 farm p) false := by
  have hstart : s.roster.startAdd farm =
      (s.roster.reserve.1.enroll s.roster.reserve.2 farm false, .finished (.joined s.roster.reserve.2)) := by
    simp only [Roster.startAdd, hp]
  have horder := (s.roster.reserve.1.enroll s.roster.reserve.2 farm false).order
  rw [State.add, hstart, settle_of_subset (by simp [(Roster.enroll_frame ..).1]), State.answer]
  show _ = (s.reserved farm p).settle s.waiting
    (s.roster.reserve.1.enroll s.roster.reserve.2 farm false, .finished (.joined s.roster.reserve.2))
  rw [settle_of_subset (by simp [State.reserved, (Roster.enroll_frame ..).1])]
  rfl

/-- Reserving the slot of an add keeps the invariant: the fresh identity is new to the history,
joins the order at its end and waits for its first validation. -/
theorem Invariant.reserved (h : Invariant s) (farm : Farm) (p : Path) :
    Invariant (s.reserved farm p) := by
  have hadded : s.roster.reserve.2 ∉ s.added := fun hm => Nat.lt_irrefl _ (h.added_fresh _ hm)
  have horder : s.roster.reserve.2 ∉ s.roster.order := fun hm => hadded (h.order_subset hm)
  have hjoined : s.roster.reserve.2 ∉ s.joined := fun hm => hadded (h.joined_added _ hm)
  have hgone : s.roster.reserve.2 ∉ s.gone := fun hm => hadded (h.gone_added _ hm)
  have hjoiner : s.roster.reserve.2 ∉ s.joiners := fun hm => hadded (h.joiners _ hm).1
  refine ⟨h.sound.reserve horder hjoined, ?_, ?_, ?_, ?_, ?_, ?_, ?_, ?_⟩
  · dsimp only [State.reserved]
    simpa using h.added_nodup.concat hadded
  · dsimp only [State.reserved]
    intro id hid
    rcases List.mem_append.mp hid with hm | hm
    · exact Nat.lt_succ_of_lt (h.added_fresh id hm)
    · simp [List.mem_singleton.mp hm]
  · exact fun id hid => List.mem_append_left _ (h.gone_added id hid)
  · show s.roster.reserve.1.order = (s.added ++ [s.roster.reserve.2]).filter (· ∉ s.gone)
    have hgone' : (⟨s.roster.fresh⟩ : EntryId) ∉ s.gone := hgone
    rw [Roster.reserve_order, h.order, List.filter_append]
    simp [hgone']
  · exact fun id hid => List.mem_append_left _ (h.joined_added id hid)
  · rw [reserved_joiners]
    intro id hid
    rcases List.mem_append.mp hid with hm | hm
    · exact ⟨List.mem_append_left _ (h.joiners id hm).1, (h.joiners id hm).2⟩
    · rw [List.mem_singleton.mp hm]
      exact ⟨List.mem_append_right _ (List.mem_singleton_self _), hjoined⟩
  · rw [reserved_joiners]
    simpa using h.joiners_nodup.concat hjoiner
  · rw [reserved_joiners]
    dsimp only [State.reserved]
    intro id hid
    rcases List.mem_append.mp hid with hm | hm
    · exact (h.pending id hm).imp_right (List.mem_append_left _)
    · exact Or.inr (List.mem_append_right _ hm)

/-- The first validation of an identity set aside keeps the invariant once the identity counts
as validated: the list holds its entry if it is still listed, and not otherwise. -/
theorem Invariant.enroll (h : Invariant s) {before after : List Waiting} {id : EntryId} {farm : Farm}
    {p : Path} (hw : s.waiting = before ++ .joining id farm p :: after) (writable : Bool) :
    Invariant { s with
      roster := s.roster.enroll id farm writable
      waiting := before ++ after
      joined := s.joined ++ [id] } := by
  have hsplit : s.joiners = before.filterMap Waiting.joiner? ++ id :: after.filterMap Waiting.joiner? := by
    simp [State.joiners, hw, List.filterMap_append, Waiting.joiner?]
  have hid := h.joiners id (by simp [hsplit])
  have hnd : id ∉ before.filterMap Waiting.joiner? ++ after.filterMap Waiting.joiner? ∧
      (before.filterMap Waiting.joiner? ++ after.filterMap Waiting.joiner?).Nodup := by
    have hnd := h.joiners_nodup
    rw [hsplit, List.nodup_middle, List.nodup_cons] at hnd
    exact hnd
  have hrest : ∀ x, x ∈ (before ++ after).filterMap Waiting.joiner? ↔ x ∈ s.joiners ∧ x ≠ id := by
    intro x
    rw [List.filterMap_append, hsplit, List.mem_append, List.mem_append, List.mem_cons]
    constructor
    · intro hx
      refine ⟨hx.imp_right Or.inr, ?_⟩
      rintro rfl
      exact hnd.1 (List.mem_append.mpr hx)
    · rintro ⟨hx | hx | hx, hne⟩
      · exact Or.inl hx
      · exact absurd hx hne
      · exact Or.inr hx
  have horder := (Roster.enroll_frame s.roster id farm writable)
  refine ⟨h.sound.enroll hid.2 farm writable, h.added_nodup, ?_, h.gone_added, ?_, ?_, ?_, ?_, ?_⟩
  · exact fun x hx => horder.2 ▸ h.added_fresh x hx
  · exact horder.1.trans h.order
  · intro x hx
    rcases List.mem_append.mp hx with hm | hm
    · exact h.joined_added x hm
    · exact List.mem_singleton.mp hm ▸ hid.1
  · intro x hx
    obtain ⟨hj, hne⟩ := (hrest x).mp hx
    have := h.joiners x hj
    exact ⟨this.1, by simpa [hne] using this.2⟩
  · show ((before ++ after).filterMap Waiting.joiner?).Nodup
    rw [List.filterMap_append]
    exact hnd.2
  · intro x hx
    rcases h.pending x (horder.1 ▸ hx) with hj | hj
    · exact Or.inl (List.mem_append_left _ hj)
    · by_cases hxid : x = id
      · exact Or.inl (List.mem_append_right _ (List.mem_singleton.mpr hxid))
      · exact Or.inr ((hrest x).mpr ⟨hj, hxid⟩)

/-- Answering the probe of an operation set aside keeps the invariant. -/
theorem Invariant.answer (h : Invariant s) {before after : List Waiting} {w : Waiting}
    (hw : s.waiting = before ++ w :: after) (writable : Bool) :
    Invariant (s.answer (before ++ after) w writable) := by
  cases w with
  | joining id farm p =>
    have hanswer : s.answer (before ++ after) (.joining id farm p) writable =
        { s with
          roster := s.roster.enroll id farm writable
          waiting := before ++ after
          joined := s.joined ++ [id] } := by
      show s.settle _ (s.roster.enroll id farm writable, .finished (.joined id)) = _
      rw [settle_of_subset (by simp [(Roster.enroll_frame ..).1])]
      simp [Progress.waiting?, Progress.joined?]
    rw [hanswer]
    exact h.enroll hw writable
  | selecting id ticket path rest =>
    obtain ⟨hs, hsub, hfresh, hq⟩ := h.sound.resume_selecting id ticket path rest writable
    exact h.settle_quiet hs hsub hfresh hq
      (by simp [State.joiners, hw, List.filterMap_append, List.filterMap_cons, Waiting.joiner?])

/-! ## Every run -/

theorem step_preserves_invariant (h : Invariant s) {op : Op} {t : State} (hstep : Step s op t) :
    Invariant t := by
  cases hstep with
  | add farm =>
    cases hp : farm.path with
    | some p =>
      rw [add_of_path hp]
      exact h.reserved farm p
    | none =>
      have hw : (s.reserved farm (Path.ofText [])).waiting =
          s.waiting ++ .joining s.roster.reserve.2 farm (Path.ofText []) :: [] := rfl
      have hinv := (h.reserved farm _).answer hw false
      rw [List.append_nil] at hinv
      rw [add_of_no_path hp (Path.ofText [])]
      exact hinv
  | answer before w after writable hw => exact h.answer hw writable
  | remove id r hr =>
    have hframe := Roster.remove_frame hr
    exact h.move (h.sound.remove hr) (hframe.1 ▸ List.erase_sublist) hframe.2
  | select id path r w hsel =>
    obtain ⟨e, rfl, rfl⟩ := Roster.startSelect_eq hsel
    exact h.settle_quiet (h.sound.keep _) (by simp) rfl trivial rfl
  | changeSize id text e he => exact h.move (h.sound.update _ _) (by simp) (by simp)
  | selectHeld id path e he =>
    simp only [Roster.startSelectOn_eq]
    exact h.settle_quiet (h.sound.keep _) (by simp) rfl trivial rfl
  | changeHeld id text e he => exact h.move (h.sound.update _ _) (by simp) (by simp)
  | request id kind e he => exact h.move (h.sound.apply _) (by simp) (by simp)
  | processEvents answers =>
    obtain ⟨hs, hsub, hfresh, hq⟩ := h.sound.startRoute answers
    exact h.settle_quiet hs hsub hfresh hq rfl
  | post p c hc => exact h.move (h.sound.frame c _) (List.Sublist.refl _) rfl
  | close => exact h.move h.sound.close (by simp) (by simp)

theorem Execution.invariant {s₀ s : State} (h : Execution s₀ s) (h₀ : Invariant s₀) : Invariant s := by
  induction h with
  | refl => exact h₀
  | tail _ step ih => exact step_preserves_invariant ih step

end invariant

/-! ## The layout along every run -/

/-- The layout of the list after a run, as the history of the run accounts for it: no identity
listed twice, the order being the added identities in the order their adds started without those
taken out; an entry held exactly for the listed identities whose first validation finished; each
listed identity shown at its position; the entries listed in the order's order, each the one
filed under its identity; and validity meaning that the list is not empty, no listed identity is
still being added and every entry is valid. -/
structure Layout (s : State) : Prop where
  nodup : s.roster.order.Nodup
  order : s.roster.order = s.added.filter (· ∉ s.gone)
  ready : ∀ id, id ∈ s.roster.ready ↔ id ∈ s.roster.order ∧ id ∈ s.joined
  shown : ∀ i (h : i < s.roster.order.length), s.roster.indexOf s.roster.order[i] = i
  entries : s.roster.entries.map Entry.id = s.roster.order.filter (· ∈ s.joined)
  held : ∀ e ∈ s.roster.entries, s.roster.held? e.id = some e
  valid : s.roster.isValid = true ↔ s.roster.order ≠ [] ∧ (∀ id ∈ s.roster.order, id ∉ s.joiners) ∧
    ∀ e ∈ s.roster.entries, e.isValid = true

section layout

variable {s : State}

/-- A listed identity has finished its first validation exactly when it is not still being
added. -/
theorem Invariant.joined_iff (h : Invariant s) {id : EntryId} (hid : id ∈ s.roster.order) :
    id ∈ s.joined ↔ id ∉ s.joiners :=
  ⟨fun hj hw => (h.joiners id hw).2 hj, fun hw => (h.pending id hid).resolve_right hw⟩

theorem Invariant.layout (h : Invariant s) : Layout s where
  nodup := h.sound.nodup
  order := h.order
  ready := h.sound.ready
  shown := h.sound.shown
  entries := h.sound.entries.1
  held := h.sound.entries.2
  valid := by
    rw [h.sound.isValid_iff]
    have hpending : (∀ id ∈ s.roster.order, id ∈ s.joined) ↔ ∀ id ∈ s.roster.order, id ∉ s.joiners :=
      forall₂_congr fun _ hid => h.joined_iff hid
    rw [hpending]

end layout

/-- Every run of a farm list from an empty one, through any interleaving of adds, removals,
selections, size changes, requests, routings, posts and closing with the answers of the probes
it waits for, in any order and with any results, leaves the list in the layout its history
accounts for. -/
theorem list_layout (m : Machine) (capacity : Int) {s : State} (h : Execution (start m capacity) s) :
    Layout s :=
  (h.invariant (start_invariant m capacity)).layout

/-- Two adds: the first waits for the probe of `/srv/a`, the second has no directory and
finishes at once; the first is removed before its probe answers. -/
def removedWhileAdding : State :=
  let a : Farm := ⟨some (Path.ofText (Text.ofString "/srv/a")), Text.ofString "3 GB"⟩
  let s := ((start ⟨⟨[]⟩, [], []⟩ 0).add a).add ⟨none, Text.ofString "3 GB"⟩
  let s := s.move ((s.roster.remove ⟨0⟩).toOption.getD s.roster)
  s.answer [] (.joining ⟨0⟩ a (Path.ofText (Text.ofString "/srv/a"))) true

/-- The removed identity never joins the list, though its first validation finishes after the
removal. -/
theorem list_layout_removed_while_adding :
    Execution (start ⟨⟨[]⟩, [], []⟩ 0) removedWhileAdding ∧ Layout removedWhileAdding := by
  have run : Execution (start ⟨⟨[]⟩, [], []⟩ 0) removedWhileAdding :=
    .tail (.tail (.tail (.tail (.refl _) (.add _ _)) (.add _ _)) (.remove _ ⟨0⟩ _ rfl))
      (.answer _ [] _ [] true rfl)
  exact ⟨run, list_layout _ _ run⟩

example : removedWhileAdding.roster.order = [⟨1⟩] ∧ removedWhileAdding.roster.ready = [⟨1⟩] ∧
    removedWhileAdding.gone = [⟨0⟩] := by
  decide

end ListRun

end FarmSetup
