import Mathlib.Data.List.Nodup
import Mathlib.Data.List.Perm.Subperm
import FarmSetup.Schedule
/-!
# The layout of a farm list

The layout of a farm list is its order of identities, the identities whose entries it holds, the
entries it ever held, and the position it last showed for each identity. This module says what
each operation of the list does to the layout, and that each keeps it sound: no identity listed
twice, an entry held exactly for the listed identities whose first validation finished, each
entry filed under its own identity, and every listed identity shown at its place.

Sending, logging and closing the channel touch no part of the layout; removal and routing only
ever take identities out of the order, and a new identity joins it only at the end.
-/

namespace FarmSetup

/-- Progress that neither finishes nor awaits the first validation of an entry. -/
def Progress.Quiet : Progress Outcome → Prop
  | .finished (.joined _) => False
  | .waiting (.joining ..) => False
  | _ => True

namespace Roster

/-! ## Positions -/

theorem find?_zipIdx {l : List EntryId} (hnd : l.Nodup) {i : Nat} (hi : i < l.length) (k : Nat) :
    (l.zipIdx k).find? (·.1 == l[i]) = some (l[i], i + k) := by
  induction l generalizing i k with
  | nil => simp at hi
  | cons a t ih =>
    rw [List.zipIdx_cons]
    cases i with
    | zero => simp
    | succ j =>
      have hj : j < t.length := by simpa using hi
      have hne : a ≠ t[j] := fun h => (List.nodup_cons.mp hnd).1 (h ▸ List.getElem_mem _)
      rw [List.getElem_cons_succ, List.find?_cons_of_neg (by simpa using hne),
        ih (List.nodup_cons.mp hnd).2 hj (k + 1)]
      simp only [Option.some.injEq, Prod.mk.injEq, true_and]
      omega

/-- After renumbering, every identity of an order without repeats shows its own position. -/
theorem renumber_indexOf (r : Roster) (hnd : r.order.Nodup) {i : Nat} (hi : i < r.order.length) :
    r.renumber.indexOf r.order[i] = i := by
  simp [indexOf, renumber, List.find?_append, find?_zipIdx hnd hi 0]

/-! ## What an operation leaves as it was -/

theorem apply_frame (r : Roster) (effects : List Effect) :
    ∃ c js, r.apply effects = { r with channel := c, journal := js } := by
  induction effects generalizing r with
  | nil => exact ⟨r.channel, r.journal, rfl⟩
  | cons fx rest ih =>
    have first : ∃ c js, r.apply [fx] = { r with channel := c, journal := js } := by
      cases fx with
      | note n => exact ⟨r.channel, _, rfl⟩
      | send ev =>
        simp only [apply, List.foldl_cons, List.foldl_nil]
        split <;> exact ⟨_, _, rfl⟩
    obtain ⟨c₁, js₁, h₁⟩ := first
    obtain ⟨c₂, js₂, h₂⟩ := ih { r with channel := c₁, journal := js₁ }
    refine ⟨c₂, js₂, ?_⟩
    have split_first : r.apply (fx :: rest) = (r.apply [fx]).apply rest := rfl
    rw [split_first, h₁, h₂]

theorem close_frame (r : Roster) : ∃ c js, r.close = { r with channel := c, journal := js } := by
  unfold close
  dsimp only
  split
  · exact ⟨_, _, rfl⟩
  · exact ⟨_, r.journal, rfl⟩

section frame

variable (r : Roster)

@[simp] theorem apply_order (effects : List Effect) : (r.apply effects).order = r.order := by
  obtain ⟨c, js, h⟩ := apply_frame r effects
  rw [h]

@[simp] theorem apply_fresh (effects : List Effect) : (r.apply effects).fresh = r.fresh := by
  obtain ⟨c, js, h⟩ := apply_frame r effects
  rw [h]

@[simp] theorem close_order : r.close.order = r.order := by
  obtain ⟨c, js, h⟩ := close_frame r
  rw [h]

@[simp] theorem close_fresh : r.close.fresh = r.fresh := by
  obtain ⟨c, js, h⟩ := close_frame r
  rw [h]

@[simp] theorem keep_order (e : Entry) : (r.keep e).order = r.order := rfl
@[simp] theorem keep_fresh (e : Entry) : (r.keep e).fresh = r.fresh := rfl

@[simp] theorem update_order (e : Entry) (step : Entry → Entry × List Effect) :
    (r.update e step).order = r.order :=
  apply_order (r.keep (step e).1) (step e).2

@[simp] theorem update_fresh (e : Entry) (step : Entry → Entry × List Effect) :
    (r.update e step).fresh = r.fresh :=
  apply_fresh (r.keep (step e).1) (step e).2

end frame

theorem keep_held (r : Roster) (e : Entry) (id : EntryId) :
    (r.keep e).held? id = if id = e.id then some e else r.held? id := by
  by_cases h : id = e.id
  · subst h
    have hnone : r.store.find? (fun _ => false) = none := List.find?_eq_none.mpr (fun _ _ => by simp)
    simp [held?, keep, List.find?_append, List.find?_filter, hnone]
  · have hf : (r.store.filter (·.1 != e.id)).find? (·.1 == id) = r.store.find? (·.1 == id) := by
      rw [List.find?_filter]
      congr 1
      funext x
      by_cases hx : x.1 = id
      · simp [hx, h]
      · simp [hx]
    simp [held?, keep, List.find?_append, hf, h]
    cases r.store.find? (·.1 == id) <;> simp [Ne.symm h]

/-! ## Sound layouts -/

/-- A sound layout, for the identities `joined` whose first validation has finished. -/
structure Sound (joined : List EntryId) (r : Roster) : Prop where
  nodup : r.order.Nodup
  ready : ∀ id, id ∈ r.ready ↔ id ∈ r.order ∧ id ∈ joined
  ready_nodup : r.ready.Nodup
  held : ∀ id ∈ r.ready, ∃ e, r.held? id = some e ∧ e.id = id
  shown : ∀ i (h : i < r.order.length), r.indexOf r.order[i] = i

section sound

variable {joined : List EntryId} {r : Roster}

theorem create_sound (m : Machine) (capacity : Int) : Sound [] (Roster.create m capacity) := by
  constructor <;> simp [create]

theorem Sound.frame (hs : Sound joined r) (c : Channel) (js : Array Notice) :
    Sound joined { r with channel := c, journal := js } :=
  ⟨hs.nodup, hs.ready, hs.ready_nodup, hs.held, hs.shown⟩

theorem Sound.apply (hs : Sound joined r) (effects : List Effect) :
    Sound joined (r.apply effects) := by
  obtain ⟨c, js, h⟩ := apply_frame r effects
  rw [h]
  exact hs.frame c js

theorem Sound.keep (hs : Sound joined r) (e : Entry) : Sound joined (r.keep e) where
  nodup := hs.nodup
  ready := hs.ready
  ready_nodup := hs.ready_nodup
  held := by
    intro id hid
    rw [keep_held]
    by_cases h : id = e.id
    · exact ⟨e, by simp [h]⟩
    · simpa [h] using hs.held id hid
  shown := hs.shown

theorem Sound.update (hs : Sound joined r) (e : Entry) (step : Entry → Entry × List Effect) :
    Sound joined (r.update e step) :=
  (hs.keep _).apply _

/-! ## Adding, enrolling and removing -/

section reserve

variable (r : Roster)

@[simp] theorem reserve_id : r.reserve.2 = ⟨r.fresh⟩ := rfl
@[simp] theorem reserve_order : r.reserve.1.order = r.order ++ [⟨r.fresh⟩] := rfl
@[simp] theorem reserve_fresh : r.reserve.1.fresh = r.fresh + 1 := rfl
@[simp] theorem reserve_ready : r.reserve.1.ready = r.ready := rfl

end reserve

/-- Reserving a slot for an identity that is new to the order and has no finished validation
keeps the layout sound, the new identity shown last. -/
theorem Sound.reserve (hs : Sound joined r) (hnew : (⟨r.fresh⟩ : EntryId) ∉ r.order)
    (hj : (⟨r.fresh⟩ : EntryId) ∉ joined) : Sound joined r.reserve.1 := by
  have hnd : (r.order ++ [EntryId.mk r.fresh]).Nodup := by
    simpa using hs.nodup.concat hnew
  constructor
  · simpa using hnd
  · intro id
    rw [reserve_ready, hs.ready, reserve_order, List.mem_append, List.mem_singleton]
    constructor
    · exact fun ⟨ho, hj'⟩ => ⟨Or.inl ho, hj'⟩
    · rintro ⟨ho | rfl, hj'⟩
      · exact ⟨ho, hj'⟩
      · exact absurd hj' hj
  · exact hs.ready_nodup
  · exact hs.held
  · intro i hi
    exact renumber_indexOf { r with fresh := r.fresh + 1, order := r.order ++ [⟨r.fresh⟩] } hnd hi

theorem enroll_frame (r : Roster) (id : EntryId) (farm : Farm) (writable : Bool) :
    (r.enroll id farm writable).order = r.order ∧ (r.enroll id farm writable).fresh = r.fresh := by
  obtain ⟨c, js, h⟩ := apply_frame r (Entry.initial id farm.path farm.size writable).2
  unfold Roster.enroll
  dsimp only
  rw [h]
  split <;> exact ⟨rfl, rfl⟩

/-- The first validation of an identity not validated before keeps the layout sound once the
identity counts as validated: its entry is held if the identity is still listed, and not
otherwise. -/
theorem Sound.enroll (hs : Sound joined r) {id : EntryId} (hid : id ∉ joined) (farm : Farm)
    (writable : Bool) : Sound (joined ++ [id]) (r.enroll id farm writable) := by
  obtain ⟨c, js, h⟩ := apply_frame r (Entry.initial id farm.path farm.size writable).2
  have hfresh : id ∉ r.ready := fun h' => hid ((hs.ready id).mp h').2
  unfold Roster.enroll
  dsimp only
  rw [h]
  split
  · rename_i hlisted
    have hin : id ∈ r.order := by simpa using hlisted
    let kept := ({ r with channel := c, journal := js } : Roster).keep
      (Entry.initial id farm.path farm.size writable).1
    constructor
    · exact hs.nodup
    · intro x
      show x ∈ r.ready ++ [id] ↔ x ∈ r.order ∧ x ∈ joined ++ [id]
      simp only [List.mem_append, List.mem_singleton]
      by_cases hx : x = id
      · subst hx; simp [hin]
      · simp [hx, hs.ready x]
    · simpa using hs.ready_nodup.concat hfresh
    · intro x hx
      change x ∈ r.ready ++ [id] at hx
      show ∃ e, kept.held? x = some e ∧ e.id = x
      rw [keep_held]
      by_cases hxe : x = id
      · exact ⟨(Entry.initial id farm.path farm.size writable).1, by simp [hxe, Entry.initial],
          by simp [hxe, Entry.initial]⟩
      · have hx' : x ∈ r.ready := by simpa [hxe] using hx
        rw [if_neg (by simpa [Entry.initial] using hxe)]
        exact hs.held x hx'
    · exact hs.shown
  · rename_i hunlisted
    have hout : id ∉ r.order := by simpa using hunlisted
    constructor
    · exact hs.nodup
    · intro x
      show x ∈ r.ready ↔ x ∈ r.order ∧ x ∈ joined ++ [id]
      simp only [List.mem_append, List.mem_singleton]
      by_cases hx : x = id
      · subst hx; simp [hout, hfresh]
      · simp [hx, hs.ready x]
    · exact hs.ready_nodup
    · exact hs.held
    · exact hs.shown

/-- What a removal that succeeds does: it takes the identity out of the order at its position,
drops its entry from those held, renumbers and logs the position. -/
theorem remove_spec {id : EntryId} {r' : Roster} (h : r.remove id = .ok r') :
    ∃ pos, r.order.idxOf? id = some pos ∧
      r' = ({ r with order := r.order.eraseIdx pos, ready := r.ready.filter (· != id) }.renumber).note
        ⟨.info, .list, .removed pos⟩ := by
  unfold remove position at h
  split at h
  · rename_i pos hpos
    exact ⟨pos, hpos, (Except.ok.inj h).symm⟩
  · cases h

theorem remove_frame {id : EntryId} {r' : Roster} (h : r.remove id = .ok r') :
    r'.order = r.order.erase id ∧ r'.fresh = r.fresh := by
  obtain ⟨pos, hpos, rfl⟩ := remove_spec h
  refine ⟨?_, rfl⟩
  show r.order.eraseIdx pos = r.order.erase id
  rw [List.erase_eq_eraseIdx, hpos]

theorem Sound.remove (hs : Sound joined r) {id : EntryId} {r' : Roster} (h : r.remove id = .ok r') :
    Sound joined r' := by
  have horder := (remove_frame h).1
  obtain ⟨pos, hpos, rfl⟩ := remove_spec h
  have hnd : (r.order.erase id).Nodup := (List.erase_sublist).nodup hs.nodup
  constructor
  · exact horder ▸ hnd
  · intro x
    show x ∈ r.ready.filter (· != id) ↔ _
    rw [horder, hs.nodup.mem_erase_iff, List.mem_filter, hs.ready x, bne_iff_ne]
    constructor
    · rintro ⟨⟨ho, hj⟩, hne⟩
      exact ⟨⟨hne, ho⟩, hj⟩
    · rintro ⟨⟨hne, ho⟩, hj⟩
      exact ⟨⟨ho, hj⟩, hne⟩
  · exact hs.ready_nodup.filter _
  · intro x hx
    exact hs.held x (List.mem_filter.mp hx).1
  · intro i hi
    exact renumber_indexOf { r with order := r.order.eraseIdx pos, ready := r.ready.filter (· != id) }
      (horder ▸ hnd) hi

theorem Sound.note (hs : Sound joined r) (n : Notice) : Sound joined (r.note n) :=
  ⟨hs.nodup, hs.ready, hs.ready_nodup, hs.held, hs.shown⟩

theorem Sound.close (hs : Sound joined r) : Sound joined r.close := by
  obtain ⟨c, js, h⟩ := close_frame r
  rw [h]
  exact hs.frame c js

/-! ## Selections and routing -/

theorem startSelectOn_eq (r : Roster) (e : Entry) (path : Path) (rest : Option Routing) :
    r.startSelectOn e path rest = (r.keep e.startSelect.1, .selecting e.id (e.generation + 1) path rest) :=
  rfl

/-- Routing keeps the layout sound, only takes identities out of the order, and neither adds
an entry nor waits for one. -/
theorem Sound.route (rt : Routing) (hs : Sound joined r) :
    Sound joined (r.route rt).1 ∧ (r.route rt).1.order.Sublist r.order ∧
      (r.route rt).1.fresh = r.fresh ∧ (r.route rt).2.Quiet := by
  revert hs
  fun_induction Roster.route r rt with
  | case1 r rt hnil => exact fun hs => ⟨hs, List.Sublist.refl _, rfl, trivial⟩
  | case2 r rt rest rt₁ id h₁ h₂ ih => exact ih
  | case3 r rt rest rt₁ id h₁ r' hr h₂ ih =>
    intro hs
    obtain ⟨hs', hsub, hfresh, hq⟩ := ih (hs.remove hr)
    have hframe := remove_frame hr
    refine ⟨hs', hsub.trans ?_, hfresh.trans hframe.2, hq⟩
    rw [hframe.1]
    exact List.erase_sublist
  | case4 r rt rest rt₁ id h₁ err hr h₂ ih => exact fun hs => ih (hs.note _)
  | case5 r rt rest rt₁ id h₁ hnone h₂ ih => exact fun hs => ih (hs.note _)
  | case6 r rt rest rt₁ id h₁ answers hsome rt₂ path e he hpath r' w hsel h₂ =>
    intro hs
    rw [startSelectOn_eq] at hsel
    obtain ⟨rfl, rfl⟩ := Prod.mk.inj hsel
    exact ⟨hs.keep _, List.Sublist.refl _, rfl, trivial⟩
  | case7 r rt rest rt₁ id h₁ answers hsome rt₂ hnot h₂ ih => exact ih
  | case8 r rt rest rt₁ name lit h₁ h₂ ih => exact fun hs => ih (hs.note _)

theorem Sound.startRoute (hs : Sound joined r) (answers : Option (List (Option Path))) :
    Sound joined (r.startRoute answers).1 ∧ (r.startRoute answers).1.order.Sublist r.order ∧
      (r.startRoute answers).1.fresh = r.fresh ∧ (r.startRoute answers).2.Quiet :=
  Sound.route _ (hs.frame r.channel.drain.2 r.journal)

theorem startSelect_eq {id : EntryId} {path : Path} {r' : Roster} {op : Waiting}
    (h : r.startSelect id path = .ok (r', op)) :
    ∃ e : Entry, r' = r.keep e.startSelect.1 ∧ op = .selecting e.id (e.generation + 1) path none := by
  unfold startSelect at h
  cases he : r.entry id with
  | error err => rw [he] at h; cases h
  | ok e =>
    rw [he] at h
    obtain ⟨rfl, rfl⟩ := Prod.mk.inj (Except.ok.inj h)
    exact ⟨e, rfl, rfl⟩

/-- The answer to a selection updates the entry it was made on, if the list still holds one,
and resumes the routing it came from; like routing, it never adds an entry. -/
theorem Sound.resume_selecting (hs : Sound joined r) (id : EntryId) (ticket : Nat) (path : Path)
    (rest : Option Routing) (writable : Bool) :
    let out := r.resume (.selecting id ticket path rest) writable
    Sound joined out.1 ∧ out.1.order.Sublist r.order ∧ out.1.fresh = r.fresh ∧ out.2.Quiet := by
  -- the entry is updated only if the list still holds one; the routing, if any, then goes on
  cases rest with
  | none =>
    cases hh : r.held? id with
    | none =>
      rw [resume, hh]
      exact ⟨hs, List.Sublist.refl _, rfl, trivial⟩
    | some e =>
      rw [resume, hh]
      dsimp only
      exact ⟨hs.update _ _, by simp, by simp, trivial⟩
  | some rt =>
    cases hh : r.held? id with
    | none =>
      rw [resume, hh]
      exact Sound.route rt hs
    | some e =>
      rw [resume, hh]
      dsimp only
      obtain ⟨hs₂, hsub, hfresh, hq⟩ :=
        Sound.route rt (hs.update e fun e => e.finishSelect ticket path writable)
      exact ⟨hs₂, by simpa using hsub, by simpa using hfresh, hq⟩

/-! ## Entries and validity -/

theorem filterMap_held_ids (r : Roster) (l : List EntryId)
    (held : ∀ id ∈ r.ready, ∃ e, r.held? id = some e ∧ e.id = id) :
    (l.filterMap fun id => if r.ready.contains id then r.held? id else none).map Entry.id =
      l.filter (· ∈ r.ready) := by
  have hf : (fun id => if r.ready.contains id then r.held? id else none) =
      fun id => if id ∈ r.ready then r.held? id else none := by
    funext id
    simp
  rw [hf]
  induction l with
  | nil => rfl
  | cons x t ih =>
    by_cases hx : x ∈ r.ready
    · obtain ⟨e, he, hid⟩ := held x hx
      simp [hx, he, ih, hid]
    · simp [hx, ih]

/-- A sound list holds, in the order's order, the entry of every listed identity whose first
validation finished, each the entry filed under its identity. -/
theorem Sound.entries (hs : Sound joined r) :
    r.entries.map Entry.id = r.order.filter (· ∈ joined) ∧ ∀ e ∈ r.entries, r.held? e.id = some e := by
  constructor
  · rw [Roster.entries, filterMap_held_ids r r.order hs.held]
    apply List.filter_congr
    intro x hx
    simp [hs.ready x, hx]
  · intro e he
    obtain ⟨x, _, hx⟩ := List.mem_filterMap.mp he
    by_cases hr : r.ready.contains x = true
    · rw [if_pos hr] at hx
      obtain ⟨e', he', hid⟩ := hs.held x (by simpa using hr)
      rw [he'] at hx
      cases hx
      rw [hid, he']
    · rw [if_neg hr] at hx
      cases hx

/-- In a sound list the held entries number as many as the listed identities exactly when every
listed identity has finished its first validation. -/
theorem Sound.ready_length_iff (hs : Sound joined r) :
    r.ready.length = r.order.length ↔ ∀ id ∈ r.order, id ∈ joined := by
  have sub : r.ready ⊆ r.order := fun x hx => ((hs.ready x).mp hx).1
  constructor
  · intro hlen id hid
    have hperm := (hs.ready_nodup.subperm sub).perm_of_length_le (by omega)
    exact ((hs.ready id).mp (hperm.mem_iff.mpr hid)).2
  · intro hall
    have sub' : r.order ⊆ r.ready := fun x hx => (hs.ready x).mpr ⟨hx, hall x hx⟩
    exact Nat.le_antisymm (hs.ready_nodup.subperm sub).length_le (hs.nodup.subperm sub').length_le

/-- A sound list is valid exactly when it lists some identity, every listed identity has
finished its first validation, and every entry it holds is valid. -/
theorem Sound.isValid_iff (hs : Sound joined r) :
    r.isValid = true ↔ r.order ≠ [] ∧ (∀ id ∈ r.order, id ∈ joined) ∧
      ∀ e ∈ r.entries, e.isValid = true := by
  rw [← hs.ready_length_iff]
  simp [isValid, and_assoc]

end sound

end Roster

end FarmSetup
