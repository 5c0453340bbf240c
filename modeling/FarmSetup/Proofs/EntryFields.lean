import FarmSetup.Proofs.EntryRuns
/-!
# The fields of a farm entry along its runs

What each step does to the two validated fields of an entry, and what holds of them in every state
a run reaches. A size edit and an answer the entry takes are its update cycles: each clears all
four change flags, then sets one field, which raises both of that field's flags, and leaves the
other field's value and validity alone. Starting a selection and sending a request touch neither
field, flags included, so while a probe is out the entry shows what it showed before.

Along every run from a first validation, the size field holds the text of the last edit, kept even
when it is no valid size, with that text's verdict as its validity; the path field is empty only
while the first validation had no directory and no answer was taken, and an empty path is never
valid. So the path is valid, shows its error, or is empty, and exactly one of the three.
-/

namespace FarmSetup

namespace Entry

variable (e : Entry)

@[simp] theorem changeSize_size (text : Text) :
    (e.changeSize text).1.size = (e.size.resetFlags.setValidity (sizeIsValid text)).replaceValue text :=
  rfl

theorem finishSelect_path (path : Path) (writable : Bool) :
    (e.finishSelect e.generation path writable).1.path =
      (e.path.resetFlags.setValidity writable).replaceValue (some path) := by
  simp [finishSelect, beginCycle]

theorem finishSelect_size (path : Path) (writable : Bool) :
    (e.finishSelect e.generation path writable).1.size = e.size.resetFlags := by
  simp [finishSelect, beginCycle]

end Entry

namespace EntryRun

/-- A run with the acts it took, oldest first. -/
inductive Trace : State → List Act → State → Prop where
  | nil (s : State) : Trace s [] s
  | tail {s u v : State} {acts : List Act} {a : Act} :
      Trace s acts u → Step u a v → Trace s (acts ++ [a]) v

/-- The text an act puts in the size field, if it is a size edit. -/
def Act.edit? : Act → Option Text
  | .editSize text => some text
  | _ => none

/-- Whether an act may be an update cycle: a size edit, or a probe's answer. -/
def Act.mayCycle : Act → Bool
  | .editSize _ => true
  | .answer .. => true
  | _ => false

/-! ## One step -/

section step

variable {s t : State} {a : Act}

/-- Only a size edit sets the size text, and it sets it to its own text, valid or not. -/
theorem step_size_value (h : Step s a t) : t.entry.size.value = a.edit?.getD s.entry.size.value := by
  cases h with
  | editSize text => simp [State.editSize, Act.edit?]
  | select path | requestDelete | requestChooser => rfl
  | answer before p after w hq =>
    by_cases hc : p.ticket = s.entry.generation
    · simp [State.answer, hc, Entry.finishSelect_size, Act.edit?]
    · simp [State.answer, Entry.finishSelect_stale _ _ _ hc, Act.edit?]

/-- A size edit sets the size field, raising both its flags, and leaves the path field as it was
with its flags cleared. -/
theorem editSize_fields {text : Text} (h : Step s (.editSize text) t) :
    t.entry.size.valueChanged = true ∧ t.entry.size.validityChanged = true ∧
      t.entry.path = s.entry.path.resetFlags := by
  cases h
  simp [State.editSize]

/-- A taken answer sets the path field, raising both its flags, and leaves the size field as it
was with its flags cleared. -/
theorem answer_taken_fields {id : EntryId} {g₀ k : Nat} {w : Bool} (hs : Invariant id g₀ s)
    (h : Step s (.answer k w) t) (hk : k ∈ t.taken) :
    t.entry.path.valueChanged = true ∧ t.entry.path.validityChanged = true ∧
      t.entry.size = s.entry.size.resetFlags := by
  have hcur := (answer_taken_iff hs h).mp hk
  cases h with
  | answer before p after _ hq =>
    have hc : p.ticket = s.entry.generation := (hs.takes_iff (hs.answer_split hq).1).mpr hcur
    simp [State.answer, hc, Entry.finishSelect_path, Entry.finishSelect_size]

/-- Starting a selection and sending a request leave both fields as they were, flags included. -/
theorem quiet_fields (h : Step s a t) (hq : a.mayCycle = false) :
    t.entry.path = s.entry.path ∧ t.entry.size = s.entry.size := by
  cases h with
  | editSize text | answer before p after w _ => simp [Act.mayCycle] at hq
  | select path | requestDelete | requestChooser => exact ⟨rfl, rfl⟩

end step

/-- What each step of a run from a first validation does to the entry's fields. A size edit
leaves the size field with both flags raised and the path field with its value and validity as
before and both flags cleared; an answer the entry takes does the same with the two fields
swapped; starting a selection and sending either request change neither field, flags included. -/
theorem cycle_flags (id : EntryId) (path : Option Path) (size : Text) (writable : Bool) {s : State}
    (h : Execution (start id path size writable) s) :
    (∀ text t, Step s (.editSize text) t →
      t.entry.size.valueChanged = true ∧ t.entry.size.validityChanged = true ∧
        t.entry.path = s.entry.path.resetFlags) ∧
    (∀ k w t, Step s (.answer k w) t → k ∈ t.taken →
      t.entry.path.valueChanged = true ∧ t.entry.path.validityChanged = true ∧
        t.entry.size = s.entry.size.resetFlags) ∧
    (∀ a t, Step s a t → a.mayCycle = false →
      t.entry.path = s.entry.path ∧ t.entry.size = s.entry.size) := by
  have hs := h.invariant (start_invariant id path size writable)
  exact ⟨fun _ _ step => editSize_fields step, fun _ _ _ step hk => answer_taken_fields hs step hk,
    fun _ _ step hq => quiet_fields step hq⟩

/-- A selection of `/srv/farm` whose probe is still out. -/
def probeOut : State :=
  (start ⟨1⟩ none (Text.ofString "3 GB") false).select (Path.ofText (Text.ofString "/srv/farm"))

/-- While the probe is out, every step does to the fields what `cycle_flags` says. -/
theorem cycle_flags_probe_out :
    Execution (start ⟨1⟩ none (Text.ofString "3 GB") false) probeOut ∧
    (∀ text t, Step probeOut (.editSize text) t →
      t.entry.size.valueChanged = true ∧ t.entry.size.validityChanged = true ∧
        t.entry.path = probeOut.entry.path.resetFlags) ∧
    (∀ k w t, Step probeOut (.answer k w) t → k ∈ t.taken →
      t.entry.path.valueChanged = true ∧ t.entry.path.validityChanged = true ∧
        t.entry.size = probeOut.entry.size.resetFlags) ∧
    (∀ a t, Step probeOut a t → a.mayCycle = false →
      t.entry.path = probeOut.entry.path ∧ t.entry.size = probeOut.entry.size) := by
  have run : Execution (start ⟨1⟩ none (Text.ofString "3 GB") false) probeOut :=
    .tail (.refl _) (.select _ _)
  exact ⟨run, cycle_flags _ _ _ _ run⟩

/-! ## Every run -/

/-- The fields agree with each other and with the run: the size's validity is its text's verdict,
an empty path is not valid, and the path is empty exactly while the first validation had no
directory and no answer was taken. -/
structure Coherent (path₀ : Option Path) (s : State) : Prop where
  size_valid : s.entry.size.valid = sizeIsValid s.entry.size.value
  unprobed : s.entry.path.value = none → s.entry.path.valid = false
  no_path : s.entry.path.value = none ↔ path₀ = none ∧ s.taken = []

section coherent

variable {path₀ : Option Path} {s t : State} {a : Act}

theorem start_coherent (id : EntryId) (path₀ : Option Path) (size : Text) (writable : Bool) :
    Coherent path₀ (start id path₀ size writable) where
  size_valid := rfl
  unprobed := by
    intro h
    simp only [start, Entry.initial, Field.create] at h
    simp [start, Entry.initial, Field.create, h]
  no_path := by simp [start, Entry.initial, Field.create]

/-- A step that leaves the path field's value and validity and the taken answers alone, and sets
the size field to a text with its verdict, keeps the fields coherent. -/
theorem Coherent.of_path (hs : Coherent path₀ s) (hv : t.entry.path.value = s.entry.path.value)
    (hw : t.entry.path.valid = s.entry.path.valid) (htaken : t.taken = s.taken)
    (hsize : t.entry.size.valid = sizeIsValid t.entry.size.value) : Coherent path₀ t where
  size_valid := hsize
  unprobed := by rw [hv, hw]; exact hs.unprobed
  no_path := by rw [hv, htaken]; exact hs.no_path

theorem step_coherent (hs : Coherent path₀ s) (h : Step s a t) : Coherent path₀ t := by
  cases h with
  | editSize text =>
    exact hs.of_path (by simp [State.editSize]) (by simp [State.editSize]) rfl
      (by simp [State.editSize])
  | select path | requestDelete | requestChooser => exact hs.of_path rfl rfl rfl hs.size_valid
  | answer before p after w hq =>
    by_cases hc : p.ticket = s.entry.generation
    · -- the answer is taken: the path is now the chosen directory, and the answer is on record
      refine ⟨?_, ?_, ?_⟩
      · simpa [State.answer, hc, Entry.finishSelect_size] using hs.size_valid
      · simp [State.answer, hc]
      · simp [State.answer, hc]
    · have he := Entry.finishSelect_stale s.entry p.path w hc
      exact hs.of_path (by simp [State.answer, he]) (by simp [State.answer, he])
        (by simp [State.answer, hc]) (by simpa [State.answer, he] using hs.size_valid)

theorem Trace.coherent {s₀ : State} {acts : List Act} (h : Trace s₀ acts s) (h₀ : Coherent path₀ s₀) :
    Coherent path₀ s := by
  induction h with
  | nil => exact h₀
  | tail _ step ih => exact step_coherent ih step

/-- Along a run, the size text is the last edit's text, or the first one when no edit came. -/
theorem Trace.size_value {s₀ : State} {acts : List Act} (h : Trace s₀ acts s) :
    s.entry.size.value = ((acts.filterMap Act.edit?).getLast?).getD s₀.entry.size.value := by
  induction h with
  | nil => rfl
  | @tail u v acts a _ step ih =>
    rw [step_size_value step, List.filterMap_append]
    cases ha : a.edit? with
    | none => simpa [ha] using ih
    | some text => simp [ha]

end coherent

/-- A path that is valid is not empty, so it shows no error; one that is not valid shows its
error exactly when it is not empty. -/
theorem path_states_count {e : Entry} (h : e.path.value = none → e.path.valid = false) :
    [e.path.valid, e.showPathError, e.path.value.isNone].count true = 1 := by
  cases hv : e.path.valid <;> cases hp : e.path.value <;> simp_all [Entry.showPathError]

/-- Coherence of an entry's fields. In every state of a run from a first validation with
directory `path₀` and size text `size₀`, through any size edits, selections with their answers
in any order and with any results, and requests: the size text is the last edit's text (`size₀`
when none came), kept even when it is no valid size, and the size's validity is that text's
verdict; the path is empty exactly when `path₀` was and no answer was taken, and then it is not
valid; the entry is valid when both fields are; exactly one of "the path is valid", "the path
shows its error" and "the path is empty" holds; and the entry stands for the farm of its two
values. -/
theorem entry_fields_coherent (id : EntryId) (path₀ : Option Path) (size₀ : Text) (writable : Bool)
    {acts : List Act} {s : State} (h : Trace (start id path₀ size₀ writable) acts s) :
    s.entry.size.value = ((acts.filterMap Act.edit?).getLast?).getD size₀ ∧
    s.entry.size.valid = sizeIsValid s.entry.size.value ∧
    (s.entry.path.value = none ↔ path₀ = none ∧ s.taken = []) ∧
    (s.entry.path.value = none → s.entry.path.valid = false) ∧
    s.entry.isValid = (s.entry.path.valid && s.entry.size.valid) ∧
    [s.entry.path.valid, s.entry.showPathError, s.entry.path.value.isNone].count true = 1 ∧
    s.entry.toFarm = ⟨s.entry.path.value, s.entry.size.value⟩ := by
  have hs := h.coherent (start_coherent id path₀ size₀ writable)
  exact ⟨h.size_value, hs.size_valid, hs.no_path, hs.unprobed, rfl, path_states_count hs.unprobed,
    rfl⟩

/-- An entry with no directory and a size text that is no size: the text is edited to another
that is no size, a selection of `/srv/farm` starts, and its probe answers that it is not
writable. -/
def keptInvalid : State :=
  let farm := Path.ofText (Text.ofString "/srv/farm")
  ((((start ⟨1⟩ none (Text.ofString "lots") false).editSize (Text.ofString "5 parsecs")).select
    farm)).answer [] ⟨1, 1, farm⟩ false

/-- The invalid text is kept, and the path, now chosen but not writable, shows its error. -/
theorem entry_fields_coherent_kept_invalid :
    Trace (start ⟨1⟩ none (Text.ofString "lots") false)
      [.editSize (Text.ofString "5 parsecs"), .select (Path.ofText (Text.ofString "/srv/farm")),
        .answer 1 false] keptInvalid ∧
    keptInvalid.entry.size.value =
      (([Act.editSize (Text.ofString "5 parsecs"), .select (Path.ofText (Text.ofString "/srv/farm")),
        .answer 1 false].filterMap Act.edit?).getLast?).getD (Text.ofString "lots") ∧
    keptInvalid.entry.size.valid = sizeIsValid keptInvalid.entry.size.value ∧
    (keptInvalid.entry.path.value = none ↔ (none : Option Path) = none ∧ keptInvalid.taken = []) ∧
    (keptInvalid.entry.path.value = none → keptInvalid.entry.path.valid = false) ∧
    keptInvalid.entry.isValid = (keptInvalid.entry.path.valid && keptInvalid.entry.size.valid) ∧
    [keptInvalid.entry.path.valid, keptInvalid.entry.showPathError,
      keptInvalid.entry.path.value.isNone].count true = 1 ∧
    keptInvalid.entry.toFarm = ⟨keptInvalid.entry.path.value, keptInvalid.entry.size.value⟩ := by
  have run : Trace (start ⟨1⟩ none (Text.ofString "lots") false)
      [.editSize (Text.ofString "5 parsecs"), .select (Path.ofText (Text.ofString "/srv/farm")),
        .answer 1 false] keptInvalid :=
    .tail (.tail (.tail (.nil _) (.editSize _ _)) (.select _ _)) (.answer _ [] ⟨1, 1, _⟩ [] false rfl)
  exact ⟨run, entry_fields_coherent _ _ _ _ run⟩

example : keptInvalid.entry.size.value = Text.ofString "5 parsecs" ∧
    keptInvalid.entry.showPathError = true := by
  decide

end EntryRun

end FarmSetup
