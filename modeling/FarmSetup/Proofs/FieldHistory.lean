import Mathlib.Data.List.DropRight
import FarmSetup.Field
/-!
# A validated field over a whole history of calls

The owner of a field records validation results, replaces the value and clears the change flags
at the start of each update cycle; a host asks for the status icon. After any sequence of such
calls the field is a function of the history read as follows: the value is the last one written,
the validity the last one recorded, and each change flag is raised exactly when no reset came
yet or a call of its own kind came after the last reset. Equal writes raise a flag all the same,
neither flag sees the calls of the other, and asking for the icon changes nothing.

Every part of a field that a call changes as a function of that part alone follows the history
by the same argument; `calls_lastWrite`, `calls_flag` and `calls_filter` state it once for such a
part. Main statement: `Field.calls_follow_history`.
-/

namespace FarmSetup

namespace Field

/-- A call made on a field by its owner or by a host that shows it. -/
inductive Call (α : Type) where
  | setValidity (valid : Bool)
  | replaceValue (value : α)
  | resetFlags
  | icon

variable {α β : Type}

namespace Call

/-- The value a call writes, if it replaces the value. -/
def written? : Call α → Option α
  | replaceValue v => some v
  | _ => none

/-- The validity a call records, if it sets one. -/
def recorded? : Call α → Option Bool
  | setValidity b => some b
  | _ => none

def isReset : Call α → Bool
  | resetFlags => true
  | _ => false

def isIcon : Call α → Bool
  | icon => true
  | _ => false

theorem isReset_eq_true {c : Call α} : c.isReset = true ↔ c = resetFlags := by
  cases c <;> simp [isReset]

theorem written?_isSome {c : Call α} : (c.written?).isSome = true ↔ ∃ v, c = replaceValue v := by
  cases c <;> simp [written?]

theorem recorded?_isSome {c : Call α} : (c.recorded?).isSome = true ↔ ∃ b, c = setValidity b := by
  cases c <;> simp [recorded?]

end Call

/-- Makes a call; asking for the icon leaves the field as it is. -/
def call (f : Field α) : Call α → Field α
  | .setValidity b => f.setValidity b
  | .replaceValue v => f.replaceValue v
  | .resetFlags => f.resetFlags
  | .icon => f

def calls (f : Field α) (cs : List (Call α)) : Field α := cs.foldl call f

@[simp] theorem calls_nil (f : Field α) : f.calls [] = f := rfl

@[simp] theorem calls_concat (f : Field α) (cs : List (Call α)) (c : Call α) :
    f.calls (cs ++ [c]) = (f.calls cs).call c := by
  simp [calls]

/-- The part after the last reset of a history: all of it when there was none. -/
def sinceReset (cs : List (Call α)) : List (Call α) := cs.rtakeWhile fun c => !c.isReset

theorem sinceReset_concat (cs : List (Call α)) (c : Call α) :
    sinceReset (cs ++ [c]) = if c.isReset then [] else sinceReset cs ++ [c] := by
  cases h : c.isReset <;> simp [sinceReset, h]

/-! ## Parts of a field that follow the calls on their own -/

section parts

variable (view : Field α → β)

/-- A part of the field that each call overwrites with what it carries, or leaves alone, is the
last thing written in the history, or what it was before. -/
theorem calls_lastWrite (write : Call α → Option β)
    (hcall : ∀ f c, view (f.call c) = (write c).getD (view f)) (f : Field α) (cs : List (Call α)) :
    view (f.calls cs) = ((cs.filterMap write).getLast?).getD (view f) := by
  induction cs using List.reverseRecOn with
  | nil => rfl
  | append_singleton cs c ih =>
    rw [calls_concat, hcall, ih, List.filterMap_append]
    cases hw : write c with
    | none => simp [hw]
    | some b => simp [hw]

/-- A flag that the calls `raises` picks raise, a reset clears and every other call keeps, and
that is raised at the start, is raised exactly when no reset came yet or a raising call came
after the last reset. -/
theorem calls_flag (raises : Call α → Bool) (flag : Field α → Bool)
    (hraise : ∀ (f : Field α) c, c.isReset = false → raises c = true → flag (f.call c) = true)
    (hreset : ∀ f : Field α, flag (f.call .resetFlags) = false)
    (hkeep : ∀ (f : Field α) c, c.isReset = false → raises c = false → flag (f.call c) = flag f)
    (f : Field α) (hf : flag f = true) (cs : List (Call α)) :
    flag (f.calls cs) = true ↔
      Call.resetFlags ∉ cs ∨ ∃ c ∈ sinceReset cs, raises c = true := by
  induction cs using List.reverseRecOn with
  | nil => simp [hf]
  | append_singleton cs c ih =>
    rw [calls_concat, sinceReset_concat]
    cases hc : c.isReset with
    | true =>
      -- the last call is a reset: nothing stands after it
      rw [Call.isReset_eq_true.1 hc, hreset]
      simp
    | false =>
      have hne : c ≠ .resetFlags := fun h => by simp [h, Call.isReset] at hc
      cases hr : raises c with
      | true => simp [hraise _ _ hc hr, hr]
      | false =>
        rw [hkeep _ _ hc hr, ih]
        simp [hr, hne.symm]

/-- Calls that leave a part of the field alone may be left out of the history without changing
that part, as long as the part changes as a function of itself alone. -/
theorem calls_filter (step : β → Call α → β) (hcall : ∀ f c, view (f.call c) = step (view f) c)
    (keep : Call α → Bool) (hidle : ∀ b c, keep c = false → step b c = b)
    (f : Field α) (cs : List (Call α)) :
    view (f.calls (cs.filter keep)) = view (f.calls cs) := by
  induction cs using List.reverseRecOn with
  | nil => rfl
  | append_singleton cs c ih =>
    rw [List.filter_append, calls_concat]
    cases hk : keep c with
    | true => simp [hk, hcall, ih]
    | false => simp [hk, hcall, hidle _ _ hk, ih]

end parts

/-! ## The parts of a field -/

theorem call_value (f : Field α) (c : Call α) : (f.call c).value = c.written?.getD f.value := by
  cases c <;> rfl

theorem call_valid (f : Field α) (c : Call α) : (f.call c).valid = c.recorded?.getD f.valid := by
  cases c <;> rfl

-- The value with its flag, and the validity with its flag, each change as a function of
-- themselves alone; so each pair may be followed apart from the rest of the field.
def valueStep (p : α × Bool) : Call α → α × Bool
  | .replaceValue v => (v, true)
  | .resetFlags => (p.1, false)
  | _ => p

def validityStep (p : Bool × Bool) : Call α → Bool × Bool
  | .setValidity b => (b, true)
  | .resetFlags => (p.1, false)
  | _ => p

theorem call_valueSide (f : Field α) (c : Call α) :
    ((f.call c).value, (f.call c).valueChanged) = valueStep (f.value, f.valueChanged) c := by
  cases c <;> rfl

theorem call_validitySide (f : Field α) (c : Call α) :
    ((f.call c).valid, (f.call c).validityChanged) = validityStep (f.valid, f.validityChanged) c := by
  cases c <;> rfl

theorem calls_valueChanged (f : Field α) (hf : f.valueChanged = true) (cs : List (Call α)) :
    (f.calls cs).valueChanged = true ↔
      Call.resetFlags ∉ cs ∨ ∃ v, Call.replaceValue v ∈ sinceReset cs := by
  rw [calls_flag (fun c => c.written?.isSome) valueChanged
    (fun f c _ h => by obtain ⟨v, rfl⟩ := Call.written?_isSome.1 h; rfl) (fun _ => rfl)
    (fun f c hc h => by cases c <;> simp_all [Call.written?, Call.isReset, call]) f hf]
  simp [Call.written?_isSome]

theorem calls_validityChanged (f : Field α) (hf : f.validityChanged = true) (cs : List (Call α)) :
    (f.calls cs).validityChanged = true ↔
      Call.resetFlags ∉ cs ∨ ∃ b, Call.setValidity b ∈ sinceReset cs := by
  rw [calls_flag (fun c => c.recorded?.isSome) validityChanged
    (fun f c _ h => by obtain ⟨b, rfl⟩ := Call.recorded?_isSome.1 h; rfl) (fun _ => rfl)
    (fun f c hc h => by cases c <;> simp_all [Call.recorded?, Call.isReset, call]) f hf]
  simp [Call.recorded?_isSome, -Bool.exists_bool]

/-! ## Whole histories from a fresh field -/

section history

variable (v : α) (b : Bool) (cs : List (Call α))

theorem calls_value : ((create v b).calls cs).value = ((cs.filterMap Call.written?).getLast?).getD v :=
  calls_lastWrite value Call.written? call_value _ cs

theorem calls_valid : ((create v b).calls cs).valid = ((cs.filterMap Call.recorded?).getLast?).getD b :=
  calls_lastWrite valid Call.recorded? call_valid _ cs

/-- Leaving out the calls that record a validity changes neither the value nor its flag. -/
theorem calls_filter_valueSide :
    (((create v b).calls (cs.filter fun c => c.recorded?.isNone)).value,
      ((create v b).calls (cs.filter fun c => c.recorded?.isNone)).valueChanged) =
    (((create v b).calls cs).value, ((create v b).calls cs).valueChanged) :=
  calls_filter (fun f => (f.value, f.valueChanged)) valueStep call_valueSide _
    (fun p c hc => by cases c <;> simp_all [Call.recorded?, valueStep]) _ cs

/-- Leaving out the calls that write a value changes neither the validity nor its flag. -/
theorem calls_filter_validitySide :
    (((create v b).calls (cs.filter fun c => c.written?.isNone)).valid,
      ((create v b).calls (cs.filter fun c => c.written?.isNone)).validityChanged) =
    (((create v b).calls cs).valid, ((create v b).calls cs).validityChanged) :=
  calls_filter (fun f => (f.valid, f.validityChanged)) validityStep call_validitySide _
    (fun p c hc => by cases c <;> simp_all [Call.written?, validityStep]) _ cs

/-- Asking for the icon may be left out of any history. -/
theorem calls_filter_icon : (create v b).calls (cs.filter fun c => !c.isIcon) = (create v b).calls cs :=
  calls_filter id call (fun _ _ => rfl) _ (fun f c hc => by cases c <;> simp_all [Call.isIcon, call]) _ cs

end history

/-- After any history of calls on a field made with value `v` and validity `b`: the value is the
last one written, or `v`; the validity the last one recorded, or `b`; each change flag is raised
exactly when no reset came yet or a call of its kind came after the last reset; writing the value
or the validity already there raises its flag all the same; leaving out the calls of one kind
changes neither the other part nor its flag; the icon is the checkmark exactly when the last
validity recorded is true; and asking for the icon changes nothing. -/
theorem calls_follow_history (v : α) (b : Bool) (cs : List (Call α)) :
    let f := (create v b).calls cs
    f.value = ((cs.filterMap Call.written?).getLast?).getD v ∧
    f.valid = ((cs.filterMap Call.recorded?).getLast?).getD b ∧
    (f.valueChanged = true ↔ Call.resetFlags ∉ cs ∨ ∃ w, Call.replaceValue w ∈ sinceReset cs) ∧
    (f.validityChanged = true ↔
      Call.resetFlags ∉ cs ∨ ∃ c, Call.setValidity c ∈ sinceReset cs) ∧
    ((create v b).calls (cs ++ [.replaceValue f.value])).valueChanged = true ∧
    ((create v b).calls (cs ++ [.setValidity f.valid])).validityChanged = true ∧
    (((create v b).calls (cs.filter fun c => c.recorded?.isNone)).value,
      ((create v b).calls (cs.filter fun c => c.recorded?.isNone)).valueChanged) =
      (f.value, f.valueChanged) ∧
    (((create v b).calls (cs.filter fun c => c.written?.isNone)).valid,
      ((create v b).calls (cs.filter fun c => c.written?.isNone)).validityChanged) =
      (f.valid, f.validityChanged) ∧
    (f.icon = .checkmark ↔ ((cs.filterMap Call.recorded?).getLast?).getD b = true) ∧
    (create v b).calls (cs.filter fun c => !c.isIcon) = f := by
  intro f
  refine ⟨calls_value v b cs, calls_valid v b cs, calls_valueChanged _ rfl cs,
    calls_validityChanged _ rfl cs, by simp [call], by simp [call], calls_filter_valueSide v b cs,
    calls_filter_validitySide v b cs, ?_, calls_filter_icon v b cs⟩
  -- the icon reads the validity alone
  rw [← calls_valid v b cs]
  cases h : ((create v b).calls cs).valid <;> simp [icon, f, h]

/-- A value written after the last reset raises its flag, and the validity recorded before that
reset does not. -/
example :
    let f := (create (Text.ofString "2 GB") true).calls
      [.resetFlags, .setValidity false, .resetFlags, .replaceValue (Text.ofString "1 GB")]
    f.valueChanged = true ∧ f.validityChanged = false := by
  decide

end Field

end FarmSetup
