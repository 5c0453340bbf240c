import FarmSetup.Text.Point
/-!
Validated fields: a value with a validity flag and two change flags, one for the value and one
for the validity. A host redraws what the flags name; the owner clears both at the start of each
update cycle, so afterwards they tell what that cycle touched. Setting a validity or a value
raises its flag even when nothing differs. A fresh field has both flags raised.
-/

namespace FarmSetup

/-- The status icon beside a field. -/
inductive Icon where
  | checkmark
  | warning
deriving DecidableEq, Repr

namespace Icon

/-- The icon's name. -/
def name : Icon → String
  | checkmark => "checkmark"
  | warning => "warning"

/-- The icon with a given name. -/
def ofName? (t : Text) : Option Icon :=
  if t = Text.ofString "checkmark" then some checkmark
  else if t = Text.ofString "warning" then some warning
  else none

/-- The symbol and colour shown for an icon. -/
def badge : Icon → String × String
  | checkmark => ("✓", "green")
  | warning => ("⚠", "red")

end Icon

/-- A value together with its validity and the two change flags. -/
structure Field (α : Type) where
  value : α
  valid : Bool
  valueChanged : Bool
  validityChanged : Bool
deriving DecidableEq, Repr

namespace Field

variable {α : Type}

/-- A fresh field; both change flags are raised so that the first drawing shows it. -/
def create (value : α) (valid : Bool) : Field α := ⟨value, valid, true, true⟩

/-- Records a validation result and raises the validity flag. -/
def setValidity (f : Field α) (valid : Bool) : Field α :=
  { f with valid := valid, validityChanged := true }

/-- Replaces the value and raises the value flag. -/
def replaceValue (f : Field α) (value : α) : Field α :=
  { f with value := value, valueChanged := true }

/-- Clears both change flags, as at the start of an update cycle. -/
def resetFlags (f : Field α) : Field α :=
  { f with valueChanged := false, validityChanged := false }

/-- The icon for the current validity. -/
def icon (f : Field α) : Icon := if f.valid then .checkmark else .warning

/-- The words for a flag in a description. -/
def flagText (b : Bool) : String := if b then "True" else "False"

/-- The description of a field, given the literal form of its value. -/
def describe (literal : α → Text) (f : Field α) : Text :=
  Text.ofString "ValidatedField(value=" ++ literal f.value ++
    Text.ofString (", is_valid=" ++ flagText f.valid ++ ", value_changed=" ++
      flagText f.valueChanged ++ ", validity_changed=" ++ flagText f.validityChanged ++ ")")

@[simp] theorem setValidity_valid (f : Field α) (b : Bool) : (f.setValidity b).valid = b := rfl
@[simp] theorem setValidity_value (f : Field α) (b : Bool) : (f.setValidity b).value = f.value := rfl
@[simp] theorem replaceValue_value (f : Field α) (v : α) : (f.replaceValue v).value = v := rfl
@[simp] theorem replaceValue_valid (f : Field α) (v : α) : (f.replaceValue v).valid = f.valid := rfl
@[simp] theorem resetFlags_value (f : Field α) : f.resetFlags.value = f.value := rfl
@[simp] theorem resetFlags_valid (f : Field α) : f.resetFlags.valid = f.valid := rfl
@[simp] theorem setValidity_validityChanged (f : Field α) (b : Bool) :
    (f.setValidity b).validityChanged = true := rfl
@[simp] theorem setValidity_valueChanged (f : Field α) (b : Bool) :
    (f.setValidity b).valueChanged = f.valueChanged := rfl
@[simp] theorem replaceValue_valueChanged (f : Field α) (v : α) :
    (f.replaceValue v).valueChanged = true := rfl
@[simp] theorem replaceValue_validityChanged (f : Field α) (v : α) :
    (f.replaceValue v).validityChanged = f.validityChanged := rfl
@[simp] theorem resetFlags_valueChanged (f : Field α) : f.resetFlags.valueChanged = false := rfl
@[simp] theorem resetFlags_validityChanged (f : Field α) : f.resetFlags.validityChanged = false := rfl

end Field

end FarmSetup
