import Mathlib.Tactic.SplitIfs
import FarmSetup.ByteSize
/-!
# The grammar of byte quantities

A size text is read once blanks are trimmed from both ends. What is left must be a number, then
blanks, then a unit: the number is a run of decimal digits of any script, optionally followed by
a point and another such run, with at least one digit in all; the unit is a run of ASCII letters
whose lower-case form names a unit, the empty name meaning bytes.

The grammar is stated here on its own, as the parts a trimmed text splits into, and the reader is
shown to accept exactly the texts it describes, finding their parts. The value follows: a whole
number is multiplied by its unit exactly, unless it has more than 4300 digits; a number with a
point goes through binary64 and is refused exactly when the product there is infinite.
-/

namespace FarmSetup

/-! ## Runs of a class -/

section runs

variable {α : Type} {p : α → Bool} {run rest : List α}

/-- A run of a class followed by nothing or by something outside the class: the leading run of the
class is that run. -/
theorem takeWhile_exact (inside : ∀ x ∈ run, p x = true) (boundary : ∀ x ∈ rest.head?, p x = false) :
    (run ++ rest).takeWhile p = run := by
  rw [List.takeWhile_append_of_pos inside]
  cases rest with
  | nil => simp
  | cons x tail => simp [boundary x rfl]

theorem of_mem_takeWhile {x : α} {l : List α} (h : x ∈ l.takeWhile p) : p x = true :=
  List.all_eq_true.mp List.all_takeWhile x h

theorem dropWhile_exact (inside : ∀ x ∈ run, p x = true) (boundary : ∀ x ∈ rest.head?, p x = false) :
    (run ++ rest).dropWhile p = rest := by
  rw [List.dropWhile_append_of_pos inside]
  cases rest with
  | nil => rfl
  | cons x tail => simp [boundary x rfl]

end runs

/-! ## The classes of points -/

namespace Point

/-- No blank is a digit. -/
theorem isDigit_of_isBlank {p : Point} (h : p.isBlank = true) : p.isDigit = false := by
  have hc : p.code ∈ blankCodes := by simpa [isBlank] using h
  have table : ∀ c ∈ blankCodes,
      (digitZeros.find? fun z => decide (z ≤ c ∧ c < z + 10)).isSome = false := by decide
  simpa [isDigit, digitValue?] using table _ hc

/-- No ASCII letter is a digit: the digits below 128 are `0` to `9`. -/
theorem isDigit_of_isUnitLetter {p : Point} (h : Quantity.isUnitLetter p = true) :
    p.isDigit = false := by
  have hc : p.code < 123 := by
    simp only [Quantity.isUnitLetter, Bool.or_eq_true, Bool.and_eq_true, decide_eq_true_eq] at h
    omega
  have table : ∀ c < 123, ((65 ≤ c && c ≤ 90) || (97 ≤ c && c ≤ 122)) = true →
      (digitZeros.find? fun z => decide (z ≤ c ∧ c < z + 10)).isSome = false := by decide
  simpa [isDigit, digitValue?] using table _ hc h

/-- No blank is an ASCII letter. -/
theorem isUnitLetter_of_isBlank {p : Point} (h : p.isBlank = true) :
    Quantity.isUnitLetter p = false := by
  have hc : p.code ∈ blankCodes := by simpa [isBlank] using h
  have table : ∀ c ∈ blankCodes, ((65 ≤ c && c ≤ 90) || (97 ≤ c && c ≤ 122)) = false := by decide
  simpa [Quantity.isUnitLetter] using table _ hc

/-- The point is no digit, no blank and no letter. -/
theorem dot_classes : (ofChar '.').isDigit = false ∧ (ofChar '.').isBlank = false ∧
    Quantity.isUnitLetter (ofChar '.') = false := by
  decide

end Point

/-! ## The grammar -/

namespace Quantity

/-- The values of a run of decimal digits, most significant first. -/
def digitValues (ds : Text) : List Nat := ds.map fun p => p.digitValue?.getD 0

theorem length_digitValues (ds : Text) : (digitValues ds).length = ds.length := List.length_map _

theorem digitValues_append (ws fs : Text) : digitValues (ws ++ fs) = digitValues ws ++ digitValues fs :=
  List.map_append

/-- A number as written: its whole digits, then the point and the fraction's digits when a point is
written. -/
def numberText (whole : Text) : Option Text → Text
  | none => whole
  | some frac => whole ++ Point.ofChar '.' :: frac

/-- The parts a trimmed size text is made of: whole digits, then optionally a point and fraction
digits, with at least one digit in all; then blanks; then the unit's letters. -/
structure Parts (t whole : Text) (frac : Option Text) (blanks unit : Text) : Prop where
  split : t = numberText whole frac ++ (blanks ++ unit)
  whole_digits : ∀ p ∈ whole, p.isDigit = true
  frac_digits : ∀ fs ∈ frac, ∀ p ∈ fs, p.isDigit = true
  some_digit : whole ≠ [] ∨ ∃ fs ∈ frac, fs ≠ []
  blank : ∀ p ∈ blanks, p.isBlank = true
  letters : ∀ p ∈ unit, isUnitLetter p = true

section reading

variable {t whole blanks unit : Text} {frac : Option Text}

theorem spanDigits_exact {ds rest : Text} (hds : ∀ p ∈ ds, p.isDigit = true)
    (hstop : ∀ p ∈ rest.head?, p.isDigit = false) :
    spanDigits (ds ++ rest) = (digitValues ds, rest) := by
  simp only [spanDigits, digitValues, takeWhile_exact hds hstop, dropWhile_exact hds hstop]

/-- What follows a number is blanks and letters, so it starts with no digit and no point. -/
theorem head_after_number (hb : ∀ p ∈ blanks, p.isBlank = true)
    (hu : ∀ p ∈ unit, isUnitLetter p = true) :
    ∀ p ∈ (blanks ++ unit).head?, p.isDigit = false ∧ p ≠ Point.ofChar '.' := by
  intro p hp
  have hmem : p ∈ blanks ++ unit := List.mem_of_mem_head? hp
  rcases List.mem_append.mp hmem with hm | hm
  · refine ⟨Point.isDigit_of_isBlank (hb p hm), fun hdot => ?_⟩
    have := hb p hm
    rw [hdot, Point.dot_classes.2.1] at this
    cases this
  · refine ⟨Point.isDigit_of_isUnitLetter (hu p hm), fun hdot => ?_⟩
    have := hu p hm
    rw [hdot, Point.dot_classes.2.2] at this
    cases this

/-- Blanks then letters: dropping the blanks leaves the letters, which are the whole unit. -/
theorem unit_exact (hb : ∀ p ∈ blanks, p.isBlank = true) (hu : ∀ p ∈ unit, isUnitLetter p = true) :
    (blanks ++ unit).dropWhile Point.isBlank = unit ∧ unit.takeWhile isUnitLetter = unit ∧
      unit.dropWhile isUnitLetter = [] := by
  refine ⟨dropWhile_exact hb fun p hp => ?_, by simpa using @takeWhile_exact _ _ unit [] hu (by simp),
    by simpa using @dropWhile_exact _ _ unit [] hu (by simp)⟩
  cases hp' : p.isBlank
  · rfl
  · have := Point.isUnitLetter_of_isBlank hp'
    rw [hu p (List.mem_of_mem_head? hp)] at this
    cases this

/-- The reader finds the parts of every text the grammar describes. -/
theorem ofTrimmed?_complete (h : Parts t whole frac blanks unit) :
    ofTrimmed? t = some ⟨digitValues whole, frac.map digitValues, unit⟩ := by
  obtain ⟨rfl, hw, hf, hd, hb, hu⟩ := h
  have after := head_after_number hb hu
  obtain ⟨hdrop, htake, hrest⟩ := unit_exact hb hu
  cases frac with
  | none =>
    have hwhole : whole ≠ [] := by simpa using hd
    have hvalues : (digitValues whole).isEmpty = false := by simpa [digitValues] using hwhole
    unfold ofTrimmed?
    rw [numberText, spanDigits_exact hw fun p hp => (after p hp).1]
    -- the number ends where the blanks or the unit begin, or at the end
    cases hbu : blanks ++ unit with
    | nil =>
      rw [hbu] at hdrop
      simp [hvalues, hdrop, htake, hrest]
    | cons p tail =>
      have hdot : p ≠ Point.ofChar '.' := (after p (by simp [hbu])).2
      rw [hbu] at hdrop
      simp [hdot, hvalues, hdrop, htake, hrest]
  | some fs =>
    have hfs : ∀ p ∈ fs, p.isDigit = true := hf fs rfl
    have hsome : ((digitValues whole).isEmpty && (digitValues fs).isEmpty) = false := by
      rcases hd with hne | ⟨fs', hfs', hne⟩
      · simp [digitValues, hne]
      · simp only [Option.mem_def, Option.some.injEq] at hfs'
        simp [digitValues, hfs', hne]
    unfold ofTrimmed?
    rw [numberText, List.append_assoc, List.cons_append,
      spanDigits_exact hw fun p hp => by simp at hp; simp [← hp, Point.dot_classes.1]]
    simp [spanDigits_exact hfs fun p hp => (after p hp).1, hsome, hdrop, htake, hrest]

/-- What the reader takes after the number is blanks, then unit letters up to the end. -/
theorem unit_sound {rest : Text} (h : (rest.dropWhile Point.isBlank).dropWhile isUnitLetter = []) :
    rest = rest.takeWhile Point.isBlank ++ (rest.dropWhile Point.isBlank).takeWhile isUnitLetter ∧
      (∀ p ∈ rest.takeWhile Point.isBlank, p.isBlank = true) ∧
      (∀ p ∈ (rest.dropWhile Point.isBlank).takeWhile isUnitLetter, isUnitLetter p = true) := by
  have hletters := @List.takeWhile_append_dropWhile _ isUnitLetter (rest.dropWhile Point.isBlank)
  rw [h, List.append_nil] at hletters
  refine ⟨?_, fun p hp => of_mem_takeWhile hp, fun p hp => of_mem_takeWhile hp⟩
  calc rest = rest.takeWhile Point.isBlank ++ rest.dropWhile Point.isBlank :=
        List.takeWhile_append_dropWhile.symm
    _ = _ := by rw [hletters]

/-- A number followed by what the reader takes as blanks and a unit is a text of the grammar. -/
theorem parts_of_number {rest : Text} (ht : t = numberText whole frac ++ rest)
    (hw : ∀ p ∈ whole, p.isDigit = true) (hf : ∀ fs ∈ frac, ∀ p ∈ fs, p.isDigit = true)
    (hd : whole ≠ [] ∨ ∃ fs ∈ frac, fs ≠ [])
    (hend : (rest.dropWhile Point.isBlank).dropWhile isUnitLetter = []) :
    Parts t whole frac (rest.takeWhile Point.isBlank)
      ((rest.dropWhile Point.isBlank).takeWhile isUnitLetter) := by
  obtain ⟨hsplit, hb, hu⟩ := unit_sound hend
  refine ⟨?_, hw, hf, hd, hb, hu⟩
  rw [ht, ← hsplit]

/-- What the reader accepts is a text the grammar describes, and the reader's parts are its
parts. -/
theorem ofTrimmed?_sound {q : Quantity} (h : ofTrimmed? t = some q) :
    ∃ whole frac blanks, Parts t whole frac blanks q.unit ∧
      q.whole = digitValues whole ∧ q.fraction = frac.map digitValues := by
  unfold ofTrimmed? spanDigits at h
  dsimp only at h
  split at h
  · cases h
  rename_i fraction rest hnum
  split at h
  case isFalse => cases h
  rename_i hend
  cases h
  have ht := @List.takeWhile_append_dropWhile _ Point.isDigit t
  have hw : ∀ p ∈ t.takeWhile Point.isDigit, p.isDigit = true := fun p hp => of_mem_takeWhile hp
  -- the number: the leading digits, then a point and more digits, or nothing more
  split at hnum
  case h_1 p after hr =>
    by_cases hp : p = Point.ofChar '.'
    · simp only [hp, if_true] at hnum
      split at hnum
      case isTrue => cases hnum
      rename_i hsome
      simp only [Option.some.injEq, Prod.mk.injEq] at hnum
      obtain ⟨rfl, rfl⟩ := hnum
      refine ⟨t.takeWhile Point.isDigit, some (after.takeWhile Point.isDigit), _,
        parts_of_number ?_ hw ?_ ?_ hend, rfl, rfl⟩
      · rw [numberText, List.append_assoc, List.cons_append, List.takeWhile_append_dropWhile, ← hp,
          ← hr, ht]
      · simp only [Option.mem_def, Option.some.injEq]
        rintro fs rfl p hp'
        exact of_mem_takeWhile hp'
      · have hne : t.takeWhile Point.isDigit = [] → after.takeWhile Point.isDigit ≠ [] := by
          simpa [digitValues] using hsome
        by_cases hW : t.takeWhile Point.isDigit = []
        · exact .inr ⟨_, rfl, hne hW⟩
        · exact .inl hW
    · simp only [hp, if_false] at hnum
      split at hnum
      case isTrue => cases hnum
      rename_i hsome
      simp only [Option.some.injEq, Prod.mk.injEq] at hnum
      obtain ⟨rfl, rfl⟩ := hnum
      have hd : t.takeWhile Point.isDigit ≠ [] := by simpa [digitValues] using hsome
      exact ⟨_, none, _, parts_of_number ht.symm hw (by simp) (.inl hd) hend, rfl, rfl⟩
  case h_2 hr =>
    split at hnum
    case isTrue => cases hnum
    rename_i hsome
    simp only [Option.some.injEq, Prod.mk.injEq] at hnum
    obtain ⟨rfl, rfl⟩ := hnum
    have hd : t.takeWhile Point.isDigit ≠ [] := by simpa [digitValues] using hsome
    have hsplit : t = numberText (t.takeWhile Point.isDigit) none ++ [] := by
      rw [numberText, ← hr, ht]
    exact ⟨_, none, _, parts_of_number hsplit hw (by simp) (.inl hd) hend, rfl, rfl⟩

end reading

/-! ## The value -/

section value

variable {unit : Text} {m : Nat}

/-- A known unit's size is one of the table's. -/
theorem mem_units_of_multiplier? (h : multiplier? unit = some m) : ∃ u ∈ units, u.2 = m := by
  obtain ⟨u, hu, rfl⟩ := Option.map_eq_some_iff.mp h
  exact ⟨u, List.mem_of_find?_eq_some hu, rfl⟩

/-- A quantity stands for a number of bytes only when its unit is known. -/
theorem isSome_multiplier?_of_bytes? {q : Quantity} {n : Nat} (h : q.bytes? = some n) :
    (multiplier? q.unit).isSome := by
  unfold bytes? at h
  cases hm : multiplier? q.unit with
  | none => simp [hm] at h
  | some _ => rfl

/-- A whole number of at most 4300 digits is multiplied by its unit exactly; a longer one is
refused. -/
theorem bytes?_whole {whole : List Nat} (hm : multiplier? unit = some m) :
    bytes? ⟨whole, none, unit⟩ =
      if whole.length ≤ digitLimit then some (digitsValue whole * m) else none := by
  by_cases hlen : whole.length ≤ digitLimit
  · simp [bytes?, hm, hlen]
  · simp [bytes?, hm, hlen, Nat.lt_of_not_le hlen]

end value

end Quantity

namespace Binary64

/-- Whether a value is finite, positive and not zero. -/
def isPositive : Binary64 → Bool
  | finite false m _ => m != 0
  | _ => false

theorem ite_ne_nan {c : Prop} [Decidable c] {neg : Bool} {m : Nat} {e : Int} :
    (if c then infinite neg else finite neg m e) ≠ nan := by
  split <;> simp

/-- Rounding gives a finite value or an infinity, never something that is not a number. -/
theorem round_ne_nan (neg : Bool) (num den : Nat) : round neg num den ≠ nan := by
  unfold round
  split
  · simp
  · exact ite_ne_nan

theorem ofDecimal_ne_nan (neg : Bool) (digits : Nat) (exp10 : Int) : ofDecimal neg digits exp10 ≠ nan := by
  unfold ofDecimal
  dsimp only
  split_ifs <;> simp [round_ne_nan]

/-- A number times a positive finite value is a number. -/
theorem mul_ne_nan {x z : Binary64} (hx : x ≠ nan) (hz : z.isPositive = true) : mul x z ≠ nan := by
  cases z with
  | finite b m f =>
    cases b with
    | true => simp [isPositive] at hz
    | false =>
      have hm : m ≠ 0 := by simpa [isPositive] using hz
      cases x with
      | finite a n e =>
        simp only [mul]
        exact round_ne_nan _ _ _
      | infinite a => simp [mul, hm]
      | nan => exact absurd rfl hx
  | infinite b => simp [isPositive] at hz
  | nan => simp [isPositive] at hz

/-- Truncating a number fails exactly for an infinity. -/
theorem truncate?_eq_none_iff {y : Binary64} (hy : y ≠ nan) :
    truncate? y = none ↔ ∃ neg, y = infinite neg := by
  cases y <;> simp_all [truncate?]

/-- Every unit's size is a positive binary64 value. -/
theorem ofInt_units : ∀ u ∈ Quantity.units, (ofInt u.2).isPositive = true := by
  decide

end Binary64

namespace Quantity

/-- A number with a point stands for nothing exactly when its binary64 value times its unit is
infinite. -/
theorem bytes?_fraction {whole frac : List Nat} {unit : Text} {m : Nat} (hm : multiplier? unit = some m) :
    bytes? ⟨whole, some frac, unit⟩ = none ↔
      ∃ neg, Binary64.mul (Binary64.ofDecimal false (digitsValue (whole ++ frac)) (-(frac.length : Int)))
        (Binary64.ofInt m) = .infinite neg := by
  obtain ⟨u, hu, rfl⟩ := mem_units_of_multiplier? hm
  have hy := Binary64.mul_ne_nan (Binary64.ofDecimal_ne_nan false (digitsValue (whole ++ frac))
    (-(frac.length : Int))) (Binary64.ofInt_units u hu)
  simp only [bytes?, hm, Option.bind_eq_bind, Option.bind_some]
  rw [Option.map_eq_none_iff, Binary64.truncate?_eq_none_iff hy]

end Quantity

/-- Byte quantities are read by their grammar. A text stands for a number of bytes only if,
trimmed, it is made of whole digits, optionally a point and fraction digits (at least one digit in
all), blanks, and the letters of a known unit. When it is so made and the number has no point, it
stands for the number times the unit, exactly, if the number has at most 4300 digits, leading zeros
counted, and for nothing otherwise; when the number has a point, it stands for nothing exactly when
the binary64 value of the number times the unit is infinite. -/
theorem parseByteSize_grammar (text : Text) :
    (parseByteSize text ≠ none → ∃ whole frac blanks unit,
      Quantity.Parts text.trim whole frac blanks unit ∧ (Quantity.multiplier? unit).isSome) ∧
    (∀ whole blanks unit m, Quantity.Parts text.trim whole none blanks unit →
      Quantity.multiplier? unit = some m →
      parseByteSize text = if whole.length ≤ Quantity.digitLimit then
        some (Quantity.digitsValue (Quantity.digitValues whole) * m) else none) ∧
    (∀ whole frac blanks unit m, Quantity.Parts text.trim whole (some frac) blanks unit →
      Quantity.multiplier? unit = some m →
      (parseByteSize text = none ↔ ∃ neg, Binary64.mul
        (Binary64.ofDecimal false (Quantity.digitsValue (Quantity.digitValues (whole ++ frac)))
          (-(frac.length : Int))) (Binary64.ofInt m) = .infinite neg)) := by
  refine ⟨fun h => ?_, fun whole blanks unit m hp hm => ?_, fun whole frac blanks unit m hp hm => ?_⟩
  · obtain ⟨n, hn⟩ := Option.ne_none_iff_exists'.mp h
    obtain ⟨q, hq, hbytes⟩ := Option.bind_eq_some_iff.mp hn
    obtain ⟨whole, frac, blanks, hparts, -, -⟩ := Quantity.ofTrimmed?_sound hq
    exact ⟨whole, frac, blanks, q.unit, hparts, Quantity.isSome_multiplier?_of_bytes? hbytes⟩
  · rw [parseByteSize, Quantity.read?, Quantity.ofTrimmed?_complete hp, Option.bind_some, Option.map_none,
      Quantity.bytes?_whole hm, Quantity.length_digitValues]
  · rw [parseByteSize, Quantity.read?, Quantity.ofTrimmed?_complete hp, Option.bind_some, Option.map_some,
      Quantity.digitValues_append, ← Quantity.length_digitValues frac]
    exact Quantity.bytes?_fraction hm

end FarmSetup
