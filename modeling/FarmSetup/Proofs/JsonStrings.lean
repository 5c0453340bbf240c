import Mathlib.Data.List.Chain
import FarmSetup.Json.Read
import FarmSetup.Json.Write
/-!
# Written JSON strings read back

The writer escapes every point of a text outside printable ASCII, and the reader undoes each
escape. They disagree in one place only: a high surrogate written right before a low one comes
out as two escapes that the reader takes for one UTF-16 pair and joins into a single point. A
text without such neighbours reads back as itself, wherever its literal stands in a document and
whatever follows the closing quote.

The reader works on an array of points and an index; a document is described here by what the
array holds from an index on, `s.toList.drop i`.
-/

namespace FarmSetup

/-- A property holds of a choice when each branch has it under its own test. Used on the long
chains of tests in the readers and writers, where splitting the whole chain at once is slow. -/
theorem prop_ite {α : Type} (P : α → Prop) {c : Prop} [Decidable c] {a b : α} (ha : c → P a)
    (hb : ¬ c → P b) : P (if c then a else b) := by
  split
  · exact ha ‹_›
  · exact hb ‹_›

namespace Point

/-- A high surrogate, the first half of a UTF-16 pair. -/
def isHigh (p : Point) : Bool := 0xD800 ≤ p.code && p.code ≤ 0xDBFF

/-- A low surrogate, the second half of a UTF-16 pair. -/
def isLow (p : Point) : Bool := 0xDC00 ≤ p.code && p.code ≤ 0xDFFF

theorem ext_code {p q : Point} (h : p.code = q.code) : p = q := by
  cases p
  cases q
  simp_all

@[simp] theorem ofNat_code (p : Point) : Point.ofNat p.code = p := by
  simp [Point.ofNat, p.valid]

@[simp] theorem code_ofChar (c : Char) : (Point.ofChar c).code = c.toNat := rfl

/-- A character of a Lean string is a scalar value, never a surrogate. -/
theorem isHigh_ofChar (c : Char) : (ofChar c).isHigh = false := by
  have h := c.valid
  simp only [UInt32.isValidChar, Nat.isValidChar] at h
  rw [Bool.eq_false_iff]
  intro hh
  simp only [isHigh, ofChar, Bool.and_eq_true] at hh
  have := of_decide_eq_true hh.1
  have := of_decide_eq_true hh.2
  omega

end Point

namespace Text

/-- No high surrogate stands right before a low surrogate as a point of its own. -/
def NoSurrogatePair (t : Text) : Prop := t.IsChain fun a b => ¬ (a.isHigh = true ∧ b.isLow = true)

instance : DecidablePred NoSurrogatePair := fun t => inferInstanceAs (Decidable (List.IsChain _ t))

theorem noSurrogatePair_of_not_high {t : Text} (h : ∀ p ∈ t, p.isHigh = false) :
    t.NoSurrogatePair := by
  induction t with
  | nil => exact List.isChain_nil
  | cons p t ih =>
    refine List.isChain_cons.2 ⟨fun q _ hpq => ?_, ih fun q hq => h q (by simp [hq])⟩
    simp [h p (by simp)] at hpq

theorem noSurrogatePair_ofString (a : String) : (ofString a).NoSurrogatePair :=
  noSurrogatePair_of_not_high (by simp [ofString, Point.isHigh_ofChar])

@[simp] theorem ofString_append (a b : String) : ofString (a ++ b) = ofString a ++ ofString b := by
  simp [ofString]

@[simp] theorem ofString_join (l : List String) : ofString (String.join l) = l.flatMap ofString := by
  rw [ofString, String.toList_join, List.map_flatMap]
  rfl

@[simp] theorem length_ofString (a : String) : (ofString a).length = a.length := by
  rw [ofString, List.length_map, String.length_toList]

end Text

namespace Json

/-! ## Reading at an index -/

section reading

variable {s : Array Point} {i : Nat}

theorem getElem?_of_drop {p : Point} {rest : Text} (h : s.toList.drop i = p :: rest) :
    s[i]? = some p := by
  rw [← Array.getElem?_toList, ← Nat.add_zero i, ← List.getElem?_drop, h]
  rfl

theorem codeAt_of_drop {p : Point} {rest : Text} (h : s.toList.drop i = p :: rest) :
    codeAt s i = p.code := by
  simp [codeAt, getElem?_of_drop h]

theorem lt_size_of_drop {p : Point} {rest : Text} (h : s.toList.drop i = p :: rest) :
    i < s.size := by
  have hlen := congrArg List.length h
  simp only [List.length_drop, List.length_cons, Array.length_toList] at hlen
  omega

theorem getElem_of_drop {p : Point} {rest : Text} (h : s.toList.drop i = p :: rest)
    (hi : i < s.size) : s[i] = p := by
  have hget := getElem?_of_drop h
  rw [Array.getElem?_eq_getElem hi] at hget
  exact Option.some.inj hget

theorem drop_after {l rest : Text} (h : s.toList.drop i = l ++ rest) :
    s.toList.drop (i + l.length) = rest := by
  rw [← List.drop_drop, h, List.drop_left]

theorem drop_after_cons {p : Point} {rest : Text} (h : s.toList.drop i = p :: rest) :
    s.toList.drop (i + 1) = rest :=
  drop_after (show s.toList.drop i = [p] ++ rest from h)

@[simp] theorem length_hex4Text (n : Nat) : (hex4Text n).length = 4 := by
  rw [hex4Text, String.length_ofList]
  rfl

theorem ofString_backslash_u : Text.ofString "\\u" = [Point.ofChar '\\', Point.ofChar 'u'] :=
  rfl

theorem length_unicodeEscape (n : Nat) :
    (Text.ofString "\\u" ++ Text.ofString (hex4Text n)).length = 6 := by
  rw [List.length_append, ofString_backslash_u, Text.length_ofString, length_hex4Text]
  rfl

theorem length_pairEscape (m n : Nat) :
    (Text.ofString "\\u" ++ Text.ofString (hex4Text m) ++ Text.ofString "\\u" ++
      Text.ofString (hex4Text n)).length = 12 := by
  rw [List.length_append, List.length_append, length_unicodeEscape, ofString_backslash_u,
    Text.length_ofString, length_hex4Text]
  rfl

theorem hexValue_digit {d : Nat} (hd : d < 16) :
    hexValue (Point.ofChar (if d < 10 then Char.ofNat (48 + d) else Char.ofNat (87 + d))).code =
      some d := by
  have every : ∀ d < 16,
      hexValue (if d < 10 then Char.ofNat (48 + d) else Char.ofNat (87 + d)).toNat = some d := by
    decide
  exact every d hd

/-- Four hexadecimal digits written by the writer read back as their number. -/
theorem hex4_of_drop {n : Nat} {rest : Text}
    (h : s.toList.drop i = Text.ofString (hex4Text n) ++ rest) (hn : n < 0x10000) :
    hex4 s i = some n := by
  simp only [hex4Text, Text.ofString, String.toList_ofList, List.map_cons, List.map_nil,
    List.cons_append, List.nil_append] at h
  have h1 := drop_after_cons h
  have h2 := drop_after_cons h1
  have h3 := drop_after_cons h2
  simp only [hex4, codeAt_of_drop h, codeAt_of_drop h1, codeAt_of_drop h2, codeAt_of_drop h3,
    hexValue_digit (Nat.mod_lt _ (by decide : 16 > 0))]
  simp only [Option.bind_eq_bind, Option.bind_some, Option.pure_def, Option.some.injEq]
  omega

end reading

/-! ## One step of the string reader -/

section steps

variable {s : Array Point} {q i : Nat} {acc : Array Point} {rest : Text}

theorem scanStringFrom_close (h : s.toList.drop i = Point.ofChar '"' :: rest) :
    scanStringFrom s q i acc = .ok (acc.toList, i + 1) := by
  have hi := lt_size_of_drop h
  rw [scanStringFrom, dif_pos hi]
  simp [getElem_of_drop h hi]

theorem scanStringFrom_plain {p : Point} (h : s.toList.drop i = p :: rest) (h32 : 32 ≤ p.code)
    (h34 : p.code ≠ 34) (h92 : p.code ≠ 92) :
    scanStringFrom s q i acc = scanStringFrom s q (i + 1) (acc.push p) := by
  have hi := lt_size_of_drop h
  rw [scanStringFrom, dif_pos hi]
  simp [getElem_of_drop h hi, h34, h92, show ¬ p.code ≤ 31 by omega]

theorem scanStringFrom_simple {e : Point} {c : Nat}
    (h : s.toList.drop i = Point.ofChar '\\' :: e :: rest) (hu : e.code ≠ 117)
    (hc : simpleEscape e.code = some c) :
    scanStringFrom s q i acc = scanStringFrom s q (i + 2) (acc.push (Point.ofNat c)) := by
  have hi := lt_size_of_drop h
  have h1 := drop_after_cons h
  have hn := lt_size_of_drop h1
  rw [scanStringFrom, dif_pos hi]
  simp [getElem_of_drop h hi, hn, codeAt_of_drop h1, hu, hc]

/-- A `\\u` escape of a point below `U+10000` reads as that point, unless it is a high surrogate
followed by the escape of a low one. -/
theorem scanStringFrom_unicode {c : Nat} {p : Point}
    (h : s.toList.drop i = Text.ofString "\\u" ++ Text.ofString (hex4Text c) ++ p :: rest)
    (hc : c < 0x10000)
    (hnj : 0xD800 ≤ c ∧ c ≤ 0xDBFF ∧ i + 12 < s.size ∧ codeAt s (i + 6) = 92 ∧
      codeAt s (i + 7) = 117 → ∃ c₂, hex4 s (i + 8) = some c₂ ∧ ¬ (0xDC00 ≤ c₂ ∧ c₂ ≤ 0xDFFF)) :
    scanStringFrom s q i acc = scanStringFrom s q (i + 6) (acc.push (Point.ofNat c)) := by
  have h0 : s.toList.drop i = Point.ofChar '\\' :: Point.ofChar 'u' ::
      (Text.ofString (hex4Text c) ++ p :: rest) := h
  have h1 := drop_after_cons h0
  have h2 := drop_after_cons h1
  have h6 : s.toList.drop (i + 6) = p :: rest := by
    have := drop_after h2
    rwa [Text.length_ofString, length_hex4Text] at this
  have hi := lt_size_of_drop h0
  have hx := hex4_of_drop h2 hc
  have hstop := lt_size_of_drop h6
  rw [scanStringFrom, dif_pos hi]
  simp only [getElem_of_drop h0 hi, Point.code_ofChar, codeAt_of_drop h1]
  simp only [show i + 1 + 5 = i + 6 by omega, show i + 1 + 1 = i + 2 by omega,
    show i + 6 + 1 = i + 7 by omega, show i + 6 + 2 = i + 8 by omega,
    show i + 6 + 6 = i + 12 by omega]
  simp only [hx, show ¬ s.size ≤ i + 6 by omega, show i + 1 < s.size by omega]
  by_cases hcond : 0xD800 ≤ c ∧ c ≤ 0xDBFF ∧ i + 12 < s.size ∧ codeAt s (i + 6) = 92 ∧
      codeAt s (i + 7) = 117
  · obtain ⟨c₂, hx₂, hlow⟩ := hnj hcond
    simp [hcond, hx₂, hlow]
  · simp [hcond]

/-- The escapes of a high and a low surrogate in a row read as the one point they encode. -/
theorem scanStringFrom_pair {hi lo : Nat} {p : Point}
    (h : s.toList.drop i = Text.ofString "\\u" ++ Text.ofString (hex4Text hi) ++
      Text.ofString "\\u" ++ Text.ofString (hex4Text lo) ++ p :: rest)
    (hhi : 0xD800 ≤ hi ∧ hi ≤ 0xDBFF) (hlo : 0xDC00 ≤ lo ∧ lo ≤ 0xDFFF) :
    scanStringFrom s q i acc = scanStringFrom s q (i + 12)
      (acc.push (Point.ofNat (0x10000 + (hi - 0xD800) * 0x400 + (lo - 0xDC00)))) := by
  have h0 : s.toList.drop i = Point.ofChar '\\' :: Point.ofChar 'u' ::
      (Text.ofString (hex4Text hi) ++ Text.ofString "\\u" ++ Text.ofString (hex4Text lo) ++
        p :: rest) := h
  have h1 := drop_after_cons h0
  have h2 : s.toList.drop (i + 2) = Text.ofString (hex4Text hi) ++
      (Text.ofString "\\u" ++ Text.ofString (hex4Text lo) ++ p :: rest) := by
    rw [drop_after_cons h1]
    simp only [List.append_assoc]
  have h6 : s.toList.drop (i + 6) = Point.ofChar '\\' :: Point.ofChar 'u' ::
      (Text.ofString (hex4Text lo) ++ p :: rest) := by
    have := drop_after h2
    rwa [Text.length_ofString, length_hex4Text] at this
  have h7 := drop_after_cons h6
  have h8 := drop_after_cons h7
  have h12 : s.toList.drop (i + 12) = p :: rest := by
    have := drop_after h8
    rwa [Text.length_ofString, length_hex4Text] at this
  have hi₀ := lt_size_of_drop h0
  have hend := lt_size_of_drop h12
  rw [scanStringFrom, dif_pos hi₀]
  simp only [getElem_of_drop h0 hi₀, Point.code_ofChar, codeAt_of_drop h1]
  simp only [show i + 1 + 5 = i + 6 by omega, show i + 1 + 1 = i + 2 by omega,
    show i + 6 + 1 = i + 7 by omega, show i + 6 + 2 = i + 8 by omega,
    show i + 6 + 6 = i + 12 by omega]
  simp [hex4_of_drop h2 (by omega), hex4_of_drop h8 (by omega), codeAt_of_drop h6, codeAt_of_drop h7,
    show ¬ s.size ≤ i + 6 by omega, show i + 1 < s.size by omega, hend, hhi, hlo]

end steps

/-! ## The escape of one point -/

/-- The escape letters are ASCII and none is a carriage return, and each stands for an ASCII
point. -/
theorem simpleEscape_ascii {c p : Nat} (h : simpleEscape c = some p) :
    (c < 128 ∧ c ≠ 13) ∧ p < 128 := by
  revert h
  unfold simpleEscape
  repeat' refine prop_ite (fun o : Option Nat => o = some p → (c < 128 ∧ c ≠ 13) ∧ p < 128)
            (fun hc => ?_) fun _ => ?_
  all_goals
    intro h
    cases h
  -- each letter's code is fixed by its test
  all_goals
    rw [beq_iff_eq] at hc
    omega

/-- The ways the writer may escape a point: by a backslash and a letter, as itself, by one `\\u`
escape, or by the escapes of its two surrogates. -/
def EscapedAs (p : Point) (w : String) : Prop :=
  (∃ e : Char, e ≠ 'u' ∧ simpleEscape e.toNat = some p.code ∧
      Text.ofString w = [Point.ofChar '\\', Point.ofChar e]) ∨
    (32 ≤ p.code ∧ p.code ≤ 126 ∧ p.code ≠ 34 ∧ p.code ≠ 92 ∧ Text.ofString w = [p]) ∨
    (p.code < 0x10000 ∧
      Text.ofString w = Text.ofString "\\u" ++ Text.ofString (hex4Text p.code)) ∨
    (0x10000 ≤ p.code ∧
      Text.ofString w = Text.ofString "\\u" ++
        Text.ofString (hex4Text (0xD800 + (p.code - 0x10000) / 0x400)) ++
        Text.ofString "\\u" ++ Text.ofString (hex4Text (0xDC00 + (p.code - 0x10000) % 0x400)))

/-- A point written as a backslash and the letter that stands for its code. -/
theorem EscapedAs.letter {p : Point} {k : Nat} {e : Char} {w : String} (hp : (p.code == k) = true)
    (hw : Text.ofString w = [Point.ofChar '\\', Point.ofChar e]) (hu : e ≠ 'u')
    (he : simpleEscape e.toNat = some k) : EscapedAs p w :=
  Or.inl ⟨e, hu, beq_iff_eq.1 hp ▸ he, hw⟩

theorem escapePoint_cases (p : Point) : EscapedAs p (escapePoint p) := by
  unfold escapePoint
  -- one step per test of the chain, in the writer's order: first the seven escape letters
  iterate 7 refine prop_ite (EscapedAs p) (fun h => .letter h rfl (by decide) rfl) fun _ => ?_
  rename_i h34 h92 _ _ _ _ _
  refine prop_ite (EscapedAs p) (fun hprint => ?_) fun _ => ?_
  · -- printable ASCII stands for itself
    have h34 : p.code ≠ 34 := by simpa using h34
    have h92 : p.code ≠ 92 := by simpa using h92
    refine .inr (.inl ⟨hprint.1, hprint.2, h34, h92, ?_⟩)
    have hvalid : p.code.isValidChar := by simp only [Nat.isValidChar]; omega
    simp only [Text.ofString, String.toList_singleton, List.map_cons, List.map_nil, List.cons.injEq,
      and_true]
    apply Point.ext_code
    show (Char.ofNat p.code).toNat = p.code
    rw [Char.ofNat, dif_pos hvalid]
    rfl
  refine prop_ite (EscapedAs p) (fun hbmp => .inr (.inr (.inl ⟨hbmp, by simp⟩))) fun hbmp => ?_
  exact .inr (.inr (.inr ⟨by omega, by simp⟩))

/-- Every point the writer puts in a literal is ASCII, and none is a carriage return. -/
theorem escapePoint_plain (p : Point) :
    ∀ x ∈ Text.ofString (escapePoint p), x.code < 128 ∧ x.code ≠ 13 := by
  have digits : ∀ n, ∀ x ∈ Text.ofString (hex4Text n), x.code < 128 ∧ x.code ≠ 13 := by
    have every : ∀ d < 16,
        (if d < 10 then Char.ofNat (48 + d) else Char.ofNat (87 + d)).toNat < 128 ∧
          (if d < 10 then Char.ofNat (48 + d) else Char.ofNat (87 + d)).toNat ≠ 13 := by
      decide
    intro n x hx
    simp only [hex4Text, Text.ofString, String.toList_ofList, List.map_cons, List.map_nil,
      List.mem_cons, List.not_mem_nil, or_false] at hx
    rcases hx with rfl | rfl | rfl | rfl <;> exact every _ (Nat.mod_lt _ (by decide))
  have backslashU : ∀ x ∈ Text.ofString "\\u", x.code < 128 ∧ x.code ≠ 13 := by decide
  rcases escapePoint_cases p with
    ⟨e, -, hse, hesc⟩ | ⟨h32, h126, -, -, hesc⟩ | ⟨-, hesc⟩ | ⟨-, hesc⟩
  · have he := (simpleEscape_ascii hse).1
    rw [hesc]
    intro x hx
    simp only [List.mem_cons, List.not_mem_nil, or_false] at hx
    rcases hx with rfl | rfl
    · decide
    · exact he
  · rw [hesc]
    intro x hx
    rw [List.mem_singleton.mp hx]
    omega
  · rw [hesc]
    intro x hx
    rcases List.mem_append.mp hx with hx | hx
    · exact backslashU x hx
    · exact digits _ x hx
  · rw [hesc]
    intro x hx
    simp only [List.mem_append] at hx
    rcases hx with ((hx | hx) | hx) | hx
    · exact backslashU x hx
    · exact digits _ x hx
    · exact backslashU x hx
    · exact digits _ x hx

theorem escapePoint_ne_nil (p : Point) : Text.ofString (escapePoint p) ≠ [] := by
  rcases escapePoint_cases p with
    ⟨e, -, -, hesc⟩ | ⟨-, -, -, -, hesc⟩ | ⟨-, hesc⟩ | ⟨-, hesc⟩ <;>
    rw [hesc] <;> exact List.cons_ne_nil _ _

section escapes

variable {s : Array Point} {q i : Nat} {acc : Array Point}

/-- The escape of a point that is no low surrogate never completes a pair begun before it. -/
theorem escapePoint_no_join {p : Point} (hlow : p.isLow = false) {j : Nat} {rest : Text}
    (h : s.toList.drop j = Text.ofString (escapePoint p) ++ rest) (h92 : codeAt s j = 92)
    (h117 : codeAt s (j + 1) = 117) :
    ∃ c₂, hex4 s (j + 2) = some c₂ ∧ ¬ (0xDC00 ≤ c₂ ∧ c₂ ≤ 0xDFFF) := by
  rcases escapePoint_cases p with
    ⟨e, hu, -, hesc⟩ | ⟨-, -, -, hp92, hesc⟩ | ⟨hc, hesc⟩ | ⟨hc, hesc⟩
  · rw [hesc] at h
    rw [codeAt_of_drop (drop_after_cons h), Point.code_ofChar] at h117
    exact absurd (Char.toNat_inj.mp h117) hu
  · rw [hesc] at h
    exact absurd (codeAt_of_drop h ▸ h92) hp92
  · rw [hesc, List.append_assoc] at h
    refine ⟨p.code, hex4_of_drop (drop_after h) hc, ?_⟩
    simp only [Point.isLow, Bool.and_eq_false_iff, decide_eq_false_iff_not] at hlow
    omega
  · rw [hesc] at h
    simp only [List.append_assoc] at h
    have hv := p.valid
    refine ⟨_, hex4_of_drop (drop_after h) (by omega), ?_⟩
    omega

/-- One written point reads back as itself, provided what follows is the closing quote or the
escape of a point that does not pair with it. -/
theorem scanStringFrom_escapePoint {p : Point} {after : Text}
    (h : s.toList.drop i = Text.ofString (escapePoint p) ++ after)
    (hafter : (∃ post, after = Point.ofChar '"' :: post) ∨
      ∃ p' post, after = Text.ofString (escapePoint p') ++ post ∧
        ¬ (p.isHigh = true ∧ p'.isLow = true)) :
    scanStringFrom s q i acc =
      scanStringFrom s q (i + (Text.ofString (escapePoint p)).length) (acc.push p) := by
  have hne : ∃ a rest, after = a :: rest := by
    rcases hafter with ⟨post, rfl⟩ | ⟨p', post, rfl, -⟩
    · exact ⟨_, _, rfl⟩
    · obtain ⟨a, rest, ha⟩ := List.exists_cons_of_ne_nil (escapePoint_ne_nil p')
      exact ⟨a, rest ++ post, by rw [ha, List.cons_append]⟩
  obtain ⟨a, rest, rfl⟩ := hne
  rcases escapePoint_cases p with
    ⟨e, hu, hse, hesc⟩ | ⟨h32, -, h34, h92, hesc⟩ | ⟨hc, hesc⟩ | ⟨hc, hesc⟩
  · rw [hesc] at h ⊢
    rw [scanStringFrom_simple h (fun he => hu (Char.toNat_inj.mp he)) hse, Point.ofNat_code]
    rfl
  · rw [hesc] at h ⊢
    exact scanStringFrom_plain h h32 h34 h92
  · rw [hesc] at h ⊢
    rw [scanStringFrom_unicode h hc, Point.ofNat_code, length_unicodeEscape]
    · rintro ⟨hhi, hlo, -, h92, h117⟩
      have h6 : s.toList.drop (i + 6) = a :: rest := by
        have := drop_after h
        rwa [length_unicodeEscape] at this
      rcases hafter with ⟨post, hpost⟩ | ⟨p', post, hpost, hpair⟩
      · rw [hpost] at h6
        rw [codeAt_of_drop h6] at h92
        exact absurd h92 (by decide)
      · have hlow : p'.isLow = false := by
          simp only [Point.isHigh, Bool.and_eq_true, decide_eq_true_eq] at hpair
          simpa using fun hl => hpair ⟨⟨hhi, hlo⟩, hl⟩
        rw [hpost] at h6
        exact escapePoint_no_join hlow h6 h92 h117
  · rw [hesc] at h ⊢
    have hv := p.valid
    rw [scanStringFrom_pair h (by omega) (by omega)]
    have hjoin : 0x10000 + (0xD800 + (p.code - 0x10000) / 0x400 - 0xD800) * 0x400 +
        (0xDC00 + (p.code - 0x10000) % 0x400 - 0xDC00) = p.code := by
      omega
    rw [hjoin, Point.ofNat_code, length_pairEscape]

/-- The escapes of a text without surrogate pairs, followed by a closing quote, read back as the
text. -/
theorem scanStringFrom_escaped (t : Text) (ht : t.NoSurrogatePair) {post : Text}
    (h : s.toList.drop i = t.flatMap (fun p => Text.ofString (escapePoint p)) ++
      Point.ofChar '"' :: post) :
    scanStringFrom s q i acc =
      .ok (acc.toList ++ t, i + (t.flatMap fun p => Text.ofString (escapePoint p)).length + 1) := by
  -- induction on the text, each point read by one escape
  induction t generalizing i acc with
  | nil => simpa using scanStringFrom_close h
  | cons p t ih =>
    rw [List.flatMap_cons, List.append_assoc] at h
    have hafter : (∃ post', (t.flatMap fun p => Text.ofString (escapePoint p)) ++
        Point.ofChar '"' :: post = Point.ofChar '"' :: post') ∨
        ∃ p' post', (t.flatMap fun p => Text.ofString (escapePoint p)) ++ Point.ofChar '"' :: post =
          Text.ofString (escapePoint p') ++ post' ∧ ¬ (p.isHigh = true ∧ p'.isLow = true) := by
      cases t with
      | nil => exact .inl ⟨post, rfl⟩
      | cons p' t' =>
        refine .inr ⟨p', _, by rw [List.flatMap_cons, List.append_assoc], ?_⟩
        exact (List.isChain_cons_cons.mp ht).1
    rw [scanStringFrom_escapePoint h hafter, ih ht.tail (drop_after h)]
    simp only [Array.toList_push, List.append_assoc, List.singleton_append, List.flatMap_cons,
      List.length_append]
    congr 2
    omega

theorem ofString_quote (t : Text) : Text.ofString (quote t) = Point.ofChar '"' ::
    ((t.flatMap fun p => Text.ofString (escapePoint p)) ++ [Point.ofChar '"']) := by
  simp [quote, List.flatMap_map]
  rfl

/-- The literal the writer gives a text without surrogate pairs reads back as the text, wherever
it stands and whatever follows it. -/
theorem scanStringFrom_quote (t : Text) (ht : t.NoSurrogatePair) {post : Text}
    (h : s.toList.drop i = Text.ofString (quote t) ++ post) :
    scanStringFrom s i (i + 1) #[] = .ok (t, i + (Text.ofString (quote t)).length) := by
  have hq := ofString_quote t
  rw [hq, List.cons_append, List.append_assoc] at h
  rw [scanStringFrom_escaped t ht (drop_after_cons h), hq]
  simp only [List.length_cons, List.length_append, List.length_nil, List.nil_append]
  congr 2
  omega

end escapes

end Json

end FarmSetup
