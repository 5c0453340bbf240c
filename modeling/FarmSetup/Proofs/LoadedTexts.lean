import Mathlib.Data.List.TakeWhile
import FarmSetup.Proofs.JsonStrings
import FarmSetup.Json.Literal
import FarmSetup.Text.Utf8
/-!
# The texts a farm list file yields

Every text that loading takes out of a file holds no surrogate pair, so the file it saves reads
back the same. Strict UTF-8 decoding yields Unicode scalar values only, and unifying line ends
keeps that. The JSON reader then copies scalar values, adds the points of short escapes, and
takes a `\u` escape for a point of its own only where it cannot join it with the escape after
it: a high surrogate read alone is never followed by a low one read alone. A value that is no
string is displayed as its literal, which escapes every point that is not printable, so it
holds no surrogate at all. Main statements: `scalar_decode`, `noSurrogatePair_scanStringFrom`,
`NoSurrogatePairs.of_parseWithin` and `noSurrogatePair_display`.
-/

namespace FarmSetup

namespace Point

theorem isSurrogate_eq_false_iff (p : Point) :
    p.isSurrogate = false ↔ p.code < 0xD800 ∨ 0xDFFF < p.code := by
  simp only [isSurrogate, Bool.and_eq_false_iff, decide_eq_false_iff_not, Nat.not_le]

theorem isHigh_of_isSurrogate {p : Point} (h : p.isSurrogate = false) : p.isHigh = false := by
  rw [isSurrogate_eq_false_iff] at h
  simp only [isHigh, Bool.and_eq_false_iff, decide_eq_false_iff_not, Nat.not_le]
  omega

theorem isLow_of_isSurrogate {p : Point} (h : p.isSurrogate = false) : p.isLow = false := by
  rw [isSurrogate_eq_false_iff] at h
  simp only [isLow, Bool.and_eq_false_iff, decide_eq_false_iff_not, Nat.not_le]
  omega

/-- A number outside the surrogates names a scalar value; one past the last plane gives the
replacement point. -/
theorem isSurrogate_ofNat {n : Nat} (h : n < 0xD800 ∨ 0xDFFF < n) :
    (ofNat n).isSurrogate = false := by
  rw [isSurrogate_eq_false_iff, ofNat]
  split
  · exact h
  · decide

theorem isSurrogate_ofChar (c : Char) : (ofChar c).isSurrogate = false := by
  have h := c.valid
  simp only [UInt32.isValidChar, Nat.isValidChar] at h
  rw [isSurrogate_eq_false_iff]
  exact h.imp id fun h => h.1

end Point

namespace Text

/-- Every point is a Unicode scalar value: none is a surrogate. -/
def Scalar (t : Text) : Prop := ∀ p ∈ t, p.isSurrogate = false

theorem Scalar.noSurrogatePair {t : Text} (h : t.Scalar) : t.NoSurrogatePair :=
  noSurrogatePair_of_not_high fun p hp => Point.isHigh_of_isSurrogate (h p hp)

theorem scalar_ofString (a : String) : (ofString a).Scalar := by
  intro p hp
  obtain ⟨c, -, rfl⟩ := List.mem_map.1 hp
  exact Point.isSurrogate_ofChar c

theorem Scalar.nil : Scalar [] := fun _ hp => absurd hp List.not_mem_nil

theorem Scalar.cons {p : Point} {t : Text} (hp : p.isSurrogate = false) (ht : t.Scalar) :
    Scalar (p :: t) := by
  intro x hx
  rcases List.mem_cons.1 hx with rfl | hx
  exacts [hp, ht x hx]

theorem Scalar.head {p : Point} {t : Text} (h : Scalar (p :: t)) : p.isSurrogate = false :=
  h p List.mem_cons_self

theorem Scalar.tail {p : Point} {t : Text} (h : Scalar (p :: t)) : t.Scalar :=
  fun x hx => h x (List.mem_cons_of_mem _ hx)

theorem Scalar.singleton {p : Point} (hp : p.isSurrogate = false) : Scalar [p] :=
  Scalar.cons hp Scalar.nil

theorem Scalar.append {a b : Text} (ha : a.Scalar) (hb : b.Scalar) : (a ++ b).Scalar := by
  intro p hp
  rcases List.mem_append.1 hp with hp | hp
  exacts [ha p hp, hb p hp]

theorem Scalar.push {acc : Array Point} {p : Point} (hacc : Scalar acc.toList)
    (hp : p.isSurrogate = false) : Scalar (acc.push p).toList := by
  rw [Array.toList_push]
  exact hacc.append (Scalar.singleton hp)

/-- Unified line ends bring in line feeds only. -/
theorem Scalar.unifyLineEnds {t : Text} (h : t.Scalar) : t.unifyLineEnds.Scalar := by
  have lf : (Point.ofNat 10).isSurrogate = false := by decide
  induction t using unifyLineEnds.induct with
  | case1 => exact h
  | case2 p hp =>
    rw [Text.unifyLineEnds, if_pos hp]
    exact Scalar.singleton lf
  | case3 p hp =>
    rw [Text.unifyLineEnds, if_neg hp]
    exact h
  | case4 p q rest hp hq ih =>
    rw [Text.unifyLineEnds, if_pos hp, if_pos hq]
    exact Scalar.cons lf (ih h.tail.tail)
  | case5 p q rest hp hq ih =>
    rw [Text.unifyLineEnds, if_pos hp, if_neg hq]
    exact Scalar.cons lf (ih h.tail)
  | case6 p q rest hp ih =>
    rw [Text.unifyLineEnds, if_neg hp]
    exact Scalar.cons h.head (ih h.tail)

end Text

/-! ## Decoding -/

namespace Utf8

/-- The point of a well-formed sequence of two to four bytes is no surrogate: a three-byte
sequence led by `0xED` is refused from its second byte on where it would reach the surrogates. -/
theorem payload_not_surrogate {b need : Nat} {conts : List Nat} (hb : 194 ≤ b ∧ b ≤ 244)
    (hneed : need = if b < 224 then 1 else if b < 240 then 2 else 3) (hlen : conts.length = need)
    (hsecond : ∀ c ∈ conts.head?, (secondRange b).1 ≤ c ∧ c ≤ (secondRange b).2)
    (hcont : ∀ c ∈ conts.tail, isCont c = true) :
    let payload := conts.foldl (fun a c => a * 64 + (c - 128))
      (if need = 1 then b - 192 else if need = 2 then b - 224 else b - 240)
    payload < 0xD800 ∨ 0xDFFF < payload := by
  intro payload
  simp only [isCont, Bool.and_eq_true, decide_eq_true_eq] at hcont
  subst hlen
  by_cases h1 : b < 224
  · obtain ⟨c₁, rfl⟩ : ∃ c₁, conts = [c₁] := by
      rw [if_pos h1, List.length_eq_one_iff] at hneed
      exact hneed
    have hs := hsecond c₁ rfl
    simp only [secondRange] at hs
    simp only [payload, List.length_singleton, if_true, List.foldl_cons, List.foldl_nil]
    split_ifs at hs <;> omega
  · by_cases h2 : b < 240
    · obtain ⟨c₁, c₂, rfl⟩ : ∃ c₁ c₂, conts = [c₁, c₂] := by
        rw [if_neg h1, if_pos h2, List.length_eq_two] at hneed
        exact hneed
      have hs := hsecond c₁ rfl
      have hc₂ := hcont c₂ (by simp)
      simp only [secondRange] at hs
      simp only [payload, List.length_cons, List.length_nil, List.foldl_cons, List.foldl_nil]
      simp only [show ¬ (0 + 1 + 1 = 1) by decide, if_false, if_true]
      split_ifs at hs <;> omega
    · obtain ⟨c₁, c₂, c₃, rfl⟩ : ∃ c₁ c₂ c₃, conts = [c₁, c₂, c₃] := by
        rw [if_neg h1, if_neg h2, List.length_eq_three] at hneed
        exact hneed
      have hs := hsecond c₁ rfl
      simp only [secondRange] at hs
      simp only [payload, List.length_cons, List.length_nil, List.foldl_cons, List.foldl_nil]
      simp only [show ¬ (0 + 1 + 1 + 1 = 1) by decide, show ¬ (0 + 1 + 1 + 1 = 2) by decide,
        if_false]
      split_ifs at hs <;> omega

/-- Strict decoding yields scalar values only. -/
theorem scalar_decodeFrom {bs : List Nat} {pos : Nat} {acc : Array Point} {t : Text}
    (hacc : Text.Scalar acc.toList) (h : decodeFrom bs pos acc = .ok t) : t.Scalar := by
  fun_induction decodeFrom bs pos acc with
  | case1 =>
    cases h
    exact hacc
  | case2 _ acc c _ hc ih =>
    exact ih (hacc.push (Point.isSurrogate_ofNat (show c < 0xD800 ∨ 0xDFFF < c by omega))) h
  | case3 => cases h
  | case4 => cases h
  | case5 => cases h
  | case6 _ acc b more hb₁ hb₂ need lo hi hrange conts good hgood hshort payload ih =>
    refine ih (hacc.push (Point.isSurrogate_ofNat ?_)) h
    have hneed : need = if b < 224 then 1 else if b < 240 then 2 else 3 := by
      simp only [need, dite_eq_ite]
    have hlen : conts.length = need := by
      have htake := List.length_take_le need more
      simp only [conts] at hshort ⊢
      omega
    obtain ⟨c, rest, hc⟩ : ∃ c rest, conts = c :: rest := by
      refine List.exists_cons_of_ne_nil fun hnil => ?_
      rw [hnil, hneed] at hlen
      split_ifs at hlen
    have hrange' : lo = (secondRange b).1 ∧ hi = (secondRange b).2 := by
      rw [hrange]
      exact ⟨rfl, rfl⟩
    have hgood' : ¬ (if lo ≤ c ∧ c ≤ hi then 1 + (rest.takeWhile isCont).length else 0) <
        rest.length + 1 := by
      simpa [good, hc] using hgood
    split_ifs at hgood' with hfirst
    · have hall : rest.takeWhile isCont = rest :=
        (List.takeWhile_prefix isCont).eq_of_length (by
          have := (List.takeWhile_prefix isCont : rest.takeWhile isCont <+: rest).length_le
          omega)
      have hpayload := @payload_not_surrogate b need (c :: rest) (by omega) hneed (hc ▸ hlen)
        (by rintro x ⟨⟩; exact hrange'.1 ▸ hrange'.2 ▸ hfirst)
        (List.takeWhile_eq_self_iff.1 hall)
      simpa [payload, hc] using hpayload
    · omega

theorem scalar_decode {bs : List Nat} {t : Text} (h : decode bs = .ok t) : t.Scalar :=
  scalar_decodeFrom (fun p hp => absurd hp (by simp)) h

end Utf8

/-! ## Strings -/

namespace Json

section strings

variable {s : Array Point}

/-- The reader stands at the escape of a low surrogate that it would read as a point of its
own. -/
def LowEscapeAt (s : Array Point) (i : Nat) : Prop :=
  codeAt s i = 92 ∧ codeAt s (i + 1) = 117 ∧ i + 6 < s.size ∧
    ∃ c, hex4 s (i + 2) = some c ∧ 0xDC00 ≤ c ∧ c ≤ 0xDFFF

/-- What the string reader keeps while it reads: the points read so far hold no surrogate pair,
and after a high surrogate it does not stand at the escape of a low one. -/
def StringRead (s : Array Point) (i : Nat) (acc : Array Point) : Prop :=
  Text.NoSurrogatePair acc.toList ∧ ∀ p ∈ acc.toList.getLast?, p.isHigh = true → ¬ LowEscapeAt s i

theorem stringRead_empty (s : Array Point) (i : Nat) : StringRead s i #[] :=
  ⟨List.isChain_nil, fun p hp => by simp at hp⟩

/-- One point more: it may be a low surrogate only where the reader stood at its escape, and it
may be a high one only where the reader does not then stand at the escape of a low one. -/
theorem StringRead.push {i i' : Nat} {acc : Array Point} {x : Point} (h : StringRead s i acc)
    (hlow : x.isLow = true → LowEscapeAt s i) (hhigh : x.isHigh = true → ¬ LowEscapeAt s i') :
    StringRead s i' (acc.push x) := by
  refine ⟨?_, fun p hp => ?_⟩
  · rw [Array.toList_push]
    refine h.1.append (List.isChain_singleton x) fun a ha b hb hab => ?_
    simp only [List.head?_cons, Option.mem_def, Option.some.injEq] at hb
    subst hb
    exact h.2 a ha hab.1 (hlow hab.2)
  · rw [Array.toList_push, List.getLast?_concat, Option.mem_def, Option.some.injEq] at hp
    subst hp
    exact hhigh

theorem StringRead.push_scalar {i i' : Nat} {acc : Array Point} {x : Point} (h : StringRead s i acc)
    (hx : x.isSurrogate = false) : StringRead s i' (acc.push x) :=
  h.push (fun hl => absurd hl (by simp [Point.isLow_of_isSurrogate hx]))
    (fun hh => absurd hh (by simp [Point.isHigh_of_isSurrogate hx]))

theorem hexValue_lt {c v : Nat} (h : hexValue c = some v) : v < 16 := by
  unfold hexValue at h
  split_ifs at h <;> cases h <;> omega

theorem hex4_lt {i c : Nat} (h : hex4 s i = some c) : c < 0x10000 := by
  simp only [hex4, Option.bind_eq_bind, Option.bind_eq_some_iff, Option.pure_def,
    Option.some.injEq] at h
  obtain ⟨a, ha, b, hb, c', hc, d, hd, rfl⟩ := h
  have := hexValue_lt ha
  have := hexValue_lt hb
  have := hexValue_lt hc
  have := hexValue_lt hd
  omega

theorem code_ofNat_of_lt {n : Nat} (h : n < 0x110000) : (Point.ofNat n).code = n := by
  simp [Point.ofNat, h]

/-- On a document of scalar values, the reader gives strings without surrogate pairs. -/
theorem noSurrogatePair_scanStringFrom (hs : Text.Scalar s.toList) {q i j : Nat}
    {acc : Array Point} {t : Text} (hread : StringRead s i acc)
    (h : scanStringFrom s q i acc = .ok (t, j)) : t.NoSurrogatePair := by
  fun_induction scanStringFrom s q i acc with
  | case1 =>
    cases h
    exact hread.1
  | case2 i acc _ _ _ _ _ _ _ _ p hp ih =>
    have hp' := (simpleEscape_ascii hp).2
    exact ih (hread.push_scalar (Point.isSurrogate_ofNat (show p < 0xD800 ∨ 0xDFFF < p by omega))) h
  | case3 => simp [fail] at h
  | case4 => simp [fail] at h
  | case5 => simp [fail] at h
  | case6 => simp [fail] at h
  | case7 i acc _ _ _ _ _ _ _ _ _ _ c₁ h₁ hpair c₂ h₂ hlow _ ih =>
    have := hex4_lt h₁
    have := hex4_lt h₂
    refine ih (hread.push_scalar (Point.isSurrogate_ofNat ?_)) h
    omega
  | case8 i acc _ _ _ _ _ _ _ _ _ _ c₁ h₁ hpair c₂ h₂ hlow ih =>
    have hcode := code_ofNat_of_lt (show c₁ < 0x110000 by have := hex4_lt h₁; omega)
    refine ih (hread.push (fun hl => ?_) (fun _ hat => ?_)) h
    · simp only [Point.isLow, hcode, Bool.and_eq_true, decide_eq_true_eq] at hl
      omega
    · obtain ⟨-, -, -, c, hc, hc₁, hc₂⟩ := hat
      rw [h₂, Option.some.injEq] at hc
      subst hc
      exact hlow ⟨hc₁, hc₂⟩
  | case9 i acc hi _ _ h92 _ _ _ he _ hstop c₁ h₁ hpair ih =>
    have hcode := code_ofNat_of_lt (show c₁ < 0x110000 by have := hex4_lt h₁; omega)
    refine ih (hread.push (fun hl => ?_) (fun hh hat => ?_)) h
    · simp only [Point.isLow, hcode, Bool.and_eq_true, decide_eq_true_eq] at hl
      refine ⟨?_, ?_, by omega, c₁, h₁, hl⟩
      · simpa [codeAt, Array.getElem?_eq_getElem hi] using h92
      · simpa using he
    · simp only [Point.isHigh, hcode, Bool.and_eq_true, decide_eq_true_eq] at hh
      exact hpair ⟨hh.1, hh.2, hat.2.2.1, hat.1, hat.2.1⟩
  | case10 => simp [fail] at h
  | case11 => simp [fail] at h
  | case12 i acc hi _ _ _ _ ih =>
    exact ih (hread.push_scalar (hs _ (Array.getElem_mem_toList hi))) h
  | case13 => simp [fail] at h

end strings

/-! ## Values -/

/-- Every string in the value, at any depth, holds no surrogate pair. -/
inductive NoSurrogatePairs : Json → Prop
  | null : NoSurrogatePairs .null
  | bool (b : Bool) : NoSurrogatePairs (.bool b)
  | int (n : Int) : NoSurrogatePairs (.int n)
  | float (x : Binary64) : NoSurrogatePairs (.float x)
  | str {t : Text} (h : t.NoSurrogatePair) : NoSurrogatePairs (.str t)
  | arr {items : List Json} (h : ∀ j ∈ items, NoSurrogatePairs j) : NoSurrogatePairs (.arr items)
  | obj {members : List (Text × Json)} (h : ∀ m ∈ members, NoSurrogatePairs m.2) :
      NoSurrogatePairs (.obj members)

/-- The number reader gives numbers only. -/
theorem scanNumber_number {s : Array Point} {i : Nat} {v : Json} {j : Nat}
    (h : scanNumber s i = some (.ok (v, j))) : (∃ n, v = .int n) ∨ ∃ x, v = .float x := by
  unfold scanNumber at h
  simp only at h
  -- every branch fails, finds no number, or gives an integer or a float
  repeat' split at h
  all_goals first
    | (simp at h; done)
    | (simp only [Option.some.injEq, Except.ok.injEq, Prod.mk.injEq] at h
       first
         | exact .inl ⟨_, h.1.symm⟩
         | exact .inr ⟨_, h.1.symm⟩)

/-- A member set in an object is one it had or the one given. -/
theorem mem_setMember {members : List (Text × Json)} {k : Text} {v : Json} {m : Text × Json}
    (h : m ∈ setMember members k v) : m ∈ members ∨ m = (k, v) := by
  unfold setMember at h
  split at h
  · obtain ⟨kv, hkv, rfl⟩ := List.mem_map.1 h
    split
    · exact .inr rfl
    · exact .inl hkv
  · rcases List.mem_append.1 h with h | h
    · exact .inl h
    · exact .inr (List.mem_singleton.1 h)

section values

variable {s : Array Point}

theorem bind_eq_ok {α β ε : Type} {x : Except ε α} {f : α → Except ε β} {b : β}
    (h : x >>= f = .ok b) : ∃ a, x = .ok a ∧ f a = .ok b := by
  cases x with
  | error e => cases h
  | ok a => exact ⟨a, rfl, h⟩

/-- A read whose every success gives a value whose strings hold no surrogate pairs. -/
def GivesNoSurrogatePairs (r : Scan (Json × Nat)) : Prop :=
  ∀ v j, r = .ok (v, j) → NoSurrogatePairs v

namespace GivesNoSurrogatePairs

theorem error (e : ReadFailure) : GivesNoSurrogatePairs (.error e) := by
  intro v j h
  cases h

theorem ok {v : Json} {j : Nat} (hv : NoSurrogatePairs v) : GivesNoSurrogatePairs (.ok (v, j)) := by
  intro v' j' h
  cases h
  exact hv

theorem branch {c : Prop} [Decidable c] {a b : Scan (Json × Nat)} (ha : GivesNoSurrogatePairs a)
    (hb : GivesNoSurrogatePairs b) : GivesNoSurrogatePairs (if c then a else b) :=
  prop_ite _ (fun _ => ha) fun _ => hb

theorem bind {α : Type} {x : Scan α} {f : α → Scan (Json × Nat)}
    (hf : ∀ a, x = .ok a → GivesNoSurrogatePairs (f a)) : GivesNoSurrogatePairs (x >>= f) := by
  intro v j h
  obtain ⟨a, hx, h⟩ := bind_eq_ok h
  exact hf a hx v j h

/-! Each part of the reader, given one more unit of fuel, gives values without surrogate pairs
when the parts it calls do so at the fuel it passes them. The branches are taken in the order
the reader tries them. -/

theorem scanValue_succ (hs : Text.Scalar s.toList) {fuel room i : Nat}
    (ihA : ∀ room i, GivesNoSurrogatePairs (scanArray s room i fuel))
    (ihO : ∀ room i, GivesNoSurrogatePairs (scanObject s room i fuel)) :
    GivesNoSurrogatePairs (scanValue s room i (fuel + 1)) := by
  rw [scanValue]
  repeat' refine .branch ?_ ?_
  · exact .error _
  · -- a string
    intro v j h
    obtain ⟨r, hr, hv⟩ :
        ∃ r, scanStringFrom s i (i + 1) #[] = .ok r ∧ (str r.1, r.2) = (v, j) := by
      cases hr : scanStringFrom s i (i + 1) #[] with
      | error e => rw [hr] at h; cases h
      | ok r => rw [hr] at h; exact ⟨r, rfl, Except.ok.inj h⟩
    cases hv
    exact .str (noSurrogatePair_scanStringFrom hs (stringRead_empty s _) hr)
  · exact .error _
  · exact ihO _ _
  · exact .error _
  · exact ihA _ _
  · exact .ok .null
  · exact .ok (.bool _)
  · exact .ok (.bool _)
  · exact .ok (.float _)
  · exact .ok (.float _)
  · exact .ok (.float _)
  · -- a number
    intro v j h
    cases hn : scanNumber s i with
    | none =>
      rw [hn] at h
      simp [fail] at h
    | some r =>
      rw [hn, Option.getD_some] at h
      subst h
      rcases scanNumber_number hn with ⟨n, rfl⟩ | ⟨x, rfl⟩
      exacts [.int n, .float x]

theorem scanArray_succ {fuel room i : Nat}
    (ihI : ∀ room i acc, (∀ x ∈ acc.toList, NoSurrogatePairs x) →
      GivesNoSurrogatePairs (scanItems s room i acc fuel)) :
    GivesNoSurrogatePairs (scanArray s room i (fuel + 1)) := by
  rw [scanArray]
  exact .branch (.ok (.arr (by simp))) (ihI _ _ _ (by simp))

theorem scanItems_succ {fuel room i : Nat} {acc : Array Json}
    (ihV : ∀ room i, GivesNoSurrogatePairs (scanValue s room i fuel))
    (ihI : ∀ room i acc, (∀ x ∈ acc.toList, NoSurrogatePairs x) →
      GivesNoSurrogatePairs (scanItems s room i acc fuel))
    (hacc : ∀ x ∈ acc.toList, NoSurrogatePairs x) :
    GivesNoSurrogatePairs (scanItems s room i acc (fuel + 1)) := by
  rw [scanItems]
  refine .bind fun ⟨x, k⟩ hx => ?_
  have hacc' : ∀ y ∈ (acc.push x).toList, NoSurrogatePairs y := by
    intro y hy
    rw [Array.toList_push, List.mem_append, List.mem_singleton] at hy
    rcases hy with hy | rfl
    exacts [hacc y hy, ihV _ _ _ _ hx]
  exact .branch (.ok (.arr hacc')) (.branch (.error _) (ihI _ _ _ hacc'))

theorem scanObject_succ {fuel room i : Nat}
    (ihM : ∀ room i acc, (∀ m ∈ acc, NoSurrogatePairs m.2) →
      GivesNoSurrogatePairs (scanMembers s room i acc fuel)) :
    GivesNoSurrogatePairs (scanObject s room i (fuel + 1)) := by
  rw [scanObject]
  exact .branch (.ok (.obj (by simp))) (ihM _ _ _ (by simp))

theorem scanMembers_succ {fuel room i : Nat} {acc : List (Text × Json)}
    (ihV : ∀ room i, GivesNoSurrogatePairs (scanValue s room i fuel))
    (ihM : ∀ room i acc, (∀ m ∈ acc, NoSurrogatePairs m.2) →
      GivesNoSurrogatePairs (scanMembers s room i acc fuel))
    (hacc : ∀ m ∈ acc, NoSurrogatePairs m.2) :
    GivesNoSurrogatePairs (scanMembers s room i acc (fuel + 1)) := by
  rw [scanMembers]
  -- the property asks nothing of keys, so how the key was read is not needed
  refine .branch (.error _) (.bind fun ⟨key, k⟩ _ =>
    .branch (.error _) (.bind fun ⟨x, k'⟩ hx => ?_))
  have hacc' : ∀ m ∈ setMember acc key x, NoSurrogatePairs m.2 := by
    intro m hm
    rcases mem_setMember hm with hm | rfl
    exacts [hacc m hm, ihV _ _ _ _ hx]
  exact .branch (.ok (.obj hacc')) (.branch (.error _) (ihM _ _ _ hacc'))

end GivesNoSurrogatePairs

/-- On a document of scalar values, every value the reader gives holds strings without surrogate
pairs; the five parts of the reader are followed together, by the fuel they are given. -/
theorem noSurrogatePairs_scan (hs : Text.Scalar s.toList) (fuel : Nat) :
    (∀ room i, GivesNoSurrogatePairs (scanValue s room i fuel)) ∧
    (∀ room i, GivesNoSurrogatePairs (scanArray s room i fuel)) ∧
    (∀ room i acc, (∀ x ∈ acc.toList, NoSurrogatePairs x) →
      GivesNoSurrogatePairs (scanItems s room i acc fuel)) ∧
    (∀ room i, GivesNoSurrogatePairs (scanObject s room i fuel)) ∧
    (∀ room i acc, (∀ m ∈ acc, NoSurrogatePairs m.2) →
      GivesNoSurrogatePairs (scanMembers s room i acc fuel)) := by
  induction fuel with
  | zero =>
    exact ⟨fun _ _ => .error _, fun _ _ => .error _, fun _ _ _ _ => .error _,
      fun _ _ => .error _, fun _ _ _ _ => .error _⟩
  | succ fuel ih =>
    obtain ⟨ihV, ihA, ihI, ihO, ihM⟩ := ih
    exact ⟨fun _ _ => .scanValue_succ hs ihA ihO, fun _ _ => .scanArray_succ ihI,
      fun _ _ _ hacc => .scanItems_succ ihV ihI hacc, fun _ _ => .scanObject_succ ihM,
      fun _ _ _ hacc => .scanMembers_succ ihV ihM hacc⟩

/-- A document of scalar values reads as a value whose strings hold no surrogate pairs. -/
theorem NoSurrogatePairs.of_parseWithin {room : Nat} {doc : Text} {v : Json} (hdoc : doc.Scalar)
    (h : parseWithin room doc = .ok v) : NoSurrogatePairs v := by
  rw [parseWithin] at h
  split_ifs at h
  · simp [fail] at h
  obtain ⟨⟨x, k⟩, hx, h⟩ := bind_eq_ok h
  simp only at h
  split_ifs at h
  · simp [fail] at h
  cases h
  exact (noSurrogatePairs_scan (by simpa [Text.Scalar] using hdoc) _).1 _ _ _ _ hx

end values

end Json

/-! ## Literals -/

namespace Text

end Text

/-- The entry a table search finds is in the table, and its range holds the point. -/
theorem rangeEntryIn_sound {α : Type} {table : Array α} {bounds : α → Nat × Nat} {c : Nat}
    {fuel lo hi : Nat} {e : α} (h : rangeEntryIn table bounds c fuel lo hi = some e) :
    e ∈ table ∧ (bounds e).1 ≤ c ∧ c ≤ (bounds e).2 := by
  induction fuel generalizing lo hi with
  | zero => simp [rangeEntryIn] at h
  | succ fuel ih =>
    rw [rangeEntryIn] at h
    split_ifs at h
    simp only at h
    split at h
    · next e' he' =>
      split_ifs at h with hbelow habove
      · exact ih h
      · exact ih h
      · cases h
        exact ⟨Array.mem_of_getElem? he', by omega, by omega⟩
    · cases h

/-- No printable range meets the surrogates. -/
theorem printableRanges_avoid : ∀ e ∈ printableRanges.toList, e.2 < 0xD800 ∨ 0xDFFF < e.1 := by
  decide +kernel

theorem Point.isSurrogate_of_isPrintable {p : Point} (h : p.isPrintable = true) :
    p.isSurrogate = false := by
  unfold Point.isPrintable inRanges rangeEntry at h
  obtain ⟨e, he⟩ := Option.isSome_iff_exists.1 h
  obtain ⟨hmem, hlo, hhi⟩ := rangeEntryIn_sound he
  have havoid := printableRanges_avoid e (Array.mem_toList_iff.2 hmem)
  rw [Point.isSurrogate_eq_false_iff]
  simp only [id] at hlo hhi
  omega

namespace Literal

theorem scalar_escapePoint {quote : Nat} (hq : quote < 128) (p : Point) :
    (escapePoint quote p).Scalar := by
  have hascii : p.code < 128 → p.isSurrogate = false := fun hp =>
    (Point.isSurrogate_eq_false_iff p).2 (.inl (by omega))
  unfold escapePoint
  -- one step per test of the chain; three branches keep the point itself, the others escape it
  refine prop_ite Text.Scalar (fun hquote => ?_) fun _ => ?_
  · -- a quote or a backslash, after a backslash
    simp only [Bool.or_eq_true, beq_iff_eq] at hquote
    exact Text.Scalar.cons (Point.isSurrogate_ofChar '\\') (Text.Scalar.singleton (hascii (by omega)))
  refine prop_ite Text.Scalar (fun _ => Text.scalar_ofString _) fun _ => ?_
  refine prop_ite Text.Scalar (fun _ => Text.scalar_ofString _) fun _ => ?_
  refine prop_ite Text.Scalar (fun _ => Text.scalar_ofString _) fun _ => ?_
  refine prop_ite Text.Scalar (fun _ => Text.scalar_ofString _) fun _ => ?_
  refine prop_ite Text.Scalar (fun hlow => Text.Scalar.singleton (hascii hlow)) fun _ => ?_
  refine prop_ite Text.Scalar
    (fun hprint => Text.Scalar.singleton (Point.isSurrogate_of_isPrintable hprint)) fun _ => ?_
  refine prop_ite Text.Scalar (fun _ => Text.scalar_ofString _) fun _ => ?_
  refine prop_ite Text.Scalar (fun _ => Text.scalar_ofString _) fun _ => ?_
  exact Text.scalar_ofString _

theorem scalar_quoteText (t : Text) : (quoteText t).Scalar := by
  simp only [quoteText]
  -- the quote is a single or a double quote
  generalize hquote :
    (if t.contains (Point.ofChar '\'') && !t.contains (Point.ofChar '"') then 34 else 39) = q
  have hlt : q < 128 := by
    rw [← hquote]
    split <;> decide
  have hq : (Point.ofNat q).isSurrogate = false := Point.isSurrogate_ofNat (.inl (by omega))
  refine Text.Scalar.cons hq (Text.Scalar.append (fun x hx => ?_) (Text.Scalar.singleton hq))
  obtain ⟨p, -, hp⟩ := List.mem_flatMap.1 hx
  exact scalar_escapePoint hlt p x hp

end Literal

namespace Json

mutual

/-- The literal of any value holds no surrogate: each one is escaped. -/
theorem scalar_literal : (j : Json) → (literal j).Scalar
  | .null => Text.scalar_ofString _
  | .bool true => Text.scalar_ofString _
  | .bool false => Text.scalar_ofString _
  | .int _ => Text.scalar_ofString _
  | .float _ => Text.scalar_ofString _
  | .str t => Literal.scalar_quoteText t
  | .arr items => by
    rw [literal]
    exact Text.Scalar.cons (Point.isSurrogate_ofChar '[') ((scalar_literalItems items).append
      (Text.Scalar.singleton (Point.isSurrogate_ofChar ']')))
  | .obj members => by
    rw [literal]
    exact Text.Scalar.cons (Point.isSurrogate_ofChar '\x7b') ((scalar_literalMembers members).append
      (Text.Scalar.singleton (Point.isSurrogate_ofChar '\x7d')))

theorem scalar_literalItems : (items : List Json) → (literalItems items).Scalar
  | [] => fun x hx => by simp [literalItems] at hx
  | [j] => scalar_literal j
  | j :: k :: rest => by
    rw [literalItems.eq_3 _ _ (List.cons_ne_nil k rest)]
    exact ((scalar_literal j).append (Text.scalar_ofString _)).append
      (scalar_literalItems (k :: rest))

theorem scalar_literalMembers : (members : List (Text × Json)) → (literalMembers members).Scalar
  | [] => fun x hx => by simp [literalMembers] at hx
  | [(k, v)] => by
    rw [literalMembers.eq_2]
    exact ((Literal.scalar_quoteText k).append (Text.scalar_ofString _)).append (scalar_literal v)
  | (k, v) :: m :: rest => by
    rw [literalMembers.eq_3 _ _ _ (List.cons_ne_nil m rest)]
    exact ((((Literal.scalar_quoteText k).append (Text.scalar_ofString _)).append
      (scalar_literal v)).append (Text.scalar_ofString _)).append (scalar_literalMembers (m :: rest))

end

/-- The display of a value read from a document of scalar values holds no surrogate pair: a
string is shown as it is, any other value as its literal. -/
theorem noSurrogatePair_display {j : Json} (h : NoSurrogatePairs j) :
    (display j).NoSurrogatePair := by
  cases j
  case str t =>
    cases h with
    | str ht => exact ht
  all_goals exact (scalar_literal _).noSurrogatePair

end Json

end FarmSetup
