import FarmSetup.Proofs.JsonStrings
import FarmSetup.Config.Store
/-!
# The farm list file reads back

Saving writes the farm list as an indented JSON document: an object with one member `farms`,
an array of objects, each with a `path` and a `size` string. This module follows the reader
through that document. Each step of the reader (a run of white space, a string, a member
followed by a comma or by the closing brace, an item followed by a comma or by the closing
bracket) has a lemma of its own; the document's lemmas chain them, one farm at a time.

The document is also plain ASCII without carriage returns, so its UTF-8 bytes decode to it and
line ends are left alone.
-/

namespace FarmSetup

namespace Text

/-- Every point is ASCII and none is a carriage return: such a text is its own UTF-8 bytes, and
universal line ends leave it as it is. -/
def IsPlainAscii (t : Text) : Prop := ∀ p ∈ t, p.code < 128 ∧ p.code ≠ 13

instance : DecidablePred IsPlainAscii := fun t =>
  inferInstanceAs (Decidable (∀ p ∈ t, p.code < 128 ∧ p.code ≠ 13))

@[simp] theorem isPlainAscii_append {a b : Text} :
    (a ++ b).IsPlainAscii ↔ a.IsPlainAscii ∧ b.IsPlainAscii := by
  simp only [IsPlainAscii, List.mem_append]
  constructor
  · intro h
    exact ⟨fun p hp => h p (.inl hp), fun p hp => h p (.inr hp)⟩
  · rintro ⟨ha, hb⟩ p (hp | hp)
    exacts [ha p hp, hb p hp]

end Text

/-- The texts a farm is stored as, the written form of its directory and its size, hold no
surrogate pair. -/
structure Farm.TextsWithoutPairs (f : Farm) : Prop where
  path : ((f.path.map Path.toText).getD []).NoSurrogatePair
  size : f.size.NoSurrogatePair

namespace Json

/-! ## Steps of the reader -/

section steps

variable {s : Array Point} {i : Nat}

/-- White space before a point that is none is skipped in full. -/
theorem skipSpace_of_drop {ws rest : Text} {a : Point} (hws : ∀ x ∈ ws, isSpace x.code = true)
    (h : s.toList.drop i = ws ++ a :: rest) (ha : isSpace a.code = false) :
    skipSpace s i = i + ws.length := by
  induction ws generalizing i with
  | nil =>
    have hi := lt_size_of_drop h
    rw [skipSpace, dif_pos hi, getElem_of_drop h hi]
    simp [ha]
  | cons x ws ih =>
    have hi := lt_size_of_drop h
    rw [skipSpace, dif_pos hi, getElem_of_drop h hi, if_pos (hws x (by simp)),
      ih (fun y hy => hws y (by simp [hy])) (drop_after_cons h)]
    simp only [List.length_cons]
    omega

theorem isSpace_breakAt (w d : Nat) : ∀ x ∈ Text.ofString (breakAt w d), isSpace x.code = true := by
  intro x hx
  simp only [breakAt, Text.ofString, String.toList_append, String.toList_ofList, List.map_append,
    List.mem_append, List.mem_map, List.mem_replicate] at hx
  rcases hx with ⟨c, hc, rfl⟩ | ⟨c, ⟨-, rfl⟩, rfl⟩
  · simp at hc
    simp [hc, isSpace]
  · simp [isSpace]

/-- A line break and its indent, before a point that is no white space, are skipped. -/
theorem skipSpace_breakAt {w d : Nat} {rest : Text} {a : Point}
    (h : s.toList.drop i = Text.ofString (breakAt w d) ++ a :: rest) (ha : isSpace a.code = false) :
    skipSpace s i = i + (Text.ofString (breakAt w d)).length :=
  skipSpace_of_drop (isSpace_breakAt w d) h ha

theorem skipSpace_stop {rest : Text} {a : Point} (h : s.toList.drop i = a :: rest)
    (ha : isSpace a.code = false) : skipSpace s i = i := by
  have none : ∀ x ∈ ([] : Text), isSpace x.code = true := fun x hx => absurd hx List.not_mem_nil
  simpa using skipSpace_of_drop none (show s.toList.drop i = [] ++ a :: rest from h) ha

variable {room fuel : Nat}

/-- A string literal is read as a string value. -/
theorem scanValue_quote {t rest : Text} (ht : t.NoSurrogatePair)
    (h : s.toList.drop i = Text.ofString (quote t) ++ rest) :
    scanValue s room i (fuel + 1) = .ok (.str t, i + (Text.ofString (quote t)).length) := by
  have h0 := h
  rw [ofString_quote, List.cons_append] at h0
  rw [scanValue, if_neg (by have := lt_size_of_drop h0; omega)]
  simp [codeAt_of_drop h0, scanStringFrom_quote t ht h, Except.map]

/-- An opening brace and a line break start the members of an object; its first key follows. -/
theorem scanValue_object {w d : Nat} {k rest : Text}
    (h : s.toList.drop i =
      Text.ofString "\x7b" ++ (Text.ofString (breakAt w d) ++ (Text.ofString (quote k) ++ rest))) :
    scanValue s (room + 1) i (fuel + 2) =
      scanMembers s room (i + 1 + (Text.ofString (breakAt w d)).length) [] fuel := by
  rw [ofString_quote, List.cons_append] at h
  have h0 : s.toList.drop i = Point.ofChar '\x7b' :: (Text.ofString (breakAt w d) ++
      Point.ofChar '"' :: (_ ++ rest)) := h
  have h1 := drop_after_cons h0
  rw [scanValue, if_neg (by have := lt_size_of_drop h0; omega)]
  simp only [codeAt_of_drop h0, Point.code_ofChar]
  simp only [show ('\x7b' : Char).toNat = 123 from rfl, beq_self_eq_true, if_true,
    show ¬ (123 == 34) = true by decide, if_false, Nat.add_one_ne_zero, Nat.add_sub_cancel]
  rw [scanObject, skipSpace_breakAt h1 (by decide), codeAt_of_drop (drop_after h1)]
  rfl

/-- An opening bracket and a line break start the items of an array. -/
theorem scanValue_array {w d : Nat} {rest : Text} {a : Point}
    (h : s.toList.drop i = Text.ofString "[" ++ (Text.ofString (breakAt w d) ++ a :: rest))
    (ha : isSpace a.code = false) (h93 : a.code ≠ 93) :
    scanValue s (room + 1) i (fuel + 2) =
      scanItems s room (i + 1 + (Text.ofString (breakAt w d)).length) #[] fuel := by
  have h0 : s.toList.drop i = Point.ofChar '[' :: (Text.ofString (breakAt w d) ++ a :: rest) := h
  have h1 := drop_after_cons h0
  rw [scanValue, if_neg (by have := lt_size_of_drop h0; omega)]
  simp only [codeAt_of_drop h0, Point.code_ofChar]
  simp only [show ('[' : Char).toNat = 91 from rfl, show ¬ (91 == 34) = true by decide,
    show ¬ (91 == 123) = true by decide, beq_self_eq_true, if_true, if_false,
    Nat.add_one_ne_zero, Nat.add_sub_cancel]
  rw [scanArray, skipSpace_breakAt h1 ha, codeAt_of_drop (drop_after h1)]
  simp [h93]

/-- An empty array is read whole. -/
theorem scanValue_emptyArray {rest : Text} (h : s.toList.drop i = Text.ofString "[]" ++ rest) :
    scanValue s (room + 1) i (fuel + 2) = .ok (.arr [], i + 2) := by
  have h0 : s.toList.drop i = Point.ofChar '[' :: Point.ofChar ']' :: rest := h
  have h1 := drop_after_cons h0
  rw [scanValue, if_neg (by have := lt_size_of_drop h0; omega)]
  simp only [codeAt_of_drop h0, Point.code_ofChar]
  simp only [show ('[' : Char).toNat = 91 from rfl, show ¬ (91 == 34) = true by decide,
    show ¬ (91 == 123) = true by decide, beq_self_eq_true, if_true, if_false,
    Nat.add_one_ne_zero, Nat.add_sub_cancel]
  rw [scanArray, skipSpace_stop h1 (by decide)]
  simp [codeAt_of_drop h1]

theorem skipSpace_space {rest : Text} {a : Point}
    (h : s.toList.drop i = Point.ofChar ' ' :: a :: rest) (ha : isSpace a.code = false) :
    skipSpace s i = i + 1 := by
  have one : ∀ x ∈ [Point.ofChar ' '], isSpace x.code = true := by decide
  exact skipSpace_of_drop one (show s.toList.drop i = [Point.ofChar ' '] ++ a :: rest from h) ha

theorem codeAt_quote {t rest : Text} (h : s.toList.drop i = Text.ofString (quote t) ++ rest) :
    codeAt s i = 34 := by
  rw [ofString_quote, List.cons_append] at h
  rw [codeAt_of_drop h]
  rfl

/-- A member: its key, a colon and a space, and its value; the reader then looks at what follows
the value. -/
theorem scanMembers_member {k V after : Text} {v : Json} {acc : List (Text × Json)}
    (hk : k.NoSurrogatePair)
    (h : s.toList.drop i = Text.ofString (quote k) ++ (Text.ofString ": " ++ (V ++ after)))
    (hV : scanValue s room (i + (Text.ofString (quote k)).length + 2) fuel =
      .ok (v, i + (Text.ofString (quote k)).length + 2 + V.length))
    (hV₀ : ∃ b r, V = b :: r ∧ isSpace b.code = false) :
    scanMembers s room i acc (fuel + 1) =
      let j := skipSpace s (i + (Text.ofString (quote k)).length + 2 + V.length)
      if codeAt s j == 125 then .ok (.obj (setMember acc k v), j + 1)
      else if codeAt s j != 44 then fail .expectingComma j
      else scanMembers s room (skipSpace s (j + 1)) (setMember acc k v) fuel := by
  obtain ⟨b, r, rfl, hb⟩ := hV₀
  have hcolon : s.toList.drop (i + (Text.ofString (quote k)).length) =
      Point.ofChar ':' :: Point.ofChar ' ' :: (b :: r ++ after) := drop_after h
  have hspace := drop_after_cons hcolon
  rw [scanMembers]
  simp only [codeAt_quote h, bne_self_eq_false, Bool.false_eq_true, if_false,
    scanStringFrom_quote k hk h, bind, Except.bind]
  rw [skipSpace_stop hcolon (by decide), codeAt_of_drop hcolon]
  simp only [show (Point.ofChar ':').code = 58 from rfl, bne_self_eq_false, Bool.false_eq_true,
    if_false]
  rw [skipSpace_space hspace hb, hV]
  rfl

/-- A member whose value is followed by a comma and a line break: the next member is read on. -/
theorem scanMembers_next {k k' V rest : Text} {v : Json} {w d : Nat}
    {acc : List (Text × Json)} (hk : k.NoSurrogatePair)
    (h : s.toList.drop i = Text.ofString (quote k) ++ (Text.ofString ": " ++ (V ++
      (Text.ofString "," ++ (Text.ofString (breakAt w d) ++ (Text.ofString (quote k') ++ rest))))))
    (hV : scanValue s room (i + (Text.ofString (quote k)).length + 2) fuel =
      .ok (v, i + (Text.ofString (quote k)).length + 2 + V.length))
    (hV₀ : ∃ b r, V = b :: r ∧ isSpace b.code = false) :
    scanMembers s room i acc (fuel + 1) =
      scanMembers s room (i + (Text.ofString (quote k)).length + 2 + V.length + 1 +
        (Text.ofString (breakAt w d)).length) (setMember acc k v) fuel := by
  have hcomma : s.toList.drop (i + (Text.ofString (quote k) ++ Text.ofString ": " ++ V).length) =
      Point.ofChar ',' :: (Text.ofString (breakAt w d) ++ (Text.ofString (quote k') ++ rest)) :=
    drop_after (by rw [List.append_assoc, List.append_assoc]; exact h)
  simp only [List.length_append, show (Text.ofString ": ").length = 2 from rfl,
    ← Nat.add_assoc] at hcomma
  have hkey := drop_after_cons hcomma
  rw [ofString_quote k', List.cons_append] at hkey
  rw [scanMembers_member hk h hV hV₀]
  dsimp only
  rw [skipSpace_stop hcomma (by decide), codeAt_of_drop hcomma, skipSpace_breakAt hkey (by decide)]
  rfl

/-- A member whose value is followed by a line break and the closing brace ends the object. -/
theorem scanMembers_last {k V rest : Text} {v : Json} {w d : Nat} {acc : List (Text × Json)}
    (hk : k.NoSurrogatePair)
    (h : s.toList.drop i = Text.ofString (quote k) ++ (Text.ofString ": " ++ (V ++
      (Text.ofString (breakAt w d) ++ (Text.ofString "\x7d" ++ rest)))))
    (hV : scanValue s room (i + (Text.ofString (quote k)).length + 2) fuel =
      .ok (v, i + (Text.ofString (quote k)).length + 2 + V.length))
    (hV₀ : ∃ b r, V = b :: r ∧ isSpace b.code = false) :
    scanMembers s room i acc (fuel + 1) =
      .ok (.obj (setMember acc k v), i + (Text.ofString (quote k)).length + 2 + V.length +
        (Text.ofString (breakAt w d)).length + 1) := by
  have hbreak : s.toList.drop (i + (Text.ofString (quote k) ++ Text.ofString ": " ++ V).length) =
      Text.ofString (breakAt w d) ++ Point.ofChar '\x7d' :: rest :=
    drop_after (by rw [List.append_assoc, List.append_assoc]; exact h)
  simp only [List.length_append, show (Text.ofString ": ").length = 2 from rfl,
    ← Nat.add_assoc] at hbreak
  rw [scanMembers_member hk h hV hV₀]
  dsimp only
  rw [skipSpace_breakAt hbreak (by decide), codeAt_of_drop (drop_after hbreak)]
  rfl

/-- An item followed by a comma and a line break: the next item is read on. -/
theorem scanItems_next {V rest : Text} {v : Json} {w d : Nat} {a : Point} {acc : Array Json}
    (h : s.toList.drop i = V ++ (Text.ofString "," ++ (Text.ofString (breakAt w d) ++ a :: rest)))
    (hV : scanValue s room i fuel = .ok (v, i + V.length)) (ha : isSpace a.code = false) :
    scanItems s room i acc (fuel + 1) =
      scanItems s room (i + V.length + 1 + (Text.ofString (breakAt w d)).length) (acc.push v) fuel := by
  have hcomma : s.toList.drop (i + V.length) =
      Point.ofChar ',' :: (Text.ofString (breakAt w d) ++ a :: rest) := drop_after h
  rw [scanItems]
  simp only [hV, bind, Except.bind]
  rw [skipSpace_stop hcomma (by decide), codeAt_of_drop hcomma,
    skipSpace_breakAt (drop_after_cons hcomma) ha]
  rfl

/-- An item followed by a line break and the closing bracket ends the array. -/
theorem scanItems_last {V rest : Text} {v : Json} {w d : Nat} {acc : Array Json}
    (h : s.toList.drop i = V ++ (Text.ofString (breakAt w d) ++ (Text.ofString "]" ++ rest)))
    (hV : scanValue s room i fuel = .ok (v, i + V.length)) :
    scanItems s room i acc (fuel + 1) =
      .ok (.arr (acc.push v).toList, i + V.length + (Text.ofString (breakAt w d)).length + 1) := by
  have hbreak : s.toList.drop (i + V.length) =
      Text.ofString (breakAt w d) ++ Point.ofChar ']' :: rest := drop_after h
  rw [scanItems]
  simp only [hV, bind, Except.bind]
  rw [skipSpace_breakAt hbreak (by decide), codeAt_of_drop (drop_after hbreak)]
  rfl

end steps

/-! ## The stored farms -/

section farms

variable {s : Array Point} {i room fuel : Nat}

/-- The stored object of a farm, piece by piece: its `path` member, a comma, its `size` member. -/
theorem farm_text (w d : Nat) (f : Farm) : Text.ofString (indented w d f.toJson) =
    Text.ofString "\x7b" ++ (Text.ofString (breakAt w (d + 1)) ++
    (Text.ofString (quote (Text.ofString "path")) ++ (Text.ofString ": " ++
    (Text.ofString (quote ((f.path.map Path.toText).getD [])) ++ (Text.ofString "," ++
    (Text.ofString (breakAt w (d + 1)) ++ (Text.ofString (quote (Text.ofString "size")) ++
    (Text.ofString ": " ++ (Text.ofString (quote f.size) ++
    (Text.ofString (breakAt w d) ++ Text.ofString "\x7d")))))))))) := by
  simp only [Farm.toJson, indented, indentedMembers, atom, Text.ofString_append, List.append_assoc]

theorem drop_after_of {l rest : Text} (n : Nat) (hn : l.length = n)
    (h : s.toList.drop i = l ++ rest) : s.toList.drop (i + n) = rest :=
  hn ▸ drop_after h

/-- A farm whose texts hold no surrogate pairs reads back from its stored object. -/
theorem scanValue_farm {w d : Nat} {f : Farm} {rest : Text} (hf : f.TextsWithoutPairs)
    (h : s.toList.drop i = Text.ofString (indented w d f.toJson) ++ rest) :
    scanValue s (room + 1) i (fuel + 5) =
      .ok (f.toJson, i + (Text.ofString (indented w d f.toJson)).length) := by
  rw [farm_text] at h ⊢
  simp only [List.append_assoc] at h
  -- the positions of the two members
  have h1 := drop_after (drop_after_of 1 rfl h)
  have h2 := drop_after (drop_after_of 1 rfl (drop_after (drop_after_of 2 rfl (drop_after h1))))
  calc scanValue s (room + 1) i (fuel + 5)
      = scanMembers s room (i + 1 + (Text.ofString (breakAt w (d + 1))).length) [] (fuel + 3) :=
        scanValue_object h
    _ = _ := scanMembers_next (Text.noSurrogatePair_ofString _) h1
          (scanValue_quote hf.path (drop_after_of 2 rfl (drop_after h1)))
          ⟨_, _, ofString_quote _, by decide⟩
    _ = _ := scanMembers_last (Text.noSurrogatePair_ofString _) h2
          (scanValue_quote hf.size (drop_after_of 2 rfl (drop_after h2)))
          ⟨_, _, ofString_quote _, by decide⟩
    _ = _ := by
      have hne : (Text.ofString "path" == Text.ofString "size") = false := by decide
      simp only [setMember, List.any_nil, List.any_cons, hne, Bool.false_eq_true, if_false,
        Bool.or_false, List.nil_append, List.cons_append, Farm.toJson, List.length_append,
        show (Text.ofString "\x7b").length = 1 from rfl,
        show (Text.ofString "\x7d").length = 1 from rfl,
        show (Text.ofString ",").length = 1 from rfl, show (Text.ofString ": ").length = 2 from rfl,
        Nat.add_assoc]

theorem indentedItems_farm_head (w d : Nat) (f : Farm) (js : List Json) :
    (Text.ofString (indentedItems w d (f.toJson :: js))).head? = some (Point.ofChar '\x7b') := by
  cases js with
  | nil =>
    rw [indentedItems, farm_text]
    rfl
  | cons j js =>
    rw [indentedItems, Text.ofString_append, Text.ofString_append, Text.ofString_append, farm_text]
    · rfl
    · exact List.cons_ne_nil j js

/-- The stored farms, one per line, read back as the items of an array, whatever was read
before them. -/
theorem scanItems_farms {w d d' : Nat} (farms : List Farm) (hne : farms ≠ [])
    (hok : ∀ f ∈ farms, f.TextsWithoutPairs)
    {acc : Array Json} {i fuel : Nat} {rest : Text}
    (h : s.toList.drop i = Text.ofString (indentedItems w d (farms.map Farm.toJson)) ++
      (Text.ofString (breakAt w d') ++ (Text.ofString "]" ++ rest)))
    (hfuel : farms.length + 5 ≤ fuel) :
    scanItems s (room + 1) i acc fuel =
      .ok (.arr (acc.toList ++ farms.map Farm.toJson),
        i + (Text.ofString (indentedItems w d (farms.map Farm.toJson))).length +
          (Text.ofString (breakAt w d')).length + 1) := by
  induction farms generalizing acc i fuel with
  | nil => exact absurd rfl hne
  | cons f farms ih =>
    have hf := hok f List.mem_cons_self
    obtain ⟨k, rfl⟩ : ∃ k, fuel = k + 5 + 1 :=
      ⟨fuel - 6, by simp only [List.length_cons] at hfuel; omega⟩
    cases farms with
    | nil =>
      simp only [List.map_cons, List.map_nil, indentedItems] at h ⊢
      rw [scanItems_last h (scanValue_farm hf h)]
      simp
    | cons g farms =>
      simp only [List.map_cons, indentedItems, Text.ofString_append, List.append_assoc] at h
      have hV : scanValue s (room + 1) i (k + 5) = _ := scanValue_farm hf h
      obtain ⟨r, hr⟩ :=
        List.head?_eq_some_iff.1 (indentedItems_farm_head w d g (farms.map Farm.toJson))
      have hnext := h
      rw [hr] at hnext
      rw [scanItems_next hnext hV (by decide)]
      rw [ih (List.cons_ne_nil _ _) (fun x hx => hok x (List.mem_cons_of_mem _ hx))
        (drop_after (drop_after_of 1 rfl (drop_after h)))
        (by simp only [List.length_cons] at hfuel ⊢; omega)]
      simp only [List.map_cons, indentedItems, Text.ofString_append, List.length_append,
        show (Text.ofString ",").length = 1 from rfl, Array.toList_push, List.append_assoc,
        List.singleton_append, Nat.add_assoc]

/-- The stored farm list, an array of farm objects, reads back. -/
theorem scanValue_farmList {w d : Nat} (farms : List Farm)
    (hok : ∀ f ∈ farms, f.TextsWithoutPairs)
    {i fuel : Nat} {rest : Text}
    (h : s.toList.drop i = Text.ofString (indented w d (.arr (farms.map Farm.toJson))) ++ rest)
    (hfuel : farms.length + 7 ≤ fuel) :
    scanValue s (room + 1 + 1) i fuel =
      .ok (.arr (farms.map Farm.toJson),
        i + (Text.ofString (indented w d (.arr (farms.map Farm.toJson)))).length) := by
  obtain ⟨k, rfl⟩ : ∃ k, fuel = k + 2 := ⟨fuel - 2, by omega⟩
  cases farms with
  | nil =>
    simp only [List.map_nil, indented] at h ⊢
    exact scanValue_emptyArray h
  | cons f farms =>
    simp only [List.map_cons, indented, Text.ofString_append, List.append_assoc] at h ⊢
    obtain ⟨r, hr⟩ :=
      List.head?_eq_some_iff.1 (indentedItems_farm_head w (d + 1) f (farms.map Farm.toJson))
    have hfirst := h
    rw [hr] at hfirst
    rw [scanValue_array hfirst (by decide) (by decide)]
    rw [← List.map_cons, scanItems_farms (f :: farms) (List.cons_ne_nil _ _) hok
      (drop_after (drop_after_of 1 rfl h)) (by simp only [List.length_cons] at hfuel ⊢; omega)]
    simp only [List.nil_append, List.length_append, show (Text.ofString "[").length = 1 from rfl,
      show (Text.ofString "]").length = 1 from rfl, Nat.add_assoc]

theorem indented_farmList_head (w d : Nat) (farms : List Farm) :
    (Text.ofString (indented w d (.arr (farms.map Farm.toJson)))).head? = some (Point.ofChar '[') := by
  cases farms with
  | nil =>
    simp only [List.map_nil, indented]
    rfl
  | cons f farms =>
    simp only [List.map_cons, indented, Text.ofString_append, List.append_assoc]
    rfl

/-- Each stored farm takes at least one point of the document. -/
theorem length_le_indentedItems (w d : Nat) (farms : List Farm) :
    farms.length ≤ (Text.ofString (indentedItems w d (farms.map Farm.toJson))).length := by
  induction farms with
  | nil => simp
  | cons f farms ih =>
    cases farms with
    | nil =>
      simp only [List.map_cons, List.map_nil, indentedItems, farm_text, List.length_append,
        List.length_cons, List.length_nil, show (Text.ofString "\x7b").length = 1 from rfl]
      omega
    | cons g farms =>
      have hf : 1 ≤ (Text.ofString (indented w d f.toJson)).length := by
        simp only [farm_text, List.length_append, show (Text.ofString "\x7b").length = 1 from rfl]
        omega
      simp only [List.map_cons, indentedItems, Text.ofString_append, List.length_append,
        List.length_cons] at ih ⊢
      omega

theorem length_le_indented_farmList (w d : Nat) (farms : List Farm) :
    farms.length ≤ (Text.ofString (indented w d (.arr (farms.map Farm.toJson)))).length := by
  cases farms with
  | nil => simp
  | cons f farms =>
    have hitems := length_le_indentedItems w (d + 1) (f :: farms)
    simp only [List.map_cons, indented, Text.ofString_append, List.length_append] at hitems ⊢
    omega

/-- The stored farm list, piece by piece: an object whose one member `farms` is the array of
the stored farms. -/
theorem config_text (w d : Nat) (c : Config) : Text.ofString (indented w d c.toJson) =
    Text.ofString "\x7b" ++ (Text.ofString (breakAt w (d + 1)) ++
    (Text.ofString (quote (Text.ofString "farms")) ++ (Text.ofString ": " ++
    (Text.ofString (indented w (d + 1) (.arr (c.farms.map Farm.toJson))) ++
    (Text.ofString (breakAt w d) ++ Text.ofString "\x7d"))))) := by
  rw [Config.toJson, indented.eq_4 _ _ _ (List.cons_ne_nil _ _), indentedMembers.eq_2]
  simp only [Text.ofString_append, List.append_assoc]

theorem config_text_head (w d : Nat) (c : Config) :
    (Text.ofString (indented w d c.toJson)).head? = some (Point.ofChar '\x7b') := by
  rw [config_text]
  rfl

theorem length_le_config_text (w d : Nat) (c : Config) :
    c.farms.length + 4 ≤ (Text.ofString (indented w d c.toJson)).length := by
  have hlist := length_le_indented_farmList w (d + 1) c.farms
  simp only [config_text, List.length_append, show (Text.ofString "\x7b").length = 1 from rfl,
    show (Text.ofString "\x7d").length = 1 from rfl, show (Text.ofString ": ").length = 2 from rfl]
  omega

/-- The whole farm list file reads back as the stored form of the farm list. -/
theorem scanValue_config {w d : Nat} (c : Config)
    (hok : ∀ f ∈ c.farms, f.TextsWithoutPairs)
    {i fuel : Nat} {rest : Text} (h : s.toList.drop i = Text.ofString (indented w d c.toJson) ++ rest)
    (hfuel : c.farms.length + 10 ≤ fuel) :
    scanValue s (room + 1 + 1 + 1) i fuel =
      .ok (c.toJson, i + (Text.ofString (indented w d c.toJson)).length) := by
  obtain ⟨k, rfl⟩ : ∃ k, fuel = k + 1 + 2 := ⟨fuel - 3, by omega⟩
  rw [config_text] at h ⊢
  simp only [List.append_assoc] at h
  have h1 := drop_after (drop_after_of 1 rfl h)
  obtain ⟨r, hr⟩ := List.head?_eq_some_iff.1 (indented_farmList_head w (d + 1) c.farms)
  rw [scanValue_object h, scanMembers_last (Text.noSurrogatePair_ofString _) h1
    (scanValue_farmList c.farms hok (drop_after_of 2 rfl (drop_after h1)) (by omega))
    ⟨_, _, hr, by decide⟩]
  simp only [setMember, List.any_nil, Bool.false_eq_true, if_false, List.nil_append,
    Config.toJson, List.length_append, show (Text.ofString "\x7b").length = 1 from rfl,
    show (Text.ofString "\x7d").length = 1 from rfl, show (Text.ofString ": ").length = 2 from rfl,
    Nat.add_assoc]

theorem skipSpace_size (s : Array Point) : skipSpace s s.size = s.size := by
  rw [skipSpace, dif_neg (Nat.lt_irrefl _)]

/-- A saved farm list file is one JSON document: the stored form of the farm list. -/
theorem parseWithin_fileText (c : Config)
    (hok : ∀ f ∈ c.farms, f.TextsWithoutPairs) :
    parseWithin Config.nestingRoom c.fileText = .ok c.toJson := by
  have hdoc : c.fileText.toArray.toList.drop 0 = Text.ofString (indented 2 0 c.toJson) ++ [] := by
    simp [Config.fileText]
  have hsize : c.fileText.toArray.size = (Text.ofString (indented 2 0 c.toJson)).length := by
    simp [Config.fileText]
  have hfuel := length_le_config_text 2 0 c
  obtain ⟨r, hr⟩ := List.head?_eq_some_iff.1 (config_text_head 2 0 c)
  have hfirst := hdoc
  rw [hr, List.append_nil] at hfirst
  rw [parseWithin, codeAt_of_drop hfirst]
  simp only [show (Point.ofChar '\x7b').code = 123 from rfl, show ¬ (123 == 0xFEFF) = true by decide,
    skipSpace_stop hfirst (by decide)]
  rw [show Config.nestingRoom = 987 + 1 + 1 + 1 from rfl, scanValue_config c hok hdoc (by omega)]
  simp only [bind, Except.bind]
  rw [Nat.zero_add, ← hsize, skipSpace_size]
  simp only [ne_eq, not_true_eq_false, if_false]
  rfl

end farms

/-! ## The document is plain ASCII -/

theorem isPlainAscii_quote (t : Text) : (Text.ofString (quote t)).IsPlainAscii := by
  intro p hp
  rw [ofString_quote] at hp
  simp only [List.mem_cons, List.mem_append, List.mem_flatMap, List.not_mem_nil, or_false] at hp
  rcases hp with rfl | ⟨q, -, hq⟩ | rfl
  · decide
  · exact escapePoint_plain q p hq
  · decide

theorem isPlainAscii_breakAt (w d : Nat) : (Text.ofString (breakAt w d)).IsPlainAscii := by
  intro p hp
  simp only [breakAt, Text.ofString, String.toList_append, String.toList_ofList, List.map_append,
    List.mem_append, List.mem_map, List.mem_replicate] at hp
  rcases hp with ⟨c, hc, rfl⟩ | ⟨c, ⟨-, rfl⟩, rfl⟩
  · simp at hc
    simp [hc]
  · decide

theorem isPlainAscii_farm (w d : Nat) (f : Farm) :
    (Text.ofString (indented w d f.toJson)).IsPlainAscii := by
  simp only [farm_text, Text.isPlainAscii_append, isPlainAscii_quote, isPlainAscii_breakAt, true_and]
  decide

theorem isPlainAscii_indentedItems (w d : Nat) (farms : List Farm) :
    (Text.ofString (indentedItems w d (farms.map Farm.toJson))).IsPlainAscii := by
  induction farms with
  | nil =>
    simp only [List.map_nil, indentedItems]
    decide
  | cons f farms ih =>
    cases farms with
    | nil => simpa [indentedItems] using isPlainAscii_farm w d f
    | cons g farms =>
      simp only [List.map_cons, indentedItems, Text.ofString_append, Text.isPlainAscii_append] at ih ⊢
      exact ⟨⟨⟨isPlainAscii_farm w d f, by decide⟩, isPlainAscii_breakAt w d⟩, ih⟩

/-- A saved farm list file is plain ASCII without carriage returns. -/
theorem isPlainAscii_fileText (c : Config) : c.fileText.IsPlainAscii := by
  have hlist : (Text.ofString (indented 2 1 (.arr (c.farms.map Farm.toJson)))).IsPlainAscii := by
    cases c.farms with
    | nil => decide
    | cons f farms =>
      simp only [indented.eq_3 _ _ (List.map Farm.toJson (f :: farms)) (by simp), Text.ofString_append,
        Text.isPlainAscii_append, isPlainAscii_breakAt, isPlainAscii_indentedItems, and_true]
      decide
  rw [Config.fileText, config_text]
  simp only [Text.isPlainAscii_append, isPlainAscii_quote, isPlainAscii_breakAt, hlist, true_and]
  decide

theorem decodeFrom_encode_ascii (t : Text) (ht : ∀ p ∈ t, p.code < 128) (pos : Nat)
    (acc : Array Point) :
    Utf8.decodeFrom (Utf8.encode t) pos acc = .ok (acc.toList ++ t) := by
  induction t generalizing pos acc with
  | nil =>
    rw [Utf8.encode, List.flatMap_nil, Utf8.decodeFrom]
    simp
  | cons p t ih =>
    have hp := ht p List.mem_cons_self
    have hbytes : Utf8.encode (p :: t) = p.code :: Utf8.encode t := by
      simp [Utf8.encode, Utf8.encodePoint, show p.code < 0x80 from hp]
    rw [hbytes, Utf8.decodeFrom, if_pos hp, Point.ofNat_code,
      ih (fun q hq => ht q (List.mem_cons_of_mem _ hq))]
    simp

/-- Universal line ends change nothing in a text without carriage returns. -/
theorem unifyLineEnds_of_no_return (t : Text) (ht : ∀ p ∈ t, p.code ≠ 13) :
    t.unifyLineEnds = t := by
  induction t with
  | nil => rfl
  | cons p t ih =>
    cases t with
    | nil => simp [Text.unifyLineEnds, ht p List.mem_cons_self]
    | cons q rest =>
      rw [Text.unifyLineEnds, if_neg (ht p List.mem_cons_self),
        ih (fun x hx => ht x (List.mem_cons_of_mem _ hx))]

/-- The bytes of a saved farm list file read back as its text, which universal line ends keep,
and which reads as the stored form of the farm list. -/
theorem ofText_fileText (c : Config)
    (hok : ∀ f ∈ c.farms, f.TextsWithoutPairs) :
    Utf8.decode (Utf8.encode c.fileText) = .ok c.fileText ∧ c.fileText.unifyLineEnds = c.fileText ∧
      Config.ofText Config.nestingRoom c.fileText =
        (Config.ofJson c.toJson).mapError LoadError.invalid := by
  have hplain := isPlainAscii_fileText c
  refine ⟨?_, unifyLineEnds_of_no_return _ fun p hp => (hplain p hp).2, ?_⟩
  · rw [Utf8.decode, decodeFrom_encode_ascii _ fun p hp => (hplain p hp).1]
    rfl
  · rw [Config.ofText, parseWithin_fileText c hok, Config.toJson]

end Json

end FarmSetup
