import FarmSetup.Proofs.JsonStrings
import FarmSetup.Path
/-!
# Paths in normal form

A path the program holds is in normal form: each component is kept by reading (neither empty
nor `.`) and holds no slash. Reading the written form of such a path gives the path back
(`ofText_toText`), and reading any text gives a path in normal form whose components are
pieces of the text (`normal_ofText`, `noSurrogatePair_of_mem_ofText`). A normal path has a
written form that is never empty, so a stored path is never taken for an absent one.

Reading cuts a text at its slashes, as `List.splitOn` does; writing joins the components with
slashes, as `List.intercalate` does, and the library's law that the two undo each other carries
the main statement.
-/

namespace FarmSetup

attribute [ext] Path

namespace Path

/-- A path in normal form: every component is kept by reading and holds no slash. -/
def Normal (p : Path) : Prop := ∀ c ∈ p.parts, keeps c = true ∧ slash ∉ c

/-! ## Cutting at slashes -/

theorem pieces_nil : pieces [] = [[]] := rfl

theorem pieces_ne_nil (t : Text) : pieces t ≠ [] := by
  cases t with
  | nil => exact List.cons_ne_nil _ _
  | cons x t =>
    simp only [pieces, List.foldr_cons]
    split
    · exact List.cons_ne_nil _ _
    · split <;> exact List.cons_ne_nil _ _

/-- One point more in front: a slash starts a new piece, any other point joins the first. -/
theorem pieces_cons (x : Point) (t : Text) :
    pieces (x :: t) = if x = slash then [] :: pieces t else (pieces t).modifyHead (x :: ·) := by
  have hne := pieces_ne_nil t
  simp only [pieces, List.foldr_cons] at hne ⊢
  split
  · rfl
  · split
    · next cur rest heq => rw [heq]; rfl
    · contradiction

theorem pieces_eq_splitOn (t : Text) : pieces t = t.splitOn slash := by
  induction t with
  | nil => rfl
  | cons x t ih =>
    rw [pieces_cons, List.splitOn_cons_eq_if_modifyHead, ih]
    by_cases hx : x = slash <;> simp [hx]

theorem join_eq_intercalate (sep : Text) (l : List Text) : Text.join sep l = sep.intercalate l := by
  fun_induction Text.join sep l with
  | case1 => rfl
  | case2 t => simp
  | case3 t ts hts ih =>
    obtain ⟨u, us, rfl⟩ := List.exists_cons_of_ne_nil hts
    rw [List.intercalate_cons_cons, ih]

/-- Components without slashes are cut back apart from their written form. -/
theorem pieces_join {parts : List Text} (hne : parts ≠ []) (h : ∀ c ∈ parts, slash ∉ c) :
    pieces (Text.join [slash] parts) = parts := by
  rw [pieces_eq_splitOn, join_eq_intercalate]
  exact List.splitOn_intercalate slash h hne

/-- The first piece begins the text, and every piece stands in it. -/
theorem pieces_shape (t : Text) :
    ∃ q qs, pieces t = q :: qs ∧ q <+: t ∧ ∀ r ∈ qs, r <:+: t := by
  induction t with
  | nil => exact ⟨[], [], rfl, List.nil_prefix, by simp⟩
  | cons x t ih =>
    obtain ⟨q, qs, hq, hpre, hrest⟩ := ih
    have hsub : t <:+: x :: t := (List.suffix_cons x t).isInfix
    rw [pieces_cons, hq]
    by_cases hx : x = slash
    · refine ⟨[], q :: qs, by simp [hx], List.nil_prefix, ?_⟩
      rintro r (_ | ⟨_, hr⟩)
      · exact hpre.isInfix.trans hsub
      · exact (hrest r hr).trans hsub
    · exact ⟨x :: q, qs, by simp [hx], List.prefix_cons_inj x |>.2 hpre,
        fun r hr => (hrest r hr).trans hsub⟩

theorem infix_of_mem_pieces {t q : Text} (hq : q ∈ pieces t) : q <:+: t := by
  obtain ⟨q₀, qs, hpieces, hpre, hrest⟩ := pieces_shape t
  rw [hpieces] at hq
  rcases List.mem_cons.1 hq with rfl | hq
  · exact hpre.isInfix
  · exact hrest q hq

theorem slash_not_mem_pieces {t q : Text} (hq : q ∈ pieces t) : slash ∉ q := by
  induction t generalizing q with
  | nil => simp [pieces_nil] at hq; simp [hq]
  | cons x t ih =>
    obtain ⟨q₀, qs, hpieces, -⟩ := pieces_shape t
    rw [pieces_cons, hpieces] at hq
    have h₀ : slash ∉ q₀ := ih (by simp [hpieces])
    have hs : ∀ r ∈ qs, slash ∉ r := fun r hr => ih (by simp [hpieces, hr])
    by_cases hx : x = slash
    · simp only [hx, if_true, List.mem_cons] at hq
      rcases hq with rfl | rfl | hq
      exacts [List.not_mem_nil, h₀, hs q hq]
    · simp only [hx, if_false, List.modifyHead_cons, List.mem_cons] at hq
      rcases hq with rfl | hq
      · simp only [List.mem_cons, not_or]
        exact ⟨Ne.symm hx, h₀⟩
      · exact hs q hq

/-! ## Reading the written form -/

theorem parts_ofText (t : Text) : (ofText t).parts = (pieces t).filter keeps := rfl

theorem anchor_ofText_relative {a : Point} (ha : a ≠ slash) (r : Text) :
    (ofText (a :: r)).anchor = .relative := by
  rcases r with _ | ⟨b, _ | ⟨c, r⟩⟩ <;> simp [ofText, ha]

theorem anchor_ofText_root {a : Point} (ha : a ≠ slash) (r : Text) :
    (ofText (slash :: a :: r)).anchor = .root := by
  rcases r with _ | ⟨b, r⟩ <;> simp [ofText, ha]

theorem anchor_ofText_doubleRoot {a : Point} (ha : a ≠ slash) (r : Text) :
    (ofText (slash :: slash :: a :: r)).anchor = .doubleRoot := by
  simp [ofText, ha]

/-- The written components of a normal path start with a point that is no slash. -/
theorem join_cons_of_normal {c : Text} {cs : List Text}
    (hp : ∀ x ∈ c :: cs, keeps x = true ∧ slash ∉ x) :
    ∃ a r, Text.join [slash] (c :: cs) = a :: r ∧ a ≠ slash := by
  obtain ⟨hkeep, hslash⟩ := hp c List.mem_cons_self
  obtain ⟨a, c, rfl⟩ : ∃ a r, c = a :: r := by
    cases c with
    | nil => simp [keeps] at hkeep
    | cons a r => exact ⟨a, r, rfl⟩
  have ha : a ≠ slash := fun h => hslash (h ▸ List.mem_cons_self)
  cases cs with
  | nil => exact ⟨a, c, rfl, ha⟩
  | cons d ds => exact ⟨a, _, by rw [Text.join.eq_3 _ _ _ (List.cons_ne_nil d ds)]; rfl, ha⟩

theorem filter_keeps_parts {p : Path} (hp : p.Normal) : p.parts.filter keeps = p.parts :=
  List.filter_eq_self.2 fun c hc => (hp c hc).1

/-- A leading slash adds only an empty piece, which reading drops. -/
theorem filter_keeps_slash_cons (t : Text) :
    (pieces (slash :: t)).filter keeps = (pieces t).filter keeps := by
  rw [pieces_cons, if_pos rfl, List.filter_cons_of_neg (by decide)]

/-- Reading the written form of a path in normal form gives the path back. -/
theorem ofText_toText {p : Path} (hp : p.Normal) : ofText p.toText = p := by
  obtain ⟨anchor, parts⟩ := p
  cases parts with
  | nil => cases anchor <;> rfl
  | cons c cs =>
    obtain ⟨a, r, hbody, ha⟩ := join_cons_of_normal hp
    have hparts : (pieces (Text.join [slash] (c :: cs))).filter keeps = c :: cs := by
      rw [pieces_join (List.cons_ne_nil _ _) fun x hx => (hp x hx).2]
      exact filter_keeps_parts hp
    -- the written form is the anchor's slashes before the joined components
    cases anchor with
    | relative =>
      have hw : toText ⟨.relative, c :: cs⟩ = Text.join [slash] (c :: cs) := rfl
      ext1
      · rw [hw, hbody]
        exact anchor_ofText_relative ha r
      · rw [hw, parts_ofText, hparts]
    | root =>
      have hw : toText ⟨.root, c :: cs⟩ = slash :: Text.join [slash] (c :: cs) := rfl
      ext1
      · rw [hw, hbody]
        exact anchor_ofText_root ha r
      · rw [hw, parts_ofText, filter_keeps_slash_cons, hparts]
    | doubleRoot =>
      have hw : toText ⟨.doubleRoot, c :: cs⟩ = slash :: slash :: Text.join [slash] (c :: cs) := rfl
      ext1
      · rw [hw, hbody]
        exact anchor_ofText_doubleRoot ha r
      · rw [hw, parts_ofText, filter_keeps_slash_cons, filter_keeps_slash_cons, hparts]

/-- Any text reads as a path in normal form. -/
theorem normal_ofText (t : Text) : (ofText t).Normal := by
  intro c hc
  rw [parts_ofText, List.mem_filter] at hc
  exact ⟨hc.2, slash_not_mem_pieces hc.1⟩

/-- The components read from a text stand in it, so they hold no surrogate pair it lacks. -/
theorem noSurrogatePair_of_mem_ofText {t c : Text} (ht : t.NoSurrogatePair)
    (hc : c ∈ (ofText t).parts) : c.NoSurrogatePair := by
  rw [parts_ofText, List.mem_filter] at hc
  exact ht.infix (infix_of_mem_pieces hc.1)

/-! ## The written form -/

/-- A path in normal form is written with at least one point: `.` for the empty path. -/
theorem toText_ne_nil {p : Path} (hp : p.Normal) : p.toText ≠ [] := by
  obtain ⟨anchor, parts⟩ := p
  cases parts with
  | nil => cases anchor <;> exact List.cons_ne_nil _ _
  | cons c cs =>
    obtain ⟨a, r, hbody, -⟩ := join_cons_of_normal hp
    cases anchor with
    | relative =>
      show Text.join [slash] (c :: cs) ≠ []
      rw [hbody]
      exact List.cons_ne_nil _ _
    | root => exact List.cons_ne_nil _ _
    | doubleRoot => exact List.cons_ne_nil _ _

theorem noSurrogatePair_sep {a b : Text} {x : Point} (hx : x.isHigh = false ∧ x.isLow = false)
    (ha : a.NoSurrogatePair) (hb : b.NoSurrogatePair) : (a ++ x :: b).NoSurrogatePair := by
  refine ha.append (List.isChain_cons.2 ⟨fun y _ h => by simp [hx.1] at h, hb⟩) ?_
  intro u _ v hv h
  simp only [List.head?_cons, Option.mem_def, Option.some.injEq] at hv
  subst hv
  simp [hx.2] at h

theorem slash_not_surrogate : slash.isHigh = false ∧ slash.isLow = false := by decide

theorem noSurrogatePair_join {parts : List Text} (h : ∀ c ∈ parts, c.NoSurrogatePair) :
    (Text.join [slash] parts).NoSurrogatePair := by
  induction parts with
  | nil => exact List.isChain_nil
  | cons t ts ih =>
    cases ts with
    | nil => exact h t List.mem_cons_self
    | cons u us =>
      rw [Text.join.eq_3 _ _ _ (List.cons_ne_nil u us), List.append_assoc, List.singleton_append]
      exact noSurrogatePair_sep slash_not_surrogate (h t List.mem_cons_self)
        (ih fun c hc => h c (List.mem_cons_of_mem _ hc))

/-- The written form of a path holds no surrogate pair when its components hold none. -/
theorem noSurrogatePair_toText {p : Path} (h : ∀ c ∈ p.parts, c.NoSurrogatePair) :
    p.toText.NoSurrogatePair := by
  have hslash : ∀ t : Text, t.NoSurrogatePair → Text.NoSurrogatePair (slash :: t) := fun t ht =>
    noSurrogatePair_sep slash_not_surrogate List.isChain_nil ht
  obtain ⟨anchor, parts⟩ := p
  cases anchor with
  | relative =>
    show Text.NoSurrogatePair (if parts.isEmpty then [Point.ofChar '.'] else Text.join [slash] parts)
    split
    · exact List.isChain_singleton _
    · exact noSurrogatePair_join h
  | root => exact hslash _ (noSurrogatePair_join h)
  | doubleRoot => exact hslash _ (hslash _ (noSurrogatePair_join h))

end Path

end FarmSetup
