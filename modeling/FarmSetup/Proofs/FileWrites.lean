import FarmSetup.Files.Tree
/-!
# Writing a file and reading it back

Writing a file looks its path up, links followed, and places the bytes where the walk ended: at
the regular file it found, or under the free name it stopped at. Reading the same path from the
same directory then finds those bytes. The walk of the second look-up is the walk of the first:
every location it passes before its end holds a directory or a link, so it is not the location
written, and only its last step sees the new file. Main statement: `bytesAt_writeFile`.
-/

namespace FarmSetup

namespace Stop

/-- Where a walk that ends at a regular file or at a name its directory does not hold leaves a
file to be written; none for a walk that ends at a directory or an unfollowed link. -/
def fileSlot : Stop → Option (List Text)
  | found loc (.file _) => some loc
  | found _ _ => none
  | absent parent name => some (parent ++ [name])

end Stop

namespace Tree

variable {t : Tree}

/-! ## Placing a node -/

theorem node?_put_self (t : Tree) {loc : List Text} (n : Node) (h : loc ≠ []) :
    (t.put loc n).node? loc = some n := by
  have hfind : (t.entries.filter (·.1 != loc)).find? (·.1 == loc) = none := by
    rw [List.find?_eq_none]
    intro e he
    simp only [List.mem_filter, bne_iff_ne, ne_eq] at he
    simpa using he.2
  simp [node?, put, h, List.find?_append, hfind]

theorem node?_put_ne (t : Tree) {loc loc' : List Text} (n : Node) (h : loc' ≠ loc) :
    (t.put loc n).node? loc' = t.node? loc' := by
  have hfind :
      (t.entries.filter (·.1 != loc)).find? (·.1 == loc') = t.entries.find? (·.1 == loc') := by
    rw [List.find?_filter]
    congr 1
    funext e
    by_cases he : e.1 = loc'
    · simp [he, h]
    · simp [he]
  simp [node?, put, List.find?_append, hfind, Ne.symm h]

/-! ## Where a walk ends -/

/-- A walk that ends at a file or at a free name saw there a file or nothing. -/
theorem node?_of_walk {follow : Bool} {links : Nat} {cur pending : List Text} {r : Stop}
    {L : List Text} (h : t.walk follow links cur pending = .ok r) (hr : r.fileSlot = some L) :
    t.node? L = none ∨ ∃ b, t.node? L = some (.file b) := by
  fun_induction Tree.walk t follow links cur pending with
  | case1 => cases h; simp [Stop.fileSlot] at hr
  | case2 _ _ _ ih => exact ih h
  | case3 => cases h
  | case4 _ _ _ _ _ _ _ hnone _ =>
    cases h
    simp only [Stop.fileSlot, Option.some.injEq] at hr
    exact .inl (hr ▸ hnone)
  | case5 => cases h
  | case6 => cases h; simp [Stop.fileSlot] at hr
  | case7 _ _ _ _ _ _ _ _ _ ih => exact ih h
  | case8 _ _ _ _ _ _ _ b hfile _ =>
    cases h
    simp only [Stop.fileSlot, Option.some.injEq] at hr
    exact .inr ⟨b, hr ▸ hfile⟩
  | case9 => cases h
  | case10 => cases h; simp [Stop.fileSlot] at hr
  | case11 => cases h
  | case12 _ _ _ _ _ _ _ _ _ _ _ _ ih => exact ih h

theorem ne_nil_of_fileSlot {r : Stop} {L : List Text} (hr : r.fileSlot = some L)
    (hnode : t.node? L = none ∨ ∃ b, t.node? L = some (.file b)) : L ≠ [] := by
  rintro rfl
  simp [node?] at hnode

/-- Once a file is placed where a walk ended, the same walk ends at that file. The locations it
passes on the way hold directories or links, so the new file is not among them. -/
theorem walk_put {follow : Bool} {links : Nat} {cur pending : List Text} {r : Stop}
    {L : List Text} (h : t.walk follow links cur pending = .ok r) (hr : r.fileSlot = some L)
    (hnode : t.node? L = none ∨ ∃ b, t.node? L = some (.file b)) (bytes : List Nat) :
    (t.put L (.file bytes)).walk follow links cur pending = .ok (.found L (.file bytes)) := by
  have hL := ne_nil_of_fileSlot hr hnode
  -- a location that holds a directory or a link is not the one written
  have hpass : ∀ loc n, t.node? loc = some n → (n = .dir ∨ ∃ x, n = .link x) → loc ≠ L := by
    rintro loc n hn hkind rfl
    rcases hnode with hnode | ⟨b, hnode⟩
    · rw [hnode] at hn
      cases hn
    · rw [hnode] at hn
      cases hn
      simp at hkind
  fun_induction Tree.walk t follow links cur pending with
  | case1 => cases h; simp [Stop.fileSlot] at hr
  | case2 links cur rest ih =>
    rw [Tree.walk, if_pos rfl]
    exact ih h
  | case3 => cases h
  | case4 links cur c rest hdot hlen _ _ hrest =>
    cases h
    simp only [Stop.fileSlot, Option.some.injEq] at hr
    subst hr
    rw [Tree.walk, if_neg hdot, if_neg hlen]
    simp [node?_put_self t _ hL, hrest]
  | case5 => cases h
  | case6 => cases h; simp [Stop.fileSlot] at hr
  | case7 links cur c rest hdot hlen _ hdir hrest ih =>
    change t.node? (cur ++ [c]) = some .dir at hdir
    rw [Tree.walk, if_neg hdot, if_neg hlen]
    simp only [node?_put_ne t _ (hpass _ _ hdir (.inl rfl)), hdir, hrest]
    exact ih h
  | case8 links cur c rest hdot hlen _ b _ hrest =>
    cases h
    simp only [Stop.fileSlot, Option.some.injEq] at hr
    obtain rfl : cur ++ [c] = L := hr
    rw [Tree.walk, if_neg hdot, if_neg hlen]
    simp [node?_put_self t _ hL, hrest]
  | case9 => cases h
  | case10 => cases h; simp [Stop.fileSlot] at hr
  | case11 => cases h
  | case12 links cur c rest hdot hlen _ target hlink hstop hlimit _ ih =>
    change t.node? (cur ++ [c]) = some (.link target) at hlink
    rw [Tree.walk, if_neg hdot, if_neg hlen]
    simp only [node?_put_ne t _ (hpass _ _ hlink (.inr ⟨target, rfl⟩)), hlink, hstop, hlimit,
      if_false]
    exact ih h

/-! ## Writing and reading a file -/

/-- Writing a file places its bytes where the look-up of its path, links followed, ended. -/
theorem writeFile_of_lookup {cwd : List Text} {p : Text} {r : Stop} {L : List Text}
    (h : t.lookup cwd p true = .ok r) (hr : r.fileSlot = some L) (bytes : List Nat) :
    t.writeFile cwd p bytes = .ok (t.put L (.file bytes)) := by
  rw [writeFile, h]
  cases r with
  | found loc n =>
    cases n with
    | file b =>
      simp only [Stop.fileSlot, Option.some.injEq] at hr
      subst hr
      rfl
    | dir => simp [Stop.fileSlot] at hr
    | link x => simp [Stop.fileSlot] at hr
  | absent parent name =>
    simp only [Stop.fileSlot, Option.some.injEq] at hr
    subst hr
    rfl

/-- Once a file is placed where a look-up, links followed, ended, the same look-up finds it. -/
theorem lookup_put_file {cwd : List Text} {p : Text} {r : Stop} {L : List Text}
    (h : t.lookup cwd p true = .ok r) (hr : r.fileSlot = some L) (bytes : List Nat) :
    (t.put L (.file bytes)).lookup cwd p true = .ok (.found L (.file bytes)) := by
  have hwalk : t.walk true 0 (startOf cwd p) (steps p) = .ok r := by
    rw [lookup] at h
    split at h
    · cases h
    · exact h
  have hsize : ¬ Text.nameSize p ≥ 4096 := by
    intro hbig
    rw [lookup, if_pos hbig] at h
    cases h
  rw [lookup, if_neg hsize, walk_put hwalk hr (node?_of_walk hwalk hr)]

/-- Writing a file places its bytes at one location, and the written path, looked up again with
links followed, leads to that file. -/
theorem lookup_writeFile {cwd : List Text} {p : Text} {bytes : List Nat} {t' : Tree}
    (h : t.writeFile cwd p bytes = .ok t') :
    ∃ L, t' = t.put L (.file bytes) ∧ t'.lookup cwd p true = .ok (.found L (.file bytes)) := by
  obtain ⟨r, L, hlook, hr, rfl⟩ : ∃ r L, t.lookup cwd p true = .ok r ∧ r.fileSlot = some L ∧
      t' = t.put L (.file bytes) := by
    rw [writeFile] at h
    split at h
    · next parent name hlook => exact ⟨_, _, hlook, rfl, (Except.ok.inj h).symm⟩
    · next loc b hlook => exact ⟨_, _, hlook, rfl, (Except.ok.inj h).symm⟩
    · cases h
    · cases h
  exact ⟨L, rfl, lookup_put_file hlook hr bytes⟩

/-- A file that was written reads back its bytes. -/
theorem bytesAt_writeFile {cwd : List Text} {p : Text} {bytes : List Nat} {t' : Tree}
    (h : t.writeFile cwd p bytes = .ok t') : t'.bytesAt cwd p = .ok bytes := by
  obtain ⟨L, -, hlook⟩ := lookup_writeFile h
  rw [bytesAt, stat, hlook]

/-- A path whose bytes can be read leads, links followed, to a regular file. -/
theorem lookup_of_bytesAt {cwd : List Text} {p : Text} {bytes : List Nat}
    (h : t.bytesAt cwd p = .ok bytes) :
    ∃ loc, t.lookup cwd p true = .ok (.found loc (.file bytes)) := by
  unfold bytesAt at h
  split at h
  · next b hstat =>
    cases h
    unfold stat at hstat
    split at hstat
    · next loc n hlook =>
      cases hstat
      exact ⟨loc, hlook⟩
    all_goals cases hstat
  all_goals cases h

end Tree

end FarmSetup
