import FarmSetup.Files.Image
import FarmSetup.Proofs.ConfigDocument
import FarmSetup.Proofs.PathForm
import FarmSetup.Proofs.FileWrites
import FarmSetup.Proofs.LoadedTexts
/-!
# Saving a farm list and loading it back

A farm list survives being saved and loaded when each of its directories is a path in normal
form and none of its texts holds a surrogate pair: the file then holds plain ASCII, every other
character written as an escape, and reading it gives back the same list. Every farm list a load
accepts is of that kind: its directories were read through the path reader, which gives normal
forms, and its texts were decoded from UTF-8 or from escapes, which never leave a pair of
surrogates behind. So whatever a load gives, saving it and loading it again gives it back.
Main statements: `Config.load_save` and `Config.storable_of_load`.
-/

namespace FarmSetup

/-- Looking a key up succeeds exactly on an object that has the key. -/
theorem Farm.lookup_eq_ok {j v : Json} {key : String} :
    Farm.lookup j key = .ok v ↔
      ∃ ms, j = .obj ms ∧ Json.member? ms (Text.ofString key) = some v := by
  constructor
  · intro h
    unfold Farm.lookup at h
    split at h
    · split at h
      · cases h
        exact ⟨_, rfl, ‹_›⟩
      · cases h
    all_goals cases h
  · rintro ⟨ms, rfl, hv⟩
    simp [Farm.lookup, hv]

namespace Json

/-- The value of a member of an object whose members hold no surrogate pairs holds none. -/
theorem NoSurrogatePairs.member? {ms : List (Text × Json)} {k : Text} {v : Json}
    (h : ∀ m ∈ ms, NoSurrogatePairs m.2) (hv : member? ms k = some v) : NoSurrogatePairs v := by
  obtain ⟨m, hm, rfl⟩ := Option.map_eq_some_iff.1 hv
  exact h m (List.mem_of_find?_eq_some hm)

theorem NoSurrogatePairs.lookup {j v : Json} {key : String} (hj : NoSurrogatePairs j)
    (h : Farm.lookup j key = .ok v) : NoSurrogatePairs v := by
  obtain ⟨ms, rfl, hv⟩ := Farm.lookup_eq_ok.1 h
  cases hj with
  | obj hms => exact NoSurrogatePairs.member? hms hv

end Json

namespace Farm

/-- A farm whose stored form reads back as itself: its directory is a path as the path reader
gives it, and no text in it holds a surrogate pair. -/
structure Storable (f : Farm) : Prop where
  normal : ∀ p ∈ f.path, p.Normal
  parts : ∀ p ∈ f.path, ∀ c ∈ p.parts, c.NoSurrogatePair
  size : f.size.NoSurrogatePair

/-- The texts a storable farm is stored as hold no surrogate pair. -/
theorem Storable.texts {f : Farm} (h : f.Storable) : f.TextsWithoutPairs where
  path := by
    cases hp : f.path with
    | none => exact List.isChain_nil
    | some p => exact Path.noSurrogatePair_toText (h.parts p hp)
  size := h.size

/-- The stored text of a directory reads back as the directory. -/
theorem pathOfText_toText {path : Option Path} (h : ∀ p ∈ path, p.Normal) :
    pathOfText ((path.map Path.toText).getD []) = path := by
  cases path with
  | none => rfl
  | some p =>
    have hp := h p rfl
    simp [pathOfText, Path.toText_ne_nil hp, Path.ofText_toText hp]

theorem mem_pathOfText {t : Text} {p : Path} (h : p ∈ pathOfText t) : p = Path.ofText t := by
  unfold pathOfText at h
  split_ifs at h
  · cases h
  · exact (Option.some.inj h).symm

theorem ofJson_toJson {f : Farm} (h : f.Storable) : ofJson f.toJson = .ok f := by
  have hkeys : (Text.ofString "path" == Text.ofString "size") = false := by decide
  have hpath : lookup f.toJson "path" = .ok (.str ((f.path.map Path.toText).getD [])) := by
    simp [lookup, toJson, Json.member?]
  have hsize : lookup f.toJson "size" = .ok (.str f.size) := by
    simp [lookup, toJson, Json.member?, hkeys]
  rw [ofJson, hpath, hsize]
  simp only [bind, Except.bind, pure, Except.pure, Json.display, pathOfText_toText h.normal]

/-- A farm whose directory and size are texts without surrogate pairs, the directory read by the
path reader, is storable. -/
theorem storable_of_texts {t size : Text} (ht : t.NoSurrogatePair) (hsize : size.NoSurrogatePair) :
    Storable ⟨pathOfText t, size⟩ where
  normal _ hp := mem_pathOfText hp ▸ Path.normal_ofText t
  parts _ hp _ hc := Path.noSurrogatePair_of_mem_ofText ht (mem_pathOfText hp ▸ hc)
  size := hsize

/-- A farm read from a value whose strings hold no surrogate pair is storable. -/
theorem storable_of_ofJson {j : Json} {f : Farm} (hj : Json.NoSurrogatePairs j)
    (h : ofJson j = .ok f) : f.Storable := by
  obtain ⟨pv, hp, h⟩ := Json.bind_eq_ok h
  obtain ⟨sv, hs, h⟩ := Json.bind_eq_ok h
  cases h
  exact storable_of_texts (Json.noSurrogatePair_display (hj.lookup hp))
    (Json.noSurrogatePair_display (hj.lookup hs))

theorem mapM_ofJson_toJson {farms : List Farm} (h : ∀ f ∈ farms, f.Storable) :
    (farms.map toJson).mapM ofJson = .ok farms := by
  induction farms with
  | nil => rfl
  | cons f rest ih =>
    rw [List.forall_mem_cons] at h
    rw [List.map_cons, List.mapM_cons, ofJson_toJson h.1, ih h.2]
    rfl

/-- Each farm of a list read item by item was read from one of the items. -/
theorem exists_of_mapM_ofJson {items : List Json} {farms : List Farm}
    (h : items.mapM ofJson = .ok farms) : ∀ f ∈ farms, ∃ j ∈ items, ofJson j = .ok f := by
  induction items generalizing farms with
  | nil =>
    cases h
    simp
  | cons j rest ih =>
    rw [List.mapM_cons] at h
    obtain ⟨f₀, hf₀, h⟩ := Json.bind_eq_ok h
    obtain ⟨fs, hfs, h⟩ := Json.bind_eq_ok h
    cases h
    intro f hf
    rcases List.mem_cons.1 hf with rfl | hf
    · exact ⟨j, List.mem_cons_self, hf₀⟩
    · obtain ⟨j', hj', hread⟩ := ih hfs f hf
      exact ⟨j', List.mem_cons_of_mem _ hj', hread⟩

end Farm

namespace Machine

/-- A path a file can be written at: looked up from the working directory, links followed, it
leads to a regular file or to a name its directory does not hold. -/
def TakesFile (m : Machine) (p : Path) : Prop :=
  ∃ r L, m.tree.lookup m.cwd p.toText true = .ok r ∧ r.fileSlot = some L

/-- Making the parents of a path with no parts changes nothing. -/
theorem makeDirs_of_parts_nil {m : Machine} {p : Path} (h : p.parts = []) :
    m.makeDirs p = .ok m := by
  rw [makeDirs]
  split
  · rfl
  · next hcons => simp [h] at hcons

end Machine

namespace Config

/-- A farm list whose every farm is storable. -/
def Storable (c : Config) : Prop := ∀ f ∈ c.farms, f.Storable

theorem ofJson_toJson {c : Config} (h : c.Storable) : ofJson c.toJson = .ok c := by
  simp [ofJson, toJson, Json.member?, Farm.mapM_ofJson_toJson h]
  rfl

/-- A farm list read from a value whose strings hold no surrogate pair is storable. -/
theorem storable_of_ofJson {j : Json} {c : Config} (hj : Json.NoSurrogatePairs j)
    (h : ofJson j = .ok c) : c.Storable := by
  cases hj
  case obj ms hms =>
    rw [ofJson] at h
    split at h
    · next items hitems =>
      -- a missing farms member reads as no farms
      have hitems' : ∀ j ∈ items, Json.NoSurrogatePairs j := by
        cases hm : Json.member? _ (Text.ofString "farms") with
        | none =>
          rw [hm] at hitems
          cases hitems
          simp
        | some v =>
          rw [hm] at hitems
          cases hitems
          cases Json.NoSurrogatePairs.member? hms hm with
          | arr h => exact h
      cases hmap : items.mapM Farm.ofJson with
      | error e =>
        rw [hmap] at h
        cases h
      | ok farms =>
        rw [hmap] at h
        cases h
        intro f hf
        obtain ⟨j, hj, hread⟩ := Farm.exists_of_mapM_ofJson hmap f hf
        exact Farm.storable_of_ofJson (hitems' j hj) hread
    · cases h
  all_goals cases h

/-- A load that succeeds read the file's bytes, decoded them, and read a farm list from the text
with its line ends unified. -/
theorem load_eq_ok {m : Machine} {p : Path} {c : Config} (h : load m p = .ok c) :
    ∃ bytes text, m.tree.bytesAt m.cwd p.toText = .ok bytes ∧ Utf8.decode bytes = .ok text ∧
      ofText nestingRoom text.unifyLineEnds = .ok c := by
  unfold load loadWithin at h
  split at h
  · cases h
  next bytes hbytes =>
  split at h
  · cases h
  next text hdec =>
  exact ⟨bytes, text, hbytes, hdec, h⟩

/-- A farm list read from a text was read from an object that the text holds. -/
theorem ofText_eq_ok {room : Nat} {text : Text} {c : Config} (h : ofText room text = .ok c) :
    ∃ ms, Json.parseWithin room text = .ok (.obj ms) ∧ ofJson (.obj ms) = .ok c := by
  unfold ofText at h
  split at h
  · cases h
  · cases h
  · cases h
  · next ms hparse =>
    cases hread : ofJson (.obj ms) with
    | error e =>
      rw [hread] at h
      cases h
    | ok c' =>
      rw [hread] at h
      cases h
      exact ⟨ms, hparse, hread⟩
  · cases h

/-- Every farm list a load gives is storable: the bytes decode to scalar values, line ends are
unified without adding a surrogate, and the reader joins every escaped pair it meets. -/
theorem storable_of_load {m : Machine} {p : Path} {c : Config} (h : load m p = .ok c) :
    c.Storable := by
  obtain ⟨bytes, text, -, hdec, h⟩ := load_eq_ok h
  obtain ⟨ms, hparse, hread⟩ := ofText_eq_ok h
  have hscalar := (Utf8.scalar_decode hdec).unifyLineEnds
  exact storable_of_ofJson (Json.NoSurrogatePairs.of_parseWithin hscalar hparse) hread

/-- A path a load reads can be written. -/
theorem takesFile_of_load {m : Machine} {p : Path} {c : Config} (h : load m p = .ok c) :
    m.TakesFile p := by
  obtain ⟨bytes, -, hbytes, -⟩ := load_eq_ok h
  obtain ⟨loc, hlook⟩ := Tree.lookup_of_bytesAt hbytes
  exact ⟨_, loc, hlook, rfl⟩

/-- Saving a storable farm list where a file can be written, once the parent directories are
made, succeeds, and loading the file gives the list back. -/
theorem load_save {m m₁ : Machine} {p : Path} {c : Config} (hc : c.Storable)
    (hdirs : m.makeDirs p.parent = .ok m₁) (hfile : m₁.TakesFile p) :
    ∃ m', m.save p c = .ok m' ∧ load m' p = .ok c := by
  obtain ⟨r, L, hlook, hr⟩ := hfile
  have hwrite := Tree.writeFile_of_lookup hlook hr (Utf8.encode c.fileText)
  obtain ⟨hdec, hunify, hread⟩ := Json.ofText_fileText c fun f hf => (hc f hf).texts
  refine ⟨{ m₁ with tree := m₁.tree.put L (.file (Utf8.encode c.fileText)) }, ?_, ?_⟩
  · rw [Machine.save, hdirs]
    simp only [hwrite]
  · rw [load, loadWithin]
    simp only [Tree.bytesAt_writeFile hwrite, hdec, hunify, hread, ofJson_toJson hc]
    rfl

/-- A farm list survives being saved and loaded: saving a storable list where a file can be
written, once the parent directories are made, succeeds and loading the file gives the list
back; every path the reader gives is read back from its written form; and so every list a load
gives survives being saved and loaded again. -/
theorem saved_list_loads_back :
    (∀ (m m₁ : Machine) (p : Path) (c : Config), c.Storable → m.makeDirs p.parent = .ok m₁ →
        m₁.TakesFile p → ∃ m', m.save p c = .ok m' ∧ load m' p = .ok c) ∧
      (∀ t : Text, Path.ofText (Path.ofText t).toText = Path.ofText t) ∧
      (∀ (m₀ : Machine) (f : Path) (c : Config), load m₀ f = .ok c →
        ∀ (m m₁ : Machine) (p : Path), m.makeDirs p.parent = .ok m₁ → m₁.TakesFile p →
          ∃ m', m.save p c = .ok m' ∧ load m' p = .ok c) :=
  ⟨fun _ _ _ _ hc hdirs hfile => load_save hc hdirs hfile,
    fun t => Path.ofText_toText (Path.normal_ofText t),
    fun _ _ _ hload _ _ _ hdirs hfile => load_save (storable_of_load hload) hdirs hfile⟩

/-- A list with a directory written with a doubled leading slash, a dot and repeated slashes,
and a text beyond ASCII, saved to a new file in the working directory and loaded, then saved
over that file and loaded again. -/
theorem saved_list_loads_back_in_fresh_directory :
    Config.Storable ⟨[⟨Farm.pathOfText (Text.ofString "//srv/./fermes//nörd/"),
        Text.ofString "½ TiB"⟩, Farm.empty]⟩ ∧
      (Machine.blank [] []).makeDirs (Path.ofText (Text.ofString "farms.json")).parent =
        .ok (Machine.blank [] []) ∧
      (Machine.blank [] []).TakesFile (Path.ofText (Text.ofString "farms.json")) ∧
      ∃ m', (Machine.blank [] []).save (Path.ofText (Text.ofString "farms.json"))
          ⟨[⟨Farm.pathOfText (Text.ofString "//srv/./fermes//nörd/"),
            Text.ofString "½ TiB"⟩, Farm.empty]⟩ = .ok m' ∧
        load m' (Path.ofText (Text.ofString "farms.json")) =
          .ok ⟨[⟨Farm.pathOfText (Text.ofString "//srv/./fermes//nörd/"),
            Text.ofString "½ TiB"⟩, Farm.empty]⟩ ∧
        ∃ m'', m'.save (Path.ofText (Text.ofString "farms.json"))
            ⟨[⟨Farm.pathOfText (Text.ofString "//srv/./fermes//nörd/"),
              Text.ofString "½ TiB"⟩, Farm.empty]⟩ = .ok m'' ∧
          load m'' (Path.ofText (Text.ofString "farms.json")) =
            .ok ⟨[⟨Farm.pathOfText (Text.ofString "//srv/./fermes//nörd/"),
              Text.ofString "½ TiB"⟩, Farm.empty]⟩ := by
  have hc : Config.Storable ⟨[⟨Farm.pathOfText (Text.ofString "//srv/./fermes//nörd/"),
      Text.ofString "½ TiB"⟩, Farm.empty]⟩ := by
    intro f hf
    simp only [List.mem_cons, List.not_mem_nil, or_false] at hf
    rcases hf with rfl | rfl
    · exact Farm.storable_of_texts (Text.noSurrogatePair_ofString _)
        (Text.noSurrogatePair_ofString _)
    · exact @Farm.storable_of_texts [] [] List.isChain_nil List.isChain_nil
  have hparent : (Path.ofText (Text.ofString "farms.json")).parent.parts = [] := by decide +kernel
  have hsize : ¬ Text.nameSize (Path.ofText (Text.ofString "farms.json")).toText ≥ 4096 := by
    decide +kernel
  have hsteps : Tree.steps (Path.ofText (Text.ofString "farms.json")).toText =
      [Text.ofString "farms.json"] := by decide +kernel
  have hfile : (Machine.blank [] []).TakesFile (Path.ofText (Text.ofString "farms.json")) := by
    refine ⟨.absent [] (Text.ofString "farms.json"), [Text.ofString "farms.json"], ?_, rfl⟩
    rw [Machine.blank, Tree.lookup, if_neg hsize, hsteps, Tree.walk]
    decide +kernel
  obtain ⟨m', hsave, hload⟩ := saved_list_loads_back.1 _ _ _ _ hc
    (Machine.makeDirs_of_parts_nil hparent) hfile
  obtain ⟨m'', hsave', hload'⟩ := saved_list_loads_back.2.2 _ _ _ hload m' m' _
    (Machine.makeDirs_of_parts_nil hparent) (takesFile_of_load hload)
  exact ⟨hc, Machine.makeDirs_of_parts_nil hparent, hfile, m', hsave, hload, m'', hsave', hload'⟩

end Config

end FarmSetup
