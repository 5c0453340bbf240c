import FarmSetup.Files.Host
import FarmSetup.Proofs.ConfigFile
/-!
# What loading a farm list file can end in

A load reads the file at a path, decodes its bytes and reads one JSON document. It succeeds
exactly when the document is an object whose `farms` member is missing or an array of objects
that each have a `path` and a `size` member: this is `Json.IsFarmDocument`, said of the value
alone. Every other outcome is a failure, and for a file that is absent, a directory or valid
UTF-8, the failure is reported as a configuration error unless the reader itself gives up on the
document: on an integer of more than 4300 digits, or on arrays and objects nested past its
recursion limit. Those two escape as a value error and a recursion error. A configuration error
starts with `Failed to read {path}: ` when the file cannot be read or holds no JSON, and with
`Invalid config in {path}: ` otherwise.

Main statements: `Config.load_reports` and, at a file holding a 4301-digit integer,
`Config.load_long_integer`.
-/

namespace FarmSetup

namespace Json

/-- A stored farm: an object with a `path` and a `size` member. -/
def IsFarmRecord (j : Json) : Prop :=
  (j.get? (Text.ofString "path")).isSome ∧ (j.get? (Text.ofString "size")).isSome

/-- A stored farm list: an object whose `farms` member is missing or an array of stored farms. -/
def IsFarmDocument : Json → Prop
  | .obj ms =>
    match member? ms (Text.ofString "farms") with
    | none => True
    | some (.arr items) => ∀ j ∈ items, IsFarmRecord j
    | some _ => False
  | _ => False

/-- A failure that is a limit of the reader, not a fault of the text: an integer with too many
digits, or nesting past the recursion limit. -/
def ReadFailure.isLimit : ReadFailure → Bool
  | .decode _ => false
  | _ => true

theorem isFarmRecord_iff {j : Json} :
    j.IsFarmRecord ↔ ∃ ms, j = .obj ms ∧ (member? ms (Text.ofString "path")).isSome ∧
      (member? ms (Text.ofString "size")).isSome := by
  cases j with
  | obj ms => simp [IsFarmRecord, get?]
  | _ => simp [IsFarmRecord, get?]

section digits

variable {s : Array Point}

/-- Digits run to the end of the array. -/
theorem skipDigits_of_digits {i : Nat} (hi : i ≤ s.size)
    (h : ∀ k (hk : k < s.size), i ≤ k → isDigitCode s[k].code = true) : skipDigits s i = s.size := by
  fun_induction skipDigits s i with
  | case1 i hlt _ ih => exact ih (by omega) fun k hk hik => h k hk (by omega)
  | case2 i hlt hnot => exact absurd (h i hlt le_rfl) hnot
  | case3 i hge => omega

/-- A document that is a run of more than 4300 ASCII digits, the first not a zero, is refused
for its number of digits. -/
theorem parseWithin_digit_run {room : Nat} {d : Point} {ds : Text} (hd : 49 ≤ d.code ∧ d.code ≤ 57)
    (hds : ∀ x ∈ ds, isDigitCode x.code = true) (hlong : intDigitLimit < ds.length + 1) :
    parseWithin room (d :: ds) = .error (.digitLimit (ds.length + 1)) := by
  have hsize : (d :: ds).toArray.size = ds.length + 1 := by simp
  have hcode : codeAt (d :: ds).toArray 0 = d.code := by simp [codeAt]
  have hdspace : isSpace d.code = false := by
    simp only [isSpace, Bool.or_eq_false_iff, beq_eq_false_iff_ne]
    omega
  have hspace : skipSpace (d :: ds).toArray 0 = 0 :=
    skipSpace_stop (show (d :: ds).toArray.toList.drop 0 = d :: ds by simp) hdspace
  have hrun : skipDigits (d :: ds).toArray 1 = ds.length + 1 := by
    rw [← hsize]
    refine skipDigits_of_digits (by simp) fun k hk hik => ?_
    obtain ⟨j, rfl⟩ : ∃ j, k = j + 1 := ⟨k - 1, by omega⟩
    simpa using hds _ (List.getElem_mem (l := ds) (by simpa using hk))
  -- the first point starts no string, container, literal word or sign, so it starts a number
  have hnumber : scanNumber (d :: ds).toArray 0 = some (.error (.digitLimit (ds.length + 1))) := by
    have hend : ¬ ds.length + 1 < ds.length := by omega
    simp [scanNumber, hcode, hrun, hsize, hlong, hend, show d.code ≠ 45 by omega, hd.1, hd.2]
  have hvalue : ∀ fuel, scanValue (d :: ds).toArray room 0 (fuel + 1) =
      .error (.digitLimit (ds.length + 1)) := by
    intro fuel
    rw [scanValue]
    simp [hcode, hsize, hnumber, show d.code ≠ 34 by omega, show d.code ≠ 123 by omega,
      show d.code ≠ 91 by omega, show d.code ≠ 110 by omega, show d.code ≠ 116 by omega,
      show d.code ≠ 102 by omega, show d.code ≠ 78 by omega, show d.code ≠ 73 by omega,
      show d.code ≠ 45 by omega]
  rw [parseWithin, hspace, show 3 * (d :: ds).toArray.size + 3 = (3 * (d :: ds).toArray.size + 2) + 1
    from rfl, hvalue]
  simp only [hcode, show (d.code == 0xFEFF) = false by simp; omega, Bool.false_eq_true, if_false]
  rfl

end digits

end Json

namespace LoadError

/-- A failure the program reports as a failure to read the file: the file cannot be opened, or
its text is no JSON. -/
def isReadFailure : LoadError → Bool
  | unreadable _ => true
  | undecodable _ => true
  | _ => false

/-- The words a failure to read the file at `path` starts with. -/
def readPrefix (path : Text) : Text := Text.ofString "Failed to read " ++ path ++ Text.ofString ": "

/-- The words an invalid farm list at `path` starts with. -/
def invalidPrefix (path : Text) : Text := Text.ofString "Invalid config in " ++ path ++ Text.ofString ": "

/-- A failure to read names the file after the words of a failure to read. -/
theorem message_startsWith_readPrefix {e : LoadError} (path : Text) (h : e.isReadFailure = true) :
    (e.message path).startsWith (readPrefix path) = true := by
  rw [Text.startsWith, List.isPrefixOf_iff_prefix]
  cases e <;> simp only [isReadFailure, reduceCtorEq] at h <;> exact List.prefix_append _ _

/-- Every other configuration error names the file after the words of an invalid farm list, and
so not after those of a failure to read: the two differ in their first letter. -/
theorem message_startsWith_invalidPrefix {e : LoadError} (path : Text)
    (hc : e.isConfigError = true) (h : e.isReadFailure = false) :
    (e.message path).startsWith (invalidPrefix path) = true ∧
      (e.message path).startsWith (readPrefix path) = false := by
  have hinvalid : (e.message path).startsWith (invalidPrefix path) = true := by
    rw [Text.startsWith, List.isPrefixOf_iff_prefix]
    cases e <;> simp_all [isReadFailure, isConfigError, className, message, invalidPrefix]
    -- the one message without a cause after the colon
    exact List.isPrefixOf_iff_prefix.1 (by decide)
  refine ⟨hinvalid, ?_⟩
  obtain ⟨rest, hrest⟩ := List.isPrefixOf_iff_prefix.1 hinvalid
  rw [Text.startsWith, ← hrest, Bool.eq_false_iff]
  intro hread
  have hF : Text.ofString "Failed to read " = Point.ofChar 'F' :: Text.ofString "ailed to read " := by
    decide
  have hI : Text.ofString "Invalid config in " =
      Point.ofChar 'I' :: Text.ofString "nvalid config in " := by
    decide
  rw [readPrefix, invalidPrefix, hF, hI] at hread
  simp only [List.cons_append, List.isPrefixOf_cons_cons, Bool.and_eq_true] at hread
  exact absurd hread.1 (by decide)

end LoadError

namespace Machine

/-- The file at a path holds UTF-8 if it is a regular file: the path is absent, a directory, or
a regular file whose bytes decode. -/
def HoldsUtf8 (m : Machine) (p : Path) : Prop :=
  ∀ bytes, m.tree.bytesAt m.cwd p.toText = .ok bytes → ∃ text, Utf8.decode bytes = .ok text

/-- The document a load reads at a path: the bytes of the regular file there as UTF-8 text with
its line ends unified; none when the path leads to no regular file or its bytes are no UTF-8. -/
def document? (m : Machine) (p : Path) : Option Text :=
  match m.tree.bytesAt m.cwd p.toText with
  | .ok bytes => (Utf8.decode bytes).toOption.map Text.unifyLineEnds
  | .error _ => none

end Machine

namespace Farm

/-- A value reads as a farm exactly when it is an object with a `path` and a `size` member. -/
theorem exists_ofJson_iff (j : Json) : (∃ f, ofJson j = .ok f) ↔ j.IsFarmRecord := by
  constructor
  · rintro ⟨f, h⟩
    obtain ⟨pv, hp, h⟩ := Json.bind_eq_ok h
    obtain ⟨sv, hs, -⟩ := Json.bind_eq_ok h
    obtain ⟨ms, rfl, hpath⟩ := lookup_eq_ok.1 hp
    obtain ⟨ms', hms, hsize⟩ := lookup_eq_ok.1 hs
    cases hms
    exact Json.isFarmRecord_iff.2 ⟨ms, rfl, by simp [hpath], by simp [hsize]⟩
  · intro h
    obtain ⟨ms, rfl, hpath, hsize⟩ := Json.isFarmRecord_iff.1 h
    obtain ⟨pv, hpv⟩ := Option.isSome_iff_exists.1 hpath
    obtain ⟨sv, hsv⟩ := Option.isSome_iff_exists.1 hsize
    have hp : lookup (.obj ms) "path" = .ok pv := lookup_eq_ok.2 ⟨ms, rfl, hpv⟩
    have hs : lookup (.obj ms) "size" = .ok sv := lookup_eq_ok.2 ⟨ms, rfl, hsv⟩
    exact ⟨_, by rw [ofJson, hp, hs]; rfl⟩

/-- Items read as farms one by one exactly when each is a stored farm. -/
theorem exists_mapM_ofJson_iff (items : List Json) :
    (∃ farms, items.mapM ofJson = .ok farms) ↔ ∀ j ∈ items, j.IsFarmRecord := by
  induction items with
  | nil => exact ⟨fun _ _ hj => absurd hj List.not_mem_nil, fun _ => ⟨[], rfl⟩⟩
  | cons j rest ih =>
    rw [List.forall_mem_cons, ← exists_ofJson_iff, ← ih, List.mapM_cons]
    constructor
    · rintro ⟨farms, h⟩
      obtain ⟨f, hf, h⟩ := Json.bind_eq_ok h
      obtain ⟨fs, hfs, -⟩ := Json.bind_eq_ok h
      exact ⟨⟨f, hf⟩, ⟨fs, hfs⟩⟩
    · rintro ⟨⟨f, hf⟩, ⟨fs, hfs⟩⟩
      exact ⟨f :: fs, by rw [hf, hfs]; rfl⟩

end Farm

namespace Config

/-- An object reads as a farm list exactly when it is a stored farm list. -/
theorem exists_ofJson_obj_iff (ms : List (Text × Json)) :
    (∃ c, ofJson (.obj ms) = .ok c) ↔ (Json.obj ms).IsFarmDocument := by
  rw [ofJson, Json.IsFarmDocument]
  cases hfarms : Json.member? ms (Text.ofString "farms") with
  | none =>
    simp only [Option.getD_none]
    exact ⟨fun _ => trivial, fun _ => ⟨⟨[]⟩, rfl⟩⟩
  | some v =>
    simp only [Option.getD_some]
    cases v with
    | arr items =>
      dsimp only
      rw [← Farm.exists_mapM_ofJson_iff]
      constructor
      · rintro ⟨c, h⟩
        cases hmap : items.mapM Farm.ofJson with
        | error e => rw [hmap] at h; cases h
        | ok farms => exact ⟨farms, rfl⟩
      · rintro ⟨farms, hmap⟩
        exact ⟨⟨farms⟩, by rw [hmap]; rfl⟩
    | _ => simp

/-- A document reads as a farm list exactly when it is one JSON value that is a stored farm
list. -/
theorem exists_ofText_iff (room : Nat) (doc : Text) :
    (∃ c, ofText room doc = .ok c) ↔ ∃ v, Json.parseWithin room doc = .ok v ∧ v.IsFarmDocument := by
  rw [ofText]
  cases hparse : Json.parseWithin room doc with
  | error f =>
    -- every failure of the reader is a failure of the load
    constructor
    · rintro ⟨c, h⟩
      cases f <;> cases h
    · rintro ⟨v, hv, -⟩
      cases hv
  | ok v =>
    cases v with
    | obj ms =>
      simp only [Except.ok.injEq, exists_eq_left']
      rw [← exists_ofJson_obj_iff]
      constructor
      · rintro ⟨c, h⟩
        cases hread : ofJson (.obj ms) with
        | error e => rw [hread] at h; cases h
        | ok c' => exact ⟨c', rfl⟩
      · rintro ⟨c, hc⟩
        exact ⟨c, by rw [hc]; rfl⟩
    | _ => simp [Json.IsFarmDocument]

/-- A document that fails to read as a farm list fails as a configuration error unless the
reader gave up on it, and as a failure to read exactly when it is no JSON. -/
theorem ofText_error {room : Nat} {doc : Text} {e : LoadError} (h : ofText room doc = .error e) :
    (e.isConfigError = true ↔ ∀ f, Json.parseWithin room doc = .error f → f.isLimit = false) ∧
      (e.isReadFailure = true ↔ ∃ d, Json.parseWithin room doc = .error (.decode d)) := by
  rw [ofText] at h
  cases hparse : Json.parseWithin room doc with
  | error f =>
    rw [hparse] at h
    cases f with
    | decode d =>
      cases h
      exact ⟨by simp [LoadError.isConfigError, LoadError.className, Json.ReadFailure.isLimit],
        by simp [LoadError.isReadFailure]⟩
    | tooDeep a =>
      cases h
      exact ⟨by simp [LoadError.isConfigError, LoadError.className, Json.ReadFailure.isLimit],
        by simp [LoadError.isReadFailure]⟩
    | digitLimit n =>
      cases h
      exact ⟨by simp [LoadError.isConfigError, LoadError.className, Json.ReadFailure.isLimit],
        by simp [LoadError.isReadFailure]⟩
  | ok v =>
    rw [hparse] at h
    -- a value that reads is an object that is no farm list, or no object at all
    have hkind : e = .notObject ∨ ∃ fe, e = .invalid fe := by
      cases v with
      | obj ms =>
        dsimp only at h
        cases hread : ofJson (.obj ms) with
        | error fe => rw [hread] at h; cases h; exact .inr ⟨fe, rfl⟩
        | ok c => rw [hread] at h; cases h
      | _ => cases h; exact .inl rfl
    rcases hkind with rfl | ⟨fe, rfl⟩ <;>
      simp [LoadError.isConfigError, LoadError.className, LoadError.isReadFailure]

section load

variable {m : Machine} {p : Path} {room : Nat}

/-- A load of a document reads it as a farm list. -/
theorem loadWithin_of_document {doc : Text} (h : m.document? p = some doc) :
    loadWithin room m p = ofText room doc := by
  unfold Machine.document? at h
  rw [loadWithin]
  split at h
  · next bytes hbytes =>
    cases hdec : Utf8.decode bytes with
    | error d => rw [hdec] at h; cases h
    | ok text =>
      rw [hdec] at h
      cases h
      simp only [hbytes, hdec]
  · cases h

/-- Where there is no document, a file of UTF-8 could not be opened. -/
theorem loadWithin_of_no_document (hutf : m.HoldsUtf8 p) (h : m.document? p = none) :
    ∃ e, loadWithin room m p = .error (.unreadable e) := by
  unfold Machine.document? at h
  rw [loadWithin]
  cases hbytes : m.tree.bytesAt m.cwd p.toText with
  | error err => exact ⟨_, rfl⟩
  | ok bytes =>
    obtain ⟨text, hdec⟩ := hutf bytes hbytes
    simp only [hbytes, hdec] at h
    cases h

/-- A load succeeds exactly when the file holds a document that is a stored farm list. -/
theorem exists_loadWithin_iff :
    (∃ c, loadWithin room m p = .ok c) ↔
      ∃ doc v, m.document? p = some doc ∧ Json.parseWithin room doc = .ok v ∧ v.IsFarmDocument := by
  cases hdoc : m.document? p with
  | some doc =>
    rw [loadWithin_of_document hdoc, exists_ofText_iff]
    simp
  | none =>
    simp only [reduceCtorEq, false_and, exists_false, iff_false, not_exists]
    intro c h
    unfold Machine.document? at hdoc
    rw [loadWithin] at h
    cases hbytes : m.tree.bytesAt m.cwd p.toText with
    | error err => simp only [hbytes] at h; cases h
    | ok bytes =>
      cases hdec : Utf8.decode bytes with
      | error d => simp only [hbytes, hdec] at h; cases h
      | ok text => simp only [hbytes, hdec] at hdoc; cases hdoc

/-- A failed load of a file of UTF-8 is a configuration error unless the reader gave up on the
document, and a failure to read exactly when there is no document or it is no JSON. -/
theorem loadWithin_error (hutf : m.HoldsUtf8 p) {e : LoadError} (h : loadWithin room m p = .error e) :
    (e.isConfigError = true ↔
        ¬ ∃ doc f, m.document? p = some doc ∧ Json.parseWithin room doc = .error f ∧ f.isLimit = true) ∧
      (e.isReadFailure = true ↔
        m.document? p = none ∨ ∃ doc d, m.document? p = some doc ∧ Json.parseWithin room doc = .error (.decode d)) := by
  cases hdoc : m.document? p with
  | none =>
    obtain ⟨err, herr⟩ : ∃ e, loadWithin room m p = .error (.unreadable e) :=
      loadWithin_of_no_document hutf hdoc
    rw [herr] at h
    cases h
    simp [LoadError.isConfigError, LoadError.className, LoadError.isReadFailure]
  | some doc =>
    rw [loadWithin_of_document hdoc] at h
    obtain ⟨hconfig, hread⟩ := ofText_error h
    refine ⟨?_, ?_⟩
    · rw [hconfig]
      simp only [Option.some.injEq, exists_and_left, exists_eq_left', not_exists, not_and]
      constructor
      · intro hall f hf hlimit
        rw [hall f hf] at hlimit
        cases hlimit
      · intro hall f hf
        cases hlimit : f.isLimit
        · rfl
        · exact absurd hlimit (hall f hf)
    · rw [hread]
      simp

end load

/-- Every way a load of a file that is absent, a directory or UTF-8 can end: it succeeds exactly
when the file holds a stored farm list; a failure is a configuration error unless the reader gave
up on the document; and a configuration error starts with the words of a failure to read exactly
when there is no document or it is no JSON, and with those of an invalid farm list otherwise. -/
theorem load_reports {m : Machine} {p : Path} (hutf : m.HoldsUtf8 p) :
    ((∃ c, load m p = .ok c) ↔
      ∃ doc v, m.document? p = some doc ∧ Json.parseWithin nestingRoom doc = .ok v ∧
        v.IsFarmDocument) ∧
    ∀ e, load m p = .error e →
      (e.className = "ConfigError" ↔
        ¬ ∃ doc f, m.document? p = some doc ∧ Json.parseWithin nestingRoom doc = .error f ∧
          f.isLimit = true) ∧
      (e.className = "ConfigError" →
        ((e.message p.toText).startsWith (LoadError.readPrefix p.toText) = true ↔
          m.document? p = none ∨
            ∃ doc d, m.document? p = some doc ∧ Json.parseWithin nestingRoom doc = .error (.decode d)) ∧
        ((e.message p.toText).startsWith (LoadError.readPrefix p.toText) = false →
          (e.message p.toText).startsWith (LoadError.invalidPrefix p.toText) = true)) := by
  refine ⟨exists_loadWithin_iff, fun e h => ?_⟩
  obtain ⟨hconfig, hread⟩ := loadWithin_error hutf h
  have hclass : e.className = "ConfigError" ↔ e.isConfigError = true := by
    simp [LoadError.isConfigError]
  rw [hclass]
  refine ⟨hconfig, fun hce => ⟨?_, fun hno => ?_⟩⟩
  · rw [← hread]
    constructor
    · intro hstarts
      cases hkind : e.isReadFailure
      · rw [(LoadError.message_startsWith_invalidPrefix _ hce hkind).2] at hstarts
        cases hstarts
      · rfl
    · exact LoadError.message_startsWith_readPrefix _
  · -- a message that does not start as a failure to read comes from no failure to read
    cases hkind : e.isReadFailure
    · exact (LoadError.message_startsWith_invalidPrefix _ hce hkind).1
    · rw [LoadError.message_startsWith_readPrefix _ hkind] at hno
      cases hno

/-- The digits of an integer one digit longer than the reader takes. -/
def longInteger : Text := List.replicate 4301 (Point.ofChar '1')

/-- The scratch directory with a farm list file whose whole text is `longInteger`. -/
def longIntegerMachine : Machine :=
  { Machine.base with
    tree := Machine.base.tree.put (Machine.scratch ++ [Text.ofString "farms.json"])
      (.file (Utf8.encode longInteger)) }

/-- The farm list file of the scratch directory. -/
def scratchFile : Path := Path.ofText (Text.ofString "farms.json")

theorem longIntegerMachine_document :
    longIntegerMachine.document? scratchFile = some longInteger ∧
      longIntegerMachine.HoldsUtf8 scratchFile := by
  have hascii : ∀ x ∈ longInteger, x.code < 128 ∧ x.code ≠ 13 := by
    intro x hx
    rw [longInteger, List.mem_replicate] at hx
    rw [hx.2]
    decide
  have hbytes : longIntegerMachine.tree.bytesAt longIntegerMachine.cwd scratchFile.toText =
      .ok (Utf8.encode longInteger) := by
    have hsize : ¬ Text.nameSize scratchFile.toText ≥ 4096 := by decide +kernel
    have hsteps : Tree.steps scratchFile.toText = [Text.ofString "farms.json"] := by decide +kernel
    have hstart : Tree.startOf Machine.scratch scratchFile.toText = Machine.scratch := by
      decide +kernel
    have hname : ¬ Text.nameSize (Text.ofString "farms.json") > Tree.nameLimit := by decide +kernel
    have hnode := Tree.node?_put_self Machine.base.tree (.file (Utf8.encode longInteger))
      (show Machine.scratch ++ [Text.ofString "farms.json"] ≠ [] by simp)
    rw [Tree.bytesAt, Tree.stat, Tree.lookup, if_neg hsize, hsteps]
    simp only [longIntegerMachine, Machine.base]
    rw [hstart, Tree.walk, if_neg (by decide), if_neg hname]
    simp only [Machine.base] at hnode
    simp only [hnode, List.isEmpty_nil, if_true]
  have hdec : Utf8.decode (Utf8.encode longInteger) = .ok longInteger := by
    rw [Utf8.decode, Json.decodeFrom_encode_ascii _ fun x hx => (hascii x hx).1]
    rfl
  have hunify : longInteger.unifyLineEnds = longInteger :=
    Json.unifyLineEnds_of_no_return _ fun x hx => (hascii x hx).2
  refine ⟨?_, fun bytes h => ⟨longInteger, ?_⟩⟩
  · rw [Machine.document?]
    simp only [hbytes, hdec, Except.toOption, Option.map_some, hunify]
  · rw [hbytes] at h
    cases h
    exact hdec

/-- A file whose text is an integer of 4301 digits is valid UTF-8, yet its load fails with a
value error, not with a configuration error: the reader gives up on the integer's length. -/
theorem load_long_integer :
    longIntegerMachine.HoldsUtf8 scratchFile ∧
      ∃ e, load longIntegerMachine scratchFile = .error e ∧ e.className = "ValueError" := by
  obtain ⟨hdoc, hutf⟩ := longIntegerMachine_document
  have hparse : Json.parseWithin nestingRoom longInteger = .error (.digitLimit 4301) := by
    have hrun := @Json.parseWithin_digit_run nestingRoom (Point.ofChar '1')
      (List.replicate 4300 (Point.ofChar '1')) (by decide)
      (fun x hx => by rw [(List.mem_replicate.1 hx).2]; decide)
      (by rw [List.length_replicate]; decide)
    rw [List.length_replicate] at hrun
    exact hrun
  refine ⟨hutf, .tooLong ((Json.ReadFailure.digitLimit 4301).message longInteger), ?_, rfl⟩
  rw [load, loadWithin_of_document hdoc, ofText, hparse]

/-- The outcome of loading the file holding a 4301-digit integer, as every load of a file of
UTF-8 ends. -/
theorem load_reports_long_integer :
    longIntegerMachine.HoldsUtf8 scratchFile ∧
    ((∃ c, load longIntegerMachine scratchFile = .ok c) ↔
      ∃ doc v, longIntegerMachine.document? scratchFile = some doc ∧
        Json.parseWithin nestingRoom doc = .ok v ∧ v.IsFarmDocument) ∧
    ∀ e, load longIntegerMachine scratchFile = .error e →
      (e.className = "ConfigError" ↔
        ¬ ∃ doc f, longIntegerMachine.document? scratchFile = some doc ∧
          Json.parseWithin nestingRoom doc = .error f ∧ f.isLimit = true) ∧
      (e.className = "ConfigError" →
        ((e.message scratchFile.toText).startsWith (LoadError.readPrefix scratchFile.toText) = true ↔
          longIntegerMachine.document? scratchFile = none ∨
            ∃ doc d, longIntegerMachine.document? scratchFile = some doc ∧
              Json.parseWithin nestingRoom doc = .error (.decode d)) ∧
        ((e.message scratchFile.toText).startsWith (LoadError.readPrefix scratchFile.toText) = false →
          (e.message scratchFile.toText).startsWith (LoadError.invalidPrefix scratchFile.toText) =
            true)) :=
  ⟨longIntegerMachine_document.2, load_reports longIntegerMachine_document.2⟩

end Config

end FarmSetup
