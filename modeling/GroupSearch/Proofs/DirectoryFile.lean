import GroupSearch.Directory.Store
import GroupSearch.Proofs.Decision

namespace GroupSearch

namespace FileTree

variable (t : FileTree) (reader : Yaml.Reader) (path : Path)

/-- What the text in the file comes to as a document. -/
def Holds (r : Except Yaml.ReadError Value) : Prop :=
  ∃ bytes s, t.content path = .ok bytes ∧ String.fromUTF8? bytes = some s ∧
    reader (String.ofList (unifyLineEnds s.toList)) = r

/-- The bytes in the file are no text. -/
def Undecodable : Prop :=
  ∃ bytes, t.content path = .ok bytes ∧ String.fromUTF8? bytes = none

/-- The file is a document that is empty or has an accepted directory at its root. -/
def HoldsDirectory : Prop :=
  ∃ v, t.Holds reader path (.ok v) ∧ (v = .null ∨ ∃ fields d, v = .record fields ∧
    Directory.ofValue v = .ok d)

/-- The bytes of the file are a text, the text is a document, and its root, or an empty record in
the place of a blank one, is accepted as the directory. -/
def Provides (d : Directory) : Prop :=
  ∃ v, t.Holds reader path (.ok v) ∧ Directory.ofValue v.orEmpty = .ok d

/-- Why the file makes the directory unavailable. -/
inductive Unusable : String → Prop
  | file {fault : FileFault} : t.content path = .error fault → fault ≠ .nullCharacter →
      Unusable s!"Cannot read directory {path}: {(FileError.mk fault path).message}"
  | text {e : Yaml.ReadError} : t.Holds reader path (.error e) → (∀ fault, e ≠ .scalar fault) →
      Unusable s!"Cannot parse directory {path}: {e.message}"
  | value {v : Value} {e : DirectoryError} : t.Holds reader path (.ok v) → v.isBlank = false →
      Directory.ofValue v = .error e → Unusable s!"Invalid directory {path}: {e.message}"

variable {t reader path}

theorem readDirectory_of_content {fault : FileFault} (h : t.content path = .error fault) :
    t.readDirectory reader path = .error (.file ⟨fault, path⟩) := by
  unfold readDirectory readText read
  rw [h]
  rfl

theorem readDirectory_of_undecodable (h : t.Undecodable path) :
    t.readDirectory reader path = .error .undecodable := by
  obtain ⟨bytes, hc, hu⟩ := h
  unfold readDirectory
  rw [readText_of_content hc, hu]
  rfl

theorem readDirectory_of_holds {r : Except Yaml.ReadError Value} (h : t.Holds reader path r) :
    t.readDirectory reader path = (do
      let v ← r.mapError LoadError.unreadable
      (Directory.ofValue v.orEmpty).mapError .invalid) := by
  obtain ⟨bytes, s, hc, hu, rfl⟩ := h
  unfold readDirectory
  rw [readText_of_content hc, hu]
  rfl

theorem readDirectory_eq_ok_iff {d : Directory} :
    t.readDirectory reader path = .ok d ↔ t.Provides reader path d := by
  constructor
  · intro h
    cases hc : t.content path with
    | error fault => cases (readDirectory_of_content hc).symm.trans h
    | ok bytes =>
      cases hu : String.fromUTF8? bytes with
      | none => cases (readDirectory_of_undecodable ⟨bytes, hc, hu⟩).symm.trans h
      | some s =>
        rw [readDirectory_of_holds ⟨bytes, s, hc, hu, rfl⟩] at h
        obtain ⟨v, hv, hd⟩ := bind_eq_ok.1 h
        exact ⟨v, ⟨bytes, s, hc, hu, mapError_eq_ok.1 hv⟩, mapError_eq_ok.1 hd⟩
  · rintro ⟨v, hv, hd⟩
    rw [readDirectory_of_holds hv]
    exact mapError_eq_ok.2 hd

theorem orEmpty_of_not_isBlank {v : Value} (h : v.isBlank = false) : v.orEmpty = v := by
  rw [Value.orEmpty, if_neg (by simp [h])]

theorem readDirectory_of_isBlank {v : Value} (h : t.Holds reader path (.ok v))
    (hv : v.isBlank = true) : t.readDirectory reader path = .ok ⟨[], []⟩ := by
  have ho : v.orEmpty = .record [] := if_pos hv
  rw [readDirectory_of_holds h]
  change (Directory.ofValue v.orEmpty).mapError LoadError.invalid = _
  rw [ho]
  rfl

theorem Unusable.readDirectory {reason : String} (h : t.Unusable reader path reason) :
    ∃ e, t.readDirectory reader path = .error e ∧ e.lookupError path = .unavailable reason := by
  cases h with
  | @file fault h hf =>
    refine ⟨_, readDirectory_of_content h, ?_⟩
    cases fault with
    | nullCharacter => exact (hf rfl).elim
    | missing | occupied | notFolder | isFolder | nameTooLong => rfl
  | @text e h hf =>
    refine ⟨.unreadable e, readDirectory_of_holds h, ?_⟩
    cases e with
    | scalar fault => exact (hf fault rfl).elim
    | malformed | misplaced => rfl
  | @value v e h hv he =>
    refine ⟨.invalid e, ?_, rfl⟩
    rw [readDirectory_of_holds h]
    change (Directory.ofValue v.orEmpty).mapError LoadError.invalid = _
    rw [orEmpty_of_not_isBlank hv, he]
    rfl

theorem locateFrom_ne_nullCharacter (t : FileTree) (here : Location) (names : List String) :
    t.locateFrom here names ≠ .error .nullCharacter := by
  fun_induction locateFrom t here names <;> simp_all

theorem locate_ne_nullCharacter (t : FileTree) {path : Path} (hpath : path.hasNull = false) :
    t.locate path ≠ .error .nullCharacter := by
  unfold locate checkPath
  rw [hpath, if_neg Bool.false_ne_true]
  split
  · nofun
  · exact t.locateFrom_ne_nullCharacter (start path) path.parts

theorem content_ne_nullCharacter (t : FileTree) {path : Path} (hpath : path.hasNull = false) :
    t.content path ≠ .error .nullCharacter := by
  intro h
  cases hl : t.locate path with
  | error fault =>
    simp only [content, hl, bind, Except.bind, Except.error.injEq] at h
    exact t.locate_ne_nullCharacter hpath (h ▸ hl)
  | ok l =>
    simp only [content, hl, bind, Except.bind] at h
    cases hn : t.node? l with
    | none =>
      rw [hn] at h
      cases h
    | some n =>
      rw [hn] at h
      cases n with
      | file bytes => cases h
      | folder => cases h

/-- Nothing else can be wrong with a file than that its bytes are no text, that a scalar has no
value, or what makes the directory unavailable. -/
theorem file_states (t : FileTree) (reader : Yaml.Reader) {path : Path}
    (hpath : path.hasNull = false) :
    (∃ reason, t.Unusable reader path reason) ∨ t.Undecodable path ∨
      (∃ fault, t.Holds reader path (.error (.scalar fault))) ∨
      ∃ v, t.Holds reader path (.ok v) ∧ (v.isBlank = true ∨ ∃ d, Directory.ofValue v = .ok d) := by
  cases hc : t.content path with
  | error fault =>
    refine .inl ⟨_, .file hc ?_⟩
    rintro rfl
    exact t.content_ne_nullCharacter hpath hc
  | ok bytes =>
    cases hu : String.fromUTF8? bytes with
    | none => exact .inr (.inl ⟨bytes, hc, hu⟩)
    | some s =>
      cases hr : reader (String.ofList (unifyLineEnds s.toList)) with
      | error e =>
        have hh : t.Holds reader path (.error e) := ⟨bytes, s, hc, hu, hr⟩
        cases e with
        | scalar fault => exact .inr (.inr (.inl ⟨fault, hh⟩))
        | malformed | misplaced => exact .inl ⟨_, .text hh nofun⟩
      | ok v =>
        have hh : t.Holds reader path (.ok v) := ⟨bytes, s, hc, hu, hr⟩
        cases hv : v.isBlank with
        | true => exact .inr (.inr (.inr ⟨v, hh, .inl hv⟩))
        | false =>
          cases hd : Directory.ofValue v with
          | error e => exact .inl ⟨_, .value hh hv hd⟩
          | ok d => exact .inr (.inr (.inr ⟨v, hh, .inr ⟨d, hd⟩⟩))

end FileTree

end GroupSearch
