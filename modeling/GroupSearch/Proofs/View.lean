import GroupSearch.Proofs.Simulation
import GroupSearch.Session

namespace GroupSearch

/-- A directory as far as it can be had. -/
abbrev View := Except LookupError Directory

namespace View

variable (v : View)

def accounts (reference : String) : Except LookupError (List Int) :=
  if (Text.trim reference).isEmpty then .ok []
  else v.bind fun d ↦ (Directory.findAccounts d.accounts reference).mapError .ofOverlong

def group (uuid : String) : Except LookupError (Option Group) :=
  v.map fun d ↦ GroupIndex.get? ⟨d.groups⟩ uuid

def suggestions (bound : Int) (name : String) : Except LookupError (List Reference) :=
  if (Text.trim name).isEmpty then .ok []
  else v.map fun d ↦ Directory.suggest d.groups bound name

def lookups (bound : Int) : Lookups Unit where
  accounts reference := ExceptT.mk (pure (v.accounts reference))
  group uuid := ExceptT.mk (pure (v.group uuid))
  suggestions name := ExceptT.mk (pure (v.suggestions bound name))
  note _ s := s

theorem lookups_accounts (bound : Int) (reference : String) (u : Unit) :
    runFrom u ((v.lookups bound).accounts reference) = (v.accounts reference, u) :=
  runFrom_mk_pure u _

theorem lookups_group (bound : Int) (uuid : String) (u : Unit) :
    runFrom u ((v.lookups bound).group uuid) = (v.group uuid, u) :=
  runFrom_mk_pure u _

theorem lookups_suggestions (bound : Int) (name : String) (u : Unit) :
    runFrom u ((v.lookups bound).suggestions name) = (v.suggestions bound name, u) :=
  runFrom_mk_pure u _

theorem accounts_of_ok (d : Directory) (reference : String) :
    accounts (.ok d) reference =
      (Directory.findAccounts d.accounts reference).mapError .ofOverlong := by
  unfold accounts
  split
  case isTrue hb =>
    unfold Directory.findAccounts Directory.resolve
    rw [if_pos hb]
    rfl
  case isFalse => rfl

def compiler (schema : Schema) : Compiler Unit := ⟨schema, v.lookups defaultSuggestions⟩

end View

/-- Lookups that need the directory. -/
def LookupEvent.reads : LookupEvent → Bool
  | accounts reference _ => !(Text.trim reference).isEmpty
  | group _ _ => true
  | suggestions name _ => !(Text.trim name).isEmpty

namespace Session

/-- The directory as it was read, or else as it would be read now. -/
def view (s : Session) : View :=
  match s.store.snapshot with
  | some d => .ok d
  | none =>
    (s.files.readDirectory s.store.reader s.store.path).mapError (·.lookupError s.store.path)

/-- An index is that of the directory that was read. -/
def Coherent (s : Session) : Prop :=
  ∀ i, s.store.index = some i → ∃ d, s.store.snapshot = some d ∧ i = ⟨d.groups⟩

theorem view_of_snapshot {s : Session} {d : Directory} (h : s.store.snapshot = some d) :
    s.view = .ok d := by
  unfold view
  rw [h]

/-- How a session goes on after lookups, some of which may have needed the directory. -/
structure Follows (reads : Bool) (s t : Session) : Prop where
  files : t.files = s.files
  reader : t.store.reader = s.store.reader
  path : t.store.path = s.store.path
  snapshot : t.store.snapshot = if reads then s.view.toOption else s.store.snapshot
  index : ∀ i, s.store.index = some i → t.store.index = some i
  coherent : t.Coherent

namespace Follows

variable {a b : Bool} {s t u : Session}

theorem refl (h : s.Coherent) : Follows false s s := ⟨rfl, rfl, rfl, rfl, fun _ hi ↦ hi, h⟩

theorem note (r : Log.Record) (h : s.Coherent) : Follows false s (note r s) :=
  ⟨rfl, rfl, rfl, rfl, fun _ hi ↦ hi, h⟩

theorem view_eq (h : Follows a s t) : t.view = s.view := by
  cases a with
  | false =>
    unfold view
    rw [h.snapshot, h.files, h.reader, h.path]
    rfl
  | true =>
    have hs : t.store.snapshot = s.view.toOption := h.snapshot
    cases hv : s.view with
    | ok d =>
      rw [hv] at hs
      exact view_of_snapshot hs
    | error e =>
      rw [hv] at hs
      have hn : s.store.snapshot = none := by
        cases hd : s.store.snapshot with
        | none => rfl
        | some d =>
          rw [view_of_snapshot hd] at hv
          cases hv
      rw [← hv]
      unfold view
      rw [hs, hn, h.files, h.reader, h.path]
      rfl

theorem trans (h : Follows a s t) (h' : Follows b t u) : Follows (a || b) s u where
  files := h'.files.trans h.files
  reader := h'.reader.trans h.reader
  path := h'.path.trans h.path
  snapshot := by
    rw [h'.snapshot, h.view_eq, h.snapshot]
    cases a <;> cases b <;> rfl
  index i hi := h'.index i (h.index i hi)
  coherent := h'.coherent

end Follows

variable {α β : Type} {reads : Bool} {x : Answer Session α} {f : View → Except LookupError α}

/-- The answer depends on the view alone. -/
def Answers (reads : Bool) (x : Answer Session α) (f : View → Except LookupError α) : Prop :=
  ∀ s, s.Coherent → ∃ t, runFrom s x = (f s.view, t) ∧ Follows reads s t

namespace Answers

theorem pure (a : α) : Answers false (Pure.pure a) fun _ ↦ .ok a :=
  fun s h ↦ ⟨s, rfl, .refl h⟩

theorem debug (message : String) : Answers false (debug message) fun _ ↦ .ok () :=
  fun _ h ↦ ⟨_, rfl, .note _ h⟩

theorem ofExcept (r : Except LookupError α) : Answers false (MonadExcept.ofExcept r) fun _ ↦ r :=
  fun s h ↦ ⟨s, by cases r <;> rfl, .refl h⟩

theorem bind {k : α → Answer Session β} {g : α → Except LookupError β} (h : Answers reads x f)
    (hk : ∀ a, Answers false (k a) fun _ ↦ g a) :
    Answers reads (x >>= k) fun v ↦ (f v).bind g := by
  intro s hs
  obtain ⟨t, hx, ht⟩ := h s hs
  change ∃ u, _ = ((f s.view).bind g, u) ∧ _
  rw [runFrom_bind, hx]
  cases f s.view with
  | error e => exact ⟨t, rfl, ht⟩
  | ok a =>
    obtain ⟨u, hu, hf⟩ := hk a t ht.coherent
    exact ⟨u, hu, by simpa using ht.trans hf⟩

theorem map (h : Answers reads x f) (g : α → β) :
    Answers reads (x >>= fun a ↦ Pure.pure (g a)) fun v ↦ (f v).map g := by
  have hb (r : Except LookupError α) : r.map g = r.bind fun a ↦ .ok (g a) := by cases r <;> rfl
  simp only [hb]
  exact h.bind fun a ↦ .pure (g a)

end Answers

theorem Coherent.index_eq_none {s : Session} (h : s.Coherent) (hs : s.store.snapshot = none) :
    s.store.index = none := by
  cases hi : s.store.index with
  | none => rfl
  | some i =>
    obtain ⟨d, hd, -⟩ := h i hi
    cases hs.symm.trans hd

theorem Coherent.of_index_eq_none {s : Session} (h : s.store.index = none) : s.Coherent := by
  intro i hi
  cases h.symm.trans hi

theorem directory_answers : Answers true directory id := by
  intro s h
  unfold directory
  rw [runFrom_get_bind]
  cases hd : s.store.snapshot with
  | some d =>
    refine ⟨s, ?_, rfl, rfl, rfl, ?_, fun _ hi ↦ hi, h⟩ <;> rw [view_of_snapshot hd]
    · rfl
    · exact hd
  | none =>
    have hi := h.index_eq_none hd
    have hv : s.view =
        (s.files.readDirectory s.store.reader s.store.path).mapError
          (·.lookupError s.store.path) := by
      unfold view
      rw [hd]
    cases hr : s.files.readDirectory s.store.reader s.store.path with
    | error e =>
      rw [hr] at hv
      rw [id, hv]
      refine ⟨_, rfl, rfl, rfl, rfl, ?_, fun _ hi ↦ hi, h⟩
      rw [hv]
      exact hd
    | ok d =>
      rw [hr] at hv
      rw [id, hv]
      refine ⟨_, rfl, rfl, rfl, rfl, ?_, fun _ hi ↦ hi, .of_index_eq_none hi⟩
      rw [hv]
      rfl

theorem accounts_answers : Answers true accounts fun v ↦ v.map Directory.accounts :=
  directory_answers.map _

theorem groups_answers : Answers true groups fun v ↦ v.map Directory.groups :=
  directory_answers.map _

theorem groupIndex_answers : Answers true groupIndex fun v ↦ v.map fun d ↦ ⟨d.groups⟩ := by
  intro s h
  unfold groupIndex
  rw [runFrom_get_bind]
  cases hi : s.store.index with
  | some i =>
    obtain ⟨d, hd, rfl⟩ := h i hi
    refine ⟨s, ?_, rfl, rfl, rfl, ?_, fun _ hi ↦ hi, h⟩ <;> rw [view_of_snapshot hd]
    · rfl
    · exact hd
  | none =>
    -- The index is made when the groups are there, so that it is always that of the snapshot.
    obtain ⟨t, ht, hf⟩ := groups_answers s h
    rw [runFrom_bind, ht]
    cases hv : s.view with
    | error e => exact ⟨t, rfl, hf⟩
    | ok d =>
      have hd : t.store.snapshot = some d := by
        rw [hf.snapshot, hv]
        rfl
      refine ⟨_, rfl, hf.files, hf.reader, hf.path, hf.snapshot, ?_, ?_⟩
      · intro i hi'
        cases hi.symm.trans hi'
      · intro i hi'
        cases hi'
        exact ⟨d, hd, rfl⟩

theorem notice_answers (reference : String) (r : Resolution) :
    Answers false (notice reference r) fun _ ↦ .ok () := by
  cases r with
  | blank | byId | byEmail | overlong => exact .pure _
  | byUsername | byFullName => exact .debug _

theorem findAccounts_answers (reference : String) :
    Answers (!(Text.trim reference).isEmpty) (findAccounts reference) (·.accounts reference) := by
  unfold findAccounts
  simp only [View.accounts]
  cases hb : (Text.trim reference).isEmpty with
  | true => exact .pure []
  | false =>
    have hv (v : View) :
        (v.bind fun d ↦ (Directory.findAccounts d.accounts reference).mapError .ofOverlong) =
          (v.map Directory.accounts).bind fun as ↦
            (Directory.resolveTrimmed as (Text.trim reference)).ids.mapError .ofOverlong := by
      simp only [Directory.findAccounts, Directory.resolve, hb, Bool.false_eq_true, if_false]
      cases v <;> rfl
    simp only [Bool.false_eq_true, if_false, hv]
    exact accounts_answers.bind fun as ↦ (notice_answers _ _).bind fun _ ↦ .ofExcept _

theorem group_answers (uuid : String) : Answers true (group? uuid) (·.group uuid) := by
  have hv (v : View) : v.group uuid =
      (v.map fun d ↦ (⟨d.groups⟩ : GroupIndex)).map fun index ↦ index.get? uuid := by
    cases v <;> rfl
  simp only [hv]
  exact groupIndex_answers.map _

theorem suggest_answers (bound : Int) (name : String) :
    Answers (!(Text.trim name).isEmpty) (suggest bound name) (·.suggestions bound name) := by
  unfold suggest
  simp only [View.suggestions]
  cases hb : (Text.trim name).isEmpty with
  | true => exact .pure []
  | false =>
    have hv (v : View) : (v.map fun d ↦ Directory.suggest d.groups bound name) =
        (v.map Directory.groups).map fun gs ↦ Directory.suggest gs bound name := by
      cases v <;> rfl
    simp only [hv]
    exact groups_answers.map _

/-- A session with the lookups made since, of which some may have needed the directory. -/
def Tracks (s : Session) (t : Session × List LookupEvent) (_ : Unit) : Prop :=
  Follows (t.2.any LookupEvent.reads) s t.1

theorem Answers.tracks {event : Except LookupError α → LookupEvent} (h : Answers reads x f)
    (he : ∀ a, (event a).reads = reads) (s : Session) :
    Alike (Tracks s) (Lookups.record event x) (ExceptT.mk (Pure.pure (f s.view))) := by
  rintro ⟨t, trace⟩ u ht
  obtain ⟨t', hx, hf⟩ := h t ht.coherent
  have hr : runFrom (t, trace) (Lookups.record event x) =
      ((runFrom t x).1, ((runFrom t x).2, trace ++ [event (runFrom t x).1])) := rfl
  rw [hr, hx, ht.view_eq]
  refine ⟨rfl, ?_⟩
  have := ht.trans hf
  unfold Tracks
  rwa [List.any_append, List.any_cons, List.any_nil, Bool.or_false, he]

theorem lookups_track (bound : Int) (s : Session) :
    (lookups bound).traced.Simulates (Tracks s) (s.view.lookups bound) := by
  unfold lookups Lookups.traced View.lookups
  constructor
  · intro reference
    exact (findAccounts_answers reference).tracks (fun _ ↦ by rw [LookupEvent.reads]) s
  · intro uuid
    exact ((group_answers uuid).tracks (fun _ ↦ by rw [LookupEvent.reads]) s).map
  · intro name
    exact (suggest_answers bound name).tracks (fun _ ↦ by rw [LookupEvent.reads]) s
  · intro r t _ h
    unfold Tracks
    rw [← Bool.or_false (t.2.any _)]
    exact Follows.trans h (.note r h.coherent)

end Session

theorem Lookups.traced_simulates {σ : Type} (l : Lookups σ) :
    l.traced.Simulates (fun t s ↦ t.1 = s) l where
  accounts := by
    rintro reference ⟨t, trace⟩ s rfl
    exact ⟨rfl, rfl⟩
  group uuid := by
    refine Alike.map ?_
    rintro ⟨t, trace⟩ s rfl
    exact ⟨rfl, rfl⟩
  suggestions := by
    rintro name ⟨t, trace⟩ s rfl
    exact ⟨rfl, rfl⟩
  note := by
    rintro r ⟨t, trace⟩ s rfl
    rfl

namespace Session

def tracer (schema : Schema) : Compiler (Session × List LookupEvent) :=
  ⟨schema, (lookups defaultSuggestions).traced⟩

variable {schema : Schema} {s : Session}

theorem eq_and_follows {ε : Type} {x : ExceptT ε (StateM Session) α}
    {y : ExceptT ε (StateM (Session × List LookupEvent)) α} {z : ExceptT ε (StateM Unit) α}
    (hx : Alike (fun t s ↦ t.1 = s) y x) (hz : Alike (Tracks s) y z) (h : s.Coherent) :
    (runFrom s x).1 = (runFrom () z).1 ∧
      Follows ((runFrom (s, []) y).2.2.any LookupEvent.reads) s (runFrom s x).2 := by
  obtain ⟨hr, hs⟩ := hx (s, []) s rfl
  obtain ⟨hr', ht⟩ := hz (s, []) () (.refl h)
  exact ⟨hr.symm.trans hr', hs ▸ ht⟩

theorem compile_eq (h : s.Coherent) (text : Option String) :
    (runFrom s ((compiler schema).compile text)).1 =
        (runFrom () ((s.view.compiler schema).compile text)).1 ∧
      Follows ((runFrom (s, []) ((tracer schema).compile text)).2.2.any LookupEvent.reads) s
        (runFrom s ((compiler schema).compile text)).2 :=
  eq_and_follows (Compiler.compile_alike (Lookups.traced_simulates _) text)
    (Compiler.compile_alike (lookups_track _ s) text) h

end Session

end GroupSearch
