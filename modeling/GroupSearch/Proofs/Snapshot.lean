import GroupSearch.Proofs.DirectoryFile
import GroupSearch.Proofs.View

namespace GroupSearch

def View.reply (v : View) (schema : Schema) : Session.Request → Session.Reply
  | .write .. | .remove _ => .done
  | .compile query => .outcome (runFrom () ((v.compiler schema).compile query)).1
  | .support => .support (v.compiler schema).support
  | .accounts => .accounts (v.map Directory.accounts)
  | .groups => .groups (v.map Directory.groups)
  | .group uuid => .group (v.group uuid)

namespace Session

def Request.change : Request → FileTree → FileTree
  | .write l n, t => t.place l n
  | .remove l, t => t.remove l
  | _, t => t

/-- Whether the directory is needed. A compilation needs it for its first lookup that is not of a
blank reference. -/
def Request.needs (schema : Schema) (s : Session) : Request → Bool
  | .compile query => (runFrom (s, []) ((tracer schema).compile query)).2.2.any LookupEvent.reads
  | .accounts | .groups | .group _ => true
  | .write .. | .remove _ | .support => false

def reply (schema : Schema) (s : Session) (r : Request) : Reply := ((serve schema r).run s).1

def next (schema : Schema) (s : Session) (r : Request) : Session := ((serve schema r).run s).2

/-- The session behind a run of requests. -/
def after (schema : Schema) (s : Session) (rs : List Request) : Session :=
  rs.foldl (next schema) s

variable {schema : Schema} {s : Session} {r : Request} {d : Directory}

/-- All that a request does. -/
structure Served (schema : Schema) (s : Session) (r : Request) : Prop where
  reply : s.reply schema r = s.view.reply schema r
  files : (s.next schema r).files = r.change s.files
  reader : (s.next schema r).store.reader = s.store.reader
  path : (s.next schema r).store.path = s.store.path
  snapshot : (s.next schema r).store.snapshot =
    if r.needs schema s then s.view.toOption else s.store.snapshot
  index : ∀ i, s.store.index = some i → (s.next schema r).store.index = some i
  coherent : (s.next schema r).Coherent

theorem Served.of_follows (hr : s.reply schema r = s.view.reply schema r)
    (hf : Follows (r.needs schema s) s (s.next schema r)) (hc : r.change s.files = s.files) :
    Served schema s r :=
  ⟨hr, hf.files.trans hc.symm, hf.reader, hf.path, hf.snapshot, hf.index, hf.coherent⟩

theorem serve_compile (query : Option String) :
    (serve schema (.compile query)).run s =
      (.outcome (runFrom s ((compiler schema).compile query)).1,
        (runFrom s ((compiler schema).compile query)).2) := rfl

theorem serve_support : (serve schema .support).run s = (.support (compiler schema).support, s) :=
  rfl

theorem serve_accounts : (serve schema .accounts).run s =
    (.accounts (runFrom s accounts).1, (runFrom s accounts).2) := rfl

theorem serve_groups : (serve schema .groups).run s =
    (.groups (runFrom s groups).1, (runFrom s groups).2) := rfl

theorem serve_group (uuid : String) : (serve schema (.group uuid)).run s =
    (.group (runFrom s (group? uuid)).1, (runFrom s (group? uuid)).2) := rfl

theorem served (h : s.Coherent) (r : Request) : Served schema s r := by
  cases r with
  | write l n => exact ⟨rfl, rfl, rfl, rfl, rfl, fun _ hi ↦ hi, h⟩
  | remove l => exact ⟨rfl, rfl, rfl, rfl, rfl, fun _ hi ↦ hi, h⟩
  | support =>
    refine .of_follows ?_ ?_ rfl
    · rw [reply, serve_support, View.reply, Compiler.support, Compiler.support, compiler,
        View.compiler]
    · rw [next, serve_support]
      exact .refl h
  | compile query =>
    refine .of_follows ?_ ?_ rfl
    · rw [reply, serve_compile, (compile_eq h query).1, View.reply]
    · rw [next, serve_compile]
      exact (compile_eq h query).2
  | accounts =>
    obtain ⟨t, hx, hf⟩ := accounts_answers s h
    refine .of_follows ?_ ?_ rfl
    · rw [reply, serve_accounts, hx, View.reply]
    · rwa [next, serve_accounts, hx]
  | groups =>
    obtain ⟨t, hx, hf⟩ := groups_answers s h
    refine .of_follows ?_ ?_ rfl
    · rw [reply, serve_groups, hx, View.reply]
    · rwa [next, serve_groups, hx]
  | group uuid =>
    obtain ⟨t, hx, hf⟩ := group_answers uuid s h
    refine .of_follows ?_ ?_ rfl
    · rw [reply, serve_group, hx, View.reply]
    · rwa [next, serve_group, hx]

theorem ofPath_coherent (reader : Yaml.Reader) (files : FileTree) (path : Path) (schema : Schema) :
    (ofPath reader files path schema).Coherent := .of_index_eq_none rfl

theorem ofDirectory_coherent (d : Directory) : (ofDirectory d).Coherent := .of_index_eq_none rfl

theorem after_cons (s : Session) (r : Request) (rs : List Request) :
    after schema s (r :: rs) = after schema (s.next schema r) rs := rfl

theorem after_coherent (h : s.Coherent) (rs : List Request) : (after schema s rs).Coherent := by
  induction rs generalizing s with
  | nil => exact h
  | cons r rs ih => exact ih (served h r).coherent

theorem after_path (h : s.Coherent) (rs : List Request) :
    (after schema s rs).store.path = s.store.path := by
  induction rs generalizing s with
  | nil => rfl
  | cons r rs ih => rw [after_cons, ih (served h r).coherent, (served h r).path]

theorem after_reader (h : s.Coherent) (rs : List Request) :
    (after schema s rs).store.reader = s.store.reader := by
  induction rs generalizing s with
  | nil => rfl
  | cons r rs ih => rw [after_cons, ih (served h r).coherent, (served h r).reader]

theorem after_files (h : s.Coherent) (rs : List Request) :
    (after schema s rs).files = rs.foldl (fun t r ↦ r.change t) s.files := by
  induction rs generalizing s with
  | nil => rfl
  | cons r rs ih => rw [after_cons, ih (served h r).coherent, (served h r).files, List.foldl_cons]

theorem next_snapshot (h : s.Coherent) (hs : s.store.snapshot = some d) (r : Request) :
    (s.next schema r).store.snapshot = some d := by
  rw [(served h r).snapshot, view_of_snapshot hs, hs]
  cases r.needs schema s <;> rfl

theorem after_snapshot (h : s.Coherent) (hs : s.store.snapshot = some d) (rs : List Request) :
    (after schema s rs).store.snapshot = some d := by
  induction rs generalizing s with
  | nil => exact hs
  | cons r rs ih => exact ih (served h r).coherent (next_snapshot h hs r)

theorem after_ofDirectory_view (schema : Schema) (d : Directory) (before : List Request) :
    (after schema (ofDirectory d) before).view = .ok d :=
  view_of_snapshot (after_snapshot (ofDirectory_coherent d) rfl before)

theorem after_index (h : s.Coherent) {i : GroupIndex} (hi : s.store.index = some i)
    (rs : List Request) : (after schema s rs).store.index = some i := by
  induction rs generalizing s with
  | nil => exact hi
  | cons r rs ih => exact ih (served h r).coherent ((served h r).index i hi)

theorem Coherent.index_eq (h : s.Coherent) (hs : s.store.snapshot = some d) {i : GroupIndex}
    (hi : s.store.index = some i) : i = ⟨d.groups⟩ := by
  obtain ⟨d', hd, rfl⟩ := h i hi
  cases hs.symm.trans hd
  rfl

/-- A session that has not read its directory owes nothing to what was tried before: it replies as a
new one does, and a request that needs the directory reads the file as it is. -/
structure Retries (schema : Schema) (s : Session) : Prop where
  store : s.store = .ofPath s.store.reader s.store.path
  reply (r : Request) : s.reply schema r =
    (ofPath s.store.reader s.files s.store.path schema).reply schema r
  loads (r : Request) : (s.next schema r).store.snapshot =
    if r.needs schema s then (s.files.readDirectory s.store.reader s.store.path).toOption else none
  reads (r : Request) (d : Directory) : r.needs schema s = true →
    ((s.next schema r).store.snapshot = some d ↔ s.files.Provides s.store.reader s.store.path d)
  fails (r : Request) (e : LoadError) : r.needs schema s = true →
    s.files.readDirectory s.store.reader s.store.path = .error e →
    (s.next schema r).store = .ofPath s.store.reader s.store.path

/-- A session that has read a directory keeps it and what was made of it, and replies from it. -/
structure Keeps (schema : Schema) (d : Directory) (s t : Session) : Prop where
  snapshot : t.store.snapshot = some d
  index : ∀ i, s.store.index = some i → t.store.index = some i
  built : ∀ i, t.store.index = some i → i = ⟨d.groups⟩
  accounts : t.reply schema .accounts = .accounts (.ok d.accounts)
  groups : t.reply schema .groups = .groups (.ok d.groups)
  group (uuid : String) :
    t.reply schema (.group uuid) = .group (.ok (GroupIndex.get? ⟨d.groups⟩ uuid))
  compile (query : Option String) : t.reply schema (.compile query) =
    .outcome (runFrom (ofDirectory d) ((compiler schema).compile query)).1

theorem reply_eq_of_view {t : Session} (hs : s.Coherent) (ht : t.Coherent) (h : s.view = t.view)
    (r : Request) : s.reply schema r = t.reply schema r := by
  rw [(served hs r).reply, (served ht r).reply, h]

theorem view_of_no_snapshot (h : s.store.snapshot = none) :
    s.view = (s.files.readDirectory s.store.reader s.store.path).mapError
      (·.lookupError s.store.path) := by
  unfold view
  rw [h]

theorem next_unread (h : s.Coherent) (hs : s.store.snapshot = none) (r : Request) :
    (s.next schema r).store.snapshot =
      if r.needs schema s then (s.files.readDirectory s.store.reader s.store.path).toOption
      else none := by
  rw [(served h r).snapshot, hs, view_of_no_snapshot hs]
  cases s.files.readDirectory s.store.reader s.store.path <;> rfl

theorem store_of_no_snapshot (h : s.Coherent) (hs : s.store.snapshot = none) :
    s.store = .ofPath s.store.reader s.store.path := by
  have hi := h.index_eq_none hs
  cases hx : s.store with
  | mk reader path snapshot index =>
    rw [hx] at hs hi
    cases hs
    cases hi
    rfl

theorem retries (h : s.Coherent) (hs : s.store.snapshot = none) : Retries schema s where
  store := store_of_no_snapshot h hs
  reply := reply_eq_of_view h (ofPath_coherent _ _ _ _) (view_of_no_snapshot hs)
  loads := next_unread h hs
  reads r d hr := by
    rw [next_unread h hs, hr, if_pos rfl, ← FileTree.readDirectory_eq_ok_iff]
    cases s.files.readDirectory s.store.reader s.store.path <;> simp [Except.toOption]
  fails r e hr he := by
    have hn : (s.next schema r).store.snapshot = none := by
      rw [next_unread h hs, hr, he]
      rfl
    have hr : Served schema s r := served h r
    rw [← hr.reader, ← hr.path]
    exact store_of_no_snapshot hr.coherent hn

theorem keeps (h : s.Coherent) (hs : s.store.snapshot = some d) (later : List Request) :
    Keeps schema d s (after schema s later) where
  snapshot := after_snapshot h hs later
  index _ hi := after_index h hi later
  built _ hi := (after_coherent h later).index_eq (after_snapshot h hs later) hi
  accounts := by
    rw [(served (after_coherent h later) _).reply, view_of_snapshot (after_snapshot h hs later)]
    rfl
  groups := by
    rw [(served (after_coherent h later) _).reply, view_of_snapshot (after_snapshot h hs later)]
    rfl
  group uuid := by
    rw [(served (after_coherent h later) _).reply, view_of_snapshot (after_snapshot h hs later)]
    rfl
  compile query := by
    refine (reply_eq_of_view (after_coherent h later) (ofDirectory_coherent d) ?_ _).trans ?_
    · exact view_of_snapshot (after_snapshot h hs later)
    · rw [reply, serve_compile]

/-- After any requests a session over a file either has read nothing, and goes by the file as all
requests have left it, or has read a directory that it keeps through all requests to come. -/
theorem reads_once (reader : Yaml.Reader) (files : FileTree) (path : Path) (schema : Schema)
    (before : List Request) :
    let s := after schema (ofPath reader files path schema) before
    s.store.reader = reader ∧ s.store.path = path ∧
      s.files = before.foldl (fun t r ↦ r.change t) files ∧
      (s.store.snapshot = none → Retries schema s) ∧
      ∀ d, s.store.snapshot = some d → ∀ later, Keeps schema d s (after schema s later) := by
  have h := ofPath_coherent reader files path schema
  exact ⟨after_reader h before, after_path h before, after_files h before,
    retries (after_coherent h before), fun _ ↦ keeps (after_coherent h before)⟩

end Session

end GroupSearch
