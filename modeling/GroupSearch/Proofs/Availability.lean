import GroupSearch.Proofs.Provenance
import GroupSearch.Proofs.Snapshot

namespace GroupSearch

/-- The answer is the one that the view gives. -/
def LookupEvent.AnsweredBy (v : View) (bound : Int) : LookupEvent → Prop
  | accounts reference answer => answer = v.accounts reference
  | group uuid answer => answer = v.group uuid
  | suggestions name answer => answer = v.suggestions bound name

/-- Without a directory, lookups that need it fail for the reason that there is none. -/
theorem LookupEvent.AnsweredBy.failure?_eq {v : View} {bound : Int} {e : LookupEvent}
    {error : LookupError} (h : e.AnsweredBy v bound) (hv : v = .error error)
    (hr : e.reads = true) : e.failure? = some error := by
  subst hv
  cases e with
  | accounts reference answer =>
    have hb : (Text.trim reference).isEmpty = false := by simpa [reads] using hr
    have ha : View.accounts (.error error) reference = .error error := if_neg (by simp [hb])
    obtain rfl : answer = .error error := h.trans ha
    rfl
  | group uuid answer =>
    obtain rfl : answer = .error error := h
    rfl
  | suggestions name answer =>
    have hb : (Text.trim name).isEmpty = false := by simpa [reads] using hr
    have ha : View.suggestions (.error error) bound name = .error error :=
      if_neg (by simp [hb])
    obtain rfl : answer = .error error := h.trans ha
    rfl

namespace Session

variable {α : Type} {s : Session} {schema : Schema}

def Answered (bound : Int) (s : Session) (t : Session × List LookupEvent) (u : Unit) : Prop :=
  Tracks s t u ∧ ∀ e ∈ t.2, e.AnsweredBy s.view bound

theorem record_answered {reads : Bool} {bound : Int} {x : Answer Session α}
    {f : View → Except LookupError α} {event : Except LookupError α → LookupEvent}
    (h : Answers reads x f) (he : ∀ a, (event a).reads = reads) (s : Session)
    (hb : (event (f s.view)).AnsweredBy s.view bound) :
    Alike (Answered bound s) (Lookups.record event x) (ExceptT.mk (Pure.pure (f s.view))) := by
  rintro ⟨t, trace⟩ u ⟨ht, hes⟩
  obtain ⟨hv, ht'⟩ := h.tracks he s (t, trace) u ht
  have hx : (runFrom t x).1 = f s.view := hv
  refine ⟨hv, ht', ?_⟩
  change ∀ e ∈ trace ++ [event (runFrom t x).1], _
  rw [hx]
  exact List.forall_mem_append.2 ⟨hes, List.forall_mem_singleton.2 hb⟩

theorem lookups_answered (bound : Int) (s : Session) :
    (lookups bound).traced.Simulates (Answered bound s) (s.view.lookups bound) := by
  have htracks := lookups_track bound s
  unfold lookups Lookups.traced View.lookups at *
  constructor
  · intro reference
    exact record_answered (findAccounts_answers reference) (fun _ ↦ by rw [LookupEvent.reads]) s rfl
  · intro uuid
    have hg : Alike (Answered bound s) (Lookups.record (.group uuid) (group? uuid))
        (ExceptT.mk (Pure.pure (s.view.group uuid))) :=
      record_answered (group_answers uuid) (fun _ ↦ by rw [LookupEvent.reads]) s rfl
    exact hg.map
  · intro name
    exact record_answered (suggest_answers bound name) (fun _ ↦ by rw [LookupEvent.reads]) s rfl
  · rintro r t u ⟨ht, hes⟩
    exact ⟨htracks.note r t u ht, hes⟩

/-- The lookups of a compilation are answered by the view, and they tell what it comes to. -/
theorem compile_told (schema : Schema) (hs : s.Coherent) (query : Option String) :
    ∃ es, (Request.compile query).needs schema s = es.any LookupEvent.reads ∧
      (∀ e ∈ es, e.AnsweredBy s.view defaultSuggestions) ∧
      Provenance ((compiler schema).OwnDefect ((compiler schema).noted s query) query)
        (runFrom s ((compiler schema).compile query)).1 es := by
  let run := runFrom (s, []) ((tracer schema).compile query)
  have hanswered : ∀ e ∈ run.2.2, e.AnsweredBy s.view defaultSuggestions :=
    (Compiler.compile_alike (lookups_answered defaultSuggestions s) query (s, []) ()
      ⟨.refl hs, nofun⟩).2.2
  have houtcome : run.1 = (runFrom s ((compiler schema).compile query)).1 :=
    (Compiler.compile_alike (Lookups.traced_simulates _) query (s, []) s rfl).1
  have hp := (compiler schema).compile_provenance s query
  exact ⟨run.2.2, rfl, hanswered, houtcome ▸ hp⟩

/-- A compilation that needs a directory there is none of comes to what the missing of it leads
to. -/
theorem reply_of_view_error {query : Option String} {error : LookupError} (hs : s.Coherent)
    (hv : s.view = .error error) (hn : (Request.compile query).needs schema s = true) :
    ∃ referent, s.reply schema (.compile query) =
      .outcome (Compiler.settled (.error (error.stop referent))) := by
  obtain ⟨es, hneeds, hanswered, hp⟩ := compile_told schema hs query
  obtain ⟨e, he, hr⟩ := List.any_eq_true.1 (hneeds ▸ hn)
  have hf : e.failure? = some error := (hanswered e he).failure?_eq hv hr
  refine ⟨e.referent, ?_⟩
  rw [reply, serve_compile]
  cases error with
  | unavailable reason => exact congrArg Reply.outcome (hp.reported he hf)
  | defect d => exact congrArg Reply.outcome ((hp.escaped d).2 (.inl ⟨e, he, hf⟩))

/-- What a compilation that needs the directory comes to while no directory has been read, told from
the state of the file. -/
structure TellsFile (schema : Schema) (s : Session) (reader : Yaml.Reader) (path : Path)
    (query : Option String) : Prop where
  unavailable {reason : String} : s.files.Unusable reader path reason → ∃ referent : Referent,
    s.reply schema (.compile query) = .outcome (.ok (.error
      ⟨.resolverUnavailable, s!"Cannot resolve {referent.noun}: {reason}"⟩)) ∧
    (s.next schema (.compile query)).store = .ofPath reader path
  undecodable : s.files.Undecodable path →
    s.reply schema (.compile query) = .outcome (.error .undecodable) ∧
    (s.next schema (.compile query)).store = .ofPath reader path
  unvalued {fault : Yaml.ScalarFault} : s.files.Holds reader path (.error (.scalar fault)) →
    s.reply schema (.compile query) = .outcome (.error (.scalar fault)) ∧
    (s.next schema (.compile query)).store = .ofPath reader path
  blank {v : Value} : s.files.Holds reader path (.ok v) → v.isBlank = true →
    s.reply schema (.compile query) = (ofDirectory ⟨[], []⟩).reply schema (.compile query) ∧
    (s.next schema (.compile query)).store.snapshot = some ⟨[], []⟩
  states : path.hasNull = false →
    (∃ reason, s.files.Unusable reader path reason) ∨ s.files.Undecodable path ∨
      (∃ fault, s.files.Holds reader path (.error (.scalar fault))) ∨
      ∃ v, s.files.Holds reader path (.ok v) ∧ (v.isBlank = true ∨ ∃ d, Directory.ofValue v = .ok d)

/-- A file that cannot be read, parsed or accepted makes the directory unavailable, and the failed
attempt leaves nothing behind. Of all other files, one whose bytes are no text lets a defect through
and one with a blank root is taken for an empty directory. -/
theorem unusable_file_reported (reader : Yaml.Reader) (files : FileTree) (path : Path)
    (schema : Schema) (before : List Request) (query : Option String)
    (hs : (after schema (ofPath reader files path schema) before).store.snapshot = none)
    (hn : (Request.compile query).needs schema
      (after schema (ofPath reader files path schema) before) = true) :
    TellsFile schema (after schema (ofPath reader files path schema) before) reader path query := by
  have hstart := ofPath_coherent reader files path schema
  have hc : (after schema (ofPath reader files path schema) before).Coherent :=
    after_coherent hstart before
  have hreader : (after schema (ofPath reader files path schema) before).store.reader = reader :=
    after_reader hstart before
  have hpath : (after schema (ofPath reader files path schema) before).store.path = path :=
    after_path hstart before
  generalize after schema (ofPath reader files path schema) before = s at *
  obtain rfl : s.store.reader = reader := hreader
  obtain rfl : s.store.path = path := hpath
  have hr : Retries schema s := retries hc hs
  have hview := view_of_no_snapshot hs
  have hfails {e : LoadError} (he : s.files.readDirectory s.store.reader s.store.path = .error e) :
      (∃ referent, s.reply schema (.compile query) = .outcome
        (Compiler.settled (.error ((e.lookupError s.store.path).stop referent)))) ∧
      (s.next schema (.compile query)).store = .ofPath s.store.reader s.store.path := by
    rw [he] at hview
    exact ⟨reply_of_view_error hc hview hn, hr.fails _ e hn he⟩
  constructor
  case unavailable =>
    intro reason h
    obtain ⟨e, he, hl⟩ := h.readDirectory
    obtain ⟨⟨referent, hreply⟩, hstore⟩ := hfails he
    rw [hl] at hreply
    exact ⟨referent, hreply, hstore⟩
  case undecodable =>
    intro h
    obtain ⟨⟨referent, hreply⟩, hstore⟩ := hfails (FileTree.readDirectory_of_undecodable h)
    exact ⟨hreply, hstore⟩
  case unvalued =>
    intro fault h
    have he : s.files.readDirectory s.store.reader s.store.path =
        .error (.unreadable (.scalar fault)) :=
      FileTree.readDirectory_of_holds h
    obtain ⟨⟨referent, hreply⟩, hstore⟩ := hfails he
    exact ⟨hreply, hstore⟩
  case blank =>
    intro v h hv
    have hd := FileTree.readDirectory_of_isBlank h hv
    constructor
    · refine reply_eq_of_view hc (ofDirectory_coherent _) ?_ _
      rw [hview, hd]
      rfl
    · rw [next_unread hc hs, hn, hd]
      rfl
  case states => exact s.files.file_states s.store.reader

/-- A folder in the place of the file. -/
theorem unusable_file_reported_folder :
    let path : Path := ⟨"", ["d.yml"]⟩
    let s := after .v5 (ofPath Yaml.read .empty path .v5) [.write ["d.yml"] .folder]
    let query := some "name:a member:ann"
    let reason := s!"Cannot read directory {path}: {(FileError.mk .isFolder path).message}"
    s.store.snapshot = none ∧ (Request.compile query).needs .v5 s = true ∧
      s.files.content path = .error .isFolder ∧
      (∃ referent : Referent, s.reply .v5 (.compile query) = .outcome (.ok (.error
        ⟨.resolverUnavailable, s!"Cannot resolve {referent.noun}: {reason}"⟩))) ∧
      (s.next .v5 (.compile query)).store = .ofPath Yaml.read path := by
  intro path s query reason
  have hs : s.store.snapshot = none := rfl
  have hn : (Request.compile query).needs .v5 s = true := by decide +kernel
  have hc : (FileTree.empty.put ["d.yml"] .folder).content ⟨"", ["d.yml"]⟩ = .error .isFolder := rfl
  obtain ⟨referent, hreply, hstore⟩ :=
    (unusable_file_reported Yaml.read .empty path .v5 [.write ["d.yml"] .folder] query
      hs hn).unavailable (.file hc nofun)
  exact ⟨hs, hn, hc, ⟨referent, hreply⟩, hstore⟩

/-- A byte that is no text: the directory is not reported as unavailable. -/
theorem undecodable_file_escapes :
    let files : FileTree := ⟨[(["d.yml"], .file ⟨#[255]⟩)]⟩
    let path : Path := ⟨"", ["d.yml"]⟩
    let s := ofPath Yaml.read files path .v5
    let query := some "member:ann"
    ¬ files.HoldsDirectory Yaml.read path ∧ (Request.compile query).needs .v5 s = true ∧
      s.reply .v5 (.compile query) = .outcome (.error .undecodable) ∧
      ¬ ∃ f : Failure, s.reply .v5 (.compile query) = .outcome (.ok (.error f)) := by
  intro files path s query
  have hc : FileTree.content ⟨[(["d.yml"], .file ⟨#[255]⟩)]⟩ ⟨"", ["d.yml"]⟩ = .ok ⟨#[255]⟩ := rfl
  have hu : String.fromUTF8? ⟨#[255]⟩ = none := by decide +kernel
  have hn : (Request.compile query).needs .v5 s = true := by decide +kernel
  have hv : s.view = .error (.defect .undecodable) := by
    rw [view_of_no_snapshot rfl]
    have hd : files.readDirectory Yaml.read path = .error .undecodable :=
      FileTree.readDirectory_of_undecodable ⟨_, hc, hu⟩
    change (files.readDirectory Yaml.read path).mapError _ = _
    rw [hd]
    rfl
  obtain ⟨referent, hreply⟩ := reply_of_view_error (ofPath_coherent Yaml.read files path .v5) hv hn
  refine ⟨?_, hn, hreply, ?_⟩
  · rintro ⟨v, ⟨bytes, text, hc', hu', -⟩, -⟩
    cases hc.symm.trans hc'
    cases hu.symm.trans hu'
  · rintro ⟨f, hf⟩
    cases hreply.symm.trans hf

end Session

end GroupSearch
