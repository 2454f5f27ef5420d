import GroupSearch.Proofs.Acceptance
import GroupSearch.Proofs.SelfReference
import GroupSearch.Proofs.Snapshot

namespace GroupSearch

variable {schema : Schema} {v : View}

namespace View

theorem rebuilds_of_resolved {a : Atom} (h : a.Resolved schema v)
    (hpos : ∀ d, v = .ok d → d.ActiveIdsPositive) : (v.compiler schema).Rebuilds a := by
  cases a with
  | field name value => exact Compiler.rebuilds_field _ h.1 h.2
  | visibleToAll => exact Compiler.rebuilds_visibleToAll _
  | limit cap => exact Compiler.rebuilds_limit _ h
  | member id =>
    obtain ⟨hs, d, rfl, a, ha, hactive, rfl⟩ := h
    obtain ⟨ids, hids, hmem⟩ := Directory.findAccounts_id ha hactive (hpos d rfl a ha hactive)
    refine Compiler.rebuilds_member _ hs fun s ↦ ⟨ids, s, ?_, idSet_eq_singleton hmem⟩
    rw [View.compiler, lookups_accounts, accounts_of_ok, hids]
    rfl
  | subgroup uuid =>
    obtain ⟨hs, d, rfl, g, hg, rfl⟩ := h
    obtain ⟨g', hg', huuid⟩ := Directory.get?_of_mem hg
    refine Compiler.rebuilds_subgroup _ hs fun s ↦ .listed (t := s) ?_ huuid
    rw [View.compiler, lookups_group, View.group]
    exact congrArg (fun found ↦ (Except.ok found, s)) hg'

theorem query_expression (hpos : ∀ d, v = .ok d → d.ActiveIdsPositive) {text : Option String}
    {p : Predicate} (h : (runFrom () ((v.compiler schema).query text)).1 = .ok p) :
    (runFrom () ((v.compiler schema).query (some p.expression))).1 = .ok p := by
  have hp : p.Sound schema v := Compiler.sound_query (Prod.ext h rfl)
  have hw : ∀ a ∈ p.leaves, a.Writable := fun a ha ↦ by
    refine Atom.writable_of_fieldNames fun name value he ↦ ?_
    have hr := hp.resolved a ha
    rw [he] at hr
    exact hr.1
  obtain ⟨t, ht⟩ := Compiler.query_expression _ p hw
    (fun a ha ↦ rebuilds_of_resolved (hp.resolved a ha) hpos) ()
  rw [ht, hp.collapse_eq]

end View

namespace Session

/-- A session at its start: over a directory in memory, or over a file. -/
inductive Starts (schema : Schema) : Session → Prop
  | memory {d : Directory} : d.ActiveIdsPositive → Starts schema (ofDirectory d)
  | file (reader : Yaml.Reader) (files : FileTree) (path : Path) :
    Starts schema (ofPath reader files path schema)

def Positive (s : Session) : Prop := ∀ d, s.store.snapshot = some d → d.ActiveIdsPositive

variable {s : Session}

theorem Positive.of_view (h : s.Positive) {d : Directory} (hd : s.view = .ok d) :
    d.ActiveIdsPositive := by
  cases hs : s.store.snapshot with
  | some d' =>
    rw [view_of_snapshot hs] at hd
    cases hd
    exact h d hs
  | none =>
    rw [view_of_no_snapshot hs] at hd
    exact Directory.activeIdsPositive_of_readDirectory (mapError_eq_ok.1 hd)

theorem Positive.next (h : s.Positive) (hc : s.Coherent) (r : Request) :
    (s.next schema r).Positive := by
  intro d hd
  rw [(served hc r).snapshot] at hd
  split at hd
  · cases hv : s.view with
    | error e =>
      rw [hv] at hd
      cases hd
    | ok d' =>
      rw [hv] at hd
      cases hd
      exact h.of_view hv
  · exact h d hd

theorem Positive.after (h : s.Positive) (hc : s.Coherent) (rs : List Request) :
    (after schema s rs).Positive := by
  induction rs generalizing s with
  | nil => exact h
  | cons r rs ih => exact ih (h.next hc r) (served hc r).coherent

theorem Starts.coherent (h : Starts schema s) : s.Coherent := by
  cases h with
  | memory hd => exact ofDirectory_coherent _
  | file reader files path => exact ofPath_coherent reader files path schema

theorem Starts.positive (h : Starts schema s) : s.Positive := by
  cases h with
  | memory hd =>
    rintro d ⟨⟩
    exact hd
  | file reader files path => exact nofun

end Session

end GroupSearch
