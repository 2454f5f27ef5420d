import GroupSearch.Proofs.Resolution
import GroupSearch.Proofs.Snapshot
import Mathlib.Control.Monad.Basic

namespace GroupSearch

namespace Formula

variable {α : Type}

theorem length_walk_conj (p : Formula α) (ps : List (Formula α)) :
    (conj p ps).walk.length ≤ p.walk.length + (walkAll ps).length + 1 := by
  cases ps <;> simp [conj, walk, walkAll]

theorem length_walk_disj (p : Formula α) (ps : List (Formula α)) :
    (disj p ps).walk.length ≤ p.walk.length + (walkAll ps).length + 1 := by
  cases ps <;> simp [disj, walk, walkAll]

mutual

theorem length_walk_collapse (p : Formula α) : p.collapse.walk.length ≤ p.walk.length := by
  match p with
  | .leaf a => exact Nat.le_refl _
  | .all p ps =>
    have hp := length_walk_collapse p
    have hps := length_walkAll_collapseAll ps
    have hc := length_walk_conj p.collapse (collapseAll ps)
    simp only [collapse, walk, List.length_cons, List.length_append] at hc ⊢
    omega
  | .any p ps =>
    have hp := length_walk_collapse p
    have hps := length_walkAll_collapseAll ps
    have hc := length_walk_disj p.collapse (collapseAll ps)
    simp only [collapse, walk, List.length_cons, List.length_append] at hc ⊢
    omega
  | .not p =>
    have hp := length_walk_collapse p
    simp only [collapse, walk, List.length_cons]
    omega

theorem length_walkAll_collapseAll (ps : List (Formula α)) :
    (walkAll (collapseAll ps)).length ≤ (walkAll ps).length := by
  match ps with
  | [] => exact Nat.le_refl _
  | p :: ps =>
    have hp := length_walk_collapse p
    have hps := length_walkAll_collapseAll ps
    simp only [collapseAll, walkAll, List.length_append]
    omega

end

theorem collapse_ne {p q : Formula α} (h : p.walk.length < q.walk.length) : p.collapse ≠ q := by
  rintro rfl
  exact Nat.not_le.2 h (length_walk_collapse p)

def Joins (q : Formula α) : Prop :=
  ∀ p ps, q = .all p ps ∨ q = .any p ps → 2 ≤ q.operands.length

theorem joins_all (p p' : Formula α) (ps : List (Formula α)) : Joins (.all p (p' :: ps)) := by
  intro _ _ _
  simp [operands]

theorem joins_any (p p' : Formula α) (ps : List (Formula α)) : Joins (.any p (p' :: ps)) := by
  intro _ _ _
  simp [operands]

mutual

theorem joins_of_collapse_eq (p : Formula α) (h : p.collapse = p) : ∀ q ∈ p.walk, q.Joins := by
  match p with
  | .leaf a =>
    rw [walk, List.forall_mem_singleton]
    exact nofun
  | .not p =>
    rw [walk, List.forall_mem_cons]
    exact ⟨nofun, joins_of_collapse_eq p (Formula.not.inj h)⟩
  -- A single operand would stand in place of the connective, with fewer nodes.
  | .all p [] =>
    have hc : p.collapse = .all p [] := h
    exact (collapse_ne (by simp [walk, walkAll]) hc).elim
  | .any p [] =>
    have hc : p.collapse = .any p [] := h
    exact (collapse_ne (by simp [walk, walkAll]) hc).elim
  | .all p (p' :: ps) =>
    obtain ⟨hp, hps⟩ := Formula.all.inj h
    rw [walk, List.forall_mem_cons, List.forall_mem_append]
    exact ⟨joins_all p p' ps, joins_of_collapse_eq p hp, joins_of_collapseAll_eq (p' :: ps) hps⟩
  | .any p (p' :: ps) =>
    obtain ⟨hp, hps⟩ := Formula.any.inj h
    rw [walk, List.forall_mem_cons, List.forall_mem_append]
    exact ⟨joins_any p p' ps, joins_of_collapse_eq p hp, joins_of_collapseAll_eq (p' :: ps) hps⟩

theorem joins_of_collapseAll_eq (ps : List (Formula α)) (h : collapseAll ps = ps) :
    ∀ q ∈ walkAll ps, q.Joins := by
  match ps with
  | [] => exact nofun
  | p :: ps =>
    obtain ⟨hp, hps⟩ := List.cons.inj h
    rw [walkAll, List.forall_mem_append]
    exact ⟨joins_of_collapse_eq p hp, joins_of_collapseAll_eq ps hps⟩

end

end Formula

variable {schema : Schema} {d : Directory}

/-- What may be relied on at a node of a predicate over a directory. -/
structure Predicate.NodeSound (schema : Schema) (d : Directory) (q : Predicate) : Prop where
  operands (p : Predicate) (ps : List Predicate) :
    q = .all p ps ∨ q = .any p ps → 2 ≤ q.operands.length
  field (name value : String) : q = .leaf (.field name value) →
    name ∈ ["uuid", "name", "inname", "description"] ∧
      (name = "inname" ∨ name = "description" → value ≠ "")
  limit (cap : Limit) : q = .leaf (.limit cap) → 1 ≤ cap.count ∧ cap.count ≤ 2147483647
  member (id : Int) : q = .leaf (.member id) →
    schema.has .member = true ∧ ∃ a ∈ d.accounts, a.active = true ∧ a.id = id
  subgroup (uuid : String) : q = .leaf (.subgroup uuid) →
    schema.has .subgroup = true ∧ ∃ g ∈ d.groups, g.uuid = uuid

theorem Predicate.Sound.nodes {p : Predicate} (h : p.Sound schema (.ok d)) :
    ∀ q ∈ p.walk, Predicate.NodeSound schema d q := by
  intro q hq
  have hr (a : Atom) (ha : q = .leaf a) : a.Resolved schema (.ok d) :=
    h.resolved a (Formula.mem_leaves_of_mem_walk (ha ▸ hq))
  refine ⟨p.joins_of_collapse_eq h.collapse_eq q hq, ?_, ?_, ?_, ?_⟩
  · intro name value hf
    obtain ⟨hn, hv⟩ := hr _ hf
    refine ⟨hn, fun hs ↦ hv ?_⟩
    rcases hs with rfl | rfl <;> rfl
  · intro cap hl
    exact ⟨cap.positive, hr _ hl⟩
  · intro id hm
    obtain ⟨hs, _, ⟨⟩, ha⟩ := hr _ hm
    exact ⟨hs, ha⟩
  · intro uuid hg
    obtain ⟨hs, _, ⟨⟩, hg⟩ := hr _ hg
    exact ⟨hs, hg⟩

namespace Session

theorem query_of_compile {s : Session} (hs : s.Coherent) {text : Option String} {p : Predicate}
    (h : (runFrom s ((compiler schema).compile text)).1 = .ok (.ok p)) :
    (runFrom () ((s.view.compiler schema).query text)).1 = .ok p := by
  rw [(compile_eq hs text).1, Compiler.compile_eq_settled] at h
  exact Compiler.settled_eq_ok.1 h

/-- What a query compiles to over a directory in memory, however often it was asked before and
whether it would be accepted from a file or not, is sound at every node. -/
theorem compiled_nodes_sound (schema : Schema) (d : Directory) (before : List Request)
    (text : Option String) (p : Predicate)
    (h : (runFrom (after schema (ofDirectory d) before) ((compiler schema).compile text)).1 =
      .ok (.ok p)) : ∀ q ∈ p.walk, Predicate.NodeSound schema d q := by
  have hq := query_of_compile (after_coherent (ofDirectory_coherent d) before) h
  rw [after_ofDirectory_view] at hq
  exact (Compiler.sound_query (Prod.ext hq rfl)).nodes

def looseDirectory : Directory :=
  ⟨[⟨7, some "Ann", none, none, true⟩, ⟨9, some "ann", none, none, false⟩,
      ⟨-3, some "ann", none, none, true⟩],
    [⟨"u1", "Staff", none, none, false, [], []⟩, ⟨"u1", "staff", none, none, false, [], []⟩]⟩

/-- Several users under one reference, in a disjunction of their own. -/
theorem compiled_nodes_sound_loose :
    let p : Predicate := .all (.any (.leaf (.member (-3))) [.leaf (.member 7)])
      [.any (.leaf (.limit ⟨5, by decide⟩)) [.not (.leaf (.subgroup "u1"))],
        .leaf (.field "name" "")]
    (runFrom (after .v5 (ofDirectory looseDirectory) [.groups]) ((compiler .v5).compile
      (some "member:ANN (limit:5 OR -subgroup:u1) inname:\"\""))).1 = .ok (.ok p) ∧
      ∀ q ∈ p.walk, Predicate.NodeSound .v5 looseDirectory q := by
  intro p
  have h : (runFrom (after .v5 (ofDirectory looseDirectory) [.groups]) ((compiler .v5).compile
      (some "member:ANN (limit:5 OR -subgroup:u1) inname:\"\""))).1 = .ok (.ok p) := by
    decide +kernel
  exact ⟨h, compiled_nodes_sound .v5 looseDirectory [.groups] _ p h⟩

end Session

end GroupSearch
