import GroupSearch.Outcome
import GroupSearch.Proofs.JsonText

namespace GroupSearch

open Value

theorem Limit.eq_of_count {cap cap' : Limit} (h : cap.count = cap'.count) : cap = cap' := by
  cases cap
  cases cap'
  simpa using h

theorem Atom.document_exact (a : Atom) : a.document.Exact := by
  cases a <;> simp [document]

theorem Atom.document_injective : Function.Injective Atom.document := by
  intro a b h
  cases a <;> cases b <;> simp [document] at h ⊢
  case field.field => exact ⟨h.1, h.2.2⟩
  case member.member => exact h
  case subgroup.subgroup => exact h
  case limit.limit => exact Limit.eq_of_count (by omega)

namespace Predicate

mutual

theorem document_exact (p : Predicate) : p.document.Exact := by
  match p with
  | .leaf a => exact a.document_exact
  | .all p ps | .any p ps =>
    simpa [document, document_exact p] using documents_exact ps
  | .not p => simp [document, document_exact p]

theorem documents_exact (ps : List Predicate) : ∀ v ∈ documents ps, v.Exact := by
  match ps with
  | [] => nofun
  | p :: ps => simpa [documents, document_exact p] using documents_exact ps

end

mutual

theorem document_inj {p q : Predicate} (h : p.document = q.document) : p = q := by
  match p with
  | .leaf a =>
    cases q with
    | leaf b => exact congrArg _ (Atom.document_injective h)
    | all | any | not => cases a <;> simp [document, Atom.document] at h
  | .all p ps =>
    cases q with
    | leaf b => cases b <;> simp [document, Atom.document] at h
    | any | not => simp [document] at h
    | all q qs =>
      simp only [document, record.injEq, list.injEq, List.cons.injEq, Prod.mk.injEq, and_true,
        true_and] at h
      rw [document_inj h.1, documents_inj h.2]
  | .any p ps =>
    cases q with
    | leaf b => cases b <;> simp [document, Atom.document] at h
    | all | not => simp [document] at h
    | any q qs =>
      simp only [document, record.injEq, list.injEq, List.cons.injEq, Prod.mk.injEq, and_true,
        true_and] at h
      rw [document_inj h.1, documents_inj h.2]
  | .not p =>
    cases q with
    | leaf b => cases b <;> simp [document, Atom.document] at h
    | all | any => simp [document] at h
    | not q =>
      simp only [document, record.injEq, List.cons.injEq, Prod.mk.injEq, and_true, true_and] at h
      rw [document_inj h]

theorem documents_inj {ps qs : List Predicate} (h : documents ps = documents qs) : ps = qs := by
  match ps with
  | [] =>
    cases qs with
    | nil => rfl
    | cons q qs => cases h
  | p :: ps =>
    cases qs with
    | nil => cases h
    | cons q qs =>
      obtain ⟨hp, hps⟩ := List.cons.inj h
      rw [document_inj hp, documents_inj hps]

end

end Predicate

namespace Outcome

theorem fields_exact (o : Outcome) : ∀ f ∈ o.fields, f.2.Exact := by
  cases o with
  | error f => simp [fields]
  | ok p =>
    have hp := p.document_exact
    cases hl : p.effectiveLimit <;> simp [fields, hp, hl]

theorem document_exact (echo : Option String) (o : Outcome) : (o.document echo).Exact := by
  refine .record fun f hf ↦ ?_
  rcases List.mem_append.1 hf with hf | hf
  · obtain ⟨q, -, rfl⟩ := List.mem_map.1 hf
    exact .text q
  · exact o.fields_exact f hf

theorem fields_injective : Function.Injective fields := by
  intro o o' h
  cases o with
  | error f =>
    cases o' with
    | ok p => simp [fields] at h
    | error f' =>
      simp only [fields, record.injEq, text.injEq, List.cons.injEq, Prod.mk.injEq, and_true,
        true_and] at h
      obtain ⟨kind, message⟩ := f
      obtain ⟨kind', message'⟩ := f'
      have hkind : kind = kind' := FailureKind.label_injective h.1
      have hmessage : message = message' := h.2
      rw [hkind, hmessage]
  | ok p =>
    cases o' with
    | error f => simp [fields] at h
    | ok q =>
      simp only [fields, List.cons.injEq, Prod.mk.injEq, true_and] at h
      rw [Predicate.document_inj h.2.1]

theorem exists_fields_eq (o : Outcome) : ∃ b rest, o.fields = ("ok", bool b) :: rest := by
  cases o with
  | error f => exact ⟨false, _, rfl⟩
  | ok p => exact ⟨true, _, rfl⟩

theorem document_inj {o o' : Outcome} {echo echo' : Option String}
    (h : o.document echo = o'.document echo') : o = o' ∧ echo = echo' := by
  obtain ⟨b, rest, hb⟩ := o.exists_fields_eq
  obtain ⟨b', rest', hb'⟩ := o'.exists_fields_eq
  have hfields := record.inj h
  cases echo with
  | none =>
    cases echo' with
    | none => exact ⟨fields_injective hfields, rfl⟩
    | some q => simp [hb] at hfields
  | some q =>
    cases echo' with
    | none => simp [hb'] at hfields
    | some q' =>
      obtain ⟨hquery, hrest⟩ := List.cons.inj hfields
      cases hquery
      exact ⟨fields_injective hrest, rfl⟩

/-- As JSON every outcome with every echoed query is told from all others. -/
theorem render_json_eq_iff {o o' : Outcome} {echo echo' : Option String} :
    o.render .json echo = o'.render .json echo' ↔ o = o' ∧ echo = echo' := by
  constructor
  · intro h
    exact document_inj (json_inj (o.document_exact echo) (o'.document_exact echo') h)
  · rintro ⟨rfl, rfl⟩
    rfl

end Outcome

end GroupSearch
