import GroupSearch.Proofs.Availability
import GroupSearch.Proofs.Resolution

namespace GroupSearch

theorem Directory.findAccounts_of_long {accounts : List Account} {reference : String} {n : Nat}
    (hn : Account.idNumeral? (Text.trim reference).toList = some n)
    (hid : ∀ a ∈ accounts, a.active = true → a.id ≠ (n : Int))
    (hlt : Text.mostDigits < (Text.trim reference).length) :
    findAccounts accounts reference = .error ⟨(Text.trim reference).length⟩ := by
  have hnil : activeIds accounts (fun a ↦ a.id == (n : Int)) = [] := by
    rw [List.eq_nil_iff_forall_not_mem]
    intro id hmem
    obtain ⟨a, ha, ⟨hactive, heq⟩, -⟩ := mem_activeIds.1 hmem
    exact hid a ha hactive (beq_iff_eq.1 heq)
  have hne : (Text.trim reference).isEmpty = false := by
    cases he : (Text.trim reference).isEmpty with
    | false => rfl
    | true =>
      rw [String.isEmpty_iff.1 he] at hn
      cases hn
  have hfault : Text.overlong? (Text.trim reference).length =
      some ⟨(Text.trim reference).length⟩ := Text.overlong?_eq_some_iff.2 ⟨hlt, rfl⟩
  rw [findAccounts, resolve, hne, if_neg Bool.false_ne_true, resolveTrimmed, hn]
  simp only [byNumber, hnil, hfault]
  rfl

/-- A clause with a number that is too long to be read: a limit, or the id of no account that is
active. -/
inductive Clause.Overlong (schema : Schema) (v : View) (cl : Clause) : Defect → Prop
  | limit {d : Defect} : cl.HasDefect d → Overlong schema v cl d
  | member {dir : Directory} {reference : String} {n : Nat} :
      cl.reference? schema = some (.account, reference) → v = .ok dir →
      Account.idNumeral? (Text.trim reference).toList = some n →
      (∀ a ∈ dir.accounts, a.active = true → a.id ≠ (n : Int)) →
      Text.mostDigits < (Text.trim reference).length →
      Overlong schema v cl (.overlong ⟨(Text.trim reference).length⟩)

theorem Clause.eq_of_reference? {schema : Schema} {cl : Clause} {reference : String}
    (h : cl.reference? schema = some (.account, reference)) :
    schema.has .member = true ∧ cl = .operator "member" reference := by
  unfold reference? at h
  split at h
  · split at h
    · next hs =>
      cases h
      exact ⟨hs, rfl⟩
    · cases h
  · split at h <;> cases h
  · cases h

theorem Clause.Overlong.escapes {schema : Schema} {v : View} {cl : Clause} {d : Defect}
    (h : cl.Overlong schema v d) (u : Unit) :
    (runFrom u ((v.compiler schema).clause cl)).1 = .error (.escaped d) := by
  cases h with
  | limit h => exact (v.compiler schema).clause_of_hasDefect u h
  | @member dir reference n hr hv hn hid hlt =>
    obtain ⟨hs, rfl⟩ := Clause.eq_of_reference? hr
    subst hv
    have hfound : View.accounts (.ok dir) reference =
        .error (.defect (.overlong ⟨(Text.trim reference).length⟩)) := by
      rw [View.accounts_of_ok, Directory.findAccounts_of_long hn hid hlt]
      rfl
    obtain ⟨t, ht⟩ := (View.compiler (.ok dir) schema).runFrom_operator .member reference u
    have happly : (runFrom t ((View.compiler (.ok dir) schema).hasMember reference)).1 =
        .error (.escaped (.overlong ⟨(Text.trim reference).length⟩)) := by
      unfold Compiler.hasMember
      rw [if_pos (by exact hs), runFrom_bind, Compiler.runFrom_ask]
      simp only [View.compiler, View.lookups_accounts, hfound]
    exact (congrArg Prod.fst ht).trans happly

namespace Session

variable {s : Session} {schema : Schema}

end Session

end GroupSearch
