import GroupSearch.Directory.Store
import GroupSearch.Proofs.Validity

namespace GroupSearch.Directory

def ActiveIdsPositive (d : Directory) : Prop := ∀ a ∈ d.accounts, a.active = true → 0 < a.id

instance (d : Directory) : Decidable d.ActiveIdsPositive :=
  inferInstanceAs (Decidable (∀ a ∈ d.accounts, a.active = true → 0 < a.id))

variable {v : Value} {d : Directory}

theorem positive_of_ofValue (h : ofValue v = .ok d) : ∀ a ∈ d.accounts, 0 < a.id := by
  obtain ⟨root, -, hd, -⟩ := ((ofValue_decides v).ok d).1 h
  intro a ha
  obtain ⟨i, hi⟩ := List.mem_iff_getElem?.1 ha
  obtain ⟨fields, hfields, -⟩ := hd.accounts.place hi
  exact hfields.positive

theorem activeIdsPositive_of_ofValue (h : ofValue v = .ok d) : d.ActiveIdsPositive :=
  fun a ha _ ↦ positive_of_ofValue h a ha

theorem distinct_of_ofValue (h : ofValue v = .ok d) : d.Distinct := by
  obtain ⟨root, -, -, hd⟩ := ((ofValue_decides v).ok d).1 h
  exact hd

theorem activeIdsPositive_of_readDirectory {t : FileTree} {reader : Yaml.Reader}
    {path : Path} (h : t.readDirectory reader path = .ok d) : d.ActiveIdsPositive := by
  simp only [FileTree.readDirectory, bind_eq_ok] at h
  obtain ⟨text, -, v, -, h⟩ := h
  exact activeIdsPositive_of_ofValue (mapError_eq_ok.1 h)

end GroupSearch.Directory
