import GroupSearch.Document.Yaml.Reader
import GroupSearch.Proofs.Decision
import GroupSearch.Proofs.Layering

namespace GroupSearch

namespace Value

/-- Neither the value nor a record that keys lead to has a key twice. -/
inductive DistinctKeys : Value → Prop
  | plain {v : Value} : v.isRecord = false → v.DistinctKeys
  | record {fields : Fields} : (fields.map Prod.fst).Nodup → (∀ f ∈ fields, f.2.DistinctKeys) →
      (record fields).DistinctKeys

theorem DistinctKeys.addField {key : String} {v : Value} {fields : Fields} (hv : v.DistinctKeys)
    (h : (Value.record fields).DistinctKeys) :
    (Value.record (addField key v fields)).DistinctKeys := by
  unfold Value.addField
  split
  case isTrue => exact h
  case isFalse hkey =>
    cases h with
    | plain hr => cases hr
    | record hkeys hfields =>
      have hnew : key ∉ fields.map Prod.fst := by
        intro hmem
        obtain ⟨f, hf, rfl⟩ := List.mem_map.1 hmem
        exact hkey (List.any_eq_true.2 ⟨f, hf, beq_self_eq_true f.1⟩)
      exact .record (List.nodup_cons.2 ⟨hnew, hkeys⟩) (List.forall_mem_cons.2 ⟨hv, hfields⟩)

end Value

namespace Yaml

open Value

namespace Evaluation

def Plain (s : Evaluation) : Prop := ∀ v, some v ∈ s.met → v.isRecord = false

def Step.Plain (x : Step) : Prop := ∀ s, x = .ok s → s.Plain

theorem Step.Plain.bind {x : Step} {f : Evaluation → Step} (hx : x.Plain)
    (hf : ∀ s, s.Plain → (f s).Plain) : Step.Plain (x >>= f) := by
  intro s h
  obtain ⟨a, ha, hs⟩ := bind_eq_ok.1 h
  exact hf a (hx a ha) s hs

variable {s : Evaluation}

end Evaluation

end Yaml

end GroupSearch
