namespace GroupSearch

theorem ok_bind {ε α β : Type} (a : α) (f : α → Except ε β) : Except.ok a >>= f = f a := rfl

theorem bind_eq_ok {ε α β : Type} {x : Except ε α} {f : α → Except ε β} {b : β} :
    x >>= f = .ok b ↔ ∃ a, x = .ok a ∧ f a = .ok b := by
  cases x with
  | error e => exact ⟨nofun, nofun⟩
  | ok a => exact ⟨fun h ↦ ⟨a, rfl, h⟩, fun ⟨_, ha, h⟩ ↦ Except.ok.inj ha ▸ h⟩

theorem mapError_eq_ok {ε ε' α : Type} {x : Except ε α} {f : ε → ε'} {a : α} :
    x.mapError f = .ok a ↔ x = .ok a := by
  cases x with
  | error e => exact ⟨nofun, nofun⟩
  | ok b =>
    exact ⟨fun h ↦ congrArg Except.ok (Except.ok.inj h),
      fun h ↦ congrArg Except.ok (Except.ok.inj h)⟩

/-- A computation that succeeds exactly with what is wanted, and whose errors are as expected. -/
structure Decides {ε α : Type} (wanted : α → Prop) (expected : ε → Prop) (x : Except ε α) :
    Prop where
  ok (a : α) : x = .ok a ↔ wanted a
  error (e : ε) : x = .error e → expected e

namespace Decides

variable {ε ε' α β : Type} {wanted : α → Prop} {expected : ε → Prop} {x : Except ε α}

theorem pure (a : α) : Decides (· = a) expected (.ok a : Except ε α) where
  ok _ := ⟨fun h ↦ (Except.ok.inj h).symm, congrArg Except.ok ∘ Eq.symm⟩
  error := nofun

theorem fail {e : ε} (hw : ∀ a, ¬ wanted a) (he : expected e) :
    Decides wanted expected (.error e) where
  ok a := ⟨nofun, fun h ↦ (hw a h).elim⟩
  error _ h := Except.error.inj h ▸ he

theorem congr {wanted' : α → Prop} (h : Decides wanted expected x)
    (hw : ∀ a, wanted a ↔ wanted' a) : Decides wanted' expected x where
  ok a := (h.ok a).trans (hw a)
  error := h.error

theorem weaken {expected' : ε → Prop} (h : Decides wanted expected x)
    (he : ∀ e, expected e → expected' e) : Decides wanted expected' x where
  ok := h.ok
  error e hx := he e (h.error e hx)

theorem mapError {expected' : ε' → Prop} {f : ε → ε'} (h : Decides wanted expected x)
    (hf : ∀ e, expected e → expected' (f e)) : Decides wanted expected' (x.mapError f) where
  ok a := mapError_eq_ok.trans (h.ok a)
  error e' he := by
    cases x with
    | ok a => cases he
    | error e =>
      cases he
      exact hf e (h.error e rfl)

theorem unique (h : Decides wanted expected x) {a b : α} (ha : wanted a) (hb : wanted b) : a = b :=
  Except.ok.inj (((h.ok a).2 ha).symm.trans ((h.ok b).2 hb))

theorem pureTo {a : α} (ha : wanted a) (hunique : ∀ b, wanted b → b = a) :
    Decides wanted expected (.ok a : Except ε α) :=
  (pure a).congr fun b ↦ ⟨fun h ↦ h ▸ ha, hunique b⟩

/-- A part of the computation reads a part of what is wanted as a whole. -/
theorem bindTo {f : α → Except ε β} {target : β → Prop} (hx : Decides wanted expected x)
    (hpart : ∀ b, target b → ∃ a, wanted a)
    (hf : ∀ a, wanted a → Decides target expected (f a)) :
    Decides target expected (x >>= f) where
  ok b := by
    rw [bind_eq_ok]
    constructor
    · rintro ⟨a, ha, hb⟩
      exact ((hf a ((hx.ok a).1 ha)).ok b).1 hb
    · intro hb
      obtain ⟨a, ha⟩ := hpart b hb
      exact ⟨a, (hx.ok a).2 ha, ((hf a ha).ok b).2 hb⟩
  error e h := by
    cases x with
    | error e' =>
      cases h
      exact hx.error e rfl
    | ok a => exact (hf a ((hx.ok a).1 rfl)).error e h

theorem bind {f : α → Except ε β} {wanted' : α → β → Prop} (hx : Decides wanted expected x)
    (hf : ∀ a, wanted a → Decides (wanted' a) expected (f a)) :
    Decides (fun b ↦ ∃ a, wanted a ∧ wanted' a b) expected (x >>= f) := by
  refine hx.bindTo (fun b ⟨a, ha, _⟩ ↦ ⟨a, ha⟩) fun a ha ↦ (hf a ha).congr fun b ↦ ⟨?_, ?_⟩
  · exact fun hb ↦ ⟨a, ha, hb⟩
  · rintro ⟨a', ha', hb⟩
    exact hx.unique ha' ha ▸ hb

theorem exists_error (h : Decides wanted expected x) (hn : ∀ a, ¬ wanted a) :
    ∃ e, x = .error e ∧ expected e := by
  cases x with
  | ok a => exact (hn a ((h.ok a).1 rfl)).elim
  | error e => exact ⟨e, rfl, h.error e rfl⟩

end Decides

end GroupSearch
