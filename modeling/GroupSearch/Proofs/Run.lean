namespace GroupSearch

variable {ε σ α β : Type}

/-- What a computation comes to when it is started in a state, and the state behind it. -/
def runFrom (s : σ) (x : ExceptT ε (StateM σ) α) : Except ε α × σ := x.run.run s

variable {x : ExceptT ε (StateM σ) α} {f : α → ExceptT ε (StateM σ) β} {s s' : σ}

@[simp] theorem runFrom_pure (s : σ) (a : α) :
    runFrom s (pure a : ExceptT ε (StateM σ) α) = (.ok a, s) := rfl

theorem runFrom_get_bind (s : σ) (f : σ → ExceptT ε (StateM σ) β) :
    runFrom s (get >>= f) = runFrom s (f s) := rfl

theorem runFrom_mk_pure (s : σ) (r : Except ε α) :
    runFrom s (ExceptT.mk (pure r) : ExceptT ε (StateM σ) α) = (r, s) := rfl

theorem runFrom_bind (s : σ) (x : ExceptT ε (StateM σ) α) (f : α → ExceptT ε (StateM σ) β) :
    runFrom s (x >>= f) =
      match runFrom s x with
      | (.ok a, s') => runFrom s' (f a)
      | (.error e, s') => (.error e, s') := by
  change StateT.run (x >>= f).run s = _
  rw [ExceptT.run_bind]
  change (match StateT.run x.run s with | (a, s') => _) = _
  cases h : StateT.run x.run s with
  | mk a s' => cases a <;> simp [runFrom, h] <;> rfl

theorem runFrom_bind_eq_ok {b : β} :
    runFrom s (x >>= f) = (.ok b, s') ↔
      ∃ a t, runFrom s x = (.ok a, t) ∧ runFrom t (f a) = (.ok b, s') := by
  rw [runFrom_bind]
  rcases h : runFrom s x with ⟨e | a, t⟩ <;> simp [and_assoc]

theorem runFrom_bind_eq_error {e : ε} :
    runFrom s (x >>= f) = (.error e, s') ↔
      runFrom s x = (.error e, s') ∨
        ∃ a t, runFrom s x = (.ok a, t) ∧ runFrom t (f a) = (.error e, s') := by
  rw [runFrom_bind]
  rcases h : runFrom s x with ⟨e' | a, t⟩ <;> simp [and_assoc]

section Sequence

variable {g : β → ExceptT ε (StateM σ) α} {xs ys : List β} {vs ws : List α} {b : β} {a : α}

theorem runFrom_mapM_nil_eq_ok :
    runFrom s (([] : List β).mapM g) = (.ok vs, s') ↔ vs = [] ∧ s = s' := by
  rw [List.mapM_nil, runFrom_pure]
  simp [eq_comm]

theorem runFrom_mapM_cons_eq_ok :
    runFrom s ((b :: xs).mapM g) = (.ok vs, s') ↔
      ∃ a ws t, vs = a :: ws ∧ runFrom s (g b) = (.ok a, t) ∧
        runFrom t (xs.mapM g) = (.ok ws, s') := by
  simp only [List.mapM_cons, runFrom_bind_eq_ok, runFrom_pure, Prod.mk.injEq, Except.ok.injEq]
  constructor
  · rintro ⟨a, t, ha, ws, t', hs, rfl, rfl⟩
    exact ⟨a, ws, t, rfl, ha, hs⟩
  · rintro ⟨a, ws, t, rfl, ha, hs⟩
    exact ⟨a, t, ha, ws, s', hs, rfl, rfl⟩

theorem runFrom_mapM_append_eq_ok :
    runFrom s ((xs ++ ys).mapM g) = (.ok vs, s') ↔
      ∃ us ws t, vs = us ++ ws ∧ runFrom s (xs.mapM g) = (.ok us, t) ∧
        runFrom t (ys.mapM g) = (.ok ws, s') := by
  simp only [List.mapM_append, runFrom_bind_eq_ok, runFrom_pure, Prod.mk.injEq, Except.ok.injEq]
  constructor
  · rintro ⟨us, t, hx, ws, t', hy, rfl, rfl⟩
    exact ⟨us, ws, t, rfl, hx, hy⟩
  · rintro ⟨us, ws, t, rfl, hx, hy⟩
    exact ⟨us, t, hx, ws, s', hy, rfl, rfl⟩

theorem length_of_runFrom_mapM (h : runFrom s (xs.mapM g) = (.ok vs, s')) :
    vs.length = xs.length := by
  induction xs generalizing s vs with
  | nil => rw [(runFrom_mapM_nil_eq_ok.1 h).1]; rfl
  | cons b xs ih =>
    obtain ⟨a, ws, t, rfl, -, hs⟩ := runFrom_mapM_cons_eq_ok.1 h
    rw [List.length_cons, List.length_cons, ih hs]

theorem runFrom_mapM_append_eq_ok_append (hv : vs.length = xs.length) :
    runFrom s ((xs ++ ys).mapM g) = (.ok (vs ++ ws), s') ↔
      ∃ t, runFrom s (xs.mapM g) = (.ok vs, t) ∧ runFrom t (ys.mapM g) = (.ok ws, s') := by
  rw [runFrom_mapM_append_eq_ok]
  constructor
  · rintro ⟨us, ws', t, h, hx, hy⟩
    obtain ⟨rfl, rfl⟩ := List.append_inj h (hv.trans (length_of_runFrom_mapM hx).symm)
    exact ⟨t, hx, hy⟩
  · rintro ⟨t, hx, hy⟩
    exact ⟨vs, ws, t, rfl, hx, hy⟩

end Sequence

end GroupSearch
