import GroupSearch.Document.Value

namespace GroupSearch.Value

def isRecord : Value → Bool
  | record _ => true
  | _ => false

/-- The value behind a path of keys, each of which leads into a record. -/
def at? : Value → List String → Option Value
  | v, [] => some v
  | record fields, key :: path => (field? fields key).bind (·.at? path)
  | _, _ :: _ => none

variable {v w upper : Value} {key : String} {path : List String}

theorem record_or_not (v : Value) : (∃ fields, v = record fields) ∨ v.isRecord = false := by
  cases v with
  | record fields => exact .inl ⟨fields, rfl⟩
  | null | bool | int | real | other | text | list => exact .inr rfl

@[simp] theorem at?_nil (v : Value) : v.at? [] = some v := by cases v <;> rfl

@[simp] theorem at?_record_cons (fields : Fields) (key : String) (path : List String) :
    (record fields).at? (key :: path) = (field? fields key).bind (·.at? path) := rfl

theorem at?_cons_of_not_record (h : v.isRecord = false) (key : String) (path : List String) :
    v.at? (key :: path) = none := by
  cases v with
  | record => cases h
  | null | bool | int | real | other | text | list => rfl

theorem at?_append (v : Value) (front behind : List String) :
    v.at? (front ++ behind) = (v.at? front).bind (·.at? behind) := by
  induction front generalizing v with
  | nil => rw [List.nil_append, at?_nil, Option.bind_some]
  | cons key front ih =>
    rcases v.record_or_not with ⟨fields, rfl⟩ | hv
    · simp only [List.cons_append, at?_record_cons, Option.bind_assoc]
      exact congrArg _ (funext ih)
    · rw [List.cons_append, at?_cons_of_not_record hv, at?_cons_of_not_record hv, Option.bind_none]

theorem merge_of_not_record (h : v.isRecord = false ∨ upper.isRecord = false) :
    merge v upper = upper := by
  cases v with
  | null | bool | int | real | other | text | list => cases upper <;> rfl
  | record =>
    cases upper with
    | null | bool | int | real | other | text | list => rfl
    | record => simp [isRecord] at h

theorem field?_mergeFields (fields base : Fields) (key : String) :
    field? (mergeFields fields base) key =
      (field? base key).map fun v ↦ ((field? fields key).map (merge v)).getD v := by
  induction base with
  | nil => rfl
  | cons f base ih =>
    obtain ⟨k, v⟩ := f
    by_cases hk : key = k
    · subst hk
      cases hf : field? fields key <;> simp [mergeFields, hf] <;> simp [field?]
    · have hb : (key == k) = false := beq_false_of_ne hk
      simpa [mergeFields, field?, List.lookup_cons, hb] using ih

theorem field?_filter (p : String → Bool) (fields : Fields) (key : String) :
    field? (fields.filter fun f ↦ p f.1) key = if p key then field? fields key else none := by
  induction fields with
  | nil => simp [field?]
  | cons f fields ih =>
    obtain ⟨k, v⟩ := f
    by_cases hk : key = k
    · subst hk
      cases hp : p key with
      | true => simp [field?, hp]
      | false => simpa [hp] using ih
    · have hb : (key == k) = false := beq_false_of_ne hk
      cases hp : p k <;> simpa [field?, List.lookup_cons, hp, hb] using ih

theorem any_key_eq_isSome (fields : Fields) (key : String) :
    fields.any (fun f ↦ f.1 == key) = (field? fields key).isSome := by
  rw [Bool.eq_iff_iff, List.any_eq_true, field?, List.lookup_isSome_iff]
  simp only [Bool.beq_comm (a := key)]

/-- Under every key of records, what is there is laid over what is there below. -/
theorem at?_merge_cons (base fields : Fields) (key : String) (path : List String) :
    (merge (record base) (record fields)).at? (key :: path) =
      (Option.merge merge (field? base key) (field? fields key)).bind (·.at? path) := by
  let added := fields.filter fun f ↦ !base.any fun b ↦ b.1 == f.1
  have hadded : field? added key =
      if (field? base key).isSome then none else field? fields key := by
    rw [field?_filter (fun k ↦ !base.any fun b ↦ b.1 == k), any_key_eq_isSome]
    cases field? base key <;> rfl
  have hfield : field? (mergeFields fields base ++ added) key =
      Option.merge merge (field? base key) (field? fields key) := by
    rw [field?, List.lookup_append, ← field?, ← field?, field?_mergeFields, hadded]
    cases field? base key <;> cases field? fields key <;> rfl
  rw [merge, at?_record_cons, hfield]

/-- What the upper value has behind a path is laid over what is there below. -/
theorem at?_merge_of_some (h : upper.at? path = some w) :
    (merge v upper).at? path = Option.merge merge (v.at? path) (some w) := by
  induction path generalizing v upper with
  | nil =>
    rw [at?_nil] at h
    cases h
    rw [at?_nil, at?_nil, Option.merge_some_some]
  | cons key path ih =>
    rcases v.record_or_not with ⟨base, rfl⟩ | hv
    · rcases upper.record_or_not with ⟨fields, rfl⟩ | hu
      · rw [at?_record_cons] at h
        obtain ⟨u, hu, hw⟩ := Option.bind_eq_some_iff.1 h
        rw [at?_merge_cons, at?_record_cons, hu]
        cases field? base key with
        | none => exact hw
        | some x => exact ih hw
      · rw [at?_cons_of_not_record hu] at h
        cases h
    · rw [merge_of_not_record (.inl hv), at?_cons_of_not_record hv, Option.merge_none_left, h]

/-- Where the upper value has nothing, and only records on the way, nothing changes. -/
theorem at?_merge_of_none (h : upper.at? path = none)
    (hway : ∀ front x, front <+: path → front ≠ path → upper.at? front = some x →
      x.isRecord = true) : (merge v upper).at? path = v.at? path := by
  induction path generalizing v upper with
  | nil =>
    rw [at?_nil] at h
    cases h
  | cons key path ih =>
    rcases v.record_or_not with ⟨base, rfl⟩ | hv
    · rcases upper.record_or_not with ⟨fields, rfl⟩ | hu
      · rw [at?_record_cons] at h
        rw [at?_merge_cons, at?_record_cons]
        cases hu : field? fields key with
        | none => rw [Option.merge_none_right]
        | some u =>
          rw [hu] at h
          cases field? base key with
          | none => exact h
          | some x =>
            refine ih h fun front y hf hne hy ↦ hway (key :: front) y ?_ ?_ ?_
            · exact List.cons_prefix_cons.2 ⟨rfl, hf⟩
            · exact fun he ↦ hne (List.cons.inj he).2
            · rw [at?_record_cons, hu]
              exact hy
      · cases hu.symm.trans (hway [] upper List.nil_prefix nofun upper.at?_nil)
    · rw [merge_of_not_record (.inl hv), h, at?_cons_of_not_record hv]

theorem at?_merge_of_not_record (h : upper.at? path = some w) (hw : w.isRecord = false) :
    (merge v upper).at? path = some w := by
  rw [at?_merge_of_some h]
  cases v.at? path with
  | none => rfl
  | some x => rw [Option.merge_some_some, merge_of_not_record (.inr hw)]

/-- What a value `m` has behind a path that is `upper` laid over `base`. -/
structure LaidOver (base upper m : Value) (path : List String) : Prop where
  replaced {v : Value} : upper.at? path = some v → v.isRecord = false → m.at? path = some v
  cut {front : List String} {v : Value} : front <+: path → front ≠ path →
    upper.at? front = some v → v.isRecord = false → m.at? path = none
  kept : upper.at? path = none →
    (∀ front v, front <+: path → front ≠ path → upper.at? front = some v → v.isRecord = true) →
    m.at? path = base.at? path
  merged {inner fields : Fields} : upper.at? path = some (record fields) →
    base.at? path = some (record inner) →
    m.at? path = some (merge (record inner) (record fields))
  added {fields : Fields} : upper.at? path = some (record fields) →
    (∀ inner, base.at? path ≠ some (record inner)) → m.at? path = some (record fields)

/-- Behind every path two records that are merged have exactly these values. -/
theorem merge_laidOver (base fields : Fields) (path : List String) :
    LaidOver (record base) (record fields) (merge (record base) (record fields)) path where
  replaced := at?_merge_of_not_record
  cut {front v} hf hne h hv := by
    obtain ⟨behind, rfl⟩ := hf
    rw [at?_append, at?_merge_of_not_record h hv, Option.bind_some]
    cases behind with
    | nil => exact (hne (List.append_nil front).symm).elim
    | cons key behind => exact at?_cons_of_not_record hv key behind
  kept := at?_merge_of_none
  merged h hb := by rw [at?_merge_of_some h, hb, Option.merge_some_some]
  added h hb := by
    rw [at?_merge_of_some h]
    cases hx : (record base).at? path with
    | none => rfl
    | some x =>
      rcases x.record_or_not with ⟨inner, rfl⟩ | hv
      · exact (hb inner hx).elim
      · rw [Option.merge_some_some, merge_of_not_record (.inl hv)]

end GroupSearch.Value
