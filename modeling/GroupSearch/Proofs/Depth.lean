import GroupSearch.Config.Settings
import GroupSearch.Directory.Validation
import GroupSearch.Proofs.Decision
import GroupSearch.Proofs.Layering
import Mathlib.Data.List.Forall2
import Mathlib.Data.Option.Basic

namespace GroupSearch

namespace Value

abbrev FieldsAgree (R : Value → Value → Prop) (fields fields' : Fields) : Prop :=
  List.Forall₂ (fun f g ↦ f.1 = g.1 ∧ R f.2 g.2) fields fields'

/-- Values of one form whose parts agree. -/
inductive PartsAgree (R : Value → Value → Prop) : Value → Value → Prop
  | same (v : Value) : PartsAgree R v v
  | list {vs ws : List Value} : List.Forall₂ R vs ws → PartsAgree R (list vs) (list ws)
  | record {fields fields' : Fields} : FieldsAgree R fields fields' →
      PartsAgree R (record fields) (record fields')

/-- Values that differ at most behind so many lists and records. Whether a value is a text is never
left open, since a text may be a key. -/
def AgreeTo : Nat → Value → Value → Prop
  | 0 => fun v w ↦ ∀ s, v = text s ↔ w = text s
  | n + 1 => PartsAgree (AgreeTo n)

variable {n : Nat} {v w base base' upper upper' : Value} {fields fields' : Fields}
  {R : Value → Value → Prop}

theorem PartsAgree.imp {S : Value → Value → Prop} (hRS : ∀ v w, R v w → S v w)
    (h : PartsAgree R v w) : PartsAgree S v w := by
  cases h with
  | same v => exact .same v
  | list h => exact .list (h.imp fun v w ↦ hRS v w)
  | record h => exact .record (h.imp fun f g hfg ↦ ⟨hfg.1, hRS _ _ hfg.2⟩)

theorem AgreeTo.refl (n : Nat) (v : Value) : AgreeTo n v v := by
  cases n with
  | zero => exact fun _ ↦ Iff.rfl
  | succ n => exact .same v

theorem AgreeTo.of_succ (h : AgreeTo (n + 1) v w) : AgreeTo n v w := by
  induction n generalizing v w with
  | zero =>
    cases h with
    | same v => exact .refl 0 v
    | list | record => exact fun s ↦ ⟨nofun, nofun⟩
  | succ n ih => exact PartsAgree.imp (fun _ _ ↦ ih) h

theorem AgreeTo.mono {m : Nat} (hmn : m ≤ n) (h : AgreeTo n v w) : AgreeTo m v w := by
  induction hmn with
  | refl => exact h
  | step _ ih => exact ih h.of_succ

theorem AgreeTo.text_iff (h : AgreeTo n v w) (s : String) : v = text s ↔ w = text s :=
  h.mono (Nat.zero_le n) s

theorem FieldsAgree.refl (n : Nat) (fields : Fields) : FieldsAgree (AgreeTo n) fields fields :=
  List.forall₂_same.2 fun f _ ↦ ⟨rfl, .refl n f.2⟩

theorem FieldsAgree.field? (h : FieldsAgree R fields fields') (key : String) :
    Option.Rel R (field? fields key) (field? fields' key) := by
  induction h with
  | nil => exact .none
  | @cons f g fields fields' hfg _ ih =>
    unfold Value.field? at ih ⊢
    rw [List.lookup_cons, List.lookup_cons, ← hfg.1]
    cases key == f.1 with
    | true => exact .some hfg.2
    | false => exact ih

theorem FieldsAgree.any_key (h : FieldsAgree R fields fields') (key : String) :
    (fields.any fun f ↦ f.1 == key) = fields'.any fun f ↦ f.1 == key := by
  induction h with
  | nil => rfl
  | cons hfg _ ih => rw [List.any_cons, List.any_cons, hfg.1, ih]

theorem FieldsAgree.addField {key : String} (hv : R v w) (h : FieldsAgree R fields fields') :
    FieldsAgree R (addField key v fields) (addField key w fields') := by
  unfold Value.addField
  rw [h.any_key key]
  split
  · exact h
  · exact .cons ⟨rfl, hv⟩ h

theorem record_or_not_of_agree (h : AgreeTo (n + 1) v w) :
    (∃ fields fields', v = record fields ∧ w = record fields' ∧
      FieldsAgree (AgreeTo n) fields fields') ∨ v.isRecord = false ∧ w.isRecord = false := by
  cases h with
  | same v =>
    rcases v.record_or_not with ⟨fields, rfl⟩ | hv
    · exact .inl ⟨fields, fields, rfl, rfl, .refl n fields⟩
    · exact .inr ⟨hv, hv⟩
  | list => exact .inr ⟨rfl, rfl⟩
  | record h => exact .inl ⟨_, _, rfl, rfl, h⟩

theorem mergeFields_agree {added added' : Fields}
    (hmerge : ∀ {v v' w w'}, R v v' → R w w' → R (merge v w) (merge v' w'))
    (hadded : FieldsAgree R added added') (h : FieldsAgree R fields fields') :
    FieldsAgree R (mergeFields added fields) (mergeFields added' fields') := by
  induction h with
  | nil => exact .nil
  | @cons f g fields fields' hfg _ ih =>
    rw [mergeFields, mergeFields, ← hfg.1]
    refine .cons ⟨rfl, ?_⟩ ih
    have hfield := hadded.field? f.1
    generalize Value.field? added f.1 = v?, Value.field? added' f.1 = w? at hfield
    cases hfield with
    | none => exact hfg.2
    | some hw => exact hmerge hfg.2 hw

/-- Merging looks as deep into the values as one looks into the result. -/
theorem AgreeTo.merge (hbase : AgreeTo n base base') (hupper : AgreeTo n upper upper') :
    AgreeTo n (merge base upper) (merge base' upper') := by
  induction n generalizing base base' upper upper' with
  | zero =>
    have htext : ∀ (v w : Value) (s : String), Value.merge v w = text s ↔ w = text s := by
      intro v w s
      cases v <;> cases w <;> simp only [Value.merge, reduceCtorEq]
    intro s
    rw [htext, htext]
    exact hupper s
  | succ n ih =>
    rcases record_or_not_of_agree hbase with ⟨fields, fields', rfl, rfl, hf⟩ | ⟨hb, hb'⟩
    · rcases record_or_not_of_agree hupper with ⟨added, added', rfl, rfl, ha⟩ | ⟨hu, hu'⟩
      · rw [Value.merge, Value.merge]
        refine .record (List.rel_append (mergeFields_agree ih ha hf) (List.rel_filter ?_ ha))
        rintro f g ⟨hkey, -⟩
        simp only [hkey, hf.any_key g.1]
      · rwa [merge_of_not_record (.inr hu), merge_of_not_record (.inr hu')]
    · rwa [merge_of_not_record (.inl hb), merge_of_not_record (.inl hb')]

theorem AgreeTo.orEmpty (h : AgreeTo (n + 1) v w) : AgreeTo (n + 1) v.orEmpty w.orEmpty := by
  cases h with
  | same v => exact .refl _ _
  | list h => cases h with
    | nil => exact .refl _ _
    | cons hv hvs => exact .list (.cons hv hvs)
  | record h => cases h with
    | nil => exact .refl _ _
    | cons hf hfs => exact .record (.cons hf hfs)

section Readers

variable {α : Type} {name key : String}

/-- Does not look into lists and records. -/
def Flat (read : Value → Except FieldError α) : Prop :=
  ∀ ⦃n v w⦄, AgreeTo (n + 1) v w → read v = read w

theorem flat_asText (key : String) : Flat (asText key) := by
  intro n v w h
  cases h <;> rfl

theorem flat_asOptionalText (key : String) : Flat (asOptionalText key) := by
  intro n v w h
  cases h <;> rfl

theorem flat_asBool (key : String) : Flat (asBool key) := by
  intro n v w h
  cases h <;> rfl

theorem flat_asInt (key : String) : Flat (asInt key) := by
  intro n v w h
  cases h <;> rfl

theorem FieldsAgree.required {read : Value → Except FieldError α} (hread : Flat read)
    (h : FieldsAgree (AgreeTo (n + 1)) fields fields') (name key : String) :
    required fields name key >>= read = required fields' name key >>= read := by
  have hfield := h.field? name
  unfold Value.required
  generalize Value.field? fields name = v?, Value.field? fields' name = w? at hfield
  cases hfield with
  | none => rfl
  | some hv => exact hread hv

theorem FieldsAgree.optional (h : FieldsAgree (AgreeTo n) fields fields') (name : String)
    (default : Value) :
    AgreeTo n (optional fields name default) (optional fields' name default) := by
  have hfield := h.field? name
  unfold Value.optional
  generalize Value.field? fields name = v?, Value.field? fields' name = w? at hfield
  cases hfield with
  | none => exact .refl n default
  | some hv => exact hv

theorem FieldsAgree.section? (h : FieldsAgree (AgreeTo (n + 1)) fields fields') (name : String) :
    Value.section? fields name = Value.section? fields' name ∨
      ∃ part part', Value.section? fields name = .ok (some part) ∧
        FieldsAgree (AgreeTo n) part part' ∧ Value.section? fields' name = .ok (some part') := by
  have hfield := h.field? name
  unfold Value.section?
  generalize Value.field? fields name = v?, Value.field? fields' name = w? at hfield
  cases hfield with
  | none => exact .inl rfl
  | some hv =>
    cases hv with
    | same => exact .inl rfl
    | list => exact .inl rfl
    | record hpart => exact .inr ⟨_, _, rfl, hpart, rfl⟩

end Readers

end Value

namespace Settings

open Value

variable {root root' : Fields}

theorem requiredSection_agree {n : Nat} (h : FieldsAgree (AgreeTo (n + 1)) root root')
    (name : String) : requiredSection root name = requiredSection root' name ∨
      ∃ part part', requiredSection root name = .ok part ∧
        requiredSection root' name = .ok part' ∧ FieldsAgree (AgreeTo n) part part' := by
  unfold requiredSection
  rcases h.section? name with heq | ⟨part, part', hpart, hagree, hpart'⟩
  · exact .inl (by rw [heq])
  · exact .inr ⟨part, part', by rw [hpart]; rfl, by rw [hpart']; rfl, hagree⟩

variable (h : FieldsAgree (AgreeTo 2) root root')

include h

theorem readLog_agree : readLog root = readLog root' := by
  unfold readLog
  rcases requiredSection_agree h "log" with heq | ⟨part, part', hpart, hpart', hagree⟩
  · rw [heq]
  · have hlevel := hagree.required (flat_asText "log.level") "level" "log.level"
    have hfile := flat_asBool "log.to_file" (hagree.optional "to_file" (bool false))
    have hfolder := flat_asText "log.dir" (hagree.optional "dir" (text "log"))
    simp only [hpart, hpart', ok_bind, hlevel, hfile, hfolder]

theorem readVersion_agree : readVersion root = readVersion root' := by
  unfold readVersion
  rcases h.section? "index" with heq | ⟨part, part', hpart, hagree, hpart'⟩
  · rw [heq]
  · rw [hpart, hpart']
    exact flat_asInt "index.schema_version" (hagree.optional "schema_version" _)

theorem readDirectory_agree (env : Environment) :
    readDirectory env root = readDirectory env root' := by
  unfold readDirectory
  rcases requiredSection_agree h "directory" with heq | ⟨part, part', hpart, hpart', hagree⟩
  · rw [heq]
  · have hpath := hagree.required (flat_asText "directory.path") "path" "directory.path"
    have hname :=
      flat_asOptionalText "directory.path_env" (hagree.optional "path_env" null)
    simp only [hpart, hpart', ok_bind, hpath, hname]

/-- Settings are a record of records. -/
theorem ofFields_agree (env : Environment) : ofFields env root = ofFields env root' := by
  unfold ofFields
  rw [readLog_agree h, readVersion_agree h, readDirectory_agree h env]

end Settings

namespace Directory

open Value

theorem readItems_agree {α ε : Type} {n : Nat} {read : String → Value → Except ε α}
    (hread : ∀ key v w, AgreeTo n v w → read key v = read key w) {vs ws : List Value}
    (h : List.Forall₂ (AgreeTo n) vs ws) (key : String) (i : Nat) :
    readItems read key i vs = readItems read key i ws := by
  induction h generalizing i with
  | nil => rfl
  | cons hv _ ih =>
    unfold readItems
    rw [hread _ _ _ hv, ih (i + 1)]

theorem listField_agree {n : Nat} {fields fields' : Fields}
    (h : FieldsAgree (AgreeTo (n + 1)) fields fields') (name : String) :
    listField fields name = listField fields' name ∨
      ∃ vs ws, listField fields name = .ok vs ∧ listField fields' name = .ok ws ∧
        List.Forall₂ (AgreeTo n) vs ws := by
  have hfield := h.field? name
  unfold listField
  generalize field? fields name = v?, field? fields' name = w? at hfield
  cases hfield with
  | none => exact .inl rfl
  | some hv =>
    cases hv with
    | same => exact .inl rfl
    | list hitems => exact .inr ⟨_, _, rfl, rfl, hitems⟩
    | record => exact .inl rfl

theorem readAccount_agree (key : String) (v w : Value) (h : AgreeTo 2 v w) :
    readAccount key v = readAccount key w := by
  cases h with
  | same | list => rfl
  | @record fields fields' hfields =>
    have hid := hfields.required (flat_asInt s!"{key}.id") "id" s!"{key}.id"
    have htext : ∀ name key, (optional fields name null).asOptionalText key =
        (optional fields' name null).asOptionalText key :=
      fun name key ↦ flat_asOptionalText key (hfields.optional name null)
    have hactive := flat_asBool s!"{key}.active" (hfields.optional "active" (bool true))
    unfold readAccount
    change reading (required fields "id" s!"{key}.id" >>= asInt s!"{key}.id") >>= _ =
      reading (required fields' "id" s!"{key}.id" >>= asInt s!"{key}.id") >>= _
    simp only [hid, hactive, htext]

theorem asList_agree {n : Nat} {v w : Value} (h : AgreeTo (n + 1) v w) (key : String) :
    (∃ e, v.asList key = .error e ∧ w.asList key = .error e) ∨
      ∃ vs ws, v.asList key = .ok vs ∧ w.asList key = .ok ws ∧
        List.Forall₂ (AgreeTo n) vs ws := by
  cases h with
  | same v =>
    cases v with
    | list vs => exact .inr ⟨vs, vs, rfl, rfl, List.forall₂_same.2 fun v _ ↦ .refl n v⟩
    | null | bool | int | real | other | text | record => exact .inl ⟨_, rfl, rfl⟩
  | list hitems => exact .inr ⟨_, _, rfl, rfl, hitems⟩
  | record => exact .inl ⟨_, rfl, rfl⟩

theorem readGroup_agree (key : String) (v w : Value) (h : AgreeTo 3 v w) :
    readGroup key v = readGroup key w := by
  cases h with
  | same | list => rfl
  | @record fields fields' hfields =>
    have hflat : FieldsAgree (AgreeTo 1) fields fields' :=
      hfields.imp fun f g hfg ↦ ⟨hfg.1, hfg.2.of_succ⟩
    have hrequired : ∀ name key, required fields name key >>= asText key =
        required fields' name key >>= asText key :=
      fun name key ↦ hflat.required (flat_asText key) name key
    have htext : ∀ name key, (optional fields name null).asOptionalText key =
        (optional fields' name null).asOptionalText key :=
      fun name key ↦ flat_asOptionalText key (hflat.optional name null)
    have hvisible := flat_asBool s!"{key}.visible_to_all"
      (hflat.optional "visible_to_all" (bool false))
    unfold readGroup
    simp only [asRecord, ok_bind, hrequired, htext, hvisible]
    rcases asList_agree (hfields.optional "members" (list [])) s!"{key}.members" with
      ⟨e, he, he'⟩ | ⟨ms, ms', hms, hms', hmembers⟩
    · rw [he, he']
      rfl
    rcases asList_agree (hfields.optional "subgroups" (list [])) s!"{key}.subgroups" with
      ⟨e, he, he'⟩ | ⟨ss, ss', hss, hss', hsubgroups⟩
    · rw [hms, hms', he, he']
      rfl
    have hints := readItems_agree (fun key _ _ h ↦ flat_asInt key h) hmembers s!"{key}.members" 0
    have htexts :=
      readItems_agree (fun key _ _ h ↦ flat_asText key h) hsubgroups s!"{key}.subgroups" 0
    simp only [hms, hms', hss, hss', ok_bind, hints, htexts]

/-- A directory is a record with lists of records, in which there are lists. -/
theorem ofValue_agree {v w : Value} (h : AgreeTo 5 v w) : ofValue v = ofValue w := by
  cases h with
  | same | list => rfl
  | @record fields fields' hfields =>
    have hgroups : listField fields "groups" >>= readItems readGroup "groups" 0 =
        listField fields' "groups" >>= readItems readGroup "groups" 0 := by
      rcases listField_agree hfields "groups" with heq | ⟨vs, ws, hvs, hws, hitems⟩
      · rw [heq]
      · rw [hvs, hws]
        exact readItems_agree readGroup_agree hitems "groups" 0
    unfold ofValue
    change reading (listField fields "accounts") >>= _ =
      reading (listField fields' "accounts") >>= _
    rcases listField_agree hfields "accounts" with heq | ⟨vs, ws, hvs, hws, hitems⟩
    · simp only [heq, hgroups]
    · have haccounts := readItems_agree
        (fun key v w hvw ↦ readAccount_agree key v w (hvw.mono (by decide))) hitems "accounts" 0
      rw [hvs, hws]
      change readItems readAccount "accounts" 0 vs >>= _ =
        readItems readAccount "accounts" 0 ws >>= _
      simp only [haccounts, hgroups]

end Directory

end GroupSearch
