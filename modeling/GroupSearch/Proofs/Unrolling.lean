import GroupSearch.Config.Loading
import GroupSearch.Directory.Store
import GroupSearch.Proofs.Depth

namespace GroupSearch

namespace Yaml

open Value

namespace Evaluation

/-- A node that is no collection keeps the value that it was met with. -/
def Fixed (g : Graph) (id : NodeId) : Prop := ∀ vs, assemble g vs id = vs[id]?.getD .null

structure Related (R : Value → Value → Prop) (vs ws : Array Value) : Prop where
  size_eq : vs.size = ws.size
  value (id : NodeId) : R (vs[id]?.getD .null) (ws[id]?.getD .null)

variable {n : Nat} {g : Graph} {id : NodeId} {vs ws : Array Value} {P Q : Value → Value → Prop}

theorem fields_agree {value value' : NodeId → Value} (h : ∀ id, AgreeTo n (value id) (value' id))
    (entries : List Entry) :
    FieldsAgree (AgreeTo n) (fields value entries) (fields value' entries) := by
  induction entries with
  | nil => exact .nil
  | cons e entries ih =>
    rw [fields, fields]
    split
    · next key hkey =>
      rw [((h e.1).text_iff key).1 hkey]
      exact ih.addField (h e.2)
    · next hkey =>
      split
      · next key hkey' => exact (hkey key (((h e.1).text_iff key).2 hkey')).elim
      · exact ih

/-- A collection is made of its parts, so that it agrees one level further down than they do. -/
theorem fixed_or_assembled (g : Graph) (id : NodeId) : Fixed g id ∨
    (∀ vs s, assemble g vs id ≠ .text s) ∧ ∀ {n vs ws}, Related (AgreeTo n) vs ws →
      AgreeTo (n + 1) (assemble g vs id) (assemble g ws id) := by
  unfold Fixed assemble
  dsimp only
  split
  · exact .inr ⟨nofun, fun h ↦ .list (List.forall₂_map_left_iff.2 (List.forall₂_map_right_iff.2
      (List.forall₂_same.2 fun i _ ↦ h.value i)))⟩
  · exact .inr ⟨nofun, fun _ ↦ .refl _ _⟩
  · exact .inr ⟨nofun, fun h ↦ .record (fields_agree h.value _)⟩
  · exact .inr ⟨nofun, fun _ ↦ .refl _ _⟩
  · exact .inl fun _ ↦ rfl

theorem getD_set (vs : Array Value) (id i : NodeId) (v : Value) :
    (vs.setIfInBounds id v)[i]?.getD .null =
      if id = i ∧ i < vs.size then v else vs[i]?.getD .null := by
  rw [Array.getElem?_setIfInBounds]
  by_cases hid : id = i
  · subst hid
    by_cases hi : id < vs.size <;> simp [hi]
  · simp [hid]

theorem Related.set {v w : Value} (h : Related Q vs ws) (id : NodeId) (hvw : Q v w) :
    Related Q (vs.setIfInBounds id v) (ws.setIfInBounds id w) where
  size_eq := by rw [Array.size_setIfInBounds, Array.size_setIfInBounds, h.size_eq]
  value i := by
    rw [getD_set, getD_set, ← h.size_eq]
    split
    · exact hvw
    · exact h.value i

/-- Nodes are given new values one after the other, from values that are related by `Q`. All of them
come to be related by `P`, if those of the nodes that are left alone are so before. -/
theorem Related.round (hrefl : ∀ v, P v v) (hPQ : ∀ {v w}, P v w → Q v w)
    (hstep : ∀ {id vs ws}, ¬ Fixed g id → Related Q vs ws →
      P (assemble g vs id) (assemble g ws id))
    (ids : List NodeId) (h : Related Q vs ws)
    (hrest : ∀ i, (i ∈ ids ∧ ¬ Fixed g i) ∨ P (vs[i]?.getD .null) (ws[i]?.getD .null)) :
    Related P (round g ids vs) (round g ids ws) := by
  induction ids generalizing vs ws with
  | nil => exact ⟨h.size_eq, fun i ↦ (hrest i).resolve_left fun hi ↦ nomatch hi.1⟩
  | cons id ids ih =>
    have hid : P (assemble g vs id) (assemble g ws id) := by
      by_cases hfixed : Fixed g id
      · rw [hfixed vs, hfixed ws]
        exact (hrest id).resolve_left fun hi ↦ hi.2 hfixed
      · exact hstep hfixed h
    refine ih (h.set id (hPQ hid)) fun i ↦ ?_
    rw [getD_set, getD_set, ← h.size_eq]
    split
    · exact .inr hid
    · next hi =>
      rcases hrest i with ⟨hmem, hfixed⟩ | hP
      · rcases List.mem_cons.1 hmem with rfl | hmem
        · have hout : vs.size ≤ i := Nat.le_of_not_lt fun hlt ↦ hi ⟨rfl, hlt⟩
          rw [Array.getElem?_eq_none hout, Array.getElem?_eq_none (h.size_eq ▸ hout)]
          exact .inr (hrefl _)
        · exact .inl ⟨hmem, hfixed⟩
      · exact .inr hP

theorem round_of_fixed {i : NodeId} (ids : List NodeId) (h : ¬ (i ∈ ids ∧ ¬ Fixed g i)) :
    (round g ids vs)[i]?.getD .null = vs[i]?.getD .null := by
  induction ids generalizing vs with
  | nil => rfl
  | cons id ids ih =>
    have hset : (vs.setIfInBounds id (assemble g vs id))[i]?.getD .null = vs[i]?.getD .null := by
      rw [getD_set]
      split
      · next hi =>
        have hfixed : Fixed g i := not_not.1 fun hn ↦ h ⟨hi.1 ▸ List.mem_cons_self, hn⟩
        rw [hi.1, hfixed vs]
      · rfl
    rw [← hset]
    exact ih fun hi ↦ h ⟨List.mem_cons_of_mem id hi.1, hi.2⟩

theorem size_round (ids : List NodeId) : (round g ids vs).size = vs.size := by
  induction ids generalizing vs with
  | nil => rfl
  | cons id ids ih => exact ih.trans Array.size_setIfInBounds

variable (s : Evaluation) (completed : Array NodeId)

theorem size_values (rounds : Nat) : (s.values completed rounds).size = s.met.size := by
  induction rounds with
  | zero => exact Array.size_map
  | succ rounds ih => exact (size_round _).trans ih

theorem values_of_fixed {i : NodeId} (h : ¬ (i ∈ completed.toList ∧ ¬ Fixed s.graph i))
    (rounds : Nat) : (s.values completed rounds)[i]?.getD .null =
      (s.values completed 0)[i]?.getD .null := by
  induction rounds with
  | zero => rfl
  | succ rounds ih => exact (round_of_fixed _ h).trans ih

theorem collection_or_agree (n a b i : Nat) : (i ∈ completed.toList ∧ ¬ Fixed s.graph i) ∨
    AgreeTo n ((s.values completed a)[i]?.getD .null) ((s.values completed b)[i]?.getD .null) := by
  by_cases hi : i ∈ completed.toList ∧ ¬ Fixed s.graph i
  · exact .inl hi
  · rw [values_of_fixed s completed hi a, values_of_fixed s completed hi b]
    exact .inr (.refl _ _)

/-- The values after two numbers of rounds agree as deep as there are rounds in both, without the
first one, which takes a collection for nothing before it has come to it. -/
theorem values_agree (n a b : Nat) :
    Related (AgreeTo n) (s.values completed (a + (n + 1))) (s.values completed (b + (n + 1))) := by
  induction n with
  | zero =>
    have hstart : Related (fun _ _ ↦ True) (s.values completed a) (s.values completed b) :=
      ⟨(size_values s completed a).trans (size_values s completed b).symm, fun _ ↦ trivial⟩
    refine hstart.round (.refl 0) (fun _ ↦ trivial) (fun {id vs ws} hfixed _ ↦ ?_) _
      (collection_or_agree s completed 0 a b)
    obtain ⟨htext, -⟩ := (fixed_or_assembled s.graph id).resolve_left hfixed
    exact fun t ↦ ⟨fun h ↦ (htext vs t h).elim, fun h ↦ (htext ws t h).elim⟩
  | succ n ih =>
    refine ih.round (.refl (n + 1)) AgreeTo.of_succ (fun {id vs ws} hfixed h ↦ ?_) _
      (collection_or_agree s completed (n + 1) (a + (n + 1)) (b + (n + 1)))
    exact ((fixed_or_assembled s.graph id).resolve_left hfixed).2 h

end Evaluation

/-- The same error, or documents with the same links and values that agree. -/
inductive LoadsAgree (n : Nat) : Except ReadError Loaded → Except ReadError Loaded → Prop
  | error (e : ReadError) : LoadsAgree n (.error e) (.error e)
  | ok {v w : Value} (links : Links) : AgreeTo n v w →
      LoadsAgree n (.ok ⟨v, links⟩) (.ok ⟨w, links⟩)

theorem Document.loadTo_agree (d : Document) (n a b : Nat) :
    LoadsAgree n (d.loadTo (a + (n + 1))) (d.loadTo (b + (n + 1))) := by
  unfold loadTo
  dsimp only
  cases Evaluation.meet _ d.root with
  | error e => exact .error e
  | ok s =>
    simp only [ok_bind]
    cases Evaluation.lookIntoAll (d.graph.size + 1) 0 s with
    | error e => exact .error e
    | ok s => exact .ok _ ((s.values_agree d.completed n a b).value d.root)

theorem loadTo_agree {n a b : Nat} (ha : n < a) (hb : n < b) (text : String) :
    LoadsAgree n (loadTo a text) (loadTo b text) := by
  obtain ⟨a, rfl⟩ := Nat.exists_eq_add_of_le' (Nat.succ_le_of_lt ha)
  obtain ⟨b, rfl⟩ := Nat.exists_eq_add_of_le' (Nat.succ_le_of_lt hb)
  unfold loadTo
  cases tokens text with
  | error e => exact .error e
  | ok ts =>
    simp only [ok_bind]
    cases Document.ofTokens ts with
    | error e => exact .error e
    | ok d? =>
      cases d? with
      | none => exact .ok .none (.refl n .null)
      | some d => exact d.loadTo_agree n a b

end Yaml

open Value Yaml

/-- No account or group is so deep in a directory that the number of rounds could tell. -/
theorem FileTree.readDirectory_rounds {a b : Nat} (ha : 5 < a) (hb : 5 < b) (t : FileTree)
    (path : Path) :
    t.readDirectory (Loader.read (loadTo a)) path =
      t.readDirectory (Loader.read (loadTo b)) path := by
  unfold readDirectory
  refine bind_congr fun text ↦ ?_
  have h := loadTo_agree ha hb text
  unfold Loader.read
  generalize loadTo a text = x, loadTo b text = y at h ⊢
  cases h with
  | error e => rfl
  | ok links hvw =>
    exact congrArg (Except.mapError LoadError.invalid) (Directory.ofValue_agree hvw.orEmpty)

namespace Settings

inductive LayersAgree : Except ConfigError Layer → Except ConfigError Layer → Prop
  | error (e : ConfigError) : LayersAgree (.error e) (.error e)
  | ok {fields fields' : Fields} (links : Links) : FieldsAgree (AgreeTo 2) fields fields' →
      LayersAgree (.ok ⟨fields, links⟩) (.ok ⟨fields', links⟩)

theorem mergeRecords_agree {n : Nat} {base base' upper upper' : Fields}
    (hbase : FieldsAgree (AgreeTo n) base base') (hupper : FieldsAgree (AgreeTo n) upper upper') :
    FieldsAgree (AgreeTo n) (mergeRecords base upper) (mergeRecords base' upper') := by
  have h : AgreeTo (n + 1) (merge (record base) (record upper))
      (merge (record base') (record upper')) := .merge (.record hbase) (.record hupper)
  unfold mergeRecords
  rw [Value.merge, Value.merge] at h ⊢
  rcases record_or_not_of_agree h with ⟨fields, fields', hv, hw, hfields⟩ | ⟨hv, -⟩
  · rwa [hv, hw]
  · cases hv

variable {a b : Nat} (ha : 3 < a) (hb : 3 < b)

include ha hb

theorem layerOfText_rounds (text : String) :
    LayersAgree (layerOfText (loadTo a) text) (layerOfText (loadTo b) text) := by
  have h := loadTo_agree ha hb text
  unfold layerOfText
  generalize loadTo a text = x, loadTo b text = y at h ⊢
  cases h with
  | error e => exact .error _
  | @ok v w links hvw =>
    have hroot := hvw.orEmpty
    simp only [Except.mapError, ok_bind]
    generalize v.orEmpty = v, w.orEmpty = w at hroot ⊢
    cases hroot with
    | same v =>
      cases v with
      | record fields => exact .ok links (.refl 2 fields)
      | null | bool | int | real | other | text | list => exact .error .notRecord
    | list => exact .error .notRecord
    | record hfields => exact .ok links hfields

theorem layerOfFile_rounds (files : FileTree) (path : Path) :
    LayersAgree (layerOfFile (loadTo a) files path) (layerOfFile (loadTo b) files path) := by
  unfold layerOfFile
  cases (files.readText path).mapError TextError.configError with
  | error e => exact .error e
  | ok text => exact layerOfText_rounds ha hb text

/-- No setting is so deep in its file that the number of rounds could tell. -/
theorem loadBy_rounds (files : FileTree) (env : Environment) (path default : Path) :
    loadBy (loadTo a) files env path default = loadBy (loadTo b) files env path default := by
  have hbase := layerOfFile_rounds ha hb files default
  have hupper := layerOfFile_rounds ha hb files path
  unfold loadBy
  generalize layerOfFile (loadTo a) files default = x, layerOfFile (loadTo b) files default = x',
    layerOfFile (loadTo a) files path = y, layerOfFile (loadTo b) files path = y' at *
  cases hbase with
  | error e => rfl
  | ok links hfields =>
    simp only [ok_bind]
    split
    · rw [ofFields_agree hfields]
    cases hupper with
    | error e => rfl
    | ok links' hfields' =>
      simp only [ok_bind, Layer.under]
      split
      · rfl
      · simp only [ok_bind, ofFields_agree (mergeRecords_agree hfields hfields') env]

end Settings

end GroupSearch
