import GroupSearch.Files.Tree
import GroupSearch.Proofs.Decision

namespace GroupSearch

def FileNode.bytes : FileNode → ByteArray
  | file content => content
  | folder => .empty

namespace FileTree

def bytes (t : FileTree) (l : Location) : ByteArray :=
  match t.node? l with
  | some n => n.bytes
  | none => .empty

def HasFile (t : FileTree) (l : Location) : Prop := ∃ content, t.node? l = some (.file content)

variable {t t' t'' : FileTree} {l k : Location}

theorem bytes_congr (h : t'.node? l = t.node? l) : t'.bytes l = t.bytes l := by
  rw [bytes, bytes, h]

theorem node?_of_isGround (h : isGround l = true) : t.node? l = some .folder := if_pos h

theorem isGround_eq_false (h : t.node? l ≠ some .folder) : isGround l = false := by
  cases hg : isGround l with
  | false => rfl
  | true => exact (h (node?_of_isGround hg)).elim

theorem HasFile.isGround (h : t.HasFile l) : isGround l = false := by
  obtain ⟨content, h⟩ := h
  exact isGround_eq_false (by rw [h]; nofun)

theorem lookup_filter_ne (nodes : List (Location × FileNode)) (h : k ≠ l) :
    (nodes.filter fun e ↦ e.1 != l).lookup k = nodes.lookup k := by
  induction nodes with
  | nil => rfl
  | cons e nodes ih =>
    obtain ⟨m, n⟩ := e
    by_cases hm : m = l
    · subst hm
      rw [List.filter_cons_of_neg (by simp), ih, List.lookup_cons, beq_false_of_ne h]
    · rw [List.filter_cons_of_pos (by simpa using hm), List.lookup_cons, List.lookup_cons, ih]

theorem node?_put (t : FileTree) (n : FileNode) (h : isGround l = false) :
    (t.put l n).node? k = if k = l then some n else t.node? k := by
  by_cases hk : isGround k = true
  · have hne : k ≠ l := by
      intro he
      rw [he, h] at hk
      cases hk
    rw [node?_of_isGround hk, if_neg hne, node?_of_isGround hk]
  · rw [node?, if_neg hk, node?, if_neg hk, put, List.lookup_cons]
    by_cases hkl : k = l
    · rw [if_pos hkl, beq_iff_eq.2 hkl]
      rfl
    · rw [if_neg hkl, beq_false_of_ne hkl]
      dsimp only
      rw [lookup_filter_ne t.nodes hkl]

/-- Nothing has changed but that folders and empty files may be where nothing was. -/
def Extends (t t' : FileTree) : Prop :=
  ∀ l, t'.node? l = t.node? l ∨ t.node? l = none ∧ ∃ n, t'.node? l = some n ∧ n.bytes = .empty

namespace Extends

theorem refl (t : FileTree) : Extends t t := fun _ ↦ .inl rfl

theorem trans (h : Extends t t') (h' : Extends t' t'') : Extends t t'' := by
  intro l
  obtain hl | ⟨hl, n, hn, hb⟩ := h l
  · rw [← hl]
    exact h' l
  · obtain hr | ⟨hr, -⟩ := h' l
    · exact .inr ⟨hl, n, hr.trans hn, hb⟩
    · cases hr.symm.trans hn

theorem put {n : FileNode} (h : t.node? l = none) (hn : n.bytes = .empty) :
    Extends t (t.put l n) := by
  have hg : isGround l = false := isGround_eq_false (by rw [h]; nofun)
  intro k
  rw [node?_put t n hg]
  by_cases hk : k = l
  · subst hk
    exact .inr ⟨h, n, if_pos rfl, hn⟩
  · exact .inl (if_neg hk)

theorem bytes_eq (h : Extends t t') (l : Location) : t'.bytes l = t.bytes l := by
  obtain hl | ⟨hl, n, hn, hb⟩ := h l
  · exact bytes_congr hl
  · rw [bytes, bytes, hl, hn]
    exact hb

theorem hasFile (h : Extends t t') (hl : t.HasFile l) : t'.HasFile l := by
  obtain ⟨content, hc⟩ := hl
  obtain hl | ⟨hl, -⟩ := h l
  · exact ⟨content, hl.trans hc⟩
  · cases hl.symm.trans hc

end Extends

theorem makeOne_extends {p : Path} (h : t.makeOne p = .ok t') : Extends t t' := by
  unfold makeOne at h
  obtain ⟨-, -, h⟩ := bind_eq_ok.1 h
  obtain ⟨inside, -, h⟩ := bind_eq_ok.1 h
  split at h
  · cases h
  · cases h
  · obtain ⟨l, -, h⟩ := bind_eq_ok.1 h
    cases hl : t.node? l with
    | some n =>
      rw [hl] at h
      cases h
    | none =>
      rw [hl] at h
      cases h
      exact .put hl rfl

theorem makeFolderOf_extends (t : FileTree) (root : String) (names : List String) :
    Extends t (t.makeFolderOf root names).2 := by
  induction names generalizing t with
  | nil => exact .refl t
  | cons name names ih =>
    unfold makeFolderOf
    dsimp only
    split
    next made h => exact makeOne_extends h
    next =>
      split
      next e above h =>
        have := ih t
        rw [h] at this
        exact this
      next above h =>
        have habove : Extends t above := by
          have := ih t
          rwa [h] at this
        split
        next made h => exact habove.trans (makeOne_extends h)
        next => exact habove
    next => exact .refl t

theorem makeFolder_extends (t : FileTree) (p : Path) : Extends t (t.makeFolder p).2 :=
  makeFolderOf_extends t p.root p.parts.reverse

/-- A path that leads to nothing leads to the file that is made there. -/
theorem locateFrom_put_file {here : Location} {names : List String} (content : ByteArray)
    (hn : t.node? l = none) (h : t.locateFrom here names = .ok l) :
    (t.put l (.file content)).locateFrom here names = .ok l := by
  have hg : isGround l = false := isGround_eq_false (by rw [hn]; nofun)
  have hput (k : Location) : (t.put l (.file content)).node? k =
      if k = l then some (.file content) else t.node? k := node?_put t _ hg
  fun_induction locateFrom t here names with
  | case1 here => exact h
  | case2 here names ih => exact ih h
  | case4 here name names hup hshort hfolder ih =>
    have hne : here ++ [name] ≠ l := by
      intro he
      cases hn.symm.trans (he ▸ hfolder)
    simp only [locateFrom, if_neg hshort, hput, if_neg hne, hfolder]
    exact ih h
  | case5 here name hup hshort content' hfile =>
    obtain rfl : here ++ [name] = l := Except.ok.inj h
    cases hn.symm.trans hfile
  | case7 here name hup hshort hnone =>
    obtain rfl : here ++ [name] = l := Except.ok.inj h
    simp only [locateFrom, if_neg hshort, hput, if_true]
  | case3 | case6 | case8 => cases h

theorem locate_put_file {p : Path} (content : ByteArray) (hn : t.node? l = none)
    (h : t.locate p = .ok l) : (t.put l (.file content)).locate p = .ok l := by
  obtain ⟨u, hu, h⟩ := bind_eq_ok.1 h
  exact bind_eq_ok.2 ⟨u, hu, locateFrom_put_file content hn h⟩

/-- The location is that of a file, and it is where the path leads to. -/
theorem openLog_spec {p : Path} (h : t.openLog p = .ok (t', l)) :
    Extends t t' ∧ t'.HasFile l ∧ t'.locate p = .ok l := by
  obtain ⟨m, hm, h⟩ := bind_eq_ok.1 (mapError_eq_ok.1 h)
  cases hn : t.node? m with
  | none =>
    rw [hn] at h
    cases h
    have hg : isGround l = false := isGround_eq_false (by rw [hn]; nofun)
    exact ⟨.put hn rfl, ⟨_, (node?_put t _ hg).trans (if_pos rfl)⟩, locate_put_file _ hn hm⟩
  | some n =>
    rw [hn] at h
    cases n with
    | folder => cases h
    | file content =>
      cases h
      exact ⟨.refl t, ⟨content, hn⟩, hm⟩

theorem node?_append (hl : t.HasFile l) (s : String) :
    (t.append l s).node? k =
      if k = l then some (.file (t.bytes l ++ s.toUTF8)) else t.node? k := by
  have hg := hl.isGround
  obtain ⟨content, hl⟩ := hl
  have hb : t.bytes l = content := by
    rw [bytes, hl]
    rfl
  rw [append, hl, hb]
  exact node?_put t _ hg

theorem bytes_append (hl : t.HasFile l) (s : String) :
    (t.append l s).bytes k = if k = l then t.bytes l ++ s.toUTF8 else t.bytes k := by
  rw [bytes, node?_append hl]
  by_cases hk : k = l
  · rw [if_pos hk, if_pos hk]
    rfl
  · rw [if_neg hk, if_neg hk]
    rfl

theorem HasFile.append (h : t.HasFile l) (s : String) : (t.append l s).HasFile l :=
  ⟨_, (node?_append h s).trans (if_pos rfl)⟩

end FileTree

end GroupSearch
