import GroupSearch.Proofs.Resolution

namespace GroupSearch

namespace Text

theorem dropWhile_isBlank {cs : List Char} (h : ∀ c ∈ cs, isBlank c = false) :
    cs.dropWhile isBlank = cs := by
  cases cs with
  | nil => rfl
  | cons c cs => rw [List.dropWhile_cons_of_neg (by simp [h c List.mem_cons_self])]

theorem trim_of_not_blank {s : String} (h : ∀ c ∈ s.toList, isBlank c = false) : trim s = s := by
  rw [trim, trimChars, dropWhile_isBlank h, dropWhile_isBlank (by simpa using h),
    List.reverse_reverse, String.ofList_toList]

theorem trim_natural (n : Nat) : trim (toString n) = toString n :=
  trim_of_not_blank fun _ hc ↦
    Operand.not_isBlank_of_isWordChar (Operand.isWordChar_of_mem_natural hc).1

end Text

namespace Account

theorem toDigits_eq_cons {n : Nat} (hn : 0 < n) :
    ∃ c cs, Nat.toDigits 10 n = c :: cs ∧ c ≠ '0' := by
  induction n using Nat.strongRecOn with
  | ind n ih =>
    rcases Nat.lt_or_ge n 10 with h | h
    · refine ⟨n.digitChar, [], Nat.toDigits_of_lt_base h, ?_⟩
      exact (by decide : ∀ k < 10, 0 < k → k.digitChar ≠ '0') n h hn
    · obtain ⟨c, cs, hc, hz⟩ := ih (n / 10) (by omega) (by omega)
      refine ⟨c, cs ++ [(n % 10).digitChar], ?_, hz⟩
      rw [Nat.toDigits_of_base_le (by decide) h, hc]
      rfl

theorem idNumeral?_natural {n : Nat} (hn : 0 < n) : idNumeral? (toString n).toList = some n := by
  have hs := Text.natural?_toString n
  obtain ⟨c, cs, hc, hz⟩ := toDigits_eq_cons hn
  have ht : (toString n).toList = c :: cs := (Nat.toList_repr).trans hc
  rw [ht] at hs ⊢
  exact (if_neg hz).trans hs

end Account

namespace Directory

theorem resolve_natural (accounts : List Account) {n : Nat} (hn : 0 < n) :
    resolve accounts (toString n) = byNumber accounts n (toString n).length := by
  have hi := Account.idNumeral?_natural hn
  have hb : ¬ (toString n).isEmpty = true := by
    intro h
    rw [String.isEmpty_iff] at h
    rw [h] at hi
    cases hi
  unfold resolve
  rw [Text.trim_natural, if_neg hb, resolveTrimmed, hi]

/-- An id that is in use is found by its own text. -/
theorem findAccounts_id {accounts : List Account} {a : Account} (ha : a ∈ accounts)
    (hactive : a.active = true) (hpos : 0 < a.id) :
    ∃ ids, findAccounts accounts (toString a.id) = .ok ids ∧ ∀ id, id ∈ ids ↔ id = a.id := by
  obtain ⟨n, hn⟩ := Int.eq_ofNat_of_zero_le (Int.le_of_lt hpos)
  have hn' : 0 < n := by omega
  have ht : toString a.id = toString n := by rw [hn]; rfl
  have hmem (id : Int) : id ∈ activeIds accounts (fun a ↦ a.id == (n : Int)) ↔ id = a.id := by
    rw [mem_activeIds]
    constructor
    · rintro ⟨b, -, ⟨-, hb⟩, rfl⟩
      rw [hn]
      exact beq_iff_eq.1 hb
    · rintro rfl
      exact ⟨a, ha, ⟨hactive, beq_iff_eq.2 hn⟩, rfl⟩
  refine ⟨_, ?_, hmem⟩
  rw [findAccounts, ht, resolve_natural accounts hn']
  rcases byNumber_cases accounts n (toString n).length with hr | ⟨hnil, -, -⟩
  · rw [hr]
    rfl
  · have hid := (hmem a.id).2 rfl
    rw [hnil] at hid
    cases hid

theorem get?_of_mem {groups : List Group} {g : Group} (hg : g ∈ groups) :
    ∃ g', GroupIndex.get? ⟨groups⟩ g.uuid = some g' ∧ g'.uuid = g.uuid := by
  unfold GroupIndex.get?
  cases h : groups.reverse.find? fun g' ↦ g'.uuid == g.uuid with
  | none => exact (List.find?_eq_none.1 h g (List.mem_reverse.2 hg) (beq_self_eq_true _)).elim
  | some g' => exact ⟨g', rfl, by simpa using List.find?_some h⟩

theorem get?_uuid (groups : List Group) (uuid : String) :
    (GroupIndex.get? ⟨groups⟩ uuid).map Group.uuid =
      if uuid ∈ groups.map Group.uuid then some uuid else none := by
  split
  case isTrue hm =>
    obtain ⟨g, hg, rfl⟩ := List.mem_map.1 hm
    obtain ⟨g', hg', huuid⟩ := get?_of_mem hg
    rw [hg', Option.map_some, huuid]
  case isFalse hm =>
    cases hg : GroupIndex.get? ⟨groups⟩ uuid with
    | none => rfl
    | some g =>
      obtain ⟨hmem, rfl⟩ := exists_of_get? hg
      exact (hm (List.mem_map_of_mem hmem)).elim

end Directory

end GroupSearch
