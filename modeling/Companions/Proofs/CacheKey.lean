import Companions.Descriptor

/-! Different views have different keys: no field but the last can hold the separator. -/
namespace Companions

theorem append_cons_inj {sep : Char} {a b x y : List Char} (ha : sep ∉ a) (hb : sep ∉ b)
    (h : a ++ sep :: x = b ++ sep :: y) : a = b ∧ x = y := by
  induction a generalizing b with
  | nil =>
    cases b with
    | nil => exact ⟨rfl, by simpa using h⟩
    | cons d b =>
      simp only [List.nil_append, List.cons_append, List.cons.injEq] at h
      simp [h.1] at hb
  | cons c a ih =>
    cases b with
    | nil =>
      simp only [List.nil_append, List.cons_append, List.cons.injEq] at h
      simp [h.1] at ha
    | cons d b =>
      simp only [List.cons_append, List.cons.injEq] at h
      obtain ⟨hab, hxy⟩ := ih (fun hm => ha (List.mem_cons_of_mem _ hm))
        (fun hm => hb (List.mem_cons_of_mem _ hm)) h.2
      exact ⟨by rw [h.1, hab], hxy⟩

theorem Number.mem_showInt {n : Int} {c : Char} (h : c ∈ (showInt n).toList) :
    c = '-' ∨ c.isDigit = true := by
  have h : c ∈ n.repr.toList := h
  rw [Int.repr_eq_if] at h
  split at h
  · rw [Nat.toList_repr] at h
    exact Or.inr (Nat.isDigit_of_mem_toDigits (by decide) (by decide) h)
  · rw [String.toList_append, Nat.toList_repr] at h
    rcases List.mem_append.mp h with h | h
    · exact Or.inl (by simpa using h)
    · exact Or.inr (Nat.isDigit_of_mem_toDigits (by decide) (by decide) h)

theorem Number.repr_inj {m n : Nat} (h : m.repr = n.repr) : m = n := by
  have h := congrArg (fun s => Nat.ofDigitChars 10 s.toList 0) h
  simpa only [Nat.toList_repr, Nat.ofDigitChars_ten_toDigits] using h

theorem Number.showInt_injective {m n : Int} (h : showInt m = showInt n) : m = n := by
  have hminus (k l : Nat) : k.repr ≠ "-" ++ l.repr := by
    intro he
    have hm : '-' ∈ Nat.toDigits 10 k := by
      rw [← Nat.toList_repr, he]
      simp
    cases Nat.isDigit_of_mem_toDigits (by decide) (by decide) hm
  have h : m.repr = n.repr := h
  rw [Int.repr_eq_if, Int.repr_eq_if] at h
  split at h <;> split at h
  · have := repr_inj h
    omega
  · exact (hminus _ _ h).elim
  · exact (hminus _ _ h.symm).elim
  · have := repr_inj ((String.append_right_inj "-").mp h)
    omega

namespace Descriptor

theorem colon_not_mem_groupLabel (g : Option Int64) : ':' ∉ (groupLabel g).toList := by
  cases g with
  | none => decide
  | some id =>
    intro h
    rcases Number.mem_showInt h with h | h
    · cases h
    · cases h

theorem groupLabel_injective {g h : Option Int64} (he : groupLabel g = groupLabel h) : g = h := by
  have hall (id : Int64) : groupLabel (some id) ≠ "all" := by
    intro ha
    have hm : 'a' ∈ (Number.showInt id.toInt).toList := by
      rw [show Number.showInt id.toInt = "all" from ha]
      decide
    rcases Number.mem_showInt hm with h | h <;> cases h
  cases g with
  | none =>
    cases h with
    | none => rfl
    | some id => exact (hall id he.symm).elim
  | some id =>
    cases h with
    | none => exact (hall id he).elim
    | some id' => exact congrArg some (Int64.toInt_inj.mp (Number.showInt_injective he))

theorem cacheKey_injective {d e : Descriptor} (h : d.cacheKey = e.cacheKey) : d = e := by
  obtain ⟨f, g, o, t⟩ := d
  obtain ⟨f', g', o', t'⟩ := e
  have h := congrArg String.toList h
  simp only [cacheKey, String.toList_append, List.append_assoc,
    show ":".toList = [':'] from rfl, List.singleton_append] at h
  obtain ⟨hf, h⟩ := append_cons_inj (by cases f <;> decide) (by cases f' <;> decide) h
  obtain ⟨hg, h⟩ := append_cons_inj (colon_not_mem_groupLabel g) (colon_not_mem_groupLabel g') h
  obtain ⟨ho, ht⟩ := append_cons_inj (by cases o <;> decide) (by cases o' <;> decide) h
  have hf : f = f' := by cases f <;> cases f' <;> first | rfl | cases hf
  have ho : o = o' := by cases o <;> cases o' <;> first | rfl | cases ho
  rw [hf, groupLabel_injective (String.toList_inj.mp hg), ho, String.toList_inj.mp ht]

/-- A key stands for one view. -/
theorem cacheKey_eq_iff (d e : Descriptor) : d.cacheKey = e.cacheKey ↔ d = e :=
  ⟨cacheKey_injective, congrArg cacheKey⟩

end Descriptor
end Companions
