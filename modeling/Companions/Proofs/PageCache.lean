import Companions.PageCache

/-! Where the pages of a cache come from, operation by operation. -/
namespace Companions.PageCache

variable {c cache : PageCache} {now : Nanos} {d : Descriptor} {page : Page} {k : Kept}

theorem mem_of_mem_get (h : k ∈ (c.get now d).2.pages) : k ∈ c.pages := by
  unfold get at h
  split at h
  · exact h
  · rename_i kept hk
    split at h
    · rcases List.mem_cons.mp h with rfl | h
      · exact List.mem_of_find?_eq_some hk
      · exact (List.mem_filter.mp h).1
    · exact (List.mem_filter.mp h).1

theorem mem_of_eq_or_get (hc : cache = c ∨ cache = (c.get now d).2) (h : k ∈ cache.pages) :
    k ∈ c.pages := by
  rcases hc with rfl | rfl
  · exact h
  · exact mem_of_mem_get h

theorem ttl_get : (c.get now d).2.ttl = c.ttl := by
  unfold get
  split
  · rfl
  · split <;> rfl

/-- A hit is a page that was stored under the key, lately enough. -/
theorem kept_of_get (h : (c.get now d).1 = some page) :
    ∃ k ∈ c.pages, k.key = d.cacheKey ∧ k.page = page ∧ now - k.storedAt < c.ttl := by
  unfold get at h
  split at h
  · simp at h
  · rename_i kept hk
    split at h
    · rename_i ht
      exact ⟨kept, List.mem_of_find?_eq_some hk, by simpa using List.find?_some hk,
        by simpa using h, ht⟩
    · simp at h

theorem mem_set (h : k ∈ (c.set now d page).pages) :
    k = ⟨d.cacheKey, page, now⟩ ∨ k ∈ c.pages := by
  rcases List.mem_cons.mp (List.mem_of_mem_take h) with rfl | h
  · exact Or.inl rfl
  · exact Or.inr ((List.mem_filter.mp h).1)

end Companions.PageCache
