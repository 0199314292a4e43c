import Companions.Proofs.SingleWriter

/-! The counters of the tabs when a search result arrives. They are meant to stay, but each mark
that is made again on the result moves the favorite counter once more. -/
namespace Companions

namespace Catalog

/-- What is marked on a list before it is shown. -/
def amends (c : Catalog) : List (Int64 × Bool) := c.confirmed ++ c.pending.map Toggle.asMark

/-- The favorites on the list of a search result are counted from those that the page carries. -/
theorem landSearch_newest (c : Catalog) (page : Page) :
    ((c.landSearch c.newest (.ok page)).1.shown.roster =
        (⟨page.companions, c.shown.roster.favorites⟩ : Roster).marks c.amends) ∧
      (c.landSearch c.newest (.ok page)).1.shown.recents = c.shown.recents := by
  simp [landSearch, Except.mapError, publish, display, reconcile_eq_marks, amends]

/-- A search result leaves the counter of the recent tab alone. It leaves the favorite counter alone
if its flags agree with the toggles since; and where the counter has room for all that is on show,
just if the toggles leave as many favorites on the result as it came with. -/
theorem search_counters (c : Catalog) (page : Page) :
    (c.landSearch c.newest (.ok page)).1.shown.recents = c.shown.recents ∧
      ((∀ m ∈ c.amends, ∀ x ∈ page.companions, x.id = m.1 → x.isFavorite = m.2) →
        (c.landSearch c.newest (.ok page)).1.shown.roster.favorites = c.shown.roster.favorites) ∧
      (Roster.Roomy ⟨page.companions, c.shown.roster.favorites⟩ →
        ((c.landSearch c.newest (.ok page)).1.shown.roster.favorites = c.shown.roster.favorites ↔
          (c.landSearch c.newest (.ok page)).1.shown.roster.lit =
            page.companions.countP (·.isFavorite))) := by
  obtain ⟨hroster, hrecents⟩ := landSearch_newest c page
  refine ⟨hrecents, fun h => ?_, fun h => ?_⟩
  · rw [hroster, Roster.marks_of_agree]
    intro m hm b hb
    obtain ⟨x, hx, hid, rfl⟩ := Roster.mem_of_flag? hb
    exact h m hm x hx hid
  · have hb := (Roster.marks_balance h c.amends).2
    rw [hroster, ← UInt64.toNat_inj]
    simp only [Roster.lit] at hb ⊢
    omega

/-- The backend had turned Ann over before it gave the result. -/
theorem search_counters_turned_before :
    ∃ (c : Catalog) (page : Page), c.pending.map (·.id) = [1] ∧
      (∀ m ∈ c.amends, ∀ x ∈ page.companions, x.id = m.1 → x.isFavorite = m.2) ∧
      Roster.Roomy ⟨page.companions, c.shown.roster.favorites⟩ ∧
      (c.landSearch c.newest (.ok page)).1.shown.roster.favorites = c.shown.roster.favorites ∧
      (c.landSearch c.newest (.ok page)).1.shown.roster.lit =
        page.companions.countP (·.isFavorite) := by
  let ann : Companion := { id := 1, name := "Ann", isFavorite := true }
  let c : Catalog :=
    { cache := .ofCapacity PageCache.defaultTtl PageCache.defaultCapacity
      shown := { roster := ⟨[ann], 1⟩ }
      pending := [⟨1, false, .applied⟩] }
  have hagree : ∀ m ∈ c.amends, ∀ x ∈ [ann], x.id = m.1 → x.isFavorite = m.2 := by
    simp [c, ann, amends, Toggle.asMark, Toggle.optimistic]
  have hroomy : Roster.Roomy ⟨[ann], c.shown.roster.favorites⟩ := ⟨by decide, by decide⟩
  obtain ⟨_, hkeep, hroom⟩ := search_counters c { companions := [ann] }
  exact ⟨c, { companions := [ann] }, rfl, hagree, hroomy, hkeep hagree,
    (hroom hroomy).mp (hkeep hagree)⟩

end Catalog

/-- A result that the backend gave before it turned Ann over counts her once more. -/
theorem search_moves_favorites :
    ∃ s e t, Reachable (SingleWriter Page.Shows Page.Shows) s ∧
      Step (SingleWriter Page.Shows Page.Shows) s (.land e) t ∧
      e.await = .found s.catalog.newest ∧ s.catalog.shown.roster.favorites = 1 ∧
      t.catalog.shown.roster.favorites = 2 := by
  have hpage : Page.Shows ∅ ⟨[{ id := 1, name := "Ann" }], 1, 0, 0⟩ := ⟨by decide, by decide⟩
  have h := (Reachable.fresh (SingleWriter Page.Shows Page.Shows) ∅).step (.start _ (.load {}))
  have h := h.step (@Step.answer _ _ [] [] _ (.ok _) ∅ rfl rfl (by exact ⟨hpage, rfl⟩))
  have h := h.step (@Step.land _ _ [] [] _ _ _ rfl rfl fun _ => ⟨by decide, by decide⟩)
  have h := h.step (.start _ (.toggle 1))
  have h := h.step (.start _ (.search "a"))
  have h := h.step (@Step.answer _ _ [_] [] _ (.ok _) ∅ rfl rfl (by exact ⟨hpage, rfl⟩))
  exact ⟨_, _, _, h, @Step.land _ _ [_] [] _ _ _ rfl rfl fun _ => ⟨by decide, by decide⟩, rfl,
    by decide +kernel, by decide +kernel⟩

end Companions
