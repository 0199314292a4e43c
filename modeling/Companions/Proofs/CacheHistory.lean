import Companions.Proofs.CacheKey
import Companions.Proofs.PageCache
import Mathlib.Data.Finset.Card

/-! What a cache holds, told from what was done to it: the page stored last for each view, unless it
was discarded, grew too old, or made room for the pages used since. -/
namespace Companions.PageCache

/-- A use of the cache, or the clock going on. -/
inductive Use
  | set (d : Descriptor) (page : Page)
  | get (d : Descriptor)
  | erase (d : Descriptor)
  | clear
  | wait (span : Nanos)

/-- What a use came to. A search without success leaves nothing to remember. -/
inductive Deed
  | stored (d : Descriptor) (page : Page) (time : Nanos)
  | found (d : Descriptor)
  | erased (d : Descriptor)
  | cleared

namespace Deed

/-- The view whose page was stored or found. -/
def used? : Deed → Option Descriptor
  | stored d _ _ | found d => some d
  | erased _ | cleared => none

/-- What was stored for the view, and when. -/
def stored? (d : Descriptor) : Deed → Option (Page × Nanos)
  | stored e page time => if e = d then some (page, time) else none
  | found _ | erased _ | cleared => none

def discards (d : Descriptor) : Deed → Bool
  | erased e => e = d
  | cleared => true
  | stored _ _ _ | found _ => false

end Deed

/-- A cache in use, and what was done to it, the latest first. -/
structure History where
  cache : PageCache
  now : Nanos
  deeds : List Deed := []

namespace History

def use (u : Use) (s : History) : History :=
  match u with
  | .set d page =>
    { s with cache := s.cache.set s.now d page, deeds := .stored d page s.now :: s.deeds }
  | .get d =>
    { s with
      cache := (s.cache.get s.now d).2
      deeds := if (s.cache.get s.now d).1.isSome then .found d :: s.deeds else s.deeds }
  | .erase d => { s with cache := s.cache.erase d, deeds := .erased d :: s.deeds }
  | .clear => { s with cache := s.cache.clear, deeds := .cleared :: s.deeds }
  | .wait span => { s with now := s.now + span }

/-- A new cache after these uses. -/
def after (ttl : Nanos) (capacity : Nat) (now : Nanos) (us : List Use) : History :=
  us.foldl (fun s u => s.use u) { cache := .ofCapacity ttl capacity, now }

end History

/-- The page stored last for a view, and when. -/
def latest? (d : Descriptor) (deeds : List Deed) : Option (Page × Nanos) :=
  deeds.findSome? (Deed.stored? d)

/-- The page of a view was discarded after it was stored last. -/
def Discarded (d : Descriptor) (deeds : List Deed) : Prop :=
  ∃ x ∈ deeds.takeWhile fun x => (x.stored? d).isNone, x.discards d = true

instance (d : Descriptor) (deeds : List Deed) : Decidable (Discarded d deeds) :=
  inferInstanceAs (Decidable (∃ x ∈ deeds.takeWhile fun x => (x.stored? d).isNone,
    x.discards d = true))

/-- The views used since a view was used last. -/
def usedSince (d : Descriptor) (deeds : List Deed) : List Descriptor :=
  (deeds.filterMap Deed.used?).takeWhile (· ≠ d)

section Deeds
variable {d e : Descriptor} {deeds : List Deed} {x : Deed} {page : Page} {time : Nanos}

theorem latest?_cons : latest? d (x :: deeds) = (x.stored? d).or (latest? d deeds) := by
  cases h : x.stored? d <;> simp [latest?, h]

theorem discarded_cons :
    Discarded d (x :: deeds) ↔
      x.stored? d = none ∧ (x.discards d = true ∨ Discarded d deeds) := by
  cases h : x.stored? d <;> simp [Discarded, h]

theorem not_discarded_stored : ¬Discarded d (.stored d page time :: deeds) := by
  intro h
  have := (discarded_cons.mp h).1
  simp [Deed.stored?] at this

theorem usedSince_of_ne (h : x.used? = some e) (hne : e ≠ d) :
    usedSince d (x :: deeds) = e :: usedSince d deeds := by
  simp [usedSince, h, hne]

end Deeds

/-- One page was used later than the other. -/
def Later (deeds : List Deed) (a b : Kept) : Prop :=
  ∀ d : Descriptor, b.key = d.cacheKey → a.key ∈ (usedSince d deeds).map Descriptor.cacheKey

structure Tracks (s : History) : Prop where
  named : ∀ k ∈ s.cache.pages, ∃ d : Descriptor, k.key = d.cacheKey
  nodup : (s.cache.pages.map (·.key)).Nodup
  size : s.cache.pages.length ≤ s.cache.capacity
  order : s.cache.pages.Pairwise (Later s.deeds)
  kept : ∀ k ∈ s.cache.pages, ∀ d : Descriptor, k.key = d.cacheKey →
    latest? d s.deeds = some (k.page, k.storedAt) ∧ ¬Discarded d s.deeds
  missing : ∀ d page time, latest? d s.deeds = some (page, time) → ¬Discarded d s.deeds →
    (∃ k ∈ s.cache.pages, k.key = d.cacheKey) ∨ s.cache.ttl ≤ s.now - time ∨
      s.cache.capacity ≤ (usedSince d s.deeds).toFinset.card

theorem not_key_of_not_mem {pages : List Kept} {d : Descriptor} {k : Kept} (h : k ∈ pages)
    (hn : k ∉ without d.cacheKey pages) : k.key = d.cacheKey := by
  by_contra hne
  exact hn (List.mem_filter.mpr ⟨h, by simpa using hne⟩)

section Steps
variable {s t : History} {d : Descriptor} {pages : List Kept} {deeds : List Deed} {x : Deed}
  {k : Kept}

/-- Some pages are dropped, and no page is used: those dropped were discarded or too old. -/
theorem Tracks.drop (h : Tracks s) (hsub : pages.Sublist s.cache.pages) (now : Nanos)
    (hnow : s.now ≤ now) (hl : ∀ d, latest? d deeds = latest? d s.deeds)
    (hu : ∀ d, usedSince d deeds = usedSince d s.deeds)
    (hd : ∀ d, Discarded d s.deeds → Discarded d deeds)
    (hk : ∀ k ∈ pages, ∀ d : Descriptor, k.key = d.cacheKey → Discarded d deeds →
      Discarded d s.deeds)
    (hgone : ∀ k ∈ s.cache.pages, k ∉ pages → ∀ d : Descriptor, k.key = d.cacheKey →
      Discarded d deeds ∨ s.cache.ttl ≤ now - k.storedAt) :
    Tracks { cache := { s.cache with pages }, now, deeds } := by
  refine ⟨?_, ?_, ?_, ?_, ?_, ?_⟩
  · exact fun k hm => h.named k (hsub.subset hm)
  · exact h.nodup.sublist (hsub.map _)
  · exact hsub.length_le.trans h.size
  · refine (h.order.sublist hsub).imp ?_
    intro a b hab d hb
    rw [hu]
    exact hab d hb
  · intro k hm d hkey
    obtain ⟨hlat, hdis⟩ := h.kept k (hsub.subset hm) d hkey
    exact ⟨by rw [hl, hlat], fun hx => hdis (hk k hm d hkey hx)⟩
  · intro d page time hlat hdis
    rw [hl] at hlat
    rw [hu]
    rcases h.missing d page time hlat (fun hx => hdis (hd d hx)) with ⟨k, hm, hkey⟩ | hold | hmany
    · by_cases hin : k ∈ pages
      · exact Or.inl ⟨k, hin, hkey⟩
      · have hsame := (h.kept k hm d hkey).1
        rw [hlat] at hsame
        cases hsame
        rcases hgone k hm hin d hkey with hx | hx
        · exact (hdis hx).elim
        · exact Or.inr (Or.inl hx)
    · exact Or.inr (Or.inl (hold.trans (Nat.sub_le_sub_right hnow time)))
    · exact Or.inr (Or.inr hmany)

/-- A page that has fallen out behind the capacity left that many other views used after it. -/
theorem card_usedSince {n : Nat} (hnd : (pages.map (·.key)).Nodup)
    (ho : pages.Pairwise (Later deeds)) (hk : k ∈ pages) (hn : k ∉ pages.take n)
    (hkey : k.key = d.cacheKey) : n ≤ (usedSince d deeds).toFinset.card := by
  have hdrop : k ∈ pages.drop n := by
    rw [← List.take_append_drop n pages] at hk
    exact (List.mem_append.mp hk).resolve_left hn
  have hlen : (pages.take n).length = n := by
    have := List.length_pos_of_mem hdrop
    rw [List.length_drop] at this
    rw [List.length_take]
    omega
  have hlater : ∀ a ∈ pages.take n, a.key ∈ (usedSince d deeds).map Descriptor.cacheKey := by
    rw [← List.take_append_drop n pages] at ho
    exact fun a ha => (List.pairwise_append.mp ho).2.2 a ha k hdrop d hkey
  have hcard : ((pages.take n).map (·.key)).toFinset.card = n := by
    rw [List.toFinset_card_of_nodup, List.length_map, hlen]
    exact hnd.sublist ((List.take_sublist n pages).map _)
  calc n = ((pages.take n).map (·.key)).toFinset.card := hcard.symm
    _ ≤ ((usedSince d deeds).toFinset.image Descriptor.cacheKey).card := by
        apply Finset.card_le_card
        intro key hm
        obtain ⟨a, ha, rfl⟩ := List.mem_map.mp (List.mem_toFinset.mp hm)
        obtain ⟨e, he, hae⟩ := List.mem_map.mp (hlater a ha)
        exact Finset.mem_image.mpr ⟨e, List.mem_toFinset.mpr he, hae⟩
    _ ≤ (usedSince d deeds).toFinset.card := Finset.card_image_le

/-- A page comes to the front, and the last one may fall out. -/
theorem Tracks.front (h : Tracks s) (hkey : k.key = d.cacheKey) (hx : x.used? = some d)
    (hlat : latest? d (x :: s.deeds) = some (k.page, k.storedAt))
    (hdis : ¬Discarded d (x :: s.deeds))
    (hother : ∀ e, e ≠ d → x.stored? e = none ∧ x.discards e = false) :
    Tracks { s with
      cache := { s.cache with
        pages := (k :: without d.cacheKey s.cache.pages).take s.cache.capacity }
      deeds := x :: s.deeds } := by
  have hold : ∀ a ∈ without d.cacheKey s.cache.pages, a ∈ s.cache.pages ∧ a.key ≠ d.cacheKey := by
    intro a ha
    simpa [without] using ha
  have hne : ∀ a ∈ without d.cacheKey s.cache.pages, ∀ e : Descriptor, a.key = e.cacheKey →
      e ≠ d := by
    rintro a ha e he rfl
    exact (hold a ha).2 he
  have hstill : ∀ e, e ≠ d → latest? e (x :: s.deeds) = latest? e s.deeds ∧
      (Discarded e (x :: s.deeds) ↔ Discarded e s.deeds) := by
    intro e he
    obtain ⟨hs, hd⟩ := hother e he
    exact ⟨by rw [latest?_cons, hs, Option.none_or], by simp [discarded_cons, hs, hd]⟩
  have hused : ∀ e, e ≠ d → usedSince e (x :: s.deeds) = d :: usedSince e s.deeds :=
    fun e he => usedSince_of_ne hx (Ne.symm he)
  have hnodup : ((k :: without d.cacheKey s.cache.pages).map (·.key)).Nodup := by
    rw [List.map_cons, List.nodup_cons]
    refine ⟨?_, h.nodup.sublist (List.filter_sublist.map _)⟩
    intro hm
    obtain ⟨a, ha, he⟩ := List.mem_map.mp hm
    exact (hold a ha).2 (he.trans hkey)
  have horder : (k :: without d.cacheKey s.cache.pages).Pairwise (Later (x :: s.deeds)) := by
    rw [List.pairwise_cons]
    refine ⟨?_, ?_⟩
    · intro a ha e he
      rw [hused e (hne a ha e he), hkey]
      simp
    · refine (h.order.sublist List.filter_sublist).imp_of_mem ?_
      intro a b _ hb hab e he
      rw [hused e (hne b hb e he)]
      exact List.mem_map.mpr (by
        obtain ⟨v, hv, hva⟩ := List.mem_map.mp (hab e he)
        exact ⟨v, List.mem_cons_of_mem d hv, hva⟩)
  refine ⟨?_, ?_, ?_, ?_, ?_, ?_⟩
  · intro a ha
    rcases List.mem_cons.mp (List.mem_of_mem_take ha) with rfl | ha
    · exact ⟨d, hkey⟩
    · exact h.named a (hold a ha).1
  · exact hnodup.sublist ((List.take_sublist _ _).map _)
  · exact List.length_take_le _ _
  · exact horder.sublist (List.take_sublist _ _)
  · intro a ha e he
    rcases List.mem_cons.mp (List.mem_of_mem_take ha) with rfl | ha
    · have : e = d := Descriptor.cacheKey_injective (he.symm.trans hkey)
      subst this
      exact ⟨hlat, hdis⟩
    · obtain ⟨h1, h2⟩ := hstill e (hne a ha e he)
      rw [h1, h2]
      exact h.kept a (hold a ha).1 e he
  · intro e page time he hx'
    by_cases hed : e = d
    · subst hed
      exact Or.inl ⟨k, List.mem_cons_self .., hkey⟩
    · obtain ⟨h1, h2⟩ := hstill e hed
      rw [h1] at he
      rw [h2] at hx'
      rcases h.missing e page time he hx' with ⟨a, ha, hak⟩ | hage | hmany
      · have ha : a ∈ k :: without d.cacheKey s.cache.pages := by
          refine List.mem_cons_of_mem _ (List.mem_filter.mpr ⟨ha, ?_⟩)
          have : a.key ≠ d.cacheKey :=
            fun hd => hed (Descriptor.cacheKey_injective (hak.symm.trans hd))
          simpa using this
        by_cases hin : a ∈ (k :: without d.cacheKey s.cache.pages).take s.cache.capacity
        · exact Or.inl ⟨a, hin, hak⟩
        · exact Or.inr (Or.inr (card_usedSince hnodup horder ha hin hak))
      · exact Or.inr (Or.inl hage)
      · refine Or.inr (Or.inr (hmany.trans (Finset.card_le_card ?_)))
        intro v hv
        rw [hused e hed]
        exact List.mem_toFinset.mpr (List.mem_cons_of_mem d (List.mem_toFinset.mp hv))

end Steps

/-- What a search in the cache comes to. -/
inductive Sought (now : Nanos) (d : Descriptor) (c : PageCache) : Option Page × PageCache → Prop
  | absent (hn : ∀ k ∈ c.pages, k.key ≠ d.cacheKey) : Sought now d c (none, c)
  | expired {k : Kept} (hm : k ∈ c.pages) (hk : k.key = d.cacheKey) (ht : c.ttl ≤ now - k.storedAt) :
      Sought now d c (none, { c with pages := without d.cacheKey c.pages })
  | fresh {k : Kept} (hm : k ∈ c.pages) (hk : k.key = d.cacheKey) (ht : now - k.storedAt < c.ttl) :
      Sought now d c (some k.page, { c with pages := k :: without d.cacheKey c.pages })

theorem get_sought (now : Nanos) (d : Descriptor) (c : PageCache) : Sought now d c (c.get now d) := by
  unfold get
  cases hf : c.pages.find? fun k => k.key == d.cacheKey with
  | none => exact .absent (by simpa using hf)
  | some k =>
    have hm := List.mem_of_find?_eq_some hf
    have hk : k.key = d.cacheKey := by simpa using List.find?_some hf
    by_cases ht : now - k.storedAt < c.ttl
    · simp only [if_pos ht]
      exact .fresh hm hk ht
    · simp only [if_neg ht]
      exact .expired hm hk (Nat.le_of_not_lt ht)

/-- Of each view at most one page is held. -/
theorem Tracks.eq_of_key {s : History} {k k' : Kept} (h : Tracks s) (hk : k ∈ s.cache.pages)
    (hk' : k' ∈ s.cache.pages) (he : k.key = k'.key) : k = k' :=
  List.inj_on_of_nodup_map h.nodup hk hk' he

theorem Tracks.get {s : History} (h : Tracks s) (d : Descriptor) : Tracks (s.use (.get d)) := by
  have hg := get_sought s.now d s.cache
  simp only [History.use]
  generalize s.cache.get s.now d = r at hg
  cases hg with
  | absent => exact h
  | @expired k hm hk ht =>
    refine h.drop List.filter_sublist s.now le_rfl (fun _ => rfl) (fun _ => rfl) (fun _ => id)
      (fun _ _ _ _ => id) ?_
    intro k' hm' hn d' _
    have he : k' = k := h.eq_of_key hm' hm ((not_key_of_not_mem hm' hn).trans hk.symm)
    rw [he]
    exact Or.inr ht
  | @fresh k hm hk ht =>
    have hfit : (k :: without d.cacheKey s.cache.pages).length ≤ s.cache.capacity := by
      have hlt : (without d.cacheKey s.cache.pages).length < s.cache.pages.length :=
        List.length_filter_lt_length_iff_exists.mpr ⟨k, hm, by simpa using hk⟩
      have := h.size
      rw [List.length_cons]
      omega
    obtain ⟨hlat, hdis⟩ := h.kept k hm d hk
    have := h.front (x := .found d) hk rfl hlat
      (fun hx => hdis ((discarded_cons.mp hx).2.resolve_left (by simp [Deed.discards])))
      fun e _ => ⟨rfl, rfl⟩
    rwa [List.take_of_length_le hfit] at this

theorem Tracks.use {s : History} (h : Tracks s) (u : Use) : Tracks (s.use u) := by
  cases u with
  | set d page =>
    refine h.front (k := ⟨d.cacheKey, page, s.now⟩) (x := .stored d page s.now) rfl rfl ?_
      not_discarded_stored ?_
    · simp [latest?_cons, Deed.stored?]
    · exact fun e he => ⟨by simp [Deed.stored?, Ne.symm he], rfl⟩
  | get d => exact h.get d
  | erase d =>
    refine h.drop List.filter_sublist s.now le_rfl (fun e => latest?_cons) (fun e => rfl) ?_ ?_ ?_
    · exact fun e he => discarded_cons.mpr ⟨rfl, Or.inr he⟩
    · intro k hm e hk hx
      have hne : k.key ≠ d.cacheKey := by simpa using (List.mem_filter.mp hm).2
      refine (discarded_cons.mp hx).2.resolve_left fun hd => hne ?_
      rw [hk, of_decide_eq_true hd]
    · intro k hm hn e hk
      have : d = e := Descriptor.cacheKey_injective ((not_key_of_not_mem hm hn).symm.trans hk)
      exact Or.inl (discarded_cons.mpr ⟨rfl, Or.inl (by simpa [Deed.discards] using this)⟩)
  | clear =>
    refine h.drop (List.nil_sublist _) s.now le_rfl (fun e => latest?_cons) (fun e => rfl) ?_ ?_ ?_
    · exact fun e he => discarded_cons.mpr ⟨rfl, Or.inr he⟩
    · exact fun k hm => by cases hm
    · exact fun k _ _ e _ => Or.inl (discarded_cons.mpr ⟨rfl, Or.inl rfl⟩)
  | wait span =>
    exact h.drop (List.Sublist.refl _) (s.now + span) (Nat.le_add_right _ _) (fun _ => rfl)
      (fun _ => rfl) (fun _ => id) (fun _ _ _ _ => id) fun k hm hn => (hn hm).elim

/-- No use changes how long pages are good and how many fit. -/
theorem History.use_limits (u : Use) (s : History) :
    (s.use u).cache.ttl = s.cache.ttl ∧ (s.use u).cache.capacity = s.cache.capacity := by
  cases u with
  | get d =>
    have hg := get_sought s.now d s.cache
    simp only [History.use]
    generalize s.cache.get s.now d = r at hg
    cases hg <;> exact ⟨rfl, rfl⟩
  | _ => exact ⟨rfl, rfl⟩

theorem History.foldl_limits (us : List Use) (s : History) :
    (us.foldl (fun s u => s.use u) s).cache.ttl = s.cache.ttl ∧
      (us.foldl (fun s u => s.use u) s).cache.capacity = s.cache.capacity := by
  induction us generalizing s with
  | nil => exact ⟨rfl, rfl⟩
  | cons u us ih =>
    obtain ⟨ht, hc⟩ := ih (s.use u)
    obtain ⟨hut, huc⟩ := s.use_limits u
    exact ⟨ht.trans hut, hc.trans huc⟩

theorem tracks_foldl (us : List Use) {s : History} (h : Tracks s) :
    Tracks (us.foldl (fun s u => s.use u) s) := by
  induction us generalizing s with
  | nil => exact h
  | cons u us ih => exact ih (h.use u)

theorem tracks_after (ttl : Nanos) (capacity : Nat) (now : Nanos) (us : List Use) :
    Tracks (.after ttl capacity now us) :=
  tracks_foldl us ⟨by simp [ofCapacity], .nil, Nat.zero_le _, .nil, by simp [ofCapacity],
    fun d page time h => by simp [latest?] at h⟩

theorem limits_after (ttl : Nanos) (capacity : Nat) (now : Nanos) (us : List Use) :
    (History.after ttl capacity now us).cache.ttl = ttl ∧
      (History.after ttl capacity now us).cache.capacity = max capacity 1 := by
  obtain ⟨ht, hc⟩ := History.foldl_limits us { cache := .ofCapacity ttl capacity, now }
  refine ⟨ht, hc.trans ?_⟩
  simp only [PageCache.capacity, ofCapacity]
  omega

/-- The views of the pages held, the one used last first. -/
theorem Tracks.views {s : History} (h : Tracks s) :
    ∃ ds : List Descriptor, s.cache.pages.map (·.key) = ds.map Descriptor.cacheKey ∧ ds.Nodup := by
  choose! view hview using h.named
  have hkeys : s.cache.pages.map (·.key) = (s.cache.pages.map view).map Descriptor.cacheKey := by
    rw [List.map_map]
    exact List.map_congr_left hview
  have := h.nodup
  rw [hkeys] at this
  exact ⟨_, hkeys, this.of_map _⟩

/-- A page is found only if it was stored last for that view, was not discarded since, and is young
enough. -/
theorem Tracks.found {s : History} (h : Tracks s) {d : Descriptor} {page : Page}
    (hg : (s.cache.get s.now d).1 = some page) :
    ∃ time, latest? d s.deeds = some (page, time) ∧ s.now - time < s.cache.ttl ∧
      ¬Discarded d s.deeds := by
  obtain ⟨k, hm, hk, rfl, ht⟩ := kept_of_get hg
  obtain ⟨hlat, hdis⟩ := h.kept k hm d hk
  exact ⟨k.storedAt, hlat, ht, hdis⟩

/-- Only a page that was never stored, was discarded, is too old, or had to make room is missed. -/
theorem Tracks.missed {s : History} (h : Tracks s) {d : Descriptor}
    (hg : (s.cache.get s.now d).1 = none) :
    latest? d s.deeds = none ∨ Discarded d s.deeds ∨
      (∃ page time, latest? d s.deeds = some (page, time) ∧ s.cache.ttl ≤ s.now - time) ∨
      s.cache.capacity ≤ (usedSince d s.deeds).toFinset.card := by
  cases hlat : latest? d s.deeds with
  | none => exact Or.inl rfl
  | some stored =>
    obtain ⟨page, time⟩ := stored
    by_cases hdis : Discarded d s.deeds
    · exact Or.inr (Or.inl hdis)
    · rcases h.missing d page time hlat hdis with ⟨k, hm, hk⟩ | hold | hmany
      · have hs := get_sought s.now d s.cache
        generalize s.cache.get s.now d = r at hs hg
        have hage : s.cache.ttl ≤ s.now - k.storedAt := by
          cases hs with
          | absent hn => exact (hn k hm hk).elim
          | expired hm' hk' ht =>
            rw [h.eq_of_key hm hm' (hk.trans hk'.symm)]
            exact ht
          | fresh => cases hg
        have := (h.kept k hm d hk).1
        rw [hlat] at this
        cases this
        exact Or.inr (Or.inr (Or.inl ⟨_, _, rfl, hage⟩))
      · exact Or.inr (Or.inr (Or.inl ⟨page, time, rfl, hold⟩))
      · exact Or.inr (Or.inr (Or.inr hmany))

/-- A search that comes upon a page that is too old removes it, and no other. -/
theorem Tracks.removed {s : History} (h : Tracks s) {d : Descriptor} {k : Kept}
    (hm : k ∈ s.cache.pages) (hk : k.key = d.cacheKey) (ht : s.cache.ttl ≤ s.now - k.storedAt) :
    (s.cache.get s.now d).1 = none ∧
      ∀ k', k' ∈ (s.cache.get s.now d).2.pages ↔ k' ∈ s.cache.pages ∧ k'.key ≠ d.cacheKey := by
  have hs := get_sought s.now d s.cache
  generalize s.cache.get s.now d = r at hs
  cases hs with
  | absent hn => exact (hn k hm hk).elim
  | expired => exact ⟨rfl, fun k' => by simp [without]⟩
  | fresh hm' hk' ht' =>
    rw [h.eq_of_key hm' hm (hk'.trans hk.symm)] at ht'
    exact (Nat.not_lt.mpr ht ht').elim

/-- After any uses of a cache at most `max capacity 1` views have a page, and each has one. What is
found for a view is what was stored last for it, while it is young enough and was not discarded
since. Nothing is found only if nothing was stored, it was discarded since or grew too old, or as
many other views as fit were used since the view itself was used. A page too old that is come upon
is removed. -/
theorem pages_after (ttl : Nanos) (capacity : Nat) (now : Nanos) (us : List Use) (s : History)
    (hs : s = .after ttl capacity now us) :
    (∃ ds : List Descriptor, s.cache.pages.map (·.key) = ds.map Descriptor.cacheKey ∧ ds.Nodup ∧
      ds.length ≤ max capacity 1) ∧
    ∀ d : Descriptor,
      (∀ page, (s.cache.get s.now d).1 = some page →
        ∃ time, latest? d s.deeds = some (page, time) ∧ s.now - time < ttl ∧
          ¬Discarded d s.deeds) ∧
      ((s.cache.get s.now d).1 = none →
        latest? d s.deeds = none ∨ Discarded d s.deeds ∨
          (∃ page time, latest? d s.deeds = some (page, time) ∧ ttl ≤ s.now - time) ∨
          max capacity 1 ≤ (usedSince d s.deeds).toFinset.card) ∧
      ∀ k ∈ s.cache.pages, k.key = d.cacheKey → ttl ≤ s.now - k.storedAt →
        (s.cache.get s.now d).1 = none ∧
          ∀ k', k' ∈ (s.cache.get s.now d).2.pages ↔
            k' ∈ s.cache.pages ∧ k'.key ≠ d.cacheKey := by
  have h : Tracks s := hs ▸ tracks_after ttl capacity now us
  obtain ⟨httl, hcap⟩ := limits_after ttl capacity now us
  rw [← hs] at httl hcap
  rw [← httl, ← hcap]
  obtain ⟨ds, hds, hn⟩ := h.views
  refine ⟨⟨ds, hds, hn, ?_⟩, fun d => ⟨?_, ?_, ?_⟩⟩
  · have := congrArg List.length hds
    rw [List.length_map, List.length_map] at this
    rw [← this]
    exact h.size
  · exact fun page hg => h.found hg
  · exact fun hg => h.missed hg
  · exact fun k hm hk ht => h.removed hm hk ht

/-- Three views in a cache of two pages: the first is looked up before the third is stored, so the
second makes room. -/
theorem pages_after_made_room :
    ∃ s : History,
      s = .after 300 2 0
        [.set {} {}, .set { filter := .recent } {}, .wait 100, .get {}, .set { group := some 7 } {},
          .wait 100] ∧
      (s.cache.get s.now {}).1.isSome = true ∧
      (s.cache.get s.now { filter := .recent }).1 = none ∧
      latest? { filter := .recent } s.deeds = some ({}, 0) ∧
      max 2 1 ≤ (usedSince { filter := .recent } s.deeds).toFinset.card := by
  refine ⟨_, rfl, by decide +kernel, rfl, rfl, ?_⟩
  refine ((((pages_after 300 2 0 _ _ rfl).2 _).2.1 rfl).resolve_left ?_ |>.resolve_left ?_
    |>.resolve_left ?_)
  · exact fun h => by cases h
  · decide +kernel
  · rintro ⟨page, time, h, hage⟩
    cases h
    revert hage
    decide

end Companions.PageCache
