import Companions.Proofs.Sections

/-! The tickets and epochs of the catalog, which are counted in 64 bits, against their true number.
No ticket is answered twice. -/
namespace Companions

variable {k : Conduct} {s t : Traffic} {a : Event} {e : Errand} {q : Quest}

/-- A request for a page or for a search result, which holds a ticket. -/
def Errand.HasTicket (e : Errand) : Prop := e.await.ticket?.isSome = true

structure Ticketed (s : Traffic) : Prop where
  newest : s.catalog.newest = .ofNat s.tickets
  epoch : s.catalog.epoch = .ofNat s.epochs
  le : ∀ e ∈ s.errands, e.ticket ≤ s.tickets ∧ e.epoch ≤ s.epochs
  ticket : ∀ e ∈ s.errands, ∀ n, e.await.ticket? = some n → n = .ofNat e.ticket
  issuedIn : ∀ e ∈ s.errands, e.HasTicket → e.ticket = s.tickets →
    s.catalog.issuedIn = .ofNat e.epoch

theorem eq_of_ofNat_eq {m n : Nat} (h : UInt64.ofNat m = UInt64.ofNat n) (hm : m ≤ n)
    (hn : n < m + 2 ^ 64) : m = n := by
  have := congrArg UInt64.toNat h
  simp only [UInt64.toNat_ofNat'] at this
  omega

/-- The ticket of an errand that was not under way for too long tells whether it is the newest. -/
theorem Ticketed.ticket_of_newest (h : Ticketed s) (he : e ∈ s.errands)
    (hp : s.tickets < e.ticket + 2 ^ 64) (ht : e.await.ticket? = some s.catalog.newest) :
    e.ticket = s.tickets := by
  have hn := h.ticket e he _ ht
  rw [h.newest] at hn
  exact eq_of_ofNat_eq hn.symm (h.le e he).1 hp

theorem Ticketed.ticket_eq (h : Ticketed s) (he : e ∈ s.errands) (hp : s.Prompt e)
    (ht : e.await.ticket? = some s.catalog.newest) : e.ticket = s.tickets :=
  h.ticket_of_newest he hp.1 ht

/-- And its epoch tells whether the epoch it was sent in goes on. -/
theorem Ticketed.epoch_eq (h : Ticketed s) (he : e ∈ s.errands) (hp : s.Prompt e)
    (ht : e.HasTicket) (hn : e.ticket = s.tickets) (hc : s.catalog.cacheable = true) :
    e.epoch = s.epochs := by
  have hi := h.issuedIn e he ht hn
  have hc : s.catalog.epoch = s.catalog.issuedIn := by
    simp only [Catalog.cacheable, Bool.and_eq_true, beq_iff_eq] at hc
    exact hc.2
  rw [hi, h.epoch] at hc
  exact eq_of_ofNat_eq hc.symm (h.le e he).2 hp.2

/-- No errand holds the ticket that is issued next. -/
theorem Ticketed.ticket_ne (h : Ticketed s) (he : e ∈ s.errands) : e.ticket ≠ s.tickets + 1 := by
  have := (h.le e he).1
  omega

/-- Steps that issue no ticket: the errands with one are those from before. -/
theorem Ticketed.of_errands (h : Ticketed s) (hn : t.catalog.newest = s.catalog.newest)
    (hi : t.catalog.issuedIn = s.catalog.issuedIn) (ht : t.tickets = s.tickets)
    (he : t.catalog.epoch = .ofNat t.epochs) (hk : s.epochs ≤ t.epochs)
    (hs : ∀ e ∈ t.errands,
      (∃ e' ∈ s.errands, e.await = e'.await ∧ e.ticket = e'.ticket ∧ e.epoch = e'.epoch) ∨
        e.await.ticket? = none ∧ e.ticket ≤ t.tickets ∧ e.epoch ≤ t.epochs) : Ticketed t := by
  refine ⟨by rw [hn, h.newest, ht], he, ?_, ?_, ?_⟩
  · intro e hm
    rcases hs e hm with ⟨e', hm', _, h1, h2⟩ | ⟨_, hle⟩
    · have := h.le e' hm'
      omega
    · exact hle
  · intro e hm n hw
    rcases hs e hm with ⟨e', hm', h0, h1, _⟩ | ⟨hw', _⟩
    · rw [h1]
      exact h.ticket e' hm' n (h0 ▸ hw)
    · simp [hw'] at hw
  · intro e hm hw hx
    rcases hs e hm with ⟨e', hm', h0, h1, h2⟩ | ⟨hw', _⟩
    · rw [hi, h2]
      refine h.issuedIn e' hm' ?_ (by omega)
      unfold Errand.HasTicket at hw ⊢
      rwa [← h0]
    · simp [Errand.HasTicket, hw'] at hw

theorem Ticketed.drop {xs ys : List Errand} (h : Ticketed s) (hs : s.errands = xs ++ e :: ys) :
    Ticketed { s with errands := xs ++ ys } := by
  exact h.of_errands rfl rfl rfl h.epoch le_rfl fun x hx =>
    Or.inl ⟨x, mem_of_drop hs x hx, rfl, rfl, rfl⟩

theorem Ticketed.seek (h : Ticketed s) (ho : s.catalog.Offers q) : Ticketed (s.seek q) := by
  have hn : s.catalog.newest + 1 = .ofNat (s.tickets + 1) := by
    rw [h.newest, UInt64.ofNat_add]
    rfl
  have hs := Traffic.seek_sought ho
  generalize s.seek q = t at hs
  cases hs with
  | hit hq hg =>
    refine ⟨hn, h.epoch, ?_, h.ticket, ?_⟩
    · intro e he
      have := h.le e he
      exact ⟨by simp only; omega, this.2⟩
    · intro e he _ hx
      have := (h.le e he).1
      simp only at hx
      omega
  | ask hc =>
    refine ⟨hn, h.epoch, ?_, ?_, ?_⟩
    · intro e he
      simp only [List.mem_append, List.mem_singleton] at he
      rcases he with he | rfl
      · have := h.le e he
        exact ⟨by simp only; omega, this.2⟩
      · exact ⟨le_rfl, le_rfl⟩
    · intro e he n hw
      simp only [List.mem_append, List.mem_singleton] at he
      rcases he with he | rfl
      · exact h.ticket e he n hw
      · simp only [Catalog.awaitFor] at hw
        rw [← hn]
        split at hw <;> cases hw <;> rfl
    · intro e he _ hx
      simp only [List.mem_append, List.mem_singleton] at he
      rcases he with he | rfl
      · have := (h.le e he).1
        simp only at hx
        omega
      · exact h.epoch

theorem ticketed_initial (h : s.Initial) : Ticketed s := by
  obtain ⟨_, _, _, _, _, _, rfl⟩ := h
  exact ⟨rfl, rfl, by simp, by simp, by simp⟩

theorem ticketed_step (hs : Ticketed s) (h : Step k s a t) : Ticketed t := by
  have hsucc : s.catalog.epoch + 1 = .ofNat (s.epochs + 1) := by
    rw [hs.epoch, UInt64.ofNat_add]
    rfl
  cases h.move with
  | seek f hq ho =>
    have hl : Ticketed (s.leaving f) := { hs with }
    exact hl.seek ho
  | refuse id => exact hs
  | toggle hp hb =>
    refine hs.of_errands rfl rfl rfl hsucc (by simp) fun e he => ?_
    simp only [List.mem_append, List.mem_singleton] at he
    rcases he with he | rfl
    · exact Or.inl ⟨e, he, rfl, rfl, rfl⟩
    · exact Or.inr ⟨rfl, le_rfl, le_rfl⟩
  | send op r ht hf =>
    refine hs.of_errands rfl rfl rfl hs.epoch le_rfl fun e he => ?_
    simp only [List.mem_append, List.mem_singleton] at he
    rcases he with he | rfl
    · exact Or.inl ⟨e, he, rfl, rfl, rfl⟩
    · exact Or.inr ⟨ht, le_rfl, le_rfl⟩
  | @answer xs ys e₀ _ _ he ha hk =>
    refine hs.of_errands rfl rfl rfl hs.epoch le_rfl fun e hm => Or.inl ?_
    rcases mem_of_replace he e hm with hm | rfl
    · exact ⟨e, hm, rfl, rfl, rfl⟩
    · exact ⟨e₀, by simp [he], rfl, rfl, rfl⟩
  | land he ha hp ht hl =>
    have hd := hs.drop he
    cases hl <;> exact { hd with }
  | confirm he ht =>
    exact (hs.drop he).of_errands rfl rfl rfl hsucc (by simp)
      fun e hm => Or.inl ⟨e, hm, rfl, rfl, rfl⟩
  | rollBack he ht =>
    have hd := hs.drop he
    exact { hd with }
  | reorder he hw =>
    have hd := hs.drop he
    exact Ticketed.seek { hd with } (Catalog.offers_of_load rfl)
  | drop he ht hf => exact hs.drop he
  | wait span => exact { hs with }
  | outdate =>
    exact hs.of_errands rfl rfl rfl hsucc (by simp) fun e hm => Or.inl ⟨e, hm, rfl, rfl, rfl⟩
  | evict hp => exact { hs with }

/-- A request under way for this ticket. -/
def Errand.isFor (n : Nat) (e : Errand) : Bool := e.await.ticket?.isSome && e.ticket == n

def Receipt.isFor (n : Nat) (r : Receipt) : Bool := r.ticket == n

/-- The newest ticket has one request under way or one page that has come, or neither. -/
structure AnsweredOnce (s : Traffic) : Prop where
  le : ∀ r ∈ s.receipts, r.ticket ≤ s.tickets
  once : s.errands.countP (Errand.isFor s.tickets) + s.receipts.countP (Receipt.isFor s.tickets) ≤ 1

/-- While a request for the newest ticket is under way, no page has come for it. -/
theorem AnsweredOnce.ticket_ne (h : AnsweredOnce s) (he : e ∈ s.errands)
    (hw : e.await.ticket?.isSome = true) (hn : e.ticket = s.tickets) :
    ∀ r ∈ s.receipts, r.ticket ≠ s.tickets := by
  intro r hr ht
  have hpos : 0 < s.errands.countP (Errand.isFor s.tickets) :=
    List.countP_pos_iff.mpr ⟨e, he, by simp [Errand.isFor, hw, hn]⟩
  have hpos' : 0 < s.receipts.countP (Receipt.isFor s.tickets) :=
    List.countP_pos_iff.mpr ⟨r, hr, by simp [Receipt.isFor, ht]⟩
  have := h.once
  omega

/-- Steps that issue no ticket and bring no page. -/
theorem AnsweredOnce.of_errands (h : AnsweredOnce s) (ht : t.tickets = s.tickets)
    (hr : t.receipts = s.receipts)
    (he : t.errands.countP (Errand.isFor s.tickets) ≤ s.errands.countP (Errand.isFor s.tickets)) :
    AnsweredOnce t := by
  refine ⟨by rw [hr, ht]; exact h.le, ?_⟩
  have := h.once
  rw [ht, hr]
  omega

theorem AnsweredOnce.drop {xs ys : List Errand} (h : AnsweredOnce s)
    (hs : s.errands = xs ++ e :: ys) : AnsweredOnce { s with errands := xs ++ ys } := by
  refine h.of_errands rfl rfl ?_
  simp only [hs, List.countP_append, List.countP_cons]
  omega

/-- A page takes the place of its request. -/
theorem AnsweredOnce.land {xs ys : List Errand} (r? : Option Receipt) (h : AnsweredOnce s)
    (hs : s.errands = xs ++ e :: ys) (hw : e.await.ticket?.isSome = true)
    (hle : e.ticket ≤ s.tickets) (hr : ∀ r ∈ r?, r.ticket = e.ticket) :
    AnsweredOnce { s with errands := xs ++ ys, receipts := s.receipts ++ r?.toList } := by
  have honce := h.once
  have hone : r?.toList.countP (Receipt.isFor s.tickets) ≤
      if Errand.isFor s.tickets e then 1 else 0 := by
    cases r? with
    | none => simp
    | some r => simp [Errand.isFor, Receipt.isFor, hw, hr r rfl]
  refine ⟨fun r hm => ?_, ?_⟩
  · rcases List.mem_append.mp hm with hm | hm
    · exact h.le r hm
    · rw [hr r (by simpa using hm)]
      exact hle
  · simp only [hs, List.countP_append, List.countP_cons] at honce ⊢
    omega

/-- A new ticket has no page yet. -/
theorem AnsweredOnce.seek (h : AnsweredOnce s) (ht : Ticketed s) (ho : s.catalog.Offers q) :
    AnsweredOnce (s.seek q) := by
  have hold : s.errands.countP (Errand.isFor (s.tickets + 1)) = 0 := by
    refine List.countP_eq_zero.mpr fun e he => ?_
    simp [Errand.isFor, ht.ticket_ne he]
  have hnone : s.receipts.countP (Receipt.isFor (s.tickets + 1)) = 0 := by
    refine List.countP_eq_zero.mpr fun r hr => ?_
    have := h.le r hr
    simp only [Receipt.isFor, beq_iff_eq]
    omega
  have hs := Traffic.seek_sought ho
  generalize s.seek q = t at hs
  cases hs with
  | hit => exact ⟨fun r hr => Nat.le_succ_of_le (h.le r hr), by simp only; omega⟩
  | ask =>
    refine ⟨fun r hr => Nat.le_succ_of_le (h.le r hr), ?_⟩
    simp only [List.countP_append, List.countP_singleton]
    split <;> omega

theorem answeredOnce_initial (h : s.Initial) : AnsweredOnce s := by
  obtain ⟨_, _, _, _, _, _, rfl⟩ := h
  exact ⟨by simp, by simp⟩

theorem answeredOnce_step (ht : Ticketed s) (hs : AnsweredOnce s) (h : Step k s a t) :
    AnsweredOnce t := by
  cases h.move with
  | seek f hq ho =>
    have hl : AnsweredOnce (s.leaving f) := { hs with }
    exact hl.seek { ht with } ho
  | refuse id => exact hs
  | toggle hp hb =>
    exact hs.of_errands rfl rfl (by simp [Errand.isFor, Await.ticket?])
  | send op r hw hf => exact hs.of_errands rfl rfl (by simp [Errand.isFor, hw])
  | answer he ha hk =>
    refine hs.of_errands rfl rfl ?_
    simp [he, Errand.isFor, List.countP_append, List.countP_cons]
  | @land xs ys e reply taken n c he ha hp hw hl =>
    have hd := hs.land ((e.await.page? reply).map fun page =>
      ⟨e.request, page, s.now, e.ticket, taken⟩) he (by simp [hw]) (ht.le e (by simp [he])).1 ?_
    · cases hl <;> exact { hd with }
    · rintro r hr
      obtain ⟨page, -, rfl⟩ := Option.map_eq_some_iff.mp hr
      rfl
  | confirm he hp =>
    have hd := hs.drop he
    exact { hd with }
  | rollBack he hp =>
    have hd := hs.drop he
    exact { hd with }
  | reorder he hw =>
    have hd := hs.drop he
    have htd := ht.drop he
    exact AnsweredOnce.seek { hd with } { htd with } (Catalog.offers_of_load rfl)
  | drop he hw hf => exact hs.drop he
  | wait span => exact { hs with }
  | outdate => exact { hs with }
  | evict hp => exact { hs with }

end Companions
