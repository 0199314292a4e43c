import Companions.Proofs.PendingToggles
import Companions.Proofs.SessionPages

/-! Which toggles a list on show bears while the visiting session changes: those that waited for their
answers when it was asked for, in whatever session they began, and those that began since then. -/
namespace Companions

section Traffic
variable {k : Conduct} {s t : Traffic} {a : Event} {e : Errand} {page : Page} {n : UInt64}
  {d : Descriptor} {taken : Finset Int64} {begun : Option Int64} {c : Catalog}

/-- The companions whose toggles are without an answer. -/
def Catalog.waiting (c : Catalog) : List Int64 := c.pending.map (·.id)

/-- What a step does with toggles, one of which may begin. Only they mark the list on show, unless it
is replaced. -/
structure Marking (begun : Option Int64) (s t : Traffic) : Prop where
  waiting : ∀ id ∈ t.catalog.waiting, id ∈ s.catalog.waiting ∨ begun = some id
  confirmed : t.catalog.confirmed = [] ∨ t.tickets = s.tickets ∧
    ∀ m ∈ t.catalog.confirmed, m ∈ s.catalog.confirmed ∨ m.1 ∈ s.catalog.waiting
  roster : t.catalog.shown.generation = s.catalog.shown.generation →
    ∃ ms, t.catalog.shown.roster = s.catalog.shown.roster.marks ms ∧
      ∀ m ∈ ms, m.1 ∈ s.catalog.waiting ∨ begun = some m.1

/-- Neither the toggles nor the list on show change. -/
theorem Marking.still (hw : t.catalog.pending = s.catalog.pending)
    (hc : t.catalog.confirmed = s.catalog.confirmed) (hr : t.catalog.shown.roster =
      s.catalog.shown.roster) (hn : t.tickets = s.tickets) : Marking begun s t := by
  refine ⟨?_, Or.inr ⟨hn, ?_⟩, fun _ => ⟨[], hr, fun m hm => by cases hm⟩⟩
  · intro id hid
    rw [Catalog.waiting, hw] at hid
    exact Or.inl hid
  · intro m hm
    rw [hc] at hm
    exact Or.inl hm

theorem Marking.seek {q : Quest} (begun : Option Int64) (ho : s.catalog.Offers q) :
    Marking begun s (s.seek q) := by
  have h := Traffic.seek_sought ho
  generalize s.seek q = t at h
  cases h with
  | hit => exact ⟨fun id hid => Or.inl hid, Or.inl rfl, fun hg => absurd hg (succ_ne _)⟩
  | ask =>
    exact ⟨fun id hid => Or.inl hid, Or.inl rfl, fun _ => ⟨[], rfl, fun m hm => by cases hm⟩⟩

theorem Toggle.confirm_marks (toggle : Toggle) (v : Bool) (r : Roster) :
    ∃ ms, (toggle.confirm v r).2 = r.marks ms ∧ ∀ m ∈ ms, m.1 = toggle.id := by
  unfold Toggle.confirm
  split
  · exact ⟨[(toggle.id, v)], rfl, by simp⟩
  · exact ⟨[], rfl, by simp⟩

theorem Toggle.rollBack_marks (toggle : Toggle) (r : Roster) :
    ∃ ms, (toggle.rollBack r).2 = r.marks ms ∧ ∀ m ∈ ms, m.1 = toggle.id := by
  unfold Toggle.rollBack
  split
  · exact ⟨[(toggle.id, toggle.former)], rfl, by simp⟩
  · exact ⟨[], rfl, by simp⟩

theorem Catalog.mem_waiting_of_filter {id : Int64} {p : Toggle → Bool}
    (h : id ∈ (c.pending.filter p).map (·.id)) : id ∈ c.waiting :=
  ((List.filter_sublist).map _).subset h

theorem Catalog.mem_waiting {id : Int64} {toggle : Toggle} (h : c.pendingFor? id = some toggle) :
    toggle.id ∈ c.waiting ∧ toggle.id = id := by
  obtain ⟨hm, hid⟩ := Catalog.mem_of_pendingFor? h
  exact ⟨List.mem_map_of_mem hm, hid⟩

theorem Step.marking (h : Step k s a t) : Marking (a.turns? s) s t := by
  cases h.move with
  | @seek op q f hq ho =>
    have hl := Marking.seek (s := s.leaving f) ((Event.start op).turns? s) ho
    exact { hl with }
  | refuse => exact .still rfl rfl rfl rfl
  | @toggle id b hp hb =>
    have hturn : (Event.start (.toggle id)).turns? s = some id := by
      simp [Event.turns?, hp, hb]
    rw [hturn]
    refine ⟨?_, Or.inr ⟨rfl, fun _ => Or.inl⟩, fun _ => ⟨[(id, !b)], rfl, ?_⟩⟩
    · intro x hx
      simp only [Catalog.waiting, Catalog.toggled, Catalog.outdate, Catalog.publish,
        List.map_append, List.mem_append, List.map_cons, List.map_nil, List.mem_singleton] at hx
      exact hx.imp_right fun hx => congrArg some hx.symm
    · intro m hm
      rw [List.mem_singleton.mp hm]
      exact Or.inr rfl
  | send => exact .still rfl rfl rfl rfl
  | answer => exact .still rfl rfl rfl rfl
  | @land xs ys e reply taken n c hs ha hp ht hl =>
    cases hl with
    | stale => exact .still rfl rfl rfl rfl
    | failed => exact .still rfl rfl rfl rfl
    | shown =>
      exact ⟨fun _ => Or.inl, Or.inr ⟨rfl, fun _ => Or.inl⟩, fun hg => absurd hg (succ_ne _)⟩
  | @confirm _ _ _ id f _ _ _ _ toggle hs ht =>
    obtain ⟨hin, hid⟩ := Catalog.mem_waiting ht
    refine ⟨fun _ hx => Or.inl (Catalog.mem_waiting_of_filter hx), Or.inr ⟨rfl, ?_⟩, fun _ => ?_⟩
    · intro m hm
      rcases List.mem_append.mp hm with hm | hm
      · exact Or.inl hm
      · rw [List.mem_singleton.mp hm]
        exact Or.inr (hid ▸ hin)
    · obtain ⟨ms, hr, hms⟩ := toggle.confirm_marks f.isSome s.catalog.shown.roster
      exact ⟨ms, hr, fun m hm => Or.inl (hms m hm ▸ hin)⟩
  | @rollBack _ _ _ id _ _ _ _ _ toggle hs ht =>
    obtain ⟨hin, _⟩ := Catalog.mem_waiting ht
    refine ⟨fun _ hx => Or.inl (Catalog.mem_waiting_of_filter hx), Or.inr ⟨rfl, fun _ => Or.inl⟩,
      fun _ => ?_⟩
    obtain ⟨ms, hr, hms⟩ := toggle.rollBack_marks s.catalog.shown.roster
    exact ⟨ms, hr, fun m hm => Or.inl (hms m hm ▸ hin)⟩
  | @reorder xs ys e hs hw =>
    have hq := Marking.seek (s := ({ s with errands := xs ++ ys } : Traffic).reordered)
      (q := .reordered) none (Catalog.offers_of_load rfl)
    exact { hq with }
  | drop => exact .still rfl rfl rfl rfl
  | wait => exact .still rfl rfl rfl rfl
  | outdate => exact .still rfl rfl rfl rfl
  | evict => exact .still rfl rfl rfl rfl

/-- The reply to a load shows its page, with the answers to toggles that came in since and the toggles
that still wait for one. -/
theorem Step.reply_shown (h : Step k s (.land e) t) (ht : Ticketed s) (hw : e.await = .page n d)
    (hn : e.ticket = s.tickets) (hp : e.page? = some (page, taken)) :
    t.tickets = s.tickets ∧ t.catalog.shown.roster =
      (⟨page.companions, page.favorites⟩ : Roster).marks
        (s.catalog.confirmed ++ s.catalog.pending.map Toggle.asMark) := by
  cases h.move with
  | @land xs ys e reply taken' i c hs ha hpr hi hl =>
    refine ⟨rfl, ?_⟩
    have hin : e ∈ s.errands := by simp [hs]
    have hnew : i = s.catalog.newest := by rw [ht.ticket e hin i hi, hn, ht.newest]
    have hpage : e.await.page? reply = some page := by
      simp only [Errand.page?, ha, Option.bind_some, Option.map_eq_some_iff, Prod.mk.injEq] at hp
      obtain ⟨_, hp, rfl, _⟩ := hp
      exact hp
    cases hl with
    | stale hne => exact absurd hnew hne
    | failed _ hnone => simp [hpage] at hnone
    | @shown page' cache counted _ hpage' _ hfound =>
      have hc : counted = true := by
        by_contra hf
        have := hfound (by simpa using hf)
        rw [hw] at this
        cases this
      subst hc
      cases hpage.symm.trans hpage'
      exact Catalog.reconcile_eq_marks _ _ _
  | confirm => cases hw
  | rollBack => cases hw
  | reorder _ ho =>
    rw [hw] at ho
    cases ho
  | drop _ hnone =>
    simp [hw, Await.ticket?] at hnone

/-- A load that asks the backend nothing shows the page that is kept, and no toggle waits then. -/
theorem Step.kept_shown (h : Step k s a t) (ht : Ticketed s) (he : Engaged s)
    (hg : (s.catalog.cache.get s.now t.catalog.shown.descriptor).1 = some page)
    (hs : t.errands = s.errands) (hn : t.tickets = s.tickets + 1) :
    t.catalog.shown.roster = ⟨page.companions, page.favorites⟩ := by
  have hnone : s.catalog.pending = [] := by
    by_contra hne
    obtain ⟨p, hp, _⟩ := PageCache.kept_of_get hg
    simp [he.cache hne] at hp
  cases h.move with
  | @seek op q f hq ho =>
    have hk := Traffic.seek_sought (s := s.leaving f) ho
    generalize (s.leaving f).seek q = t at hk hg hs
    cases hk with
    | hit _ hg' =>
      cases hg.symm.trans hg'
      simp only [Catalog.publish, Catalog.display, Traffic.leaving, Catalog.issueFor,
        Catalog.issue, hnone]
      rfl
    | ask => simp [Traffic.leaving] at hs
  | @reorder xs ys e hx =>
    have hk := Traffic.seek_sought
      (s := ({ s with errands := xs ++ ys } : Traffic).reordered) (q := .reordered)
      (Catalog.offers_of_load rfl)
    generalize ({ s with errands := xs ++ ys } : Traffic).reordered.seek .reordered = t at hk hs
    cases hk with
    | hit _ hg' => cases hg'
    | ask =>
      have hne : ∀ x ∈ s.errands, x.ticket ≠ s.tickets + 1 := fun x hx => ht.ticket_ne hx
      rw [← hs] at hne
      exact (hne _ (List.mem_append_right _ (List.mem_singleton_self _)) rfl).elim
  | _ => exact absurd hn.symm (Nat.succ_ne_self _)

end Traffic

/-- The companion whose flag a happening turns over. -/
def Happening.turns? (s : Visit) : Happening → Option Int64
  | traffic a => a.turns? s.traffic
  | _ => none

namespace Visit

variable {k : Conduct} {s t u v w : Visit} {a b : Happening} {as bs : List Happening}
  {page : Page} {new : List (Int64 × Session)} {r : Roster}

/-- A page comes on show for the newest ticket, which it answers itself or, kept, at once. -/
inductive Shows (page : Page) (s : Visit) (a : Happening) (t : Visit) : Prop
  | reply {e : Errand} {n : UInt64} {d : Descriptor} {taken : Finset Int64}
      (hl : a.lands? = some e) (hw : e.await = .page n d) (hn : e.ticket = s.traffic.tickets)
      (hp : e.page? = some (page, taken))
  | kept (hn : t.traffic.tickets = s.traffic.tickets + 1)
      (he : t.traffic.errands = s.traffic.errands)
      (hg : (s.traffic.catalog.cache.get s.traffic.now
        t.traffic.catalog.shown.descriptor).1 = some page)

/-- A run in which the list on show is not replaced. -/
inductive Still (k : Conduct) : Visit → List Happening → Visit → Prop
  | refl (s : Visit) : Still k s [] s
  | step {s t u : Visit} {a : Happening} {as : List Happening} (hr : Still k s as t)
      (h : Step k t a u)
      (hg : u.traffic.catalog.shown.generation = t.traffic.catalog.shown.generation) :
      Still k s (as ++ [a]) u

theorem Still.run (h : Still k s as t) : Run k s as t := by
  induction h with
  | refl => exact .refl _
  | step _ hs _ ih => exact .step ih hs

theorem iterate_outdate (n : Nat) (c : Catalog) :
    (Catalog.outdate^[n] c).pending = c.pending ∧ (Catalog.outdate^[n] c).confirmed = c.confirmed ∧
      (Catalog.outdate^[n] c).shown = c.shown := by
  induction n generalizing c with
  | zero => exact ⟨rfl, rfl, rfl⟩
  | succ n ih => exact ih c.outdate

theorem Move.marking (h : Move k s a t) : Marking (a.turns? s) s.traffic t.traffic := by
  cases h with
  | traffic hb => exact hb.marking
  | @change w n =>
    obtain ⟨hp, hc, hs⟩ := iterate_outdate n s.traffic.catalog
    exact .still hp hc (congrArg Snapshot.roster hs) rfl
  | hit _ hb => exact hb.marking
  | ask _ hb => exact hb.marking
  | finish _ _ hb => exact hb.marking
  | _ => exact .still rfl rfl rfl rfl

theorem Move.turned (h : Move k s a t) :
    t.turned = s.turned ++ (a.turns? s).toList.map fun id => (id, s.session) := by
  cases h with
  | traffic => rfl
  | hit => rfl
  | ask => rfl
  | finish => rfl
  | _ => exact (List.append_nil _).symm

/-- The toggle of a companion waits for its answer, or is among those begun since then. -/
def Current (s : Visit) (new : List (Int64 × Session)) (id : Int64) : Prop :=
  id ∈ s.traffic.catalog.waiting ∨ ∃ v, (id, v) ∈ new

theorem Current.append {id : Int64} (h : Current s new id) (more : List (Int64 × Session)) :
    Current s (new ++ more) id :=
  h.imp_right fun ⟨v, hv⟩ => ⟨v, List.mem_append_left _ hv⟩

/-- In the course of a run from `s` these toggles have begun. -/
structure Course (s : Visit) (as : List Happening) (new : List (Int64 × Session)) (t : Visit) :
    Prop where
  turned : t.turned = s.turned ++ new
  tickets : s.traffic.tickets ≤ t.traffic.tickets
  session : (∀ n, .change n ∈ as → n = 0) →
    t.session = s.session ∧ ∀ x ∈ new, x.2 = s.session
  waiting : ∀ id ∈ t.traffic.catalog.waiting, Current s new id
  /-- The answers are those that have come in since a ticket was issued. -/
  confirmed : t.traffic.tickets = s.traffic.tickets ∨
    ∀ m ∈ t.traffic.catalog.confirmed, Current s new m.1

theorem Course.refl (s : Visit) : Course s [] [] s :=
  ⟨(List.append_nil _).symm, le_rfl, fun _ => ⟨rfl, by simp⟩, fun _ => Or.inl, Or.inl rfl⟩

/-- The toggles that a happening begins. -/
def begun (s : Visit) (a : Happening) : List (Int64 × Session) :=
  (a.turns? s).toList.map fun id => (id, s.session)

theorem mem_begun {id : Int64} (h : a.turns? s = some id) : (id, s.session) ∈ begun s a := by
  simp [begun, h]

theorem Course.current (h : Course s as new t) {id : Int64}
    (hid : id ∈ t.traffic.catalog.waiting ∨ a.turns? t = some id) :
    Current s (new ++ begun t a) id := by
  rcases hid with hid | hid
  · exact (h.waiting id hid).append _
  · exact Or.inr ⟨_, List.mem_append_right _ (mem_begun hid)⟩

theorem Course.step (h : Course s as new t) (hm : Move k t a u) :
    Course s (as ++ [a]) (new ++ begun t a) u := by
  have hk := hm.marking
  refine ⟨?_, h.tickets.trans hm.tickets.1, ?_, ?_, ?_⟩
  · rw [hm.turned, h.turned, List.append_assoc]
    rfl
  · intro hn
    obtain ⟨hsame, hnew⟩ := h.session fun n hin => hn n (List.mem_append_left _ hin)
    refine ⟨(hm.same_session fun n ha => hn n (by simp [ha])).trans hsame, ?_⟩
    intro x hx
    rcases List.mem_append.mp hx with hx | hx
    · exact hnew x hx
    · obtain ⟨id, _, rfl⟩ := List.mem_map.mp hx
      exact hsame
  · exact fun id hid => h.current (hk.waiting id hid)
  · rcases hk.confirmed with hnil | ⟨hn, hlog⟩
    · exact Or.inr (by simp [hnil])
    · refine h.confirmed.imp (hn.trans ·) fun hold m hin => ?_
      rcases hlog m hin with hin | hin
      · exact (hold m hin).append _
      · exact h.current (Or.inl hin)

theorem Run.course (hr : Reachable k s) (h : Run k s as t) : ∃ new, Course s as new t := by
  refine h.invariant (P := fun as t => ∃ new, Course s as new t) hr ⟨_, .refl s⟩ ?_
  rintro as u a v hu ⟨new, hc⟩ hs
  exact ⟨_, hc.step (hu.move hs)⟩

/-- While a list stays on show, it is marked by such toggles alone. -/
theorem Still.marked (hr : Reachable k t) (hc : Course s as new t) (h : Still k t bs u)
    {ms : List (Int64 × Bool)} (hroster : t.traffic.catalog.shown.roster = r.marks ms)
    (hms : ∀ m ∈ ms, Current s new m.1) :
    ∃ new' ms', Course s (as ++ bs) new' u ∧
      u.traffic.catalog.shown.roster = r.marks ms' ∧ ∀ m ∈ ms', Current s new' m.1 := by
  induction h with
  | refl => exact ⟨new, ms, by simpa using hc, hroster, hms⟩
  | @step u v a bs h hs hg ih =>
    obtain ⟨new', ms', hc, hroster, hms⟩ := ih
    have hm := (hr.run h.run).move hs
    obtain ⟨more, hmore, hknown⟩ := hm.marking.roster hg
    refine ⟨_, ms' ++ more, by simpa using hc.step hm, ?_, ?_⟩
    · rw [hmore, hroster, Roster.marks_append]
    · intro m hin
      rcases List.mem_append.mp hin with hin | hin
      · exact (hms m hin).append _
      · exact hc.current (hknown m hin)

/-- How a page comes on show. -/
theorem Shows.marked (hr : Reachable k u) (h : Shows page u a v) (hs : Step k u a v) :
    ∃ ms, v.traffic.catalog.shown.roster =
        (⟨page.companions, page.favorites⟩ : Roster).marks ms ∧
      ∀ m ∈ ms, u.traffic.tickets = v.traffic.tickets ∧
        (m ∈ u.traffic.catalog.confirmed ∨ m.1 ∈ u.traffic.catalog.waiting) := by
  have ht := ticketed_reachable hr
  have he : Engaged u.traffic :=
    (traffic_reachable hr).invariant (fun _ => engaged_initial) fun _ _ _ => engaged_step
  have hm := hr.move hs
  cases h with
  | reply hl hw hn hp =>
    obtain ⟨hsame, hroster⟩ := (hm.landing hl).reply_shown ht hw hn hp
    refine ⟨_, hroster, fun m hin => ⟨hsame.symm, (List.mem_append.mp hin).imp_right fun hin => ?_⟩⟩
    obtain ⟨toggle, htoggle, rfl⟩ := List.mem_map.mp hin
    exact List.mem_map_of_mem htoggle
  | kept hn herr hg =>
    obtain ⟨b, hb⟩ := hm.event (by omega)
    exact ⟨[], hb.kept_shown ht he hg herr hn, by simp⟩

/-- A list on show differs from the page that brought it only by toggles that waited for an answer
when it was asked for and by toggles begun since; the latter began in the session of the request as
long as it stays. -/
theorem toggles_since_request (h : Reachable k s) (hrun : Run k s as u) (hs : Step k u a v)
    (hp : Shows page u a v) (hn : v.traffic.tickets = s.traffic.tickets + 1)
    (hw : Still k v bs w) :
    ∃ new ms, w.turned = s.turned ++ new ∧
      w.traffic.catalog.shown.roster =
        (⟨page.companions, page.favorites⟩ : Roster).marks ms ∧
      (∀ m ∈ ms, m.1 ∈ s.traffic.catalog.waiting ∨ ∃ v, (m.1, v) ∈ new) ∧
      ((∀ n, .change n ∈ as ++ a :: bs → n = 0) → ∀ x ∈ new, x.2 = s.session) := by
  have hu := h.run hrun
  obtain ⟨new, hc⟩ := hrun.course h
  obtain ⟨ms, hroster, hms⟩ := hp.marked hu hs
  have hcurrent : ∀ m ∈ ms, Current s (new ++ begun u a) m.1 := by
    intro m hm
    obtain ⟨hsame, hin⟩ := hms m hm
    rcases hin with hin | hin
    · -- The request has taken its ticket by now, so the answer came in after it.
      have hlog := hc.confirmed.resolve_left (by omega)
      exact (hlog m hin).append _
    · exact hc.current (Or.inl hin)
  obtain ⟨new', ms', hc', hroster', hms'⟩ :=
    hw.marked (hu.step hs) (hc.step (hu.move hs)) hroster hcurrent
  refine ⟨new', ms', hc'.turned, hroster', hms', fun hch => (hc'.session ?_).2⟩
  simpa using hch

/-- Ann is turned over before a visit, and Bob in it, after the visited owner's page was asked for.
Once the page is on show, Ann's call fails. -/
theorem toggles_since_request_undone :
    ∃ (s u v w : Visit) (as bs : List Happening) (a : Happening) (page : Page),
      Reachable (fun _ _ _ _ => True) s ∧ Run (fun _ _ _ _ => True) s as u ∧
      Step (fun _ _ _ _ => True) u a v ∧ Shows page u a v ∧
      Still (fun _ _ _ _ => True) v bs w ∧
      v.traffic.tickets = s.traffic.tickets + 1 ∧
      page.companions.map (·.isFavorite) = [false, false] ∧
      v.traffic.catalog.shown.companions.map (·.isFavorite) = [true, true] ∧
      w.traffic.catalog.shown.companions.map (·.isFavorite) = [false, true] ∧
      ∃ new ms, w.turned = s.turned ++ new ∧
        w.traffic.catalog.shown.roster =
          (⟨page.companions, page.favorites⟩ : Roster).marks ms ∧
        (∀ m ∈ ms, m.1 ∈ s.traffic.catalog.waiting ∨ ∃ x, (m.1, x) ∈ new) ∧
        ((∀ n, .change n ∈ as ++ a :: bs → n = 0) → ∀ x ∈ new, x.2 = s.session) := by
  have hr := initial_lobby.reachable fun _ _ _ _ => True
  have next {s t : Visit} {a : Happening} (_ : Reachable (fun _ _ _ _ => True) s)
      (h : Step (fun _ _ _ _ => True) s a t) : Step (fun _ _ _ _ => True) s a t := h
  have h : Run (fun _ _ _ _ => True) lobby _ _ := .refl _
  have h := h.step (.arrive rfl)
  have h := h.step ((hr.run h).start (.load {}))
  have h := h.step (.sign (List.mem_singleton.mpr rfl) rfl rfl)
  have h := h.step ((hr.run h).answer (@Companions.Step.answer _ _ [] [] _
    (.ok (⟨[{ id := 1, name := "Ann" }, { id := 2, name := "Bob" }], 2, 0, 0⟩ : Page)) ∅
    rfl rfl trivial) rfl)
  have h := h.step ((hr.run h).land
    (@Companions.Step.land _ _ [] [] _ _ _ rfl rfl fun _ => ⟨by decide, by decide⟩) (by decide))
  have h := h.step ((hr.run h).start (.toggle 1))
  have h := h.step (@Step.enter _ _ _ 3 ⟨true, some 3, none, none, none⟩ _ fair_inOrder rfl)
  have h := h.step (.wake rfl)
  have hs := hr.run h
  have hrun := (Run.refl _).step (next hs (.begin rfl))
  have hrun := hrun.step ((hs.run hrun).start (.toggle 2))
  have hrun := hrun.step (.sign (List.mem_cons_of_mem _ (List.mem_cons_self ..)) rfl rfl)
  have hrun := hrun.step ((hs.run hrun).answer (@Companions.Step.answer _ _ [_] [_] _
    (.ok (⟨[{ id := 1, name := "Ann" }, { id := 2, name := "Bob" }], 2, 0, 0⟩ : Page)) ∅
    rfl rfl trivial) rfl)
  have hu := hs.run hrun
  have hv := next hu (.finish (by rfl) (by rfl)
    (@Companions.Step.land _ _ [_] [_] _ _ _ rfl rfl fun _ => ⟨by decide, by decide⟩))
  have hlate := hu.step hv
  have hw := (Still.refl _).step (hlate.answer (@Companions.Step.answer _ _ [] [_] _
    (.error (.timeout 20)) ∅ rfl rfl trivial) rfl) rfl
  have hw := hw.step ((hlate.run hw.run).land
    (@Companions.Step.land _ _ [] [_] _ _ _ rfl rfl fun ht => by cases ht) (by decide)) rfl
  refine ⟨_, _, _, _, _, _, _, _, hs, hrun, hv, .reply rfl rfl rfl rfl, hw, rfl, rfl, ?_, ?_,
    toggles_since_request hs hrun hv (.reply rfl rfl rfl rfl) rfl hw⟩
  · decide +kernel
  · decide +kernel

/-- Ann is turned over before a visit, by a call that is not answered for long. The page of the visited
owner, asked for, given and received in the visit, has no favorite. It is shown with Ann as one, and
counts her, though no toggle began in the visit. -/
theorem toggle_crosses_sessions :
    ∃ (s₀ s u v : Visit) (bs as : List Happening) (a : Happening) (page : Page),
      s₀.Initial ∧ Run (fun _ _ _ _ => True) s₀ bs s ∧ Run (fun _ _ _ _ => True) s as u ∧
      Step (fun _ _ _ _ => True) u a v ∧ Shows page u a v ∧
      v.traffic.tickets = s.traffic.tickets + 1 ∧ (∀ n, .change n ∈ as ++ [a] → n = 0) ∧
      (∀ x ∈ v.turned, x.2 ≠ s.session) ∧
      page.companions.map (·.isFavorite) = [false] ∧ page.favorites = 0 ∧
      v.traffic.catalog.shown.companions.map (·.isFavorite) = [true] ∧
      v.traffic.catalog.shown.roster.favorites = 1 := by
  have hr := initial_lobby.reachable fun _ _ _ _ => True
  have next {s t : Visit} {a : Happening} (_ : Reachable (fun _ _ _ _ => True) s)
      (h : Step (fun _ _ _ _ => True) s a t) : Step (fun _ _ _ _ => True) s a t := h
  have h : Run (fun _ _ _ _ => True) lobby _ _ := .refl _
  have h := h.step (.arrive rfl)
  have h := h.step ((hr.run h).start (.load {}))
  have h := h.step (.sign (List.mem_singleton.mpr rfl) rfl rfl)
  have h := h.step ((hr.run h).answer (@Companions.Step.answer _ _ [] [] _
    (.ok (⟨[{ id := 1, name := "Ann" }], 1, 0, 0⟩ : Page)) ∅ rfl rfl trivial) rfl)
  have h := h.step ((hr.run h).land
    (@Companions.Step.land _ _ [] [] _ _ _ rfl rfl fun _ => ⟨by decide, by decide⟩) (by decide))
  have h := h.step ((hr.run h).start (.toggle 1))
  have h := h.step (@Step.enter _ _ _ 3 ⟨true, some 3, none, none, none⟩ _ fair_inOrder rfl)
  have h := h.step (.wake rfl)
  have hs := hr.run h
  have hrun := (Run.refl _).step (next hs (.begin rfl))
  have hrun := hrun.step (.sign (List.mem_cons_of_mem _ (List.mem_singleton.mpr rfl)) rfl rfl)
  have hrun := hrun.step ((hs.run hrun).answer (@Companions.Step.answer _ _ [_] [] _
    (.ok (⟨[{ id := 1, name := "Ann" }], 1, 0, 0⟩ : Page)) ∅ rfl rfl trivial) rfl)
  have hu := hs.run hrun
  have hv := next hu (.finish (by rfl) (by rfl)
    (@Companions.Step.land _ _ [_] [] _ _ _ rfl rfl fun _ => ⟨by decide, by decide⟩))
  refine ⟨_, _, _, _, _, _, _, _, initial_lobby, h, hrun, hv, .reply rfl rfl rfl rfl, rfl, by simp,
    ?_, rfl, rfl, ?_, ?_⟩
  · intro x hx
    rw [List.mem_singleton.mp hx]
    decide
  · decide +kernel
  · decide +kernel

end Visit
end Companions
