import Companions.Proofs.SessionRuns
import Companions.Signing

/-! The session in force at every point of a run, also at those where a listener that was called for
one change makes another, and in runs that never end. It is that of the latest visit alone; the
channel that tasks watch shows the same one, and requests are signed with it. -/
namespace Companions
namespace SessionStore

variable {σ : Type} {p : Calling σ → Prop} {c : Calling σ} {k : Task σ} {ks : List (Task σ)}
  {r : Reaction σ} {s t : SessionStore σ} {es : List (Entry σ)} {o : Option Session} {memory : σ}

/-- A point within a run. -/
structure Point (σ : Type) where
  /-- What is still to be carried out, the innermost first. -/
  tasks : List (Task σ)
  store : SessionStore σ
  /-- The session given to the latest `enter`, unless a `leave` has come since. -/
  visit : Option Session

namespace Point

variable {x y : Point σ}

/-- A new store, with which all is still to be done. -/
def start (r : Reaction σ) (memory : σ) : Point σ := ⟨[.perform r], { memory }, none⟩

/-- From one point of a run to the next. Each change has its own way of calling, of those
allowed. -/
inductive Step (p : Calling σ → Prop) : Point σ → Point σ → Prop
  | done {s : SessionStore σ} {o : Option Session} {ks : List (Task σ)} :
      Step p ⟨.perform .done :: ks, s, o⟩ ⟨ks, s, o⟩
  | enter {v : Session} {next : Reaction σ} {c : Calling σ} {s : SessionStore σ}
      {o : Option Session} {ks : List (Task σ)} (hc : p c) :
      Step p ⟨.perform (.enter v next) :: ks, s, o⟩
        ⟨.tell (s.sent + 1) (v.opened c.now) (c.arrange s.listeners) :: .perform next :: ks,
          s.replace (v.opened c.now), some v⟩
  | leave {next : Reaction σ} {c : Calling σ} {s : SessionStore σ} {o : Option Session}
      {ks : List (Task σ)} (hc : p c) (ha : s.session.active = true) :
      Step p ⟨.perform (.leave next) :: ks, s, o⟩
        ⟨.tell (s.sent + 1) .inactive (c.arrange s.listeners) :: .perform next :: ks,
          s.replace .inactive, none⟩
  | idle {next : Reaction σ} {s : SessionStore σ} {o : Option Session} {ks : List (Task σ)}
      (ha : s.session.active = false) :
      Step p ⟨.perform (.leave next) :: ks, s, o⟩ ⟨.perform next :: ks, s, none⟩
  | subscribe {l : Listener σ} {next : Nat → Reaction σ} {s : SessionStore σ}
      {o : Option Session} {ks : List (Task σ)} :
      Step p ⟨.perform (.subscribe l next) :: ks, s, o⟩
        ⟨.perform (next s.nextId) :: ks, (s.subscribe l).2, o⟩
  | unsubscribe {id : Nat} {next : Reaction σ} {s : SessionStore σ} {o : Option Session}
      {ks : List (Task σ)} :
      Step p ⟨.perform (.unsubscribe id next) :: ks, s, o⟩
        ⟨.perform next :: ks, s.unsubscribe id, o⟩
  | read {next : Session → Reaction σ} {s : SessionStore σ} {o : Option Session}
      {ks : List (Task σ)} :
      Step p ⟨.perform (.read next) :: ks, s, o⟩ ⟨.perform (next s.session) :: ks, s, o⟩
  | memory {next : σ → Reaction σ} {s : SessionStore σ} {o : Option Session}
      {ks : List (Task σ)} :
      Step p ⟨.perform (.recall next) :: ks, s, o⟩ ⟨.perform (next s.memory) :: ks, s, o⟩
  | remember {m : σ} {next : Reaction σ} {s : SessionStore σ} {o : Option Session}
      {ks : List (Task σ)} :
      Step p ⟨.perform (.remember m next) :: ks, s, o⟩
        ⟨.perform next :: ks, { s with memory := m }, o⟩
  | told {n : Nat} {v : Session} {s : SessionStore σ} {o : Option Session} {ks : List (Task σ)} :
      Step p ⟨.tell n v [] :: ks, s, o⟩ ⟨ks, s, o⟩
  | call {n : Nat} {v : Session} {l : Nat × Listener σ} {ls : List (Nat × Listener σ)}
      {s : SessionStore σ} {o : Option Session} {ks : List (Task σ)} :
      Step p ⟨.tell n v (l :: ls) :: ks, s, o⟩ ⟨.perform (l.2 v) :: .tell n v ls :: ks, s, o⟩

/-- A run leads from one point to another. -/
abbrev Leads (p : Calling σ → Prop) : Point σ → Point σ → Prop := Relation.ReflTransGen (Step p)

/-- These tasks, one after the other, lead from one store to another. -/
inductive Ends (p : Calling σ → Prop) : List (Task σ) → SessionStore σ → SessionStore σ → Prop
  | nil (s : SessionStore σ) : Ends p [] s s
  | cons {k : Task σ} {ks : List (Task σ)} {s t u : SessionStore σ} {es : List (Entry σ)}
      (h : Run p k s es t) (hr : Ends p ks t u) : Ends p (k :: ks) s u

theorem leads_of_run (h : Run p k s es t) (ks : List (Task σ)) (o : Option Session) :
    ∃ o', Leads p ⟨k :: ks, s, o⟩ ⟨ks, t, o'⟩ := by
  induction h generalizing ks o with
  | done => exact ⟨_, .single .done⟩
  | enter hc _ _ ih ihr =>
    obtain ⟨o₁, h₁⟩ := ih _ _
    obtain ⟨o₂, h₂⟩ := ihr ks o₁
    exact ⟨o₂, .head (.enter hc) (h₁.trans h₂)⟩
  | leave hc ha _ _ ih ihr =>
    obtain ⟨o₁, h₁⟩ := ih _ _
    obtain ⟨o₂, h₂⟩ := ihr ks o₁
    exact ⟨o₂, .head (.leave hc ha) (h₁.trans h₂)⟩
  | idle ha _ ih =>
    obtain ⟨o₁, h₁⟩ := ih ks _
    exact ⟨o₁, .head (.idle ha) h₁⟩
  | subscribe _ ih =>
    obtain ⟨o₁, h₁⟩ := ih ks o
    exact ⟨o₁, .head .subscribe h₁⟩
  | unsubscribe _ ih =>
    obtain ⟨o₁, h₁⟩ := ih ks o
    exact ⟨o₁, .head .unsubscribe h₁⟩
  | read _ ih =>
    obtain ⟨o₁, h₁⟩ := ih ks o
    exact ⟨o₁, .head .read h₁⟩
  | memory _ ih =>
    obtain ⟨o₁, h₁⟩ := ih ks o
    exact ⟨o₁, .head .memory h₁⟩
  | remember _ ih =>
    obtain ⟨o₁, h₁⟩ := ih ks o
    exact ⟨o₁, .head .remember h₁⟩
  | told => exact ⟨_, .single .told⟩
  | call _ _ ih ihr =>
    obtain ⟨o₁, h₁⟩ := ih _ o
    obtain ⟨o₂, h₂⟩ := ihr ks o₁
    exact ⟨o₂, .head .call (h₁.trans h₂)⟩

/-- What can be brought to an end after a step can be before it. -/
theorem Step.ends (h : Step p x y) (hy : Ends p y.tasks y.store t) :
    Ends p x.tasks x.store t := by
  cases h with
  | done => exact .cons (.done _) hy
  | enter hc =>
    cases hy with
    | cons ht hr =>
      cases hr with
      | cons hn hr => exact .cons (.enter hc ht hn) hr
  | leave hc ha =>
    cases hy with
    | cons ht hr =>
      cases hr with
      | cons hn hr => exact .cons (.leave hc ha ht hn) hr
  | idle ha =>
    cases hy with
    | cons hn hr => exact .cons (.idle ha hn) hr
  | subscribe =>
    cases hy with
    | cons hn hr => exact .cons (.subscribe hn) hr
  | unsubscribe =>
    cases hy with
    | cons hn hr => exact .cons (.unsubscribe hn) hr
  | read =>
    cases hy with
    | cons hn hr => exact .cons (.read hn) hr
  | memory =>
    cases hy with
    | cons hn hr => exact .cons (.memory hn) hr
  | remember =>
    cases hy with
    | cons hn hr => exact .cons (.remember hn) hr
  | told => exact .cons (.told _ _ _) hy
  | call =>
    cases hy with
    | cons hl hr =>
      cases hr with
      | cons ht hr => exact .cons (.call hl ht) hr

theorem ends_of_leads (h : Leads p x ⟨[], t, o⟩) : Ends p x.tasks x.store t := by
  induction h using Relation.ReflTransGen.head_induction_on with
  | refl => exact .nil t
  | head h _ ih => exact h.ends ih

/-- What can be carried out within some depth is what leads to a point where nothing is left. -/
theorem perform_iff_leads :
    (∃ depth, SessionStore.perform (notify c depth) c.now r { memory } = some t) ↔
      ∃ visit, Leads (· = c) (start r memory) ⟨[], t, visit⟩ := by
  rw [perform_iff_run]
  constructor
  · rintro ⟨es, h⟩
    exact leads_of_run h [] none
  · rintro ⟨visit, h⟩
    cases ends_of_leads h with
    | cons h hr =>
      cases hr
      exact ⟨_, h⟩

/-- The session in force is that of the visit under way, with nothing of an earlier one. -/
structure InForce (x : Point σ) : Prop where
  watched : x.store.watched = x.store.session
  away : x.visit = none → x.store.session = .inactive
  visiting : ∀ v, x.visit = some v →
    x.store.session.active = true ∧ x.store.session.started.isSome = true ∧
      x.store.session.owner = v.owner ∧ x.store.session.visitor = v.visitor ∧
      x.store.session.share = v.share

theorem InForce.visit_eq_none (h : InForce x) (ha : x.store.session.active = false) :
    x.visit = none := by
  by_contra hv
  obtain ⟨v, hv⟩ := Option.ne_none_iff_exists'.mp hv
  rw [(h.visiting v hv).1] at ha
  cases ha

theorem inForce_start (r : Reaction σ) (memory : σ) : InForce (start r memory) :=
  ⟨rfl, fun _ => rfl, fun _ hv => by cases hv⟩

theorem inForce_step (h : InForce x) (hs : Step p x y) : InForce y := by
  cases hs with
  | enter =>
    refine ⟨rfl, (fun hv => by cases hv), fun v hv => ?_⟩
    cases hv
    exact ⟨rfl, rfl, rfl, rfl, rfl⟩
  | leave => exact ⟨rfl, fun _ => rfl, fun _ hv => by cases hv⟩
  | idle ha =>
    exact ⟨h.watched, fun _ => h.away (h.visit_eq_none ha), fun _ hv => by cases hv⟩
  | _ => exact ⟨h.watched, h.away, h.visiting⟩

theorem inForce_leads (h : Leads p x y) (hx : InForce x) : InForce y := by
  induction h with
  | refl => exact hx
  | tail _ hs ih => exact inForce_step ih hs

end Point

/-- The values that a request has for a header. -/
def valuesOf (name : String) (headers : List (String × String)) : List String :=
  (headers.filter fun h => h.1 = name).map (·.2)

/-- A request says that it is made on a visit if it is, and then as whom and through what. -/
structure Declares (visit : Option Session) (headers : List (String × String)) : Prop where
  mode : valuesOf "X-Shared-Mode" headers = (visit.map fun _ => "true").toList
  visitor : valuesOf "X-Visitor-Id" headers =
    ((visit.bind (·.visitor)).map fun id => Number.showInt id.toInt).toList
  share : valuesOf "X-Share-Config-Id" headers =
    ((visit.bind (·.share)).map fun id => Number.showInt id.toInt).toList

theorem declares_headers {x : Point σ} (h : x.InForce) :
    Declares x.visit x.store.session.headers := by
  cases hv : x.visit with
  | none => rw [h.away hv]; exact ⟨rfl, rfl, rfl⟩
  | some v =>
    obtain ⟨ha, _, _, hvisitor, hshare⟩ := h.visiting v hv
    rw [Session.headers, if_pos ha, hvisitor, hshare]
    cases hi : v.visitor <;> cases hj : v.share <;> constructor <;> simp [valuesOf, hi, hj]

/-- The token is not among the headers of the visit. -/
theorem Declares.sign {visit : Option Session} {session : Session} {token : Option String}
    {headers : List (String × String)} (h : Declares visit session.headers)
    (hs : Signing.sign token session = some headers) : Declares visit headers := by
  cases token with
  | none => cases hs; exact h
  | some token =>
    simp only [Signing.sign] at hs
    split at hs
    · cases hs
      exact ⟨h.mode, h.visitor, h.share⟩
    · cases hs

/-- What comes to an end are the runs that lead to a point with nothing left. At every point of
every run, whether it ends or not, the channel shows the session in force, this is that of the visit
under way, and a request signed with it declares that visit. -/
theorem session_in_force (r : Reaction σ) (memory : σ) :
    (∀ c t, (∃ depth, SessionStore.perform (notify c depth) c.now r { memory } = some t) ↔
      ∃ visit, Point.Leads (· = c) (.start r memory) ⟨[], t, visit⟩) ∧
    ∀ p x, Point.Leads p (.start r memory) x → x.InForce ∧
      ∀ token headers, Signing.sign token x.store.session = some headers →
        Declares x.visit headers := by
  refine ⟨fun c t => Point.perform_iff_leads, fun p x h => ?_⟩
  have hx := Point.inForce_leads h (Point.inForce_start r memory)
  exact ⟨hx, fun token headers hs => (declares_headers hx).sign hs⟩

/-- A listener that takes every visit to the second space on to the third. -/
def passOn : Listener Unit := fun v =>
  if v.owner = some 2 then .enter { owner := some 3, visitor := some 4, share := some 7 } .done
  else .done

/-- Within the call for the first visit, the second one has just begun. -/
theorem session_in_force_passed_on :
    ∃ x headers, Point.Leads (fun _ => True)
        (.start (.subscribe passOn fun _ => .enter { owner := some 2, visitor := some 5 } .done) ())
        x ∧
      x.tasks.length = 4 ∧ x.store.session.owner = some 3 ∧ x.InForce ∧
      Signing.sign (some "t") x.store.session = some headers ∧
      headers = [("Authorization", "Bearer t"), ("X-Shared-Mode", "true"), ("X-Visitor-Id", "4"),
        ("X-Share-Config-Id", "7")] ∧
      Declares x.visit headers := by
  let c : Calling Unit := { now := ⟨1, by decide, by decide⟩ }
  have h : Point.Leads (fun _ => True)
      (.start (.subscribe passOn fun _ => .enter { owner := some 2, visitor := some 5 } .done) ())
      _ :=
    .tail (.tail (.tail (.tail .refl .subscribe) (.enter (c := c) trivial)) .call)
      (.enter (c := c) trivial)
  obtain ⟨hx, hs⟩ := (session_in_force _ ()).2 _ _ h
  exact ⟨_, _, h, rfl, rfl, hx, rfl, by decide +kernel, hs (some "t") _ rfl⟩

end SessionStore
end Companions
