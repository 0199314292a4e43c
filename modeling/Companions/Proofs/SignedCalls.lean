import Companions.Backend.Answer

/-! Calls of the backend under way, each with the message that was sent for it. Any number of them
may be under way, and they are answered in any order. -/
namespace Companions

/-- The message says once who sends it, with this token. -/
def Http.Message.SignedWith (token : String) (m : Http.Message) : Prop :=
  (m.headers.filter fun h => h.1 = "Authorization") = [("Authorization", "Bearer " ++ token)]

theorem Http.Message.SignedWith.unique {m : Http.Message} {t u : String} (ht : m.SignedWith t)
    (hu : m.SignedWith u) : t = u := by
  have h := ht.symm.trans hu
  simpa using h

theorem Session.headers_unsigned (s : Session) :
    (s.headers.filter fun h => h.1 = "Authorization") = [] := by
  unfold Session.headers
  split
  · cases s.visitor <;> cases s.share <;> simp
  · rfl

namespace Backend

variable {b : Backend} {token : Option String} {v : Session} {r : Request} {m : Http.Message}

theorem plainHeaders_unsigned (body : Option Json) :
    ((plainHeaders body).filter fun h => h.1 = "Authorization") = [] := by
  cases body <;> simp [plainHeaders]

theorem sign_eq_some {t : String} {signature : List (String × String)}
    (h : Signing.sign (some t) v = some signature) :
    signature = ("Authorization", "Bearer " ++ t) :: v.headers := by
  simp only [Signing.sign] at h
  split at h
  · exact (Option.some.inj h).symm
  · cases h

/-- A message is sent only with the token at hand. -/
theorem signedWith_of_compose (h : b.compose token v r = .ok m) :
    ∃ t, token = some t ∧ m.SignedWith t := by
  unfold compose at h
  cases hu : b.endpoint r with
  | error e => simp [hu, bind, Except.bind] at h
  | ok url =>
    cases token with
    | none => simp [hu, bind, Except.bind, throw, throwThe, MonadExceptOf.throw] at h
    | some t =>
      refine ⟨t, rfl, ?_⟩
      simp only [hu, bind, Except.bind, throw, throwThe, MonadExceptOf.throw, pure,
        Except.pure] at h
      split at h
      · cases h
      cases hs : Signing.sign (some t) v with
      | none => simp [hs] at h
      | some signature =>
        simp only [hs] at h
        split at h
        · cases h
        · cases h
          simp [Http.Message.SignedWith, sign_eq_some hs, Session.headers_unsigned,
            plainHeaders_unsigned]

def onLocalhost : Backend := { base := "http://localhost:8081/api" }

end Backend

/-- A call that awaits its answer. -/
structure Sent where
  request : Request
  message : Http.Message

structure Client where
  credentials : Credentials
  underWay : List Sent := []

namespace Client

inductive Event
  | ask (r : Request)
  /-- A request was not sent. -/
  | refuse (r : Request) (e : BackendError)
  | answer (c : Sent) (d : Http.Delivery)
  /-- Nobody waits for the answer any longer. -/
  | abandon (c : Sent)

/-- The server does not know who asks. -/
def Event.isRejection : Event → Bool
  | answer _ (.answer 401 _) => true
  | _ => false

/-- The token is looked up when a request is sent, and the credentials in use when the answer
arrives learn what it says of them. -/
inductive Step (b : Backend) : Client → Event → Client → Prop
  | ask {s : Client} {v : Session} {r : Request} {m : Http.Message}
      (hm : b.compose s.credentials.token v r = .ok m) :
      Step b s (.ask r) { s with underWay := s.underWay ++ [⟨r, m⟩] }
  | refuse {s : Client} {v : Session} {r : Request} {e : BackendError}
      (hm : b.compose s.credentials.token v r = .error e) : Step b s (.refuse r e) s
  | answer {s : Client} {xs ys : List Sent} {c : Sent} {d : Http.Delivery}
      (hs : s.underWay = xs ++ c :: ys) :
      Step b s (.answer c d) ⟨(b.conclude c.request s.credentials d).2, xs ++ ys⟩
  | abandon {s : Client} {xs ys : List Sent} {c : Sent} (hs : s.underWay = xs ++ c :: ys) :
      Step b s (.abandon c) { s with underWay := xs ++ ys }

inductive Run (b : Backend) : Client → List Event → Client → Prop
  | refl (s : Client) : Run b s [] s
  | step {s t u : Client} {a : Event} {as : List Event} (h : Step b s a t) (hr : Run b t as u) :
      Run b s (a :: as) u

variable {b : Backend} {s t : Client} {a : Event} {as : List Event}

theorem conclude_credentials {r : Request} {c : Credentials} {call : Sent} {d : Http.Delivery} :
    (b.conclude r c d).2 = if (Event.answer call d).isRejection then c.clear else c := by
  cases d with
  | unreachable => rfl
  | silent => rfl
  | answer status body =>
    by_cases hs : status = 401
    · subst hs
      rfl
    · have hr : (Event.answer call (.answer status body)).isRejection = false := by
        unfold Event.isRejection
        split
        · rename_i heq
          cases heq
          exact (hs rfl).elim
        · rfl
      simp only [Backend.conclude, hs, hr]
      split <;> rfl

/-- Only a rejection changes the credentials. -/
theorem Step.credentials (h : Step b s a t) :
    t.credentials = if a.isRejection then s.credentials.clear else s.credentials := by
  cases h with
  | ask => rfl
  | refuse => rfl
  | answer => exact conclude_credentials
  | abandon => rfl

theorem Event.isRejection_iff :
    a.isRejection = true ↔ ∃ c body, a = .answer c (.answer 401 body) := by
  constructor
  · intro h
    unfold Event.isRejection at h
    split at h
    · exact ⟨_, _, rfl⟩
    · cases h
  · rintro ⟨c, body, rfl⟩
    rfl

/-- A call on its own is a request and then its answer. -/
theorem run_call {v : Session} {r : Request} {c : Credentials} {m : Http.Message}
    (deliver : Http.Message → Http.Delivery) (hm : b.compose c.token v r = .ok m) :
    Run b ⟨c, []⟩ [.ask r, .answer ⟨r, m⟩ (deliver m)] ⟨(b.call v deliver r c).2, []⟩ := by
  have hc : (b.call v deliver r c).2 = (b.conclude r c (deliver m)).2 := by
    simp [Backend.call, hm]
  rw [hc]
  exact .step (.ask hm) (.step (@Step.answer _ _ [] [] _ _ rfl) (.refl _))

end Client
end Companions
