import Companions.Backend.Answer

/-! What the user is told when the server refuses: the server's own words if the body has any, and
words for the status if it has none. The status alone decides the kind where it is a known one, and
those words where it is not. -/
namespace Companions

namespace Json

variable {name : String} {members : List (String × Json)} {v : Json}

theorem member?_eq_some_iff : member? name members = some v ↔
    ∃ before after, members = before ++ (name, v) :: after ∧ ∀ m ∈ after, m.1 ≠ name := by
  unfold member?
  rw [Option.map_eq_some_iff]
  constructor
  · rintro ⟨⟨key, w⟩, hfind, rfl⟩
    obtain ⟨hkey, after, before, hrev, hafter⟩ := List.find?_eq_some_iff_append.mp hfind
    have hname : key = name := by simpa using hkey
    refine ⟨before.reverse, after.reverse, ?_, fun m hm => ?_⟩
    · rw [← List.reverse_reverse members, hrev, hname]
      simp
    · simpa using hafter m (List.mem_reverse.mp hm)
  · rintro ⟨before, after, rfl, hafter⟩
    have hsplit : (before ++ (name, v) :: after).reverse =
        after.reverse ++ (name, v) :: before.reverse := by simp
    refine ⟨(name, v), List.find?_eq_some_iff_append.mpr ⟨by simp, _, _, hsplit, ?_⟩, rfl⟩
    intro m hm
    simpa using hafter m (List.mem_reverse.mp hm)

end Json

namespace Backend

variable {status : Nat} {body : String} {name s : String} {members : List (String × Json)}

/-- The body is an object whose last member of that name is the text. -/
def Says (name body s : String) : Prop :=
  ∃ before after, Json.parseStrict? body = some (.object (before ++ (name, .text s) :: after)) ∧
    ∀ m ∈ after, m.1 ≠ name

/-- The words for a failure: the message that the body has, else its error, else all of it, else
what the status says. Only what is empty is passed over. -/
inductive Words (status : Nat) (body : String) : String → Prop
  | message {s : String} (h : Says "message" (Text.trim body) s) (hs : s ≠ "") : Words status body s
  | error {s : String} (hm : ∀ m, Says "message" (Text.trim body) m → m = "")
      (h : Says "error" (Text.trim body) s) (hs : s ≠ "") : Words status body s
  | whole (hm : ∀ m, Says "message" (Text.trim body) m → m = "")
      (he : ∀ e, Says "error" (Text.trim body) e → e = "") (hb : Text.trim body ≠ "") :
      Words status body (Text.trim body)
  | status (hb : Text.trim body = "") : Words status body (statusWords status)

theorem says_iff (h : Json.parseStrict? body = some (.object members)) :
    Says name body s ↔ Json.member? name members = some (.text s) := by
  rw [Json.member?_eq_some_iff, Says, h]
  simp

theorem not_said_of_other (h : ∀ ms, Json.parseStrict? body ≠ some (.object ms)) :
    ¬Says name body s := by
  rintro ⟨before, after, hb, -⟩
  exact h _ hb

theorem nonEmptyText?_eq_some_iff : nonEmptyText? name members = some s ↔
    Json.member? name members = some (.text s) ∧ s ≠ "" := by
  unfold nonEmptyText?
  split
  · rename_i t ht
    rw [ht]
    split <;> grind
  · rename_i hnot
    constructor
    · intro h
      cases h
    · rintro ⟨h, -⟩
      exact (hnot s h).elim

theorem nonEmptyText?_eq_none (h : nonEmptyText? name members = none)
    (hs : Json.member? name members = some (.text s)) : s = "" := by
  by_cases hne : s = ""
  · exact hne
  · rw [nonEmptyText?_eq_some_iff.mpr ⟨hs, hne⟩] at h
    cases h

theorem words_words? (status : Nat) (body : String) :
    Words status body ((words? body).getD (statusWords status)) := by
  unfold words?
  dsimp only
  by_cases hb : Text.trim body = ""
  · rw [if_pos hb]
    exact .status hb
  rw [if_neg hb]
  split
  · rename_i members hparse
    cases hm : nonEmptyText? "message" members with
    | some m =>
      obtain ⟨hmember, hne⟩ := nonEmptyText?_eq_some_iff.mp hm
      exact .message ((says_iff hparse).mpr hmember) hne
    | none =>
      have hmessage : ∀ s, Says "message" (Text.trim body) s → s = "" :=
        fun s hs => nonEmptyText?_eq_none hm ((says_iff hparse).mp hs)
      cases he : nonEmptyText? "error" members with
      | some e =>
        obtain ⟨hmember, hne⟩ := nonEmptyText?_eq_some_iff.mp he
        exact .error hmessage ((says_iff hparse).mpr hmember) hne
      | none =>
        exact .whole hmessage (fun s hs => nonEmptyText?_eq_none he ((says_iff hparse).mp hs)) hb
  · rename_i hparse
    have hsilent (name : String) : ∀ s, Says name (Text.trim body) s → s = "" :=
      fun s hs => (not_said_of_other hparse hs).elim
    exact .whole (hsilent "message") (hsilent "error") hb

theorem statusWords_ne_empty (status : Nat) : statusWords status ≠ "" := by
  unfold statusWords
  split
  · decide
  · decide
  · decide
  · decide
  · intro h
    have := congrArg String.toList h
    simp at this

theorem Words.ne_empty (h : Words status body s) : s ≠ "" := by
  cases h with
  | message _ hs => exact hs
  | error _ _ hs => exact hs
  | whole _ _ hb => exact hb
  | status => exact statusWords_ne_empty status

/-- A server that answers with anything but a success is quoted: the detail of the failure is what
its body says, or else what the status says, and never empty. The kind is that of the status if it
has one, and else that of the detail. -/
theorem refusal_quoted (b : Backend) (r : Request) (c : Credentials)
    (hs : Http.isSuccess status = false) (bytes : Option (List UInt8)) :
    ∃ e d, (b.conclude r c (.answer status bytes)).1 = .error e ∧
      Words status ((bytes.map Text.Utf8.decodeLossy).getD "") d ∧ d ≠ "" ∧
      (Failure.ofBackend e).detail = some d ∧
      (∀ kind, FailureKind.ofStatus? status = some kind → (Failure.ofBackend e).kind = kind) ∧
      (FailureKind.ofStatus? status = none →
        (Failure.ofBackend e).kind = FailureKind.ofMessage d) := by
  have hwords : Words status _ (failureWords status bytes) := words_words? status _
  have hne := hwords.ne_empty
  refine ⟨.status status (failureWords status bytes), failureWords status bytes, ?_, hwords, hne,
    ?_, fun kind hk => ?_, fun hk => ?_⟩
  · unfold conclude
    simp [hs]
  · simp [Failure.ofBackend, BackendError.serverMessage?, hne]
  · simp [Failure.ofBackend, FailureKind.classify, hk]
  · simp [Failure.ofBackend, FailureKind.classify, hk]

/-- The message is empty, so that the error counts, and it decides the kind, as the status says
nothing of that. -/
theorem refusal_quoted_error_member :
    let b : Backend := { base := "http://localhost/api" }
    let bytes := "\n \x7b\"message\": \"\", \"error\": \"Connection lost\"\x7d".toUTF8.toList
    Http.isSuccess 409 = false ∧
      ∃ e, (b.conclude (.toggle 7) {} (.answer 409 (some bytes))).1 = .error e ∧
        Words 409 (Text.Utf8.decodeLossy bytes) "Connection lost" ∧
        Failure.ofBackend e = ⟨.network, some "Connection lost"⟩ := by
  intro b bytes
  have hs : Http.isSuccess 409 = false := rfl
  obtain ⟨e, d, he, hwords, -, hdetail, -, hkind⟩ :=
    refusal_quoted b (.toggle 7) {} hs (some bytes)
  obtain ⟨hsaid, hclue⟩ : failureWords 409 (some bytes) = "Connection lost" ∧
      FailureKind.ofMessage "Connection lost" = .network := by decide +kernel
  have heq : BackendError.status 409 (failureWords 409 (some bytes)) = e := Except.error.inj he
  rw [hsaid] at heq
  subst heq
  cases hdetail
  exact ⟨hs, _, he, hwords, congrArg (Failure.mk · _) ((hkind rfl).trans hclue)⟩

end Backend
end Companions
