import Companions.Proofs.SignedCalls

/-! What a rejection does to the stored token. No call remembers which token it was signed with, so
a rejection of the token from outside takes the stored one away as well. -/
namespace Companions
namespace Client

variable {b : Backend} {c : Credentials} {s t : Client} {a : Event} {as : List Event}

/-- Of a client that started with these credentials. -/
structure Vouched (c : Credentials) (s : Client) : Prop where
  override : s.credentials.override = c.override
  stored : s.credentials.stored = c.stored ∨ s.credentials.stored = none
  signed : ∀ call ∈ s.underWay, ∃ token, c.token = some token ∧ call.message.SignedWith token

theorem vouched_initial : Vouched c ⟨c, []⟩ := ⟨rfl, Or.inl rfl, by simp⟩

theorem Vouched.token (h : Vouched c s) {token : String}
    (ht : s.credentials.token = some token) : c.token = some token := by
  have hs := h.stored
  unfold Credentials.token at ht ⊢
  rw [h.override] at ht
  rcases hs with hs | hs <;> rw [hs] at ht
  · exact ht
  · cases ho : c.override <;> simp_all

theorem vouched_step (h : Vouched c s) (hs : Step b s a t) : Vouched c t := by
  have hc := hs.credentials
  refine ⟨?_, ?_, ?_⟩
  · rw [hc]
    split
    · exact h.override
    · exact h.override
  · rw [hc]
    split
    · exact Or.inr rfl
    · exact h.stored
  · cases hs with
    | ask hm =>
      intro call hcall
      rcases List.mem_append.mp hcall with hcall | hcall
      · exact h.signed call hcall
      · obtain rfl := List.mem_singleton.mp hcall
        obtain ⟨token, ht, hm⟩ := Backend.signedWith_of_compose hm
        exact ⟨token, h.token ht, hm⟩
    | refuse => exact h.signed
    | answer hs => exact fun call hcall => h.signed call (by rw [hs]; grind)
    | abandon hs => exact fun call hcall => h.signed call (by rw [hs]; grind)

theorem vouched_run (h : Run b s as t) (hs : Vouched c s) : Vouched c t := by
  induction h with
  | refl => exact hs
  | step h _ ih => exact ih (vouched_step hs h)

/-- The stored token is removed by a rejection and by nothing else, and the token from outside is
kept. The call that was rejected was signed with the token from outside if there is one, and
otherwise with the very token that is removed. -/
theorem stored_until_rejected (h : Run b ⟨c, []⟩ as s) (hs : Step b s a t) :
    t.credentials.override = c.override ∧
    (t.credentials.stored ≠ s.credentials.stored →
      ∃ call body token, a = .answer call (.answer 401 body) ∧ call ∈ s.underWay ∧
        s.credentials.stored = some token ∧ call.message.SignedWith (c.override.getD token)) ∧
    ((∃ call body, a = .answer call (.answer 401 body)) → t.credentials.stored = none) := by
  have hv := vouched_run h vouched_initial
  refine ⟨(vouched_step hv hs).override, ?_, ?_⟩
  · intro hne
    rw [hs.credentials] at hne
    split at hne
    · rename_i hr
      obtain ⟨call, body, rfl⟩ := Event.isRejection_iff.mp hr
      have hcall : call ∈ s.underWay := by
        cases hs with
        | answer hs => simp [hs]
      obtain ⟨token, ht⟩ := Option.ne_none_iff_exists'.mp (Ne.symm hne)
      obtain ⟨used, hu, hm⟩ := hv.signed call hcall
      refine ⟨call, body, token, rfl, hcall, ht, ?_⟩
      have hc : c.stored = some token := by
        rcases hv.stored with he | he
        · rw [← he, ht]
        · rw [ht] at he
          cases he
      have hused : used = c.override.getD token := by
        unfold Credentials.token at hu
        rw [hc] at hu
        cases ho : c.override <;> simp_all
      rwa [← hused]
    · exact (hne rfl).elim
  · intro hr
    rw [hs.credentials, if_pos (Event.isRejection_iff.mpr hr)]
    rfl

theorem stored_until_rejected_own :
    ∃ m : Http.Message,
      let c : Credentials := { durable := true, stored := some "kept" }
      Run .onLocalhost ⟨c, []⟩ [.ask (.toggle 1)] ⟨c, [⟨.toggle 1, m⟩]⟩ ∧
      Step .onLocalhost ⟨c, [⟨.toggle 1, m⟩]⟩ (.answer ⟨.toggle 1, m⟩ (.answer 401 none))
        ⟨c.clear, []⟩ ∧
      m.SignedWith "kept" := by
  obtain ⟨m, hm⟩ : ∃ m, Backend.onLocalhost.compose (some "kept") .inactive (.toggle 1) = .ok m := ⟨_, rfl⟩
  have hrun : Run .onLocalhost ⟨{ durable := true, stored := some "kept" }, []⟩ [.ask (.toggle 1)]
      ⟨{ durable := true, stored := some "kept" }, [⟨.toggle 1, m⟩]⟩ := .step (.ask hm) (.refl _)
  have hstep : Step .onLocalhost
      ⟨{ durable := true, stored := some "kept" }, [⟨.toggle 1, m⟩]⟩
      (.answer ⟨.toggle 1, m⟩ (.answer 401 none)) ⟨{ durable := true }, []⟩ :=
    @Step.answer _ _ [] [] _ _ rfl
  obtain ⟨call, body, token, ha, -, ht, hs⟩ :=
    (stored_until_rejected hrun hstep).2.1 (by simp)
  cases ha
  cases ht
  exact ⟨m, hrun, hstep, hs⟩

/-- A stored token that was never sent is lost when the token from outside is rejected. -/
theorem rejection_removes_unsent :
    ∃ m : Http.Message,
      let c : Credentials := { durable := true, stored := some "kept", override := some "given" }
      let call := Backend.onLocalhost.call .inactive (fun _ => .answer 401 none) (.toggle 1) c
      Run .onLocalhost ⟨c, []⟩ [.ask (.toggle 1), .answer ⟨.toggle 1, m⟩ (.answer 401 none)]
        ⟨call.2, []⟩ ∧
      m.SignedWith "given" ∧ ¬m.SignedWith "kept" ∧ call.2.stored = none := by
  obtain ⟨m, hm⟩ : ∃ m, Backend.onLocalhost.compose (some "given") .inactive (.toggle 1) = .ok m :=
    ⟨_, rfl⟩
  obtain ⟨token, ht, hs⟩ := Backend.signedWith_of_compose hm
  cases ht
  refine ⟨m, run_call (fun _ => .answer 401 none) hm, hs, ?_, ?_⟩
  · intro hk
    exact absurd (hs.unique hk) (by decide)
  · rfl

end Client
end Companions
