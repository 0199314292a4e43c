import Companions.CommandLine.Run
import Companions.Proofs.SignedCalls

/-! Which token requests are signed with, over any history of the stored one. A token comes from the
environment, the settings or the vault, and the settings stand in for the environment: so their
token, too, comes before the stored one. -/
namespace Companions

def Vault.token? : Vault → Option String
  | file token => token
  | memory | vacant | foreign | unreachable => none

/-- What is done to the stored token. -/
inductive TokenDeed
  | stored (token : String)
  | forgotten
  /-- The server did not know who asked. -/
  | rejected

namespace TokenDeed

def token? : TokenDeed → Option String
  | stored token => some token
  | forgotten | rejected => none

/-- The stored token after these deeds, oldest first. -/
def kept (token : Option String) (ds : List TokenDeed) : Option String :=
  ds.foldl (fun _ d => d.token?) token

end TokenDeed

/-- What a run on the command line does to the stored token, if it does not fail. -/
def Options.deeds (o : Options) (input : List UInt8) : List TokenDeed :=
  if o.logout then [.forgotten]
  else if o.setToken then (readToken input).toOption.toList.map .stored
  else []

def Client.Event.deeds (e : Client.Event) : List TokenDeed :=
  if e.isRejection then [.rejected] else []

namespace Credentials

/-- The token that is to be used: the environment's unless it is blank, else the stored one, else
that of the settings. -/
def preferred (environment stored configured : Option String) : Option String :=
  (environment.filter fun t => Text.trim t != "").or (stored.or configured)

variable {environment stored configured : Option String}

theorem overrideFrom_or_eq_preferred_iff :
    (overrideFrom environment configured).or stored = preferred environment stored configured ↔
      (environment.filter fun t => Text.trim t != "").isSome ∨ configured = none ∨ stored = none ∨
        stored = configured := by
  unfold overrideFrom preferred
  cases environment.filter fun t => Text.trim t != "" <;> cases configured <;> cases stored <;>
    simp [eq_comm]

end Credentials

theorem ofVault_ok {v : Vault} {c : Credentials} (hv : v ≠ .memory)
    (h : Credentials.ofVault v = .ok c) : c.durable = true ∧ c.stored = v.token? := by
  cases v with
  | memory => exact (hv rfl).elim
  | vacant | file => cases h; exact ⟨rfl, rfl⟩
  | foreign | unreachable => cases h

namespace Options
/-- What a run comes to, and how it leaves the vault. -/
inductive Outcome (o : Options) (found : Found) (v : Vault) (environment : Option String)
    (input : List UInt8) : Ending × Vault → Prop
  | refused {report : Report} : Outcome o found v environment input (.failed report, v)
  | forgotten {c : Credentials} {text : String} (hv : Credentials.ofVault v = .ok c)
      (ho : o.deeds input = [.forgotten]) :
      Outcome o found v environment input (.said text, c.clear.vault)
  | stored {c : Credentials} {text token : String} (hv : Credentials.ofVault v = .ok c)
      (ho : o.deeds input = [.stored token]) :
      Outcome o found v environment input (.said text, (c.set token).vault)
  | failed {c : Credentials} {report : Report} (hv : Credentials.ofVault v = .ok c) :
      Outcome o found v environment input (.failed report, c.vault)
  | launched {settings : Settings} {c : Credentials} {l : Launch}
      (hl : Settings.load found = .ok settings) (hv : Credentials.ofVault v = .ok c)
      (hc : l.credentials = c.withOverride
        (Credentials.overrideFrom environment settings.authToken)) :
      Outcome o found v environment input (.launched l, c.vault)

theorem launch_credentials {settings : Settings} {c : Credentials} {visit : Option Session}
    {l : Launch} (h : launch settings c visit = .ok l) : l.credentials = c := by
  unfold launch at h
  cases hb : Backend.ofBase settings.apiBase (settings.timeoutSeconds * 1000000000) with
  | error e => simp [hb, bind, Except.bind] at h
  | ok b =>
    simp only [hb, bind, Except.bind, pure, Except.pure, Except.ok.injEq] at h
    rw [← h]

theorem perform_outcome (o : Options) (home : String) (found : Found) (v : Vault)
    (environment : Option String) (input : List UInt8) :
    Outcome o found v environment input (o.perform home found v environment input) := by
  unfold perform
  cases hl : Settings.load found with
  | error e => exact .refused
  | ok settings =>
    cases hv : Credentials.ofVault v with
    | error e => exact .refused
    | ok c =>
      -- the token from outside leaves no trace in the vault
      dsimp only
      split
      · rename_i ho
        exact @Outcome.forgotten _ _ _ _ _ c _ hv (by simp [deeds, ho])
      · rename_i ho
        split
        · rename_i hset
          cases ht : readToken input with
          | error report => exact @Outcome.failed _ _ _ _ _ c _ hv
          | ok token =>
            exact @Outcome.stored _ _ _ _ _ c _ token hv
              (by simp [deeds, ho, hset, ht, Except.toOption])
        · cases hn : launch settings
              (c.withOverride (Credentials.overrideFrom environment settings.authToken)) o.visit with
          | error e => exact @Outcome.failed _ _ _ _ _ c _ hv
          | ok l => exact @Outcome.launched _ _ _ _ _ settings c l hl hv (launch_credentials hn)

end Options

/-- The list on the screen. -/
structure Program where
  /-- What it found when it was started. -/
  environment : Option String
  settings : Settings
  launch : Launch
  underWay : List Sent := []

/-- The program reads the vault whenever it needs the stored token. -/
def Program.client (v : Vault) (p : Program) : Client :=
  ⟨{ p.launch.credentials with stored := v.token? }, p.underWay⟩

/-- Its token from outside is still the one that it found. -/
structure Program.Equipped (p : Program) : Prop where
  durable : p.launch.credentials.durable = true
  override : p.launch.credentials.override =
    Credentials.overrideFrom p.environment p.settings.authToken

structure Installation where
  vault : Vault
  program : Option Program := none

namespace Installation

/-- Other runs on the command line may come at any time, each with its own environment, settings
and input. -/
inductive Step : Installation → List TokenDeed → Installation → Prop
  | command {s : Installation} {o : Options} {home text : String} {found : Found} {v : Vault}
      {environment : Option String} {input : List UInt8}
      (h : o.perform home found s.vault environment input = (.said text, v)) :
      Step s (o.deeds input) { s with vault := v }
  | failed {s : Installation} {o : Options} {home : String} {found : Found} {v : Vault}
      {environment : Option String} {input : List UInt8} {report : Report}
      (h : o.perform home found s.vault environment input = (.failed report, v)) :
      Step s [] { s with vault := v }
  | launched {s : Installation} {o : Options} {home : String} {found : Found} {v : Vault}
      {environment : Option String} {input : List UInt8} {settings : Settings} {l : Launch}
      (hs : s.program = none) (hl : Settings.load found = .ok settings)
      (h : o.perform home found s.vault environment input = (.launched l, v)) :
      Step s [] ⟨v, some ⟨environment, settings, l, []⟩⟩
  | call {s : Installation} {p : Program} {e : Client.Event} {c : Client}
      (hp : s.program = some p) (h : Client.Step p.launch.backend (p.client s.vault) e c) :
      Step s e.deeds ⟨c.credentials.vault, some { p with underWay := c.underWay }⟩
  | quit {s : Installation} : Step s [] { s with program := none }

/-- The deeds of a run are those of its steps. -/
inductive Run : Installation → List TokenDeed → Installation → Prop
  | refl (s : Installation) : Run s [] s
  | step {s t u : Installation} {ds es : List TokenDeed} (h : Step s ds t) (hr : Run t es u) :
      Run s (ds ++ es) u

variable {s t : Installation} {ds es : List TokenDeed} {token : Option String} {p : Program}

structure Holds (token : Option String) (s : Installation) : Prop where
  place : s.vault ≠ .memory
  token : s.vault.token? = token
  program : ∀ p, s.program = some p → p.Equipped

theorem holds_of_durable {c : Credentials} {o : Option Program} (hc : c.durable = true)
    (hp : ∀ p, o = some p → p.Equipped) : Holds c.stored ⟨c.vault, o⟩ where
  place := by simp [Credentials.vault, hc]
  token := by simp [Credentials.vault, hc, Vault.token?]
  program := hp

theorem Holds.opened (h : Holds token s) {c : Credentials}
    (hc : Credentials.ofVault s.vault = .ok c) : c.durable = true ∧ c.stored = token := by
  rw [← h.token]
  exact ofVault_ok h.place hc

theorem holds_step (h : Holds token s) (hs : Step s ds t) :
    Holds (TokenDeed.kept token ds) t := by
  cases hs with
  | command hr =>
    rename_i o home text found v environment input
    have hout := Options.perform_outcome o home found s.vault environment input
    rw [hr] at hout
    cases hout with
    | forgotten hv ho =>
      rw [ho]
      exact holds_of_durable (c := Credentials.clear _) (h.opened hv).1 h.program
    | stored hv ho =>
      rw [ho]
      exact holds_of_durable (c := Credentials.set _ _) (h.opened hv).1 h.program
  | failed hr =>
    rename_i o home found v environment input report
    have hout := Options.perform_outcome o home found s.vault environment input
    rw [hr] at hout
    cases hout with
    | refused => exact h
    | failed hv =>
      obtain ⟨hd, hstored⟩ := h.opened hv
      exact hstored ▸ holds_of_durable hd h.program
  | launched hn hl hr =>
    rename_i o home found v environment input settings l
    have hout := Options.perform_outcome o home found s.vault environment input
    rw [hr] at hout
    cases hout with
    | launched hl' hv hc =>
      obtain ⟨hd, hstored⟩ := h.opened hv
      cases hl.symm.trans hl'
      refine hstored ▸ holds_of_durable hd ?_
      rintro _ ⟨⟩
      exact ⟨by rw [hc]; exact hd, by rw [hc]; rfl⟩
  | call hp hc =>
    rename_i p e c
    have he := h.program p hp
    have hcred := hc.credentials
    have hd : c.credentials.durable = true := by
      rw [hcred]
      split <;> exact he.durable
    have hstored : c.credentials.stored = TokenDeed.kept token e.deeds := by
      rw [hcred, Client.Event.deeds]
      split
      · rfl
      · exact h.token
    rw [← hstored]
    refine holds_of_durable hd ?_
    rintro _ ⟨⟩
    exact ⟨he.durable, he.override⟩
  | quit => exact ⟨h.place, h.token, by simp⟩

theorem holds_run (h : Run s ds t) (hs : Holds token s) : Holds (TokenDeed.kept token ds) t := by
  induction h generalizing token with
  | refl => exact hs
  | step h _ ih =>
    rw [TokenDeed.kept, List.foldl_append]
    exact ih (holds_step hs h)

/-- Requests are signed with the environment's token unless it is blank, else with that of the
settings, else with the stored one, which is the one that was stored last, unless it was forgotten
or rejected since. This is the token to be used just if no token of the settings stands before
another one that is stored. -/
theorem token_in_force (hs : s.program = none) (hv : s.vault ≠ .memory) (h : Run s ds t)
    (hp : t.program = some p) :
    let stored := TokenDeed.kept s.vault.token? ds
    let token := (p.client t.vault).credentials.token
    token = ((p.environment.filter fun u => Text.trim u != "").or p.settings.authToken).or stored ∧
    (token = Credentials.preferred p.environment stored p.settings.authToken ↔
      (p.environment.filter fun u => Text.trim u != "").isSome ∨ p.settings.authToken = none ∨
        stored = none ∨ stored = p.settings.authToken) ∧
    ∀ r c, Client.Step p.launch.backend (p.client t.vault) (.ask r) c →
      ∃ m u, c.underWay = p.underWay ++ [⟨r, m⟩] ∧ token = some u ∧ m.SignedWith u := by
  have hh := holds_run h ⟨hv, rfl, by simp [hs]⟩
  have htoken : (p.client t.vault).credentials.token =
      (Credentials.overrideFrom p.environment p.settings.authToken).or
        (TokenDeed.kept s.vault.token? ds) := by
    rw [← hh.token, ← (hh.program p hp).override]
    rfl
  refine ⟨htoken, ?_, ?_⟩
  · rw [htoken]
    exact Credentials.overrideFrom_or_eq_preferred_iff
  · intro r c hc
    cases hc with
    | ask hm =>
      obtain ⟨u, hu, hm⟩ := Backend.signedWith_of_compose hm
      exact ⟨_, u, rfl, hu, hm⟩

/-- The settings `auth_token="c"`. -/
def configured : Found :=
  .file [97, 117, 116, 104, 95, 116, 111, 107, 101, 110, 61, 34, 99, 34]

theorem load_configured : Settings.load configured = .ok { authToken := some "c" } := rfl

theorem launch_configured (c : Credentials) :
    ∃ l, Options.launch { authToken := some "c" } c none = .ok l ∧ l.backend = .onLocalhost := by
  have hb : Backend.ofBase "http://localhost:8081/api"
      (Settings.timeoutSeconds { authToken := some "c" } * 1000000000) = .ok .onLocalhost := rfl
  exact ⟨_, by rw [Options.launch, hb]; rfl, rfl⟩

/-- The letter `s` is the input of `--set-token`, and then the program is started. -/
theorem run_configured (environment : Option String) :
    ∃ l, l.backend = .onLocalhost ∧
      Run ⟨.vacant, none⟩ [.stored "s"]
        ⟨.file (some "s"), some ⟨environment, { authToken := some "c" }, l, []⟩⟩ := by
  have hset : Step ⟨.vacant, none⟩ [.stored "s"] ⟨.file (some "s"), none⟩ :=
    @Step.command _ { setToken := true } "" "Token stored.\n" configured _ none [115] rfl
  obtain ⟨l, hl, hb⟩ := launch_configured
    (Credentials.withOverride (Credentials.overrideFrom environment (some "c"))
      { durable := true, stored := some "s" })
  have hlaunch : Options.perform {} "" configured (.file (some "s")) environment [] =
      (.launched l, .file (some "s")) := by
    simp only [Options.perform, load_configured, Credentials.ofVault]
    simp [hl]
    rfl
  exact ⟨l, hb, .step hset (.step (.launched rfl load_configured hlaunch) (.refl _))⟩

theorem asked_configured (environment : Option String) {u : String} {m : Http.Message}
    (hu : Credentials.overrideFrom environment (some "c") = some u)
    (hm : Backend.onLocalhost.compose (some u) .inactive (.toggle 1) = .ok m) :
    ∃ (p : Program) (c : Client),
      Run ⟨.vacant, none⟩ [.stored "s"] ⟨.file (some "s"), some p⟩ ∧
      p.environment = environment ∧ p.settings.authToken = some "c" ∧ p.underWay = [] ∧
      Client.Step p.launch.backend (p.client (.file (some "s"))) (.ask (.toggle 1)) c ∧
      c.underWay = [⟨.toggle 1, m⟩] := by
  obtain ⟨l, hb, hr⟩ := run_configured environment
  have hp := (holds_run hr ⟨by decide, rfl, by simp⟩).program _ rfl
  have ht : l.credentials.override = some u := hp.override.trans hu
  refine ⟨_, _, hr, rfl, rfl, rfl, @Client.Step.ask _ _ .inactive _ m ?_, rfl⟩
  simpa [Program.client, Credentials.token, ht, hb] using hm

theorem token_in_force_environment :
    ∃ (p : Program) (c : Client) (m : Http.Message),
      Run ⟨.vacant, none⟩ [.stored "s"] ⟨.file (some "s"), some p⟩ ∧
      p.environment = some "e" ∧ p.settings.authToken = some "c" ∧
      Client.Step p.launch.backend (p.client (.file (some "s"))) (.ask (.toggle 1)) c ∧
      c.underWay = [⟨.toggle 1, m⟩] ∧ m.SignedWith "e" := by
  obtain ⟨m, hm⟩ : ∃ m, Backend.onLocalhost.compose (some "e") .inactive (.toggle 1) = .ok m :=
    ⟨_, rfl⟩
  obtain ⟨p, c, hr, he, hc, hu, hs, hn⟩ := asked_configured (some "e") rfl hm
  obtain ⟨ht, -, ha⟩ := token_in_force rfl (by decide) hr rfl
  obtain ⟨_, token, hn', htoken, hsigned⟩ := ha _ _ hs
  rw [he] at ht
  cases htoken.symm.trans ht
  rw [hu] at hn'
  cases hn.symm.trans hn'
  exact ⟨p, c, m, hr, he, hc, hs, hn, hsigned⟩

/-- A token of the settings stands before the stored one. -/
theorem configured_before_stored :
    ∃ (p : Program) (c : Client) (m : Http.Message),
      Run ⟨.vacant, none⟩ [.stored "s"] ⟨.file (some "s"), some p⟩ ∧
      p.environment = none ∧ p.settings.authToken = some "c" ∧
      Credentials.preferred none (some "s") (some "c") = some "s" ∧
      Client.Step p.launch.backend (p.client (.file (some "s"))) (.ask (.toggle 1)) c ∧
      c.underWay = [⟨.toggle 1, m⟩] ∧ m.SignedWith "c" ∧ ¬m.SignedWith "s" := by
  obtain ⟨m, hm⟩ : ∃ m, Backend.onLocalhost.compose (some "c") .inactive (.toggle 1) = .ok m :=
    ⟨_, rfl⟩
  obtain ⟨_, ht, hsigned⟩ := Backend.signedWith_of_compose hm
  cases ht
  obtain ⟨p, c, hr, he, hc, -, hs, hn⟩ := asked_configured none rfl hm
  exact ⟨p, c, m, hr, he, hc, rfl, hs, hn, hsigned,
    fun hk => absurd (hsigned.unique hk) (by decide)⟩

end Installation
end Companions
