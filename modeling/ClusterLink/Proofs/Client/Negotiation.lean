import ClusterLink.Proofs.Client.Tables

/-!
# Runs that have their connection

A run takes the connection to its node from the cache (`ClientRun.Takes`), and what it does then
does not depend on what the node can do or tells about it. It ends well with that connection,
whatever comes of the question about the capabilities, unless it is told to stop before
(`ClientRun.keeps_of_takes`).

There is one way out. A question that may take a hundred million hours or more cannot be asked
(`Wire.carriedDeadline?_eq_none_iff`), and a run that is to ask it breaks down.
-/

namespace ClusterLink

/-! ## Deadlines that cannot be carried -/

/-- **A deadline cannot be carried** exactly if it is too long in hours. -/
theorem Wire.carriedDeadline?_eq_none_iff {d : Duration} : Wire.carriedDeadline? d = none
    ↔ Wire.deadlineLimit * (3600 * nanosPerSecond) ≤ d.nanos := by
  have hunits : ∀ unit ∈ deadlineUnits, 0 < unit ∧ unit ≤ 3600 * nanosPerSecond := by decide
  rw [carriedDeadline?, Option.map_eq_none_iff, deadlineUnit?, List.find?_eq_none]
  simp only [decide_eq_true_eq, Nat.not_lt]
  constructor
  · intro h
    have hmem : 3600 * nanosPerSecond ∈ deadlineUnits := by decide
    exact (Nat.le_div_iff_mul_le (hunits _ hmem).1).1 (h _ hmem)
  · intro h unit hunit
    obtain ⟨hpos, hle⟩ := hunits unit hunit
    exact (Nat.le_div_iff_mul_le hpos).2 ((Nat.mul_le_mul_left _ hle).trans h)

/-- **The client gives its node more time than any call can carry** to tell its capabilities. -/
def ClientConfig.WaitsTooLong (config : ClientConfig) : Prop :=
  ∃ timeout, config.negotiationTimeout = some timeout
    ∧ Wire.deadlineLimit * (3600 * nanosPerSecond) ≤ timeout.nanos

/-- The question about capabilities can be asked exactly if the client does not wait too long. -/
theorem Client.canNegotiate_iff {config : ClientConfig} :
    (settingsOf config).CanNegotiate ↔ ¬config.WaitsTooLong := by
  constructor
  · rintro h ⟨timeout, htimeout, hlong⟩
    obtain ⟨deadline, hdeadline⟩ := h timeout htimeout
    cases (Wire.carriedDeadline?_eq_none_iff.2 hlong).symm.trans hdeadline
  · intro h timeout htimeout
    rw [← Option.ne_none_iff_exists']
    exact fun hnone => h ⟨timeout, htimeout, Wire.carriedDeadline?_eq_none_iff.1 hnone⟩

/-! ## The connection to the node -/

/-- **The connection that the cache hands out for an endpoint** is the one that it holds for it from
then on, and the one that it held before if there was one. -/
theorem Cache.find?_of_getOrCreate {c c' : Cache} {e : EndPoint} {handle : Handle}
    (h : c.getOrCreate e = (.ok handle, c')) :
    c'.find? e = some handle ∧ ∀ held, c.find? e = some held → held = handle := by
  cases hd : c.isDisposed with
  | true =>
    rw [getOrCreate, if_pos hd] at h
    cases h
  | false =>
    rcases getOrCreate_cases hd e with ⟨found, hfind, heq⟩
      | ⟨hnone, ⟨error, channels, -, heq⟩
        | ⟨made, channels, -, heq⟩⟩
    · cases h.symm.trans heq
      exact ⟨hfind, fun held hheld => Option.some.inj (hheld.symm.trans hfind)⟩
    · cases h.symm.trans heq
    · cases h.symm.trans heq
      refine ⟨?_, fun held hheld => by cases hnone.symm.trans hheld⟩
      rw [find?, Option.map_eq_none_iff] at hnone
      rw [find?, List.find?_append, hnone, Option.none_or, List.find?_cons, EndPoint.same_refl]
      rfl

namespace ClientRun

variable {x : ClientRun} {k m n run : Nat} {node : EndPoint} {handle : Handle}
  {phase phase' : ConnectPhase}

/-- **The run takes the connection to its node from the cache.** -/
structure Takes (x : ClientRun) (n run : Nat) (node : EndPoint) (handle : Handle) : Prop where
  stepsRun?_eq : (x.events n).stepsRun? = some run
  chosen : (x.state n).client.attempt run = .chosen node
  getOrCreate_eq : (x.state n).client.site.cache.getOrCreate node
    = (.ok handle, (x.state (n + 1)).client.site.cache)

/-- The run was told to stop, from `m` on and before `n`. -/
def WasCancelled (x : ClientRun) (m n run : Nat) : Prop :=
  ∃ k, m ≤ k ∧ k < n ∧ (x.state k).client.provider.isRunCancelled run = true

theorem WasCancelled.succ (h : x.WasCancelled m n run) : x.WasCancelled m (n + 1) run := by
  obtain ⟨k, hmk, hkn, hc⟩ := h
  exact ⟨k, hmk, Nat.lt_succ_of_lt hkn, hc⟩

/-- **The capabilities are those that the node has told** the run when it was asked, or none. -/
def HasLearned (x : ClientRun) (n run : Nat) (capabilities : Capabilities) : Prop :=
  capabilities = {} ∨ ∃ k < n, ∃ handle table now draw,
    (x.state k).client.attempt run = .negotiating handle
      ∧ x.events k = .answerRun run (some (.ok table)) now draw
      ∧ capabilities = .ofMethods table

theorem HasLearned.succ {capabilities : Capabilities} (h : x.HasLearned n run capabilities) :
    x.HasLearned (n + 1) run capabilities :=
  h.imp_right fun ⟨k, hk, htold⟩ => ⟨k, Nat.lt_succ_of_lt hk, htold⟩

/-- Only a node that tells what it can do has capabilities. -/
theorem hasLearned_capabilitiesOf (hphase : (x.state n).client.attempt run = .negotiating handle)
    {answer : Option (Except Status MethodTable)} {now : Instant} {draw : Float}
    (hevent : x.events n = .answerRun run answer now draw) :
    x.HasLearned (n + 1) run (ConnectPhase.capabilitiesOf answer) := by
  cases answer with
  | none => exact .inl rfl
  | some reply =>
    cases reply with
    | error status => exact .inl rfl
    | ok table =>
      exact .inr ⟨n, Nat.lt_succ_self n, handle, table, now, draw, hphase, hevent, rfl⟩

/-- **The run has the connection**, or has ended with it; or it was told to stop, or has broken down
since it has too long to wait. -/
def Keeps (x : ClientRun) (m run : Nat) (handle : Handle) (n : Nat) : ConnectPhase → Prop
  | .linked held _ | .negotiating held => held = handle
  | .ended (.ok link) => link.handle = handle ∧ x.HasLearned n run link.capabilities
  | .ended (.error error) => error = .cancelled ∧ x.WasCancelled m n run
  | .brokenDown => x.config.WaitsTooLong
  | _ => False

theorem Keeps.succ (h : x.Keeps m run handle n phase) : x.Keeps m run handle (n + 1) phase := by
  cases phase with
  | ended result =>
    cases result with
    | ok link => exact ⟨h.1, h.2.succ⟩
    | error error => exact ⟨h.1, h.2.succ⟩
  | linked | negotiating | brokenDown => exact h
  | _ => exact h.elim

/-- A step does not cost the run its connection, unless it is cancelled or breaks down. -/
theorem Keeps.step (h : x.Keeps m run handle n phase) (hmn : m ≤ n)
    (hfits : phase.Fits (Client.settingsOf x.config)) {trigger : Trigger}
    {shuffle : List Member → List Member} {s s' : Site}
    (hmoves : ConnectPhase.Moves (Client.settingsOf x.config) trigger
      ((x.state n).client.provider.isRunCancelled run) shuffle s phase phase' s') :
    x.Keeps m run handle (n + 1) phase' := by
  cases hmoves with
  | stays => exact h.succ
  | breaks held timeout hd => exact ⟨timeout, hfits, Wire.carriedDeadline?_eq_none_iff.1 hd⟩
  | queries => exact h
  | heeds phase hc => exact ⟨rfl, n, hmn, Nat.lt_succ_self n, hc⟩
  | _ => exact h.elim

/-- The answer about the capabilities ends the run with its connection, whatever it is. -/
theorem Keeps.takeIn (h : x.Keeps m run handle n phase)
    (hphase : (x.state n).client.attempt run = phase)
    {answer : Option (Except Status MethodTable)} {now : Instant} {draw : Float}
    (hevent : x.events n = .answerRun run answer now draw) :
    x.Keeps m run handle (n + 1) (phase.takeIn answer) := by
  cases phase with
  | negotiating held => exact ⟨h, hasLearned_capabilitiesOf hphase hevent⟩
  | _ => exact h.succ

/-- **A run keeps the connection that it has taken.** -/
theorem keeps_of_takes (h : x.Takes k run node handle) (hkn : k < n) :
    x.Keeps (k + 1) run handle n ((x.state n).client.attempt run) := by
  induction n, hkn using Nat.le_induction with
  | base =>
    obtain ⟨r, shuffle, now, draw, -, hmoves⟩ := moves_of_stepsRun h.stepsRun?_eq
      (by rw [h.chosen]; nofun)
    rw [h.chosen] at hmoves
    have hcache := h.getOrCreate_eq
    generalize (x.state (k + 1)).client.attempt run = phase at hmoves ⊢
    generalize (x.state (k + 1)).client.site = site at hmoves
    cases hmoves with
    | stays phase hstays =>
      rcases hstays with hover | ⟨call, r, hcall, -⟩ | ⟨-, held, hheld⟩
      · cases hover
      · cases hcall
      · cases hheld
    | links node held cache htaken =>
      cases htaken.symm.trans hcache
      exact ⟨rfl, .inl rfl⟩
    | prepares node held cache timeout htaken =>
      cases htaken.symm.trans hcache
      rfl
    | refused node error cache htaken => cases htaken.symm.trans hcache
    | heeds phase hc hphase => rcases hphase with ⟨held, timeout, h⟩ | ⟨held, h⟩ <;> cases h
  | succ n hkn ih =>
    have hattempted := x.attempted n run
    have hfits := x.fits_state n run
    rw [x.settings_state] at hfits
    generalize (x.state (n + 1)).client.attempt run = phase at hattempted ⊢
    cases hattempted with
    | stays => exact ih.succ
    | steps r shuffle now draw phase hevent hr hmoves =>
      rw [x.settings_state] at hmoves
      exact ih.step hkn hfits hmoves
    | answers answer now draw hevent => exact ih.takeIn rfl hevent

/-- A client that waits too long never connects. -/
theorem not_waitsTooLong_of_ended {link : Link}
    (h : (x.state n).client.attempt run = .ended (.ok link)) : ¬x.config.WaitsTooLong := by
  have hfits := x.fits_state n run
  rw [h, x.settings_state] at hfits
  exact Client.canNegotiate_iff.1 hfits

/-- The node's answer about its capabilities ends the run that waits for it. -/
theorem attempt_of_answerRun (hphase : (x.state n).client.attempt run = .negotiating handle)
    {answer : Option (Except Status MethodTable)} {now : Instant} {draw : Float}
    (hevent : x.events n = .answerRun run answer now draw) :
    (x.state (n + 1)).client.attempt run
      = .ended (.ok ⟨handle, ConnectPhase.capabilitiesOf answer⟩) := by
  have hattempted := x.attempted n run
  generalize (x.state (n + 1)).client.attempt run = phase at hattempted ⊢
  cases hattempted with
  | stays h hanswer => exact absurd rfl (hanswer run answer now draw hevent)
  | steps r shuffle now draw phase hstep => cases hevent.symm.trans hstep
  | answers answer' now' draw' hanswer =>
    cases hevent.symm.trans hanswer
    rw [hphase]
    rfl

end ClientRun

end ClusterLink
