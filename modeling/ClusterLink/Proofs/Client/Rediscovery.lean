import ClusterLink.Proofs.Client.Negotiation

/-!
# How runs come to their node

A run that looks for a node anew goes to the single node of its client, or to the member that its
selector chooses among those that a resolution has found. What is known of the run at each point of
its attempt is `ClientRun.Traced`: by which table the member was chosen, and when its connection was
taken from the cache.

If the member table offers no node, the run that has waited for it fails, and has nothing more to do
with the cache (`ClientRun.fails_of_settles`). A table that describes no member at all ends nothing:
the resolution goes on to the next node (`ClientRun.goesOn_of_empty`), and if it comes to nothing
the run fails with it (`ClientRun.fails_of_error`).
-/

namespace ClusterLink

/-- **The event brings what a node has sent**: the members that a node answers with are those that
the table describes. A shuffle of members neither adds any nor loses any. -/
def ClientEvent.Brings (t : Wire.MemberTable) : ClientEvent → Prop
  | .discover (.answer _ (.success members) _) _ => members = t.usable
  | .stepRun _ shuffle _ _ => ∀ members, (shuffle members).Perm members
  | _ => True

namespace Client

variable {config : ClientConfig}

theorem topology_of_single {node : EndPoint} (h : (settingsOf config).mode = .single node) :
    config.topology = .single node := by
  unfold settingsOf at h
  dsimp only at h
  split at h
  · cases h
    assumption
  · cases h

theorem topology_of_gossip (h : (settingsOf config).mode = .gossip) :
    ∃ seeds, config.topology = .cluster seeds := by
  unfold settingsOf at h
  dsimp only at h
  split at h
  · cases h
  · exact ⟨_, ‹_›⟩

end Client

namespace ConnectPhase

/-- The error by which a run fails that has heard of no node it may go to. -/
def failure : Except Error Resolution → Error
  | .error error => error
  | .ok resolution => noNode resolution

theorem ofResolution_of_none {selector : NodeSelector} {shuffle : List Member → List Member}
    {result : Except Error Resolution}
    (h : ∀ resolution, result = .ok resolution →
      selector.select resolution.members (shuffle resolution.members) = none) :
    ofResolution selector shuffle result = .ended (.error (failure result)) := by
  cases result with
  | error error => rfl
  | ok resolution =>
    unfold ofResolution
    dsimp only
    rw [h resolution rfl]
    rfl

/-- How many steps a run that waits for a resolution still needs to be told what has come of it. -/
def stepsToHear : ConnectPhase → Nat
  | .resolving (.waiting _) => 2
  | .resolving (.leaving ..) => 1
  | _ => 0

theorem stepsToHear_le_two (phase : ConnectPhase) : phase.stepsToHear ≤ 2 := by
  unfold stepsToHear
  split <;> omega

end ConnectPhase

namespace ClientRun

variable {x : ClientRun} {k m n run id : Nat} {node : EndPoint} {handle : Handle}

/-- **The client hears of the cluster by member tables**, one at each instant at which it is
answered. -/
def Hears (x : ClientRun) (tables : Nat → Wire.MemberTable) : Prop :=
  ∀ n, (x.events n).Brings (tables n)

/-! ## The way to a node -/

/-- **A run has heard of a member table**: the resolution that it has waited for has found the
members of that table, at the instant `k`. -/
def HasHeard (x : ClientRun) (n run k : Nat) (t : Wire.MemberTable) : Prop :=
  k < n ∧ ∃ id resolution, x.Settles k id t (.ok resolution) ∧ resolution.members = t.usable
    ∧ ∃ j < n, (x.state j).client.attempt run = .resolving (.leaving id (.ok resolution))

/-- **How a run comes to choose a node.** -/
inductive Chooses (x : ClientRun) (tables : Nat → Wire.MemberTable) (n run : Nat)
    (node : EndPoint) : Prop where
  | follows (htrigger : x.IsStartedBy n run (.newLeader node)) : Chooses x tables n run node
  | visits (htrigger : x.IsStartedBy n run .rediscover)
      (htopology : x.config.topology = .single node) :
      Chooses x tables n run node
  | prefers (seeds : List EndPoint) (htrigger : x.IsStartedBy n run .rediscover)
      (htopology : x.config.topology = .cluster seeds) (k : Nat)
      (hheard : x.HasHeard n run k (tables k))
      (hbest : (tables k).IsBest x.config.selector.preference node) : Chooses x tables n run node

theorem HasHeard.succ {t : Wire.MemberTable} (h : x.HasHeard n run k t) :
    x.HasHeard (n + 1) run k t := by
  obtain ⟨hk, id, resolution, hsettles, hmembers, j, hj, hleaving⟩ := h
  exact ⟨Nat.lt_succ_of_lt hk, id, resolution, hsettles, hmembers, j,
    Nat.lt_succ_of_lt hj, hleaving⟩

variable {tables : Nat → Wire.MemberTable}

theorem Chooses.succ (h : x.Chooses tables n run node) : x.Chooses tables (n + 1) run node := by
  cases h with
  | follows htrigger => exact .follows htrigger.succ
  | visits htrigger htopology => exact .visits htrigger.succ htopology
  | prefers seeds htrigger htopology k hheard hbest =>
    exact .prefers seeds htrigger.succ htopology k hheard.succ hbest

/-- The run has chosen a node and has taken its connection. -/
def Reaches (x : ClientRun) (tables : Nat → Wire.MemberTable) (n run : Nat)
    (handle : Handle) : Prop :=
  ∃ node, x.Chooses tables n run node ∧ ∃ k < n, x.Takes k run node handle

theorem Reaches.succ (h : x.Reaches tables n run handle) : x.Reaches tables (n + 1) run handle := by
  obtain ⟨node, hchooses, k, hk, htakes⟩ := h
  exact ⟨node, hchooses.succ, k, Nat.lt_succ_of_lt hk, htakes⟩

/-- **What is known of an attempt** from what has happened before. -/
def Traced (x : ClientRun) (tables : Nat → Wire.MemberTable) (run n : Nat) : ConnectPhase → Prop
  | .resolving call => x.IsStartedBy n run .rediscover
      ∧ (∃ seeds, x.config.topology = .cluster seeds)
      ∧ ∀ id resolution, call = .leaving id (.ok resolution) →
        (x.state n).resolution? id = some (.ended (.ok resolution))
  | .chosen node => x.Chooses tables n run node
  | .linked handle _ | .negotiating handle => x.Reaches tables n run handle
  | .ended (.ok link) => x.Reaches tables n run link.handle
  | _ => True

theorem Traced.succ {phase : ConnectPhase} (h : x.Traced tables run n phase) :
    x.Traced tables run (n + 1) phase := by
  cases phase with
  | resolving call =>
    obtain ⟨htrigger, htopology, hended⟩ := h
    exact ⟨htrigger.succ, htopology, fun id resolution hcall =>
      resolution_of_ended (Nat.le_succ n) (hended id resolution hcall)⟩
  | chosen node => exact Chooses.succ h
  | linked | negotiating => exact Reaches.succ h
  | ended result =>
    cases result with
    | ok link => exact Reaches.succ h
    | error error => trivial
  | waiting | brokenDown => trivial

/-- **A resolution that has found the members** has ended over a member table that lists them. -/
theorem settles_of_ended (hx : x.Hears tables) {resolution : Resolution}
    (h : (x.state n).resolution? id = some (.ended (.ok resolution))) :
    ∃ k < n, x.Settles k id (tables k) (.ok resolution)
      ∧ resolution.members = (tables k).usable := by
  rcases exists_turn h with hwaiting | ⟨k, hk, event, before, hturns⟩
  · cases hwaiting
  · have hanswer : event.cause = .answer (.success resolution.members)
        ∧ ∃ attempt asked left failures, before = .asking attempt asked left failures := by
      obtain ⟨r, -, hturn⟩ := hturns.turn
      generalize (x.state (k + 1)).client.site.cache = cache' at hturn
      cases hturn with
      | finds asked left failures _ _ _ hcause => exact ⟨hcause, _, _, _, _, rfl⟩
    obtain ⟨hcause, attempt, asked, left, failures, rfl⟩ := hanswer
    cases event with
    | answer id' outcome now =>
      cases hturns.worksOn?_eq
      cases TurnCause.answer.inj hcause
      have hsent : resolution.members = (tables k).usable := by
        have hevent := hturns.discovery?_eq
        have hbrings := hx k
        generalize x.events k = e at hevent hbrings
        cases e with
        | discover event hdials =>
          cases hevent
          exact hbrings
        | _ => cases hevent
      exact ⟨k, hk, ⟨attempt, asked, left, failures, now, hsent ▸ hturns⟩, hsent⟩
    | _ => cases hcause

/-- A run that has heard of the members chooses the best that their table offers, if it chooses
one. -/
theorem traced_ofResolution (hx : x.Hears tables) {seeds : List EndPoint}
    (htrigger : x.IsStartedBy n run .rediscover) (htopology : x.config.topology = .cluster seeds)
    {resolution : Resolution}
    (hleaving : (x.state n).client.attempt run = .resolving (.leaving id (.ok resolution)))
    (hended : (x.state n).resolution? id = some (.ended (.ok resolution)))
    {shuffle : List Member → List Member}
    (hshuffle : ∀ members, (shuffle members).Perm members) :
    x.Traced tables run (n + 1)
      (ConnectPhase.ofResolution x.config.selector shuffle (.ok resolution)) := by
  unfold ConnectPhase.ofResolution
  dsimp only
  split
  · trivial
  · rename_i member hselect
    obtain ⟨k, hk, hsettles, hmembers⟩ := settles_of_ended hx hended
    refine .prefers seeds htrigger.succ htopology k ?_ ?_
    · exact ⟨Nat.lt_succ_of_lt hk, id, resolution, hsettles, hmembers, n,
        Nat.lt_succ_self n, hleaving⟩
    · rw [hmembers] at hselect
      exact Wire.MemberTable.isBest_of_select (hshuffle _) hselect

/-- Every step of an attempt keeps the traces, and leaves its own. -/
theorem traced_step (hx : x.Hears tables) {r : Run} {shuffle : List Member → List Member}
    {now : Instant} {draw : Float} {phase phase' : ConnectPhase}
    (hevent : x.events n = .stepRun run shuffle now draw)
    (hr : (x.state n).client.provider.runs[run]? = some r)
    (hphase : (x.state n).client.attempt run = phase)
    (hmoves : ConnectPhase.Moves (Client.settingsOf x.config) r.trigger
      ((x.state n).client.provider.isRunCancelled run) shuffle (x.state n).client.site phase phase'
      (x.state (n + 1)).client.site) (h : x.Traced tables run n phase) :
    x.Traced tables run (n + 1) phase' := by
  have hstarted : ∀ {trigger : Trigger}, r.trigger = trigger →
      x.IsStartedBy (n + 1) run trigger :=
    fun htrigger => IsStartedBy.succ ⟨r, hr, htrigger⟩
  have hsteps : (x.events n).stepsRun? = some run := by rw [hevent]; rfl
  generalize hsite : (x.state (n + 1)).client.site = site at hmoves
  cases hmoves with
  | stays => exact Traced.succ h
  | follows leader ht => exact .follows (hstarted ht)
  | visits node ht hm => exact .visits (hstarted ht) (Client.topology_of_single hm)
  | resolves ht hm => exact ⟨hstarted ht, Client.topology_of_gossip hm, nofun⟩
  | calls call call' resolver resolver' hresolver hcall =>
    obtain ⟨htrigger, htopology, -⟩ := h
    refine ⟨htrigger.succ, htopology, ?_⟩
    rintro id resolution rfl
    cases Resolver.callStep_of_advanceCall hcall with
    | heard id result hc hresult =>
      exact resolution_of_ended (Nat.le_succ n) (resolution_of_result? hresolver hresult)
  | hears call result resolver resolver' hresolver hcall =>
    obtain ⟨htrigger, ⟨seeds, htopology⟩, hended⟩ := h
    cases Resolver.callStep_of_advanceCall hcall with
    | refused | disposed => trivial
    | left id result =>
      cases result with
      | error error => trivial
      | ok resolution =>
        refine traced_ofResolution hx htrigger htopology hphase (hended id resolution rfl) ?_
        have hbrings := hx n
        rw [hevent] at hbrings
        exact hbrings
  | lost call => trivial
  | links node handle cache hcache =>
    exact ⟨node, Chooses.succ h, n, Nat.lt_succ_self n, hsteps,
      hphase, by rw [hsite]; exact hcache⟩
  | prepares node handle cache timeout hcache =>
    exact ⟨node, Chooses.succ h, n, Nat.lt_succ_self n, hsteps,
      hphase, by rw [hsite]; exact hcache⟩
  | refused => trivial
  | breaks => trivial
  | queries => exact Reaches.succ h
  | heeds => trivial

/-- **What an attempt has come to is traced** at every instant. -/
theorem traced_state (hx : x.Hears tables) (n run : Nat) :
    x.Traced tables run n ((x.state n).client.attempt run) :=
  attempt_induction (P := x.Traced tables run) run trivial (fun _ _ => Traced.succ)
    (fun _ _ _ _ _ _ _ hevent hr hphase hmoves => traced_step hx hevent hr hphase hmoves)
    (fun _ _ _ _ _ _ _ => Reaches.succ) n

/-! ## A table that offers no node -/

/-- **The run fails** from `m` on: it comes to no node any more. -/
structure Fails (x : ClientRun) (m run : Nat) (error : Error) : Prop where
  /-- It ends in the error, unless it is told to stop before. -/
  attempt : ∀ n, m ≤ n → (∃ call, (x.state n).client.attempt run = .resolving call)
    ∨ (x.state n).client.attempt run = .ended (.error error)
    ∨ (x.state n).client.attempt run = .ended (.error .cancelled) ∧ x.WasCancelled m n run
  /-- It has ended after two steps of its own. -/
  ends : ∀ n, 2 ≤ Nat.count (fun k => (x.events (m + k)).stepsRun? = some run) n →
    ((x.state (m + n)).client.attempt run).isOver = true
  /-- It asks for no channel any more, and changes nothing of what is cached. -/
  cache : ∀ n, m ≤ n → (x.events n).stepsRun? = some run →
    (x.state (n + 1)).client.site.cache = (x.state n).client.site.cache

/-- **The run is about to be told the result** of the resolution, or was told it, or to stop. -/
def StandsBy (x : ClientRun) (m run id : Nat) (result : Except Error Resolution) (n : Nat) :
    ConnectPhase → Prop
  | .resolving (.waiting id') => id' = id
  | .resolving (.leaving id' told) => id' = id
      ∧ (told = result ∨ told = .error .cancelled ∧ x.WasCancelled m n run)
  | .ended told => told = .error (ConnectPhase.failure result)
      ∨ told = .error .cancelled ∧ x.WasCancelled m n run
  | _ => False

variable {result : Except Error Resolution} {phase phase' : ConnectPhase}

theorem StandsBy.succ (h : x.StandsBy m run id result n phase) :
    x.StandsBy m run id result (n + 1) phase := by
  cases phase with
  | resolving call =>
    cases call with
    | leaving id' told => exact ⟨h.1, h.2.imp_right fun ⟨htold, hc⟩ => ⟨htold, hc.succ⟩⟩
    | waiting id' => exact h
    | _ => exact h.elim
  | ended told => exact Or.imp_right (fun ⟨htold, hc⟩ => ⟨htold, hc.succ⟩) h
  | _ => exact h.elim

/-- **A run that stands by comes nearer to its end with each of its steps**, and leaves the cache
alone. -/
theorem StandsBy.step (h : x.StandsBy m run id result n phase) (hmn : m ≤ n)
    (hended : (x.state n).resolution? id = some (.ended result))
    {trigger : Trigger} {shuffle : List Member → List Member} {s' : Site}
    (hselect : ∀ resolution, result = .ok resolution →
      x.config.selector.select resolution.members (shuffle resolution.members) = none)
    (hmoves : ConnectPhase.Moves (Client.settingsOf x.config) trigger
      ((x.state n).client.provider.isRunCancelled run) shuffle (x.state n).client.site
      phase phase' s') :
    x.StandsBy m run id result (n + 1) phase'
      ∧ phase'.stepsToHear ≤ phase.stepsToHear - 1
      ∧ s'.cache = (x.state n).client.site.cache := by
  have hcancelled : (x.state n).client.provider.isRunCancelled run = true →
      x.WasCancelled m (n + 1) run := fun hc => ⟨n, hmn, Nat.lt_succ_self n, hc⟩
  cases hmoves with
  | stays phase hstays =>
    refine ⟨h.succ, ?_, rfl⟩
    rcases hstays with hover | ⟨call, r, rfl, hr, hnone⟩ | ⟨-, handle, rfl⟩
    · cases phase with
      | ended told => exact Nat.le_refl 0
      | brokenDown => exact h.elim
      | _ => cases hover
    · -- the resolution has ended, so the call can go on
      cases call with
      | waiting id' =>
        cases h
        rw [Resolver.advanceCall, result?_of_ended hr hended] at hnone
        split at hnone <;> cases hnone
      | leaving => cases hnone
      | _ => exact h.elim
    · exact h.elim
  | calls call call' r r' hr hcall hproper =>
    cases Resolver.callStep_of_advanceCall hcall with
    | gaveUp id' hc => exact ⟨⟨h, .inr ⟨rfl, hcancelled hc⟩⟩, Nat.le_refl 1, rfl⟩
    | heard id' told hc htold =>
      cases h
      cases (result?_of_ended hr hended).symm.trans htold
      exact ⟨⟨rfl, .inl rfl⟩, Nat.le_refl 1, rfl⟩
    | left => exact hproper.elim
    | _ => exact h.elim
  | hears call told r r' hr hcall =>
    cases Resolver.callStep_of_advanceCall hcall with
    | left id' told =>
      obtain ⟨rfl, htold⟩ := h
      have hphase' : ConnectPhase.ofResolution (Client.settingsOf x.config).selector shuffle told
          = .ended (.error (ConnectPhase.failure told)) := by
        refine ConnectPhase.ofResolution_of_none fun resolution hok => ?_
        rcases htold with rfl | ⟨rfl, -⟩
        · exact hselect resolution hok
        · cases hok
      rw [hphase']
      refine ⟨?_, Nat.le_refl 0, rfl⟩
      rcases htold with rfl | ⟨rfl, hc⟩
      · exact .inl rfl
      · exact .inr ⟨rfl, hc.succ⟩
    | _ => exact h.elim
  | lost call hnone =>
    rw [Deployment.resolution?, hnone] at hended
    cases hended
  | heeds phase hc hphase =>
    rcases hphase with ⟨handle, timeout, rfl⟩ | ⟨handle, rfl⟩ <;> exact h.elim
  | _ => exact h.elim

/-- The answer about the capabilities does not matter to a run that stands by. -/
theorem StandsBy.takeIn_eq (h : x.StandsBy m run id result n phase)
    (answer : Option (Except Status MethodTable)) : phase.takeIn answer = phase := by
  cases phase with
  | negotiating => exact h.elim
  | _ => rfl

/-- A run that has come so far has ended, or has a call for the members under way. -/
theorem StandsBy.isOver_of_stepsToHear (h : x.StandsBy m run id result n phase)
    (hleft : phase.stepsToHear = 0) : phase.isOver = true := by
  cases phase with
  | resolving call =>
    cases call with
    | waiting | leaving => cases hleft
    | _ => exact h.elim
  | ended => rfl
  | _ => exact h.elim

/-- **A resolution ends** from one instant to the next. -/
def Concludes (x : ClientRun) (k id : Nat) (result : Except Error Resolution) : Prop :=
  ∃ event before, x.Turns k id event before (.ended result)

section

variable (hends : x.Concludes k id result)
  (hselect : ∀ n shuffle now draw resolution, x.events n = .stepRun run shuffle now draw →
    result = .ok resolution →
    x.config.selector.select resolution.members (shuffle resolution.members) = none)
  (hwaiting : (x.state k).client.attempt run = .resolving (.waiting id))

include hends in
/-- A resolution that ends has ended for good. -/
theorem Concludes.resolution_eq (hkn : k < n) :
    (x.state n).resolution? id = some (.ended result) := by
  obtain ⟨event, before, hturns⟩ := hends
  exact resolution_of_ended hkn hturns.after

include hends hselect hwaiting in
/-- **A run that waits for a resolution which ends without a node for it** stands by from then
on. -/
theorem standsBy_state (hkn : k < n) :
    x.StandsBy (k + 1) run id result n ((x.state n).client.attempt run) := by
  induction n, hkn using Nat.le_induction with
  | base =>
    have hattempted := x.attempted k run
    obtain ⟨event, before, hturns⟩ := hends
    have hevent := hturns.discovery?_eq
    generalize (x.state (k + 1)).client.attempt run = phase at hattempted ⊢
    cases hattempted with
    | stays => rw [hwaiting]; rfl
    | steps r shuffle now draw phase hstep =>
      rw [hstep] at hevent
      cases hevent
    | answers answer now draw hanswer =>
      rw [hanswer] at hevent
      cases hevent
  | succ n hkn ih =>
    have hattempted := x.attempted n run
    generalize (x.state (n + 1)).client.attempt run = phase at hattempted ⊢
    cases hattempted with
    | stays => exact ih.succ
    | steps r shuffle now draw phase hevent hr hmoves =>
      rw [x.settings_state] at hmoves
      exact (ih.step hkn (hends.resolution_eq hkn)
        (fun resolution => hselect n shuffle now draw resolution hevent) hmoves).1
    | answers answer =>
      rw [ih.takeIn_eq]
      exact ih.succ

include hends hselect hwaiting in
/-- **A run that waits for a resolution which ends without a node for it fails**, and asks for no
channel. -/
theorem fails_of_concludes : x.Fails (k + 1) run (ConnectPhase.failure result) := by
  have hstands := fun n => standsBy_state (n := n) hends hselect hwaiting
  -- each of its own steps brings it nearer to its end
  have hstep : ∀ n, k < n → (x.events n).stepsRun? = some run →
      ((x.state (n + 1)).client.attempt run).stepsToHear
          ≤ ((x.state n).client.attempt run).stepsToHear - 1
        ∧ (x.state (n + 1)).client.site.cache = (x.state n).client.site.cache := by
    intro n hkn hsteps
    have hbegun : (x.state n).client.attempt run ≠ .waiting := fun hfresh => by
      have h := hstands n hkn
      rw [hfresh] at h
      exact h
    obtain ⟨r, shuffle, now, draw, hevent, hmoves⟩ := moves_of_stepsRun hsteps hbegun
    exact ((hstands n hkn).step hkn (hends.resolution_eq hkn)
      (fun resolution => hselect n shuffle now draw resolution hevent) hmoves).2
  refine ⟨fun n hkn => ?_, fun n hcount => ?_, fun n hkn hsteps => (hstep n hkn hsteps).2⟩
  · have h := hstands n hkn
    generalize (x.state n).client.attempt run = phase at h
    cases phase with
    | resolving call => exact .inl ⟨call, rfl⟩
    | ended told =>
      rcases h with rfl | ⟨rfl, hc⟩
      · exact .inr (.inl rfl)
      · exact .inr (.inr ⟨rfl, hc⟩)
    | _ => exact h.elim
  · -- so it has none left after two of them
    have hleft : ∀ j, ((x.state (k + 1 + j)).client.attempt run).stepsToHear
        ≤ 2 - Nat.count (fun j => (x.events (k + 1 + j)).stepsRun? = some run) j := by
      intro j
      induction j with
      | zero => exact ConnectPhase.stepsToHear_le_two _
      | succ j ih =>
        have hkj : k < k + 1 + j := by omega
        rw [Nat.count_succ]
        split
        · have hless := (hstep (k + 1 + j) hkj ‹_›).1
          rw [← Nat.add_assoc]
          omega
        · have hsame : (x.state (k + 1 + j + 1)).client.attempt run
              = (x.state (k + 1 + j)).client.attempt run := by
            rcases attempt_of_stepsRun_ne ‹_› with hsame | ⟨answer, hanswer⟩
            · exact hsame
            · exact hanswer.trans ((hstands _ hkj).takeIn_eq answer)
          rw [← Nat.add_assoc, hsame]
          exact ih
    exact (hstands (k + 1 + n) (by omega)).isOver_of_stepsToHear (by have := hleft n; omega)

end

/-- **A run that waits for a resolution which fails**, fails with it. -/
theorem fails_of_error {error : Error} (hends : x.Concludes k id (.error error))
    (hwaiting : (x.state k).client.attempt run = .resolving (.waiting id)) :
    x.Fails (k + 1) run error :=
  fails_of_concludes hends (fun _ _ _ _ _ _ hok => nomatch hok) hwaiting

theorem Settles.concludes {t : Wire.MemberTable} (h : x.Settles k id t result) :
    x.Concludes k id result := by
  obtain ⟨attempt, asked, left, failures, now, hturns⟩ := h
  exact ⟨_, _, hturns⟩

/-- **A run that waits for a table that offers no node fails**, and asks for no channel. -/
theorem fails_of_settles (hx : x.Hears tables) {t : Wire.MemberTable}
    (hsettles : x.Settles k id t result) (hnone : ∀ node, ¬t.Offers node)
    (hwaiting : (x.state k).client.attempt run = .resolving (.waiting id)) :
    x.Fails (k + 1) run (ConnectPhase.failure result) := by
  refine fails_of_concludes hsettles.concludes (fun n shuffle now draw resolution hevent hok => ?_)
    hwaiting
  -- the members are those of the table, of which none can be chosen
  obtain ⟨resolution', hok', hmembers⟩ : ∃ resolution', result = .ok resolution'
      ∧ resolution'.members = t.usable := by
    rcases hsettles.cases with hfound | ⟨hcancelled, -⟩ | ⟨hdisposed, -⟩
      | ⟨error, herror, -⟩
    · exact hfound
    · cases hok.symm.trans hcancelled
    · cases hok.symm.trans hdisposed
    · cases hok.symm.trans herror
  cases hok.symm.trans hok'
  have hbrings := hx n
  rw [hevent] at hbrings
  rw [hmembers]
  exact (Wire.MemberTable.select_eq_none_iff (hbrings _)).2 hnone

/-- **Why a run fails that has waited for a member table which offers no node**: it has no node to
go to, unless the resolution did not come to an end with that table. -/
inductive FailsOver (x : ClientRun) (k id : Nat) (t : Wire.MemberTable) : Error → Prop where
  | unavailable (source : EndPoint) :
      FailsOver x k id t (.unavailable ("no connectable node among " ++ toString t.usable.length
        ++ " members reported by " ++ source.display))
  | cancelled (r : Resolver) (hr : (x.state k).client.site.resolver = some r)
      (hc : r.isCancelled id = true) : FailsOver x k id t .cancelled
  | disposed (hd : (x.state k).client.site.cache.isDisposed = true) :
      FailsOver x k id t Cache.disposedError
  | refused (error : Error) (member : Member) (hmember : member ∈ t.usable)
      (hrefuses : x.factory.Refuses member.endpoint error) : FailsOver x k id t error

theorem Settles.failsOver {t : Wire.MemberTable} (h : x.Settles k id t result) :
    x.FailsOver k id t (ConnectPhase.failure result) := by
  rcases h.cases with ⟨resolution, rfl, hmembers⟩ | ⟨rfl, r, hr, hc⟩ | ⟨rfl, hd⟩
    | ⟨error, rfl, member, hmember, hrefuses⟩
  · rw [ConnectPhase.failure, ConnectPhase.noNode, hmembers]
    exact .unavailable resolution.source
  · exact .cancelled r hr hc
  · exact .disposed hd
  · exact .refused error member hmember hrefuses

/-! ## A table without members -/

/-- **A reply that describes no member ends nothing**: nothing is cached, no run is told anything,
and the resolution goes on to the nodes that are left with one complaint more, unless it was
cancelled. -/
structure GoesOn (x : ClientRun) (k id attempt : Nat) (asked : Contact) (left : List Contact)
    (failures : List String) : Prop where
  cache_eq : (x.state (k + 1)).client.site.cache = (x.state k).client.site.cache
  attempt_eq : ∀ run, (x.state (k + 1)).client.attempt run = (x.state k).client.attempt run
  resolution : (x.state (k + 1)).resolution? id
      = some (.ready attempt left (failures ++ [Resolver.complaint asked.1 .empty]))
    ∨ (∃ r, (x.state k).client.site.resolver = some r ∧ r.isCancelled id = true)
      ∧ (x.state (k + 1)).resolution? id = some (.ended (.error .cancelled))

theorem goesOn_of_empty {now : Instant} {hdials} {attempt : Nat} {asked : Contact}
    {left : List Contact} {failures : List String}
    (hevent : x.events k = .discover (.answer id .empty now) hdials)
    (hasking : (x.state k).resolution? id = some (.asking attempt asked left failures)) :
    x.GoesOn k id attempt asked left failures := by
  obtain ⟨phase', hturns⟩ := turns_of_answer hevent hasking rfl
  have hattempts : ∀ run,
      (x.state (k + 1)).client.attempt run = (x.state k).client.attempt run := by
    intro run
    have hattempted := x.attempted k run
    generalize (x.state (k + 1)).client.attempt run = phase at hattempted ⊢
    cases hattempted with
    | stays => rfl
    | steps r shuffle now draw phase hstep => cases hevent.symm.trans hstep
    | answers answer now draw hanswer => cases hevent.symm.trans hanswer
  obtain ⟨r, hr, hturn⟩ := hturns.turn
  have hafter := hturns.after
  generalize hcache : (x.state (k + 1)).client.site.cache = cache' at hturn
  cases hturn with
  | shutOut phase hd hphase => rcases hphase with h | ⟨-, _, _, h⟩ <;> cases h
  | heeds phase hc => exact ⟨hcache, hattempts, .inr ⟨⟨r, hr, hc⟩, hafter⟩⟩
  | misses attempt asked left failures outcome hc hcause =>
    cases hcause
    exact ⟨hcache, hattempts, .inl hafter⟩
  | finds asked left failures resolution cache' hc hcause => cases hcause
  | refusesMembers attempt asked left failures members error cache' hc hcause => cases hcause
  | breaks attempt asked left failures hc hcause => cases hcause

/-- **Why a resolution fails that has nobody left to ask**: nobody has told it any members, or the
cache does not take the seeds back. -/
inductive ComesToNothing (x : ClientRun) (k attempt : Nat) (failures : List String) :
    Error → Prop where
  | exhausted (hlast : x.config.resolver.maxAttempts ≤ attempt) :
      ComesToNothing x k attempt failures (Resolver.exhausted attempt failures)
  | disposed (hd : (x.state k).client.site.cache.isDisposed = true) :
      ComesToNothing x k attempt failures Cache.disposedError
  | refused (error : Error) (seeds : List EndPoint) (htopology : x.config.topology = .cluster seeds)
      (seed : EndPoint) (hseed : seed ∈ seeds) (hrefuses : x.factory.Refuses seed error) :
      ComesToNothing x k attempt failures error

theorem comesToNothing_of_turns {event : DiscoveryEvent} {attempt : Nat} {failures : List String}
    {error : Error} (h : x.Turns k id event (.ready attempt [] failures) (.ended (.error error))) :
    x.ComesToNothing k attempt failures error := by
  obtain ⟨r, hr, hturn⟩ := h.turn
  obtain ⟨hcluster, -, hsettings⟩ := x.seeds_and_settings_state hr
  rcases hturn.of_none_left with ⟨-, ⟨-, delay, hpausing⟩ | ⟨hle, hended⟩⟩
    | ⟨e, hcache, hended⟩
  · cases hpausing
  · cases hended
    exact .exhausted (hsettings ▸ hle)
  · cases hended
    rcases Cache.refuses_of_reconcileIn hcache with ⟨hd, rfl⟩ | ⟨seed, hseed, hrefuses⟩
    · exact .disposed hd
    · exact .refused _ r.seeds hcluster seed (EndPoint.mem_of_mem_distinct hseed)
        (x.factory_state k ▸ hrefuses)

end ClientRun

end ClusterLink
