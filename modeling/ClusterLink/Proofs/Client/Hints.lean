import ClusterLink.Proofs.Client.Interventions
import ClusterLink.Proofs.Client.Redirect

/-!
# Hints that lead nowhere

A node may name a leader for which no channel can be made. A generation that names such a leader is
stuck: each of its runs tries the leader again, no matter what the other nodes would answer, and
fails (`ClientRun.stuckOn_of_refuses`). Since there is no connection there is no signal to heed
either, and only an intervention ends the generation.
-/

namespace ClusterLink

/-- **The factory refuses the leader**, however it is spelled. -/
def ChannelFactory.AlwaysRefuses (f : ChannelFactory) (leader : EndPoint) : Prop :=
  ∀ request e, e.same leader = true → f.refusal? request e ≠ none

/-- A cache does not hold what the factory refuses. -/
theorem Cache.Genuine.find?_of_refuses {c : Cache} (h : c.Genuine) {leader : EndPoint}
    (hrefuses : c.channels.factory.AlwaysRefuses leader) : c.find? leader = none := by
  rw [Cache.find?, Option.map_eq_none_iff, List.find?_eq_none]
  intro entry hentry hsame
  obtain ⟨-, request, hmade⟩ := h entry hentry
  exact hrefuses request entry.1 hsame hmade

/-- **The refusal of the leader.** -/
def RefusedBy (factory : ChannelFactory) (leader : EndPoint) : Except Error Connection → Prop
  | .ok _ => False
  | .error error => factory.Refuses leader error

namespace ConnectPhase

/-- **The attempt comes no further than to the leader.** -/
def IsStuckOn (factory : ChannelFactory) (leader : EndPoint) : ConnectPhase → Prop
  | .waiting => True
  | .chosen node => node = leader
  | .ended (.error error) => factory.Refuses leader error
  | _ => False

variable {settings : ConnectSettings} {leader : EndPoint} {shuffle : List Member → List Member}
  {s s' : Site} {phase phase' : ConnectPhase}

/-- **An attempt that is stuck does not get off**, whatever the resolver or the cache holds. -/
theorem Moves.isStuckOn (h : Moves settings (.newLeader leader) false shuffle s phase phase' s')
    (hstuck : phase.IsStuckOn s.cache.channels.factory leader) (hd : s.cache.isDisposed = false)
    (hgenuine : s.cache.Genuine) (hrefuses : s.cache.channels.factory.AlwaysRefuses leader) :
    phase'.IsStuckOn s.cache.channels.factory leader := by
  -- what comes of asking the cache for the leader is a refusal
  have hrefused : ∃ error cache, s.cache.getOrCreate leader = (.error error, cache)
      ∧ s.cache.channels.factory.Refuses leader error := by
    rcases Cache.getOrCreate_cases hd leader with ⟨handle, hfind, -⟩
      | ⟨-, ⟨error, channels, hcreate, heq⟩
        | ⟨handle, channels, hcreate, -⟩⟩
    · cases (hgenuine.find?_of_refuses hrefuses).symm.trans hfind
    · refine ⟨error, _, heq, s.cache.channels.requests, ?_⟩
      unfold Channels.create at hcreate
      split at hcreate
      · cases hcreate
        assumption
      · cases hcreate
    · obtain ⟨-, request, hmade⟩ := Cache.isGenuine_of_create hcreate
      exact absurd hmade (hrefuses request leader leader.same_refl)
  obtain ⟨error, cache, heq, hrefusal⟩ := hrefused
  cases h with
  | stays => exact hstuck
  | follows leader' ht => exact (Trigger.newLeader.inj ht).symm
  | visits node ht => cases ht
  | resolves ht => cases ht
  | links node handle cache' hcache =>
    cases hstuck
    cases hcache.symm.trans heq
  | prepares node handle cache' timeout hcache =>
    cases hstuck
    cases hcache.symm.trans heq
  | refused node error' cache' hcache =>
    cases hstuck
    cases hcache.symm.trans heq
    exact hrefusal
  | heeds phase hc => cases hc
  | calls | hears | lost | breaks | queries => exact hstuck.elim

theorem IsStuckOn.takeIn {factory : ChannelFactory} (h : phase.IsStuckOn factory leader)
    (answer : Option (Except Status MethodTable)) :
    (phase.takeIn answer).IsStuckOn factory leader := by
  unfold ConnectPhase.takeIn
  split
  · exact h.elim
  · exact h

theorem IsStuckOn.isDirect {factory : ChannelFactory} (h : phase.IsStuckOn factory leader) :
    phase.IsDirect := by
  cases phase <;> trivial

end ConnectPhase

namespace ClientRun

variable {x : ClientRun} {leader : EndPoint} {generation m n : Nat}

/-- **The client is stuck on a leader**, from `m` on and as long as nobody interferes: every call is
answered with the refusal of the leader. -/
structure StuckOn (x : ClientRun) (leader : EndPoint) (generation m : Nat) : Prop
    extends x.Answers (RefusedBy x.factory leader) generation m where
  /-- No failed call gets the client off. -/
  signals : ∀ (n : Nat) (event : CallEvent) (now : Instant) (inRuntime : Bool), m ≤ n →
    x.IsUndisturbed generation n → x.events n = .use event now inRuntime →
    (x.state (n + 1)).client.provider = (x.state n).client.provider
  /-- Nothing but an intervention does. -/
  lasts : ∀ n, m ≤ n → x.IsUndisturbed generation m →
    (∀ k, m ≤ k → k < n → ¬(x.events k).Intervenes (x.state k)) →
    x.IsUndisturbed generation n

/-- **A leader that the factory refuses gets the client stuck.** -/
theorem stuckOn_of_refuses (hg : (x.state m).client.provider.generation = generation)
    (ht : (x.state m).client.provider.trigger = .newLeader leader)
    (hrefuses : x.factory.AlwaysRefuses leader) : x.StuckOn leader generation m := by
  have hanswers : x.Answers (RefusedBy x.factory leader) generation m := by
    refine answers_of_attempt (A := ConnectPhase.IsStuckOn x.factory leader) hg ht
      (fun _ run r h hr hrg => ?_) (fun _ h => h.isDirect) fun r result _ _ hstuck => ?_
    · refine h.attempt_induction (A := ConnectPhase.IsStuckOn x.factory leader) trivial
        (fun k _ _ _ _ hquiet hmoves _ hstuck => ?_)
          (fun _ answer hstuck => hstuck.takeIn answer) hr hrg
      have hfactory := x.factory_state k
      rw [← hfactory] at hstuck hrefuses ⊢
      exact hmoves.isStuckOn hstuck hquiet.cache (x.genuine_state k) hrefuses
    · cases result with
      | error error => exact hstuck
      | ok link => exact hstuck.elim
  have hslot : ∀ n, m ≤ n → x.IsUndisturbed generation n →
      ∀ c, (x.state n).client.provider.slot ≠ .ready c :=
    fun n hmn hquiet c hc => (hanswers.runs n hmn hquiet).ready c hc
  exact
    { toAnswers := hanswers
      signals := fun n _ _ _ hmn hquiet hevent => provider_of_use (hslot n hmn hquiet) hevent
      lasts := by
        intro n hmn hquiet hnot
        induction n, hmn using Nat.le_induction with
        | base => exact hquiet
        | succ n hmn ih =>
          have hn := ih fun k hmk hkn => hnot k hmk (Nat.lt_succ_of_lt hkn)
          exact hn.succ (hnot n hmn (Nat.lt_succ_self n)) (hslot n hmn hn) }

/-! ## What a hint comes to -/

/-- **The factory decides whether a hint gets the client on.** A generation that names a leader
leads on to the leader if a channel can be made for it, and leaves the client stuck if none can. -/
theorem hint_leads_on_or_sticks (x : ClientRun) :
    (∀ (m : Nat) (leader : EndPoint), (x.state m).client.provider.trigger = .newLeader leader →
      x.factory.AlwaysRefuses leader →
      x.StuckOn leader (x.state m).client.provider.generation m)
    ∧ ∀ (m : Nat) (leader : EndPoint),
      (x.state m).client.provider.trigger = .newLeader leader →
      (∀ request, x.factory.refusal? request leader = none) →
      (Client.settingsOf x.config).CanNegotiate →
      x.LeadsOn leader (x.state m).client.provider.generation m :=
  ⟨fun _ _ ht hrefuses => stuckOn_of_refuses rfl ht hrefuses,
    fun _ _ ht hfactory hn => leadsOn rfl ht hfactory hn⟩

/-! ### A client that is stuck -/

/-- A client of a cluster that does not ask for capabilities. -/
def seedConfig : ClientConfig where
  topology := .cluster [⟨"s", 1⟩]
  resolver := {}
  selector := ⟨.standard, false⟩
  reconnectBackoff := {}
  connectTimeout := ClientOptions.defaultConnectTimeout
  keepAliveInterval := ClientOptions.defaultKeepAlive.1
  keepAliveTimeout := ClientOptions.defaultKeepAlive.2
  negotiationTimeout := none
  tls := false

/-- The client with the seed in its cache. -/
def seedClient : Client where
  settings := Client.settingsOf seedConfig
  site :=
    { cache :=
        { channels :=
            { factory := .refusing ["bad"], requests := 1, made := [⟨0, ⟨"s", 1⟩, false⟩] }
          entries := [(⟨"s", 1⟩, ⟨0, ⟨"s", 1⟩, false⟩)]
          log := [Cache.createdReport ⟨"s", 1⟩] }
      resolver := some { seeds := [⟨"s", 1⟩], settings := {} } }
  provider := .new {}

theorem build_seedConfig :
    ClientOptions.build { gossipSeeds := ["s:1"], negotiate := some false } = .ok seedConfig := by
  rfl

theorem new_seedClient : Client.new seedConfig (.refusing ["bad"]) = .ok seedClient := by rfl

/-- A caller is given a connection to the seed, and makes a call that fails with a hint. -/
def hintedEvents : List ClientEvent :=
  [.connectionInfo false, .advance 0 0 0, .stepRun 0 id 0 0, .stepRun 0 id 0 0, .stepRun 0 id 0 0,
    .stepRun 0 id 0 0, .discover (.step 0 false id 0 0) rfl, .discover (.step 0 false id 0 0) rfl,
    .discover (.answer 0 (.success [⟨"n", ⟨"s", 1⟩, .leader, true⟩]) 0) rfl,
    .stepRun 0 id 0 0, .stepRun 0 id 0 0, .stepRun 0 id 0 0, .advance 0 0 0,
    .use (.call 0 (.error (.rejection ⟨"bad", 1⟩))) 0 true]

/-- Another caller asks, the run that it starts takes its steps, and the caller comes back. -/
def askAgain (call : Nat) (now : Instant) : Nat → ClientEvent
  | 0 => .connectionInfo false
  | 1 => .advance call now 0
  | 2 | 3 => .stepRun call id now 0
  | _ => .advance call now 0

/-- After the hint, callers ask again and again, each of them long after the one before. -/
def hintedRun : ClientRun where
  options := { gossipSeeds := ["s:1"], negotiate := some false }
  config := seedConfig
  built := build_seedConfig
  factory := .refusing ["bad"]
  client := seedClient
  made := new_seedClient
  events := fun n =>
    if n < 14 then hintedEvents.getD n (.connectionInfo false)
    else askAgain ((n - 14) / 5 + 1) (((n - 14) / 5 + 1) * 1000000000000) ((n - 14) % 5)

/-- Nobody intervenes in this run. -/
theorem isPeaceful_hintedRun (n : Nat) : (hintedRun.events n).isPeaceful = true := by
  show (if n < 14 then hintedEvents.getD n (.connectionInfo false)
    else askAgain ((n - 14) / 5 + 1) (((n - 14) / 5 + 1) * 1000000000000) ((n - 14) % 5)).isPeaceful
      = true
  split
  · rename_i hn
    have hall : ∀ k < 14, (hintedEvents.getD k (.connectionInfo false)).isPeaceful = true := by
      decide
    exact hall n hn
  · unfold askAgain
    split <;> rfl

/-- **A client that follows a hint for which no channel can be made is stuck for good.** The client
has a connection, the call on it fails with the hint, and no later call is ever given a
connection. -/
theorem hintedRun_is_stuck :
    (∃ c, (hintedRun.state 13).client.provider.ready? = some c ∧ c.generation = 0)
      ∧ (hintedRun.state 14).client.provider.trigger = .newLeader ⟨"bad", 1⟩
      ∧ ∀ n i, 14 ≤ n → 1 ≤ i → (hintedRun.state n).held i = none := by
  have hgeneration : (hintedRun.state 14).client.provider.generation = 1 := by decide +kernel
  have htrigger : (hintedRun.state 14).client.provider.trigger = .newLeader ⟨"bad", 1⟩ := by
    decide +kernel
  have hrefuses : hintedRun.factory.AlwaysRefuses ⟨"bad", 1⟩ := by
    intro request e hsame
    rw [EndPoint.same, Bool.and_eq_true] at hsame
    have hhost : ["bad"].any (Text.equalIgnoringCase · e.host) = true := by
      have hfold := Text.equalIgnoringCase_iff.1 hsame.2
      rw [List.any_cons, Text.equalIgnoringCase_iff.2 hfold.symm]
      rfl
    show (if ["bad"].any (Text.equalIgnoringCase · e.host)
      then some (Error.config "channel refused") else none) ≠ none
    rw [if_pos hhost]
    exact Option.some_ne_none _
  have hquiet : hintedRun.IsUndisturbed 1 14 :=
    ⟨hgeneration, by decide +kernel, by decide +kernel, by decide +kernel⟩
  have hstuck := stuckOn_of_refuses hgeneration htrigger hrefuses
  refine ⟨⟨⟨⟨⟨0, ⟨"s", 1⟩, false⟩, {}⟩, .rediscover, 0⟩,
    by decide +kernel, rfl⟩, htrigger, fun n i hn hi => ?_⟩
  have hn' := hstuck.lasts n hn hquiet fun k _ _ => not_intervenes isPeaceful_hintedRun k
  have hlater : (hintedRun.state 14).calls[i]? = none :=
    List.getElem?_eq_none (by
      have : (hintedRun.state 14).calls.length = 1 := by decide +kernel
      omega)
  rw [Deployment.held, Option.bind_eq_none_iff]
  intro q hq
  rcases hstuck.calls n i q hn hn' hlater hq with hawaits | ⟨-, hdone⟩
  · cases hphase : q.phase with
    | done result =>
      rw [hphase] at hawaits
      cases result with
      | ok c => exact hawaits.elim
      | error error => rfl
    | _ => rfl
  · rw [hdone]
    rfl

end ClientRun

end ClusterLink
