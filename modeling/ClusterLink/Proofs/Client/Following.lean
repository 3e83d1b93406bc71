import ClusterLink.Proofs.Client.Generations

/-!
# Attempts that follow a leader

An attempt to connect that follows a leader goes to the leader and nowhere else: it asks nobody for
the members of the cluster, and changes the cache at most by the leader
(`ConnectPhase.Moves.site_cases`). If a channel can be made for the leader, and the question about
its capabilities can be asked, the attempt does not fail (`ConnectPhase.Moves.followsTo`), and it is
over after four turns (`ConnectPhase.Moves.turnsLeft`). What the leader answers about its
capabilities does not matter.
-/

namespace ClusterLink

/-- **The question about capabilities can be asked**: a call can carry its deadline. -/
def ConnectSettings.CanNegotiate (s : ConnectSettings) : Prop :=
  ∀ timeout, s.negotiationTimeout = some timeout →
    ∃ deadline, Wire.carriedDeadline? timeout = some deadline

namespace ConnectPhase

/-- The attempt goes by the settings: a timeout is the one that they name, and an attempt that has
come further could ask for the capabilities. -/
def Fits (settings : ConnectSettings) : ConnectPhase → Prop
  | .linked _ timeout => settings.negotiationTimeout = some timeout
  | .negotiating _ | .ended (.ok _) => settings.CanNegotiate
  | _ => True

/-- **The attempt goes to the leader.** -/
def FollowsTo (leader : EndPoint) : ConnectPhase → Prop
  | .waiting => True
  | .chosen node => node = leader
  | .linked handle _ | .negotiating handle => handle.endpoint.same leader = true
  | .ended (.ok link) => link.handle.endpoint.same leader = true
  | _ => False

section

variable {settings : ConnectSettings} {trigger : Trigger} {isCancelled : Bool}
  {shuffle : List Member → List Member} {s s' : Site} {phase phase' : ConnectPhase}

theorem Moves.fits (h : Moves settings trigger isCancelled shuffle s phase phase' s')
    (hfits : phase.Fits settings) : phase'.Fits settings := by
  cases h with
  | stays => exact hfits
  | hears call result =>
    rcases ofResolution_cases settings.selector shuffle result with ⟨error, h⟩ | ⟨node, h⟩
    · rw [h]
      trivial
    · rw [h]
      trivial
  | links node handle cache hcache ht =>
    intro timeout htimeout
    cases ht.symm.trans htimeout
  | prepares node handle cache timeout hcache ht => exact ht
  | queries handle timeout deadline hd hc =>
    intro timeout' htimeout'
    cases hfits.symm.trans htimeout'
    exact ⟨deadline, hd⟩
  | _ => trivial

theorem Fits.takeIn (h : phase.Fits settings) (answer : Option (Except Status MethodTable)) :
    (phase.takeIn answer).Fits settings := by
  unfold ConnectPhase.takeIn
  split
  · exact h
  · exact h

variable {leader : EndPoint}

/-- **A run that follows a leader goes to it**, if nothing is in the way. -/
theorem Moves.followsTo (h : Moves settings (.newLeader leader) false shuffle s phase phase' s')
    (hfollows : phase.FollowsTo leader) (hfits : phase.Fits settings) (hn : settings.CanNegotiate)
    (hd : s.cache.isDisposed = false) (hgenuine : s.cache.Genuine)
    (hfactory : ∀ request, s.cache.channels.factory.refusal? request leader = none) :
    phase'.FollowsTo leader := by
  cases h with
  | stays => exact hfollows
  | follows leader' ht => exact (Trigger.newLeader.inj ht).symm
  | visits node ht => cases ht
  | resolves ht => cases ht
  | calls | hears | lost => exact hfollows.elim
  | links node handle cache hcache => exact hfollows ▸ hgenuine.same_of_getOrCreate hcache
  | prepares node handle cache timeout hcache =>
    exact hfollows ▸ hgenuine.same_of_getOrCreate hcache
  | refused node error cache hcache =>
    cases hfollows
    exact absurd hcache (Cache.getOrCreate_ne_error hd hfactory error cache)
  | breaks handle timeout hdeadline =>
    obtain ⟨deadline, hsome⟩ := hn timeout hfits
    cases hdeadline.symm.trans hsome
  | queries handle => exact hfollows
  | heeds phase hc => cases hc

theorem FollowsTo.takeIn (h : phase.FollowsTo leader)
    (answer : Option (Except Status MethodTable)) : (phase.takeIn answer).FollowsTo leader := by
  unfold ConnectPhase.takeIn
  split
  · exact h
  · exact h

/-- **A run that follows a leader asks nobody for the members**, and changes the cache at most by
the connection to the leader. -/
theorem Moves.site_cases
    (h : Moves settings (.newLeader leader) isCancelled shuffle s phase phase' s')
    (hfollows : phase.FollowsTo leader) :
    s'.resolver = s.resolver ∧ (s'.cache.entries = s.cache.entries
      ∨ s.cache.find? leader = none ∧ ∃ handle, handle.endpoint = leader
        ∧ s'.cache.entries = s.cache.entries ++ [(leader, handle)]) := by
  have hlink : ∀ {result : Except Error Handle} {cache : Cache},
      s.cache.getOrCreate leader = (result, cache) → cache.entries = s.cache.entries
        ∨ s.cache.find? leader = none ∧ ∃ handle, handle.endpoint = leader
          ∧ cache.entries = s.cache.entries ++ [(leader, handle)] := by
    intro result cache hcache
    cases hd : s.cache.isDisposed with
    | true =>
      rw [Cache.getOrCreate, if_pos hd] at hcache
      cases hcache
      exact .inl rfl
    | false =>
      rcases Cache.getOrCreate_cases hd leader with ⟨handle, -, heq⟩
        | ⟨hnone, ⟨error, channels, -, heq⟩
          | ⟨handle, channels, hcreate, heq⟩⟩
      · cases hcache.symm.trans heq
        exact .inl rfl
      · cases hcache.symm.trans heq
        exact .inl rfl
      · cases hcache.symm.trans heq
        exact .inr ⟨hnone, handle, (Channels.endpoint_of_create hcreate).1, rfl⟩
  cases h with
  | links node handle cache hcache => exact ⟨rfl, hlink (hfollows ▸ hcache)⟩
  | prepares node handle cache timeout hcache => exact ⟨rfl, hlink (hfollows ▸ hcache)⟩
  | refused node error cache hcache => exact ⟨rfl, hlink (hfollows ▸ hcache)⟩
  | calls | hears => exact hfollows.elim
  | _ => exact ⟨rfl, .inl rfl⟩

end

/-! ## The turns of an attempt -/

/-- **The attempt does without the members of the cluster**, and has not broken down. -/
def IsDirect : ConnectPhase → Prop
  | .resolving _ | .brokenDown => False
  | _ => True

theorem FollowsTo.isDirect {leader : EndPoint} {phase : ConnectPhase} (h : phase.FollowsTo leader) :
    phase.IsDirect := by
  cases phase <;> trivial

/-- How many more turns such an attempt takes at most. -/
def turnsLeft : ConnectPhase → Nat
  | .waiting => 4
  | .chosen _ => 3
  | .linked .. => 2
  | .negotiating _ => 1
  | _ => 0

def isNegotiating : ConnectPhase → Bool
  | .negotiating _ => true
  | _ => false

theorem turnsLeft_le_four (phase : ConnectPhase) : phase.turnsLeft ≤ 4 := by
  cases phase <;> simp [turnsLeft]

theorem IsDirect.isOver_of_turnsLeft {phase : ConnectPhase} (h : phase.IsDirect)
    (hleft : phase.turnsLeft = 0) : phase.isOver = true := by
  cases phase with
  | ended result => rfl
  | resolving | brokenDown => exact h.elim
  | _ => cases hleft

/-- **A step brings such an attempt nearer to its end**, unless it waits for an answer. -/
theorem Moves.turnsLeft {settings : ConnectSettings} {leader : EndPoint}
    {shuffle : List Member → List Member} {s s' : Site} {phase phase' : ConnectPhase}
    (h : Moves settings (.newLeader leader) false shuffle s phase phase' s')
    (hdirect : phase.IsDirect) (hopen : phase.isOver = false) :
    phase'.turnsLeft ≤ phase.turnsLeft
      ∧ (phase.isNegotiating = false → phase'.turnsLeft < phase.turnsLeft) := by
  have hlt : ∀ {a b : Nat}, a < b → a ≤ b ∧ (phase.isNegotiating = false → a < b) :=
    fun h => ⟨Nat.le_of_lt h, fun _ => h⟩
  cases h with
  | stays phase hstays =>
    refine ⟨Nat.le_refl _, fun hnot => ?_⟩
    rcases hstays with hover | ⟨call, r, rfl, -⟩ | ⟨-, handle, rfl⟩
    · cases hover.symm.trans hopen
    · exact hdirect.elim
    · cases hnot
  | visits node ht => cases ht
  | resolves ht => cases ht
  | follows | links | prepares | refused | breaks | queries =>
    exact hlt (by simp [ConnectPhase.turnsLeft])
  | calls | hears | lost => exact hdirect.elim
  | heeds phase hc => cases hc

/-- The answer about the capabilities ends an attempt that waits for it. -/
theorem turnsLeft_takeIn (phase : ConnectPhase) (answer : Option (Except Status MethodTable)) :
    (phase.takeIn answer).turnsLeft ≤ phase.turnsLeft
      ∧ (phase.isNegotiating = true → (phase.takeIn answer).turnsLeft < phase.turnsLeft) := by
  cases phase with
  | negotiating handle => exact ⟨Nat.zero_le 1, fun _ => Nat.zero_lt_one⟩
  | _ => exact ⟨Nat.le_refl _, nofun⟩

end ConnectPhase

/-! ## Whole runs -/

namespace ClientRun

variable {x : ClientRun} {n : Nat}

/-- Every attempt goes by the settings. -/
theorem fits_state (x : ClientRun) (n run : Nat) :
    ((x.state n).client.attempt run).Fits (x.state n).client.settings := by
  induction n with
  | zero =>
    have hfresh : (x.state 0).client.attempt run = .waiting :=
      (x.runsFit_state 0).fresh run (List.getElem?_eq_none_iff.1 (x.getElem?_runs_zero run))
    rw [hfresh]
    trivial
  | succ n ih =>
    rw [show (x.state (n + 1)).client.settings = (x.state n).client.settings from
      Deployment.settings_perform _ (x.events n)]
    have hattempted := x.attempted n run
    generalize (x.state (n + 1)).client.attempt run = phase at hattempted ⊢
    cases hattempted with
    | stays => exact ih
    | steps r shuffle now draw phase hevent hr hmoves => exact hmoves.fits ih
    | answers answer => exact ih.takeIn answer

/-- **A client that has connected could ask for the capabilities.** -/
theorem canNegotiate_of_ready {c : Connection} (h : (x.state n).client.provider.slot = .ready c) :
    (Client.settingsOf x.config).CanNegotiate := by
  induction n with
  | zero => cases x.provider_zero ▸ h
  | succ n ih =>
    rcases Deployment.ready_cases (x.isAbandoned_state n) h with hs | ⟨run, r, -, hattempt, -⟩
    · exact ih hs
    · have hfits := x.fits_state (n + 1) run
      rw [show (x.state (n + 1)).client.attempt run = .ended (.ok c.toLink) from hattempt,
        x.settings_state] at hfits
      exact hfits

end ClientRun

end ClusterLink
