import ClusterLink.Proofs.Client.Leading

/-!
# Redirects

A call that fails because its node is not the leader may name the leader. If its connection is the
one in use, the client goes to the leader from then on: every caller that comes later is given a
connection to the leader, as long as nobody interferes (`ClientRun.redirect_leads_to_leader`).
-/

namespace ClusterLink

namespace ClientRun

variable {x : ClientRun} {leader : EndPoint} {m : Nat} {info : Connection} {status : Status}
  {event : CallEvent} {now : Instant} {inRuntime : Bool}

/-- **The signal of a redirect begins a generation that follows the leader.** -/
theorem provider_of_redirect (hready : (x.state m).client.provider.slot = .ready info)
    (hevent : x.events m = .use event now inRuntime)
    (hsignal : event.signal? (x.state m).held (x.state m).streams = some (info.generation, status))
    (hstatus : status.classify = .notLeader leader) :
    (x.state (m + 1)).client.provider
      = (x.state m).client.provider.advance now inRuntime (.newLeader leader) := by
  have hcoherent := x.coherent_state m
  have hd : (x.state m).client.provider.isDisposed = false := Bool.eq_false_iff.2 fun hd => by
    cases hready.symm.trans (hcoherent.slot_of_isDisposed hd)
  have haccepts : (x.state m).client.provider.accepts? info.generation status
      = some (.newLeader leader) := by
    rw [Provider.accepts?_eq_some, hstatus]
    exact ⟨hd, (hcoherent.ready info hready).1.symm, rfl⟩
  rw [state, hevent]
  show (event.perform (x.state m).held (x.state m).streams (x.state m).client.provider now
    inRuntime).1 = _
  rw [CallEvent.provider_perform, hsignal]
  show (x.state m).client.provider.observe info.generation status now inRuntime = _
  rw [Provider.observe_of_accepts? (x.isAbandoned_state m), haccepts]
  rfl

/-- **What a redirect does**, as long as nobody interferes. `m` is the instant of the failure,
`info` the connection that failed. -/
structure IsRedirected (x : ClientRun) (m : Nat) (info : Connection) (leader : EndPoint) : Prop
    extends x.LeadsOn leader (info.generation + 1) (m + 1) where
  /-- A generation begins that names the leader. -/
  generation_eq : (x.state (m + 1)).client.provider.generation = info.generation + 1
  trigger_eq : (x.state (m + 1)).client.provider.trigger = .newLeader leader
  /-- Who holds the connection that failed goes on holding it. -/
  holders : ∀ n i, m ≤ n → (x.state m).held i = some info → (x.state n).held i = some info

/-- **A redirect leads to the leader.** A call that fails because its node is not the leader returns
the status that it failed with. If its connection is the one in use, and the channel factory makes a
channel for the leader, then the client goes to the leader from then on, as long as nobody
interferes. -/
theorem redirect_leads_to_leader (hready : (x.state m).client.provider.slot = .ready info)
    (hevent : x.events m = .use event now inRuntime)
    (hsignal : event.signal? (x.state m).held (x.state m).streams = some (info.generation, status))
    (hstatus : status.classify = .notLeader leader)
    (hfactory : ∀ request, x.factory.refusal? request leader = none) :
    x.IsRedirected m info leader
      ∧ ∀ (α : Type) (p : Provider) (watch : StreamWatch),
        (p.call info.generation (.error status : Except Status α) now inRuntime).1 = .error status
        ∧ (p.openStream info.generation (.error status : Except Status α) now inRuntime).1
          = .error status
        ∧ (watch.poll p (.failure status : StreamPoll α) now inRuntime).1 = .failure status := by
  have hprovider := provider_of_redirect hready hevent hsignal hstatus
  have hgen : (x.state (m + 1)).client.provider.generation = info.generation + 1 := by
    rw [hprovider, Provider.generation_advance, ((x.coherent_state m).ready info hready).1]
  have htrigger : (x.state (m + 1)).client.provider.trigger = .newLeader leader := by
    rw [hprovider, Provider.trigger_advance]
  exact ⟨{
    toLeadsOn := leadsOn hgen htrigger hfactory (canNegotiate_of_ready hready)
    generation_eq := hgen
    trigger_eq := htrigger
    holders := fun n i hmn => x.held_of_le hmn }, fun α p watch => ⟨rfl, rfl, rfl⟩⟩

/-! ### A redirect -/

/-- A client of a single node that does not ask for its capabilities. -/
def soloConfig : ClientConfig where
  topology := .single ⟨"a", 1⟩
  resolver := {}
  selector := ⟨.standard, false⟩
  reconnectBackoff := {}
  connectTimeout := ClientOptions.defaultConnectTimeout
  keepAliveInterval := ClientOptions.defaultKeepAlive.1
  keepAliveTimeout := ClientOptions.defaultKeepAlive.2
  negotiationTimeout := none
  tls := false

/-- A caller asks, a run connects to the node, the caller is given the connection, and makes a call
that the node turns away, naming another one. -/
def soloRun : ClientRun where
  options := { singleNode := some "a:1", negotiate := some false }
  config := soloConfig
  built := rfl
  factory := {}
  client :=
    { settings := Client.settingsOf soloConfig, provider := .new {},
      site := { cache := { channels := {} } } }
  made := rfl
  events := fun n =>
    [.connectionInfo false, .advance 0 0 0, .stepRun 0 id 0 0, .stepRun 0 id 0 0, .advance 0 0 0,
      .use (.call 0 (.error (.rejection ⟨"b", 2⟩))) 0 true].getD n (.connectionInfo false)

theorem soloRun_is_redirected : ∃ info : Connection,
    (soloRun.state 5).client.provider.slot = .ready info ∧ info.generation = 0
      ∧ soloRun.IsRedirected 5 info ⟨"b", 2⟩ := by
  refine ⟨⟨⟨⟨0, ⟨"a", 1⟩, false⟩, {}⟩, .rediscover, 0⟩, rfl, rfl, ?_⟩
  have hfactory : ∀ request, soloRun.factory.refusal? request ⟨"b", 2⟩ = none := fun _ => rfl
  exact (redirect_leads_to_leader rfl rfl rfl (by decide +kernel) hfactory).1

end ClientRun

end ClusterLink
