import ClusterLink.Proofs.Client.Parts

/-!
# Who holds a connection of a client

Every connection that a caller of a client holds, or that a watched stream came from, is backed by
the provider: its generation is over, or the connection is the one in use
(`ClientRun.isBacked_state`). So a signal is heeded only while the provider is ready
(`ClientRun.provider_of_use`).
-/

namespace ClusterLink

namespace Deployment

/-- **Whatever is held is backed** by the provider. -/
structure IsBacked (d : Deployment) : Prop where
  runs : d.client.provider.BacksRuns
  held : ∀ call c, d.held call = some c → d.client.provider.Backs c.generation
  streams : ∀ watch ∈ d.streams, d.client.provider.Backs watch.generation

theorem held_eq_some {d : Deployment} {call : Nat} {c : Connection} :
    d.held call = some c ↔ ∃ q, d.calls[call]? = some q ∧ q.phase = .done (.ok c) := by
  simp [held, Option.bind_eq_some_iff, CallPhase.connection?_eq_some]

/-- Streams are opened and asked on connections that are held. -/
theorem streams_perform {d : Deployment} {event : ClientEvent}
    (h : ∀ use now inRuntime, event ≠ .use use now inRuntime) :
    (d.perform event).streams = d.streams := by
  cases event with
  | use use now inRuntime => exact absurd rfl (h use now inRuntime)
  | advance call now draw =>
    show (d.stepCall call now draw).streams = d.streams
    unfold stepCall
    split
    · rfl
    · split <;> rfl
  | discover event hdials =>
    show (d.performDiscovery event).streams = d.streams
    unfold performDiscovery
    split <;> rfl
  | _ => rfl

/-- **Every event leaves backed what is held.** -/
theorem IsBacked.perform {d : Deployment} (h : d.IsBacked)
    (ha : d.client.provider.isAbandoned = false) (hp : d.client.provider.Coherent)
    (event : ClientEvent) : (d.perform event).IsBacked := by
  have hchange := change_provider ha event
  have hkeeps : ∀ generation, d.client.provider.Backs generation →
      (d.perform event).client.provider.Backs generation := fun _ hbacks => hbacks.change hp hchange
  constructor
  case runs => exact h.runs.change hp hchange
  case held =>
    intro call c hc
    obtain ⟨q, hq, hdone⟩ := held_eq_some.1 hc
    cases goes_of_perform hq with
    | begins q hnone hbegins =>
      cases hbegins with
      | ready c' hs =>
        cases hdone
        exact hkeeps _ (.of_ready hs)
      | _ => cases hdone
    | stays q hold | cancel q hold =>
      exact hkeeps _ (h.held call c (held_eq_some.2 ⟨_, hold, hdone⟩))
    | giveUp q hold =>
      refine hkeeps _ (h.held call c (held_eq_some.2 ⟨q, hold, ?_⟩))
      change q.phase.giveUp = .done (.ok c) at hdone
      cases hphase : q.phase with
      | done result =>
        rw [hphase] at hdone
        exact hdone
      | _ =>
        rw [hphase] at hdone
        cases hdone
    | heeds => cases hdone
    | steps q now draw hold hevent hcancelled hprovider =>
      rw [hprovider]
      exact h.runs.backs_advanceCall hp ha
        (fun hphase => h.held call c (held_eq_some.2 ⟨q, hold, hphase⟩)) hdone
  case streams =>
    intro watch hw
    by_cases huse : ∃ use now inRuntime, event = .use use now inRuntime
    · obtain ⟨use, now, inRuntime, rfl⟩ := huse
      rcases CallEvent.watch_cases use d.client.provider now inRuntime hw with
        ⟨old, hold, heq⟩ | ⟨holder, c, hc, heq⟩
      · exact heq ▸ hkeeps _ (h.streams old hold)
      · exact heq ▸ hkeeps _ (h.held holder c hc)
    · rw [streams_perform fun use now inRuntime heq => huse ⟨use, now, inRuntime, heq⟩] at hw
      exact hkeeps _ (h.streams watch hw)

end Deployment

namespace ClientRun

variable {x : ClientRun} {n : Nat}

/-- **Whatever is held of a client is backed.** -/
theorem isBacked_state (x : ClientRun) (n : Nat) : (x.state n).IsBacked := by
  induction n with
  | zero =>
    refine ⟨fun run r c hr => ?_, fun call c hc => ?_, fun watch hw => ?_⟩
    · cases x.getElem?_runs_zero run ▸ hr
    · cases hc
    · cases hw
  | succ n ih => exact ih.perform (x.isAbandoned_state n) (x.coherent_state n) (x.events n)

/-- **A signal is heeded only while the provider is ready.** -/
theorem provider_of_use (hslot : ∀ c, (x.state n).client.provider.slot ≠ .ready c)
    {event : CallEvent} {now : Instant} {inRuntime : Bool}
    (hevent : x.events n = .use event now inRuntime) :
    (x.state (n + 1)).client.provider = (x.state n).client.provider := by
  rw [state, hevent]
  show (event.perform (x.state n).held (x.state n).streams (x.state n).client.provider now
    inRuntime).1 = _
  rw [CallEvent.provider_perform]
  cases hsignal : event.signal? (x.state n).held (x.state n).streams with
  | none => rfl
  | some signal =>
    obtain ⟨generation, status⟩ := signal
    have hbacks : (x.state n).client.provider.Backs generation := by
      rcases CallEvent.signal_cases hsignal with ⟨holder, c, hc, heq⟩ | ⟨watch, hw, heq⟩
      · exact heq ▸ (x.isBacked_state n).held holder c hc
      · exact heq ▸ (x.isBacked_state n).streams watch hw
    show (x.state n).client.provider.observe generation status now inRuntime = _
    rw [Provider.observe_of_accepts? (x.isAbandoned_state n)]
    cases haccepts : (x.state n).client.provider.accepts? generation status with
    | none => rfl
    | some trigger =>
      obtain ⟨c, hc, -⟩ := hbacks.exists_ready haccepts
      exact absurd hc (hslot c)

end ClientRun

end ClusterLink
