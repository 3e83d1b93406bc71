import ClusterLink.Proofs.Provider.Traffic

/-!
# How often a call asks

A call that finds its run replaced asks again. The run was then of a generation that is over
(`Provider.ReplacesRuns`), and whoever asks is told an answer at once, or waits for a run of the
present generation. So a call asks once for each generation at most, and every new generation is
owed to a reset.

How often a call may have asked since some instant is told by how far it has come
(`Provider.allowance`): each event leaves room for what the call does there
(`Traffic.allowance_perform`). The main statement is `calls_ask_by_resets`.
-/

namespace ClusterLink

namespace Provider

variable {p q : Provider}

/-! ## Runs that were replaced -/

/-- **Every run that was replaced is of a generation that is over.** -/
def ReplacesRuns (p : Provider) : Prop :=
  ∀ (run : Nat) (r : Run), p.runs[run]? = some r → r.phase = .ended none →
    r.generation < p.generation

theorem ReplacesRuns.change (h : p.ReplacesRuns) (hp : p.Coherent) (hq : Change p q) :
    q.ReplacesRuns := by
  intro run s hs hphase
  rcases hq.run_cases hs with ⟨r, hr, hg, hproceeds⟩ | hstarts
  · rw [← hg]
    refine Nat.lt_of_lt_of_le ?_ hq.generation_le
    cases hproceeds with
    | stays hsame => exact h run r hr (hsame.symm.trans hphase)
    | breaks hw hw' =>
      rw [hphase] at hw'
      cases hw'
    | ends outcome hw hended hends =>
      cases hended.symm.trans hphase
      cases hends with
      | stale hd hne => exact Nat.lt_of_le_of_ne (hp.generation_le run r hr) (Ne.symm hne)
  · cases hstarts.phase_eq.symm.trans hphase

/-- **A caller that finds its run replaced** finds that the generation of the run is over. -/
theorem ReplacesRuns.lt_of_replaced (h : p.ReplacesRuns) (hp : p.Coherent)
    (ha : p.isAbandoned = false) {run : Nat} {now : Instant} {draw : Float}
    (hfound : (p.poll run now draw).1 = .replaced) :
    ∃ r, p.runs[run]? = some r ∧ r.generation < p.generation := by
  have hchange := change_poll ha run now draw
  have hended : (p.poll run now draw).1 = .ofOutcome none := hfound
  obtain ⟨s, hs, hphase⟩ := ended_of_poll hended
  have hlt := h.change hp hchange run s hs hphase
  rw [generation_poll] at hlt
  rcases hchange.run_cases hs with ⟨r, hr, hg, -⟩ | hstarts
  · exact ⟨r, hr, hg ▸ hlt⟩
  · cases hstarts.phase_eq.symm.trans hphase

/-! ## What a call is allowed -/

/-- **How often a call may have asked** since the generation was `first`: not at all before it has
replaced the connection, once for each generation from then on up to that of the run for which it
waits, and not yet for the present one if it is about to ask. -/
def allowance (p : Provider) (first : Nat) : CallPhase → Nat
  | .forcing _ => 0
  | .asking => p.generation - first
  | .waiting run => (p.runs[run]?).elim 0 fun r => r.generation + 1 - first
  | .done _ | .brokenDown | .gone => p.generation + 1 - first

variable {first : Nat}

theorem allowance_le (hp : p.Coherent) (call : CallPhase) :
    p.allowance first call ≤ p.generation + 1 - first := by
  cases call with
  | forcing trigger => exact Nat.zero_le _
  | asking => exact Nat.sub_le_sub_right (Nat.le_succ _) first
  | waiting run =>
    rw [allowance]
    cases hr : p.runs[run]? with
    | none => exact Nat.zero_le _
    | some r => exact Nat.sub_le_sub_right (Nat.succ_le_succ (hp.generation_le run r hr)) first
  | done | brokenDown | gone => exact Nat.le_refl _

/-- No change of the provider takes anything from a call. -/
theorem allowance_mono (hq : Change p q) (call : CallPhase) :
    p.allowance first call ≤ q.allowance first call := by
  have hg := hq.generation_le
  cases call with
  | forcing trigger => exact Nat.le_refl _
  | asking => exact Nat.sub_le_sub_right hg first
  | waiting run =>
    rw [allowance]
    cases hr : p.runs[run]? with
    | none => exact Nat.zero_le _
    | some r =>
      obtain ⟨s, hs, hsame, -⟩ := hq.run_persists hr
      rw [allowance, hs, Option.elim_some, Option.elim_some, hsame]
  | done | brokenDown | gone => exact Nat.sub_le_sub_right (Nat.succ_le_succ hg) first

theorem allowance_giveUp (hp : p.Coherent) (call : CallPhase) :
    p.allowance first call ≤ p.allowance first call.giveUp := by
  cases call with
  | done | brokenDown => exact Nat.le_refl _
  | forcing | asking | waiting | gone => exact allowance_le hp _

/-- A call that does not ask in its step is left what it has. -/
theorem allowance_advanceCall (h : p.ReplacesRuns) (hp : p.Coherent) (ha : p.isAbandoned = false)
    {call : CallPhase} (hcall : call ≠ .asking) (now : Instant) (draw : Float) :
    p.allowance first call
      ≤ (p.advanceCall call now draw).2.allowance first (p.advanceCall call now draw).1 := by
  have hchange := change_advanceCall ha call now draw
  have hkept : p.allowance first call ≤ (p.advanceCall call now draw).2.allowance first call :=
    allowance_mono hchange call
  have hcoherent := hp.change hchange
  cases call with
  | asking => exact absurd rfl hcall
  | forcing trigger => exact Nat.zero_le _
  | done | brokenDown | gone => exact hkept
  | waiting run =>
    show _ ≤ (p.poll run now draw).2.allowance first ((p.poll run now draw).1.phase run)
    cases hfound : (p.poll run now draw).1 with
    | working => exact hkept
    | outcome | breakdown => exact hkept.trans (allowance_le hcoherent _)
    | replaced =>
      obtain ⟨r, hr, hlt⟩ := h.lt_of_replaced hp ha hfound
      rw [Finding.phase, allowance, allowance, hr, Option.elim_some, generation_poll]
      exact Nat.sub_le_sub_right hlt first

/-- **A call that asks is allowed to**: it is answered, or waits for a run of the present
generation. -/
theorem allowance_current (hp : p.Coherent) (hfirst : first ≤ p.generation) (now : Instant) :
    p.allowance first .asking + 1
      ≤ (p.current now).2.allowance first (p.current now).1.phase := by
  have hchange := change_current p now
  have hroom : p.allowance first .asking + 1 = (p.current now).2.generation + 1 - first := by
    rw [generation_current, allowance]
    omega
  rw [hroom]
  cases hdemand : (p.current now).1 with
  | answer result => exact Nat.le_refl _
  | wait run =>
    obtain ⟨r, hr, hg, -⟩ := (hp.change hchange).isOpen_of_pending run (slot_of_current hdemand)
    rw [Demand.phase, allowance, hr, Option.elim_some, hg]

end Provider

/-! ## One event -/

/-- Whether the call is about to ask. -/
def CallPhase.isAsking : CallPhase → Bool
  | .asking => true
  | _ => false

namespace Traffic

variable {t : Traffic} {first caller : Nat} {event : TrafficEvent}

/-- **Whether a caller asks for the connection** in an event. -/
def asks (t : Traffic) (caller : Nat) : TrafficEvent → Bool
  | .serve (.advance i _ _) _ => i == caller && (t.service.callers[caller]?).any CallPhase.isAsking
  | _ => false

/-- How often a caller may have asked. -/
def allowance (t : Traffic) (first caller : Nat) : Nat :=
  (t.service.callers[caller]?).elim 0 (t.service.provider.allowance first)

theorem asks_iff : t.asks caller event = true ↔ t.service.callers[caller]? = some .asking
    ∧ ∃ now draw h, event = .serve (.advance caller now draw) h := by
  constructor
  · intro hasks
    unfold asks at hasks
    split at hasks
    · rename_i i now draw h
      obtain ⟨hi, hasking⟩ := Bool.and_eq_true_iff.1 hasks
      obtain rfl := beq_iff_eq.1 hi
      obtain ⟨call, hcall, hphase⟩ := (Option.any_eq_true ..).1 hasking
      cases call with
      | asking => exact ⟨hcall, now, draw, h, rfl⟩
      | _ => cases hphase
    · cases hasks
  · rintro ⟨hcall, now, draw, h, rfl⟩
    rw [asks, hcall, beq_self_eq_true]
    rfl

/-- A caller whose turn it is not stays as it is, or gives up. -/
theorem callers_of_not_advance {call : CallPhase} (hcall : t.service.callers[caller]? = some call)
    (hother : ∀ now draw h, event ≠ .serve (.advance caller now draw) h) :
    (t.perform event).service.callers[caller]? = some call
      ∨ (t.perform event).service.callers[caller]? = some call.giveUp := by
  cases event with
  | serve event h =>
    refine Service.callers_of_not_advance hcall fun now draw heq => ?_
    subst heq
    exact hother now draw h rfl
  | peek =>
    have hi : caller < t.service.callers.length := (List.getElem?_eq_some_iff.1 hcall).1
    exact .inl ((List.getElem?_append_left hi).trans hcall)
  | use event now inRuntime => exact .inl hcall

theorem allowance_eq {call : CallPhase} (hcall : t.service.callers[caller]? = some call) :
    t.allowance first caller = t.service.provider.allowance first call := by
  rw [allowance, hcall, Option.elim_some]

/-- **A caller whose turn it is** is left room for its step. -/
theorem allowance_of_advance (hsound : t.Sound) (h : t.service.provider.ReplacesRuns)
    (hfirst : first ≤ t.service.provider.generation) {call : CallPhase}
    (hcall : t.service.callers[caller]? = some call) {now : Instant} {draw : Float}
    (hsignal : (ProviderEvent.advance caller now draw).isSignal = false) :
    t.allowance first caller + (t.asks caller (.serve (.advance caller now draw) hsignal)).toNat
      ≤ (t.perform (.serve (.advance caller now draw) hsignal)).allowance first caller := by
  have hperform := Service.perform_advance hcall now draw
  have hafter : (t.perform (.serve (.advance caller now draw) hsignal)).allowance first caller
      = (t.service.provider.advanceCall call now draw).2.allowance first
        (t.service.provider.advanceCall call now draw).1 := by
    rw [← hperform.2]
    exact allowance_eq hperform.1
  rw [hafter, allowance_eq hcall]
  by_cases hasking : call = .asking
  · subst hasking
    rw [asks_iff.2 ⟨hcall, now, draw, hsignal, rfl⟩]
    exact Provider.allowance_current hsound.coherent hfirst now
  · have hsilent : t.asks caller (.serve (.advance caller now draw) hsignal) = false :=
      Bool.eq_false_iff.2 fun hasks =>
        hasking (Option.some.inj (hcall.symm.trans (asks_iff.1 hasks).1))
    rw [hsilent]
    exact Provider.allowance_advanceCall h hsound.coherent hsound.isAbandoned_eq hasking now draw

/-- A caller whose turn it is not is left what it has. -/
theorem allowance_of_not_advance (hsound : t.Sound) {call : CallPhase}
    (hcall : t.service.callers[caller]? = some call)
    (hother : ∀ now draw h, event ≠ .serve (.advance caller now draw) h) :
    t.allowance first caller ≤ (t.perform event).allowance first caller := by
  have hchange := change_perform hsound.isAbandoned_eq event
  have hkept : t.service.provider.allowance first call
      ≤ (t.perform event).service.provider.allowance first call :=
    Provider.allowance_mono hchange call
  rw [allowance_eq hcall]
  rcases callers_of_not_advance hcall hother with hnext | hnext
  · rw [allowance_eq hnext]
    exact hkept
  · rw [allowance_eq hnext]
    exact hkept.trans (Provider.allowance_giveUp (hsound.coherent.change hchange) call)

/-- **Each event leaves room for what the caller does there.** -/
theorem allowance_perform (hsound : t.Sound) (h : t.service.provider.ReplacesRuns)
    (hfirst : first ≤ t.service.provider.generation) (caller : Nat) (event : TrafficEvent) :
    t.allowance first caller + (t.asks caller event).toNat
      ≤ (t.perform event).allowance first caller := by
  cases hcall : t.service.callers[caller]? with
  | none =>
    have hsilent : t.asks caller event = false :=
      Bool.eq_false_iff.2 fun hasks => Option.some_ne_none _ ((asks_iff.1 hasks).1.symm.trans hcall)
    rw [hsilent, allowance, hcall]
    exact Nat.zero_le _
  | some call =>
    by_cases hturn : ∃ now draw h, event = .serve (.advance caller now draw) h
    · obtain ⟨now, draw, hsignal, rfl⟩ := hturn
      exact allowance_of_advance hsound h hfirst hcall hsignal
    · have hsilent : t.asks caller event = false :=
        Bool.eq_false_iff.2 fun hasks => hturn (asks_iff.1 hasks).2
      rw [hsilent]
      exact allowance_of_not_advance hsound hcall fun now draw h heq =>
        hturn ⟨now, draw, h, heq⟩

/-- Nobody may have asked more often than once for each generation. -/
theorem allowance_le (hsound : t.Sound) (first caller : Nat) :
    t.allowance first caller ≤ t.service.provider.generation + 1 - first := by
  cases hcall : t.service.callers[caller]? with
  | none =>
    rw [allowance, hcall]
    exact Nat.zero_le _
  | some call =>
    rw [allowance_eq hcall]
    exact Provider.allowance_le hsound.coherent call

/-- **A caller that asks again** finds that the generation of its run is over. -/
theorem lt_of_asking_again (hsound : t.Sound) (h : t.service.provider.ReplacesRuns) {run : Nat}
    (hcall : t.service.callers[caller]? = some (.waiting run))
    (hnext : (t.perform event).service.callers[caller]? = some .asking) :
    ∃ r, t.service.provider.runs[run]? = some r
      ∧ r.generation < t.service.provider.generation := by
  by_cases hturn : ∃ now draw h, event = .serve (.advance caller now draw) h
  · obtain ⟨now, draw, hsignal, rfl⟩ := hturn
    have hphase : (t.service.provider.poll run now draw).1.phase run = .asking :=
      Option.some.inj ((Service.perform_advance hcall now draw).1.symm.trans hnext)
    have hfound : (t.service.provider.poll run now draw).1 = .replaced := by
      cases hfinding : (t.service.provider.poll run now draw).1 with
      | replaced => rfl
      | working | outcome | breakdown =>
        rw [hfinding] at hphase
        cases hphase
    exact h.lt_of_replaced hsound.coherent hsound.isAbandoned_eq hfound
  · rcases callers_of_not_advance hcall (fun now draw h heq => hturn ⟨now, draw, h, heq⟩)
      with hsame | hsame
    · cases hsame.symm.trans hnext
    · cases hsame.symm.trans hnext

/-- A reset is accepted in no event in which a caller asks. -/
theorem accepts?_of_asks (h : t.asks caller event = true) : t.accepts? event = none := by
  obtain ⟨hcall, now, draw, hsignal, rfl⟩ := asks_iff.1 h
  rw [accepts?]
  show t.service.provider.grants? ((t.service.callers[caller]?).bind CallPhase.forced?) = none
  rw [hcall]
  show t.service.provider.grants? none = none
  rw [Provider.grants?, ite_self]

end Traffic

/-! ## Whole histories -/

section

variable (config : BackoffConfig) (events : Nat → TrafficEvent)

/-- Whether a caller asks for the connection at an instant. -/
abbrev asksAt (caller n : Nat) : Bool := (trafficHistory config events n).asks caller (events n)

/-- **How often a caller asks** from an instant on, within so many events. -/
def asksWithin (caller start length : Nat) : Nat :=
  Nat.count (fun k => asksAt config events caller (start + k) = true) length

/-- **How many resets are accepted** from an instant on, within so many events. -/
def resetsWithin (start length : Nat) : Nat :=
  Nat.count (fun k => (acceptedAt config events (start + k)).isSome = true) length

theorem replacesRuns_trafficProviderAt (n : Nat) :
    (trafficProviderAt config events n).ReplacesRuns := by
  induction n with
  | zero =>
    intro run r hr
    exact absurd (show ([] : List Run)[run]? = some r from hr) (by simp)
  | succ n ih =>
    have hsound := sound_trafficHistory config events n
    exact ih.change hsound.coherent (Traffic.change_perform hsound.isAbandoned_eq (events n))

/-- The generation has grown by the resets that were accepted. -/
theorem generation_add_resetsWithin (start length : Nat) :
    (trafficProviderAt config events start).generation + resetsWithin config events start length
      = (trafficProviderAt config events (start + length)).generation := by
  have hcount : ∀ n, (trafficProviderAt config events n).generation
      = Nat.count (fun k => (acceptedAt config events k).isSome = true) n := fun n =>
    congrArg Prod.fst (tally_trafficProviderAt config events n)
  rw [hcount, hcount, Nat.count_add, resetsWithin]

/-- **A caller asks as often as it may.** -/
theorem asksWithin_le_allowance (caller start length : Nat) :
    asksWithin config events caller start length
      ≤ (trafficHistory config events (start + length)).allowance
        (trafficProviderAt config events start).generation caller := by
  induction length with
  | zero => exact Nat.zero_le _
  | succ length ih =>
    have hstep := Traffic.allowance_perform (sound_trafficHistory config events (start + length))
      (replacesRuns_trafficProviderAt config events (start + length))
      (generation_trafficProviderAt_mono (Nat.le_add_right start length)) caller
        (events (start + length))
    refine Nat.le_trans ?_ hstep
    rw [asksWithin, Nat.count_succ, ← asksWithin]
    refine Nat.add_le_add ih ?_
    split
    · rename_i hasks
      show 1 ≤ (asksAt config events caller (start + length)).toNat
      rw [hasks]
      exact Nat.le_refl _
    · exact Nat.zero_le _

/-- **A caller asks once more than resets are accepted**, at most. -/
theorem asksWithin_le (caller start length : Nat) :
    asksWithin config events caller start length
      ≤ resetsWithin config events start length + 1 := by
  have hasks := asksWithin_le_allowance config events caller start length
  have hgrown := generation_add_resetsWithin config events start length
  have hle : asksWithin config events caller start length
      ≤ (trafficProviderAt config events (start + length)).generation + 1
        - (trafficProviderAt config events start).generation :=
    hasks.trans
      (Traffic.allowance_le (sound_trafficHistory config events (start + length)) _ caller)
  omega

variable {config events}

theorem asksWithin_lt {caller start k length : Nat} (hk : k < length)
    (h : asksAt config events caller (start + k) = true) :
    asksWithin config events caller start k < asksWithin config events caller start length :=
  Nat.count_strict_mono h hk

/-- **Between two times that a caller asks** a reset is accepted. -/
theorem exists_accepted_of_asks {caller m n : Nat} (hmn : m < n)
    (hm : asksAt config events caller m = true) (hn : asksAt config events caller n = true) :
    ∃ k, m < k ∧ k < n ∧ (acceptedAt config events k).isSome = true := by
  obtain ⟨length, rfl⟩ := Nat.exists_eq_add_of_lt hmn
  by_contra hnone
  have hfirst :
      asksWithin config events caller m 0 < asksWithin config events caller m (length + 1) :=
    asksWithin_lt (Nat.succ_pos length) hm
  have hsecond : asksWithin config events caller m (length + 1)
      < asksWithin config events caller m (length + 2) := asksWithin_lt (Nat.lt_succ_self _) hn
  have hresets : resetsWithin config events m (length + 2) = 0 := by
    refine Nat.count_of_forall_not fun k hk haccepted => ?_
    have hquiet : ∀ n, asksAt config events caller n = true → m + k ≠ n := by
      rintro n hasks rfl
      exact Option.some_ne_none _
        ((Option.some_get haccepted).trans (Traffic.accepts?_of_asks hasks))
    have hstart := hquiet m hm
    have hend := hquiet (m + length + 1) hn
    exact hnone ⟨m + k, by omega, by omega, haccepted⟩
  have hle := asksWithin_le config events caller m (length + 2)
  omega

end

/-! ## The result -/

/-- **A call asks once more than resets are accepted, at most.** In every history of a provider
whose connections are in use, a waiting caller that comes to ask again finds that the generation of
its run is over: the present one is later. From any instant on, and so from the one at which the
call begins or has replaced the connection, no caller asks more often within any number of events
than resets are accepted there, and once more. And between two times that a caller asks a reset is
accepted, so nobody asks again and again without one. -/
theorem calls_ask_by_resets (config : BackoffConfig) (events : Nat → TrafficEvent) :
    (∀ n caller run : Nat, (trafficHistory config events n).service.callers[caller]?
      = some (.waiting run) →
        (trafficHistory config events (n + 1)).service.callers[caller]? = some .asking →
      ∃ r, (trafficProviderAt config events n).runs[run]? = some r
        ∧ r.generation < (trafficProviderAt config events n).generation)
    ∧ (∀ caller start length,
      asksWithin config events caller start length ≤ resetsWithin config events start length + 1)
    ∧ ∀ caller m n, m < n → asksAt config events caller m = true →
      asksAt config events caller n = true →
      ∃ k, m < k ∧ k < n ∧ (acceptedAt config events k).isSome = true :=
  ⟨fun n _ _ => Traffic.lt_of_asking_again (sound_trafficHistory config events n)
      (replacesRuns_trafficProviderAt config events n),
    asksWithin_le config events, fun _ _ _ => exists_accepted_of_asks⟩

end ClusterLink
