import ClusterLink.Proofs.Connection.Replacement
import ClusterLink.Proofs.Resolver.Attempts
import ClusterLink.Proofs.Resolver.Sharing

/-!
# How calls for a refresh fail

As long as no resolution breaks down, a call for a refresh fails because it or its resolution was
cancelled, because the resolver or the cache was disposed of, because every attempt has failed, or
because the channel factory refuses a seed or a member that was reported
(`DiscoveryRun.EndsIn`). The last of these errors is whatever the factory says. So the calls fail in
the documented ways exactly if the factory refuses nothing, or only by saying that something was
cancelled or disposed of.
-/

namespace ClusterLink

/-- The factory refuses nothing but by saying that something was cancelled or disposed of. -/
def ChannelFactory.IsDiscreet (f : ChannelFactory) : Prop :=
  ∀ error, f.MayRefuse error → error = .cancelled ∨ ∃ component, error = .disposed component

namespace Cache

/-- A cache of one endpoint, whose factory has been asked for so many channels. -/
def single (f : ChannelFactory) (requests : Nat) (e : EndPoint) : Cache where
  channels := { factory := f, requests := requests }
  entries := [(e, ⟨0, e, f.tls⟩)]

/-- An endpoint that is not cached and that the factory refuses is refused by the cache. -/
theorem reconcile_of_refusal {c : Cache} {e : EndPoint} {error : Error}
    (hd : c.isDisposed = false) (hnone : c.find? e = none)
    (hr : c.channels.factory.refusal? c.channels.requests e = some error) :
    (c.reconcile [e]).1 = .error error := by
  have hwanted : EndPoint.distinct [e] = [e] := rfl
  have hmissing : [e].filter (!c.contains ·) = [e] := by
    rw [List.filter_cons_of_pos (by rw [contains, hnone]; rfl)]
    rfl
  have hcreate : createAll c.channels [e]
      = (.error error, { c.channels with requests := c.channels.requests + 1 }) := by
    rw [createAll, Channels.create, hr]
  rw [reconcile, reconcileIn, hd, if_neg Bool.false_ne_true, hwanted, hmissing, hcreate]

end Cache

namespace Resolver

/-- **Where a call has its result from**: it was cancelled, the resolver was shut down, or the
result is that of a resolution. -/
theorem result?_of_advanceCall {r r' : Resolver} {call call' : RefreshCall} {isCancelled : Bool}
    {result : Except Error Resolution} (hcall : r.advanceCall call isCancelled = some (call', r'))
    (hresult : call'.result? = some result) :
    call.result? = some result ∨ result = .error .cancelled ∨ result = .error disposedError
      ∨ ∃ id, r.result? id = some result := by
  cases callStep_of_advanceCall hcall with
  | entered | passed | joined => cases hresult
  | refused | gaveUp =>
    cases hresult
    exact .inr (.inl rfl)
  | disposed =>
    cases hresult
    exact .inr (.inr (.inl rfl))
  | heard id result hc hr =>
    cases hresult
    exact .inr (.inr (.inr ⟨id, hr⟩))
  | left id result => exact .inl hresult

end Resolver

namespace DiscoveryRun

/-! ## How a resolution ends -/

/-- No resolution breaks down. -/
def IsSteady (x : DiscoveryRun) : Prop := ∀ n id, x.events n ≠ .breakDown id

/-- The endpoint is a seed, or a member that a node has reported. -/
def IsKnown (x : DiscoveryRun) (n : Nat) (e : EndPoint) : Prop :=
  e ∈ x.seeds ∨ ∃ k < n, ∃ members, (x.events k).cause = .answer (.success members)
    ∧ e ∈ members.map (·.endpoint)

/-- **What a resolution may end in.** -/
inductive EndsIn (x : DiscoveryRun) (n id : Nat) : Except Error Resolution → Prop where
  | found (resolution : Resolution) : EndsIn x n id (.ok resolution)
  | cancelled (hc : (x.state n).resolver.isCancelled id = true) :
      EndsIn x n id (.error .cancelled)
  | disposed : EndsIn x n id (.error Cache.disposedError)
  | exhausted (attempts : Nat) (failures : List String) (hle : x.settings.maxAttempts ≤ attempts)
      (hfails : ∀ a, 1 ≤ a → a ≤ attempts → x.FailsAttempt n id a) :
      EndsIn x n id (.error (Resolver.exhausted attempts failures))
  | refused (e : EndPoint) (error : Error) (hknown : x.IsKnown n e)
      (hrefuses : x.cache.channels.factory.Refuses e error) : EndsIn x n id (.error error)

variable {x : DiscoveryRun} {n id : Nat} {result : Except Error Resolution}

/-- A cache that refuses was disposed of, or the factory refuses an endpoint that is known. -/
theorem endsIn_of_reconcile {k : Nat} {wanted : List EndPoint} {error : Error} {cache : Cache}
    (h : (x.state k).cache.reconcile wanted = (.error error, cache))
    (hknown : ∀ e ∈ wanted, x.IsKnown n e) : x.EndsIn n id (.error error) := by
  rcases Cache.refuses_of_reconcile h with rfl | ⟨e, he, hrefuses⟩
  · exact .disposed
  · exact .refused e error (hknown e he) (x.factory_eq k ▸ hrefuses)

/-- **Every resolution that has ended** ends in one of these ways. -/
theorem endsIn_of_ended (h : (x.state n).resolver.phase? id = some (.ended result)) :
    x.EndsIn n id result := by
  rcases exists_turn h with h | ⟨k, hk, before, hturns⟩
  · cases h
  · have hphase := hturns.phase?_eq
    have hturn := hturns.turn
    obtain ⟨hseeds, hsettings⟩ := seeds_and_settings_eq x k
    rw [hseeds, hsettings] at hturn
    generalize (x.state (k + 1)).cache = cache' at hturn
    cases hturn with
    | shutOut => exact .disposed
    | heeds phase hc => exact .cancelled ((x.grows (Nat.le_of_lt hk)).isCancelled hc)
    | finds _ _ _ resolution => exact .found resolution
    | refusesMembers _ _ _ _ members error _ _ hcause hcache =>
      exact endsIn_of_reconcile hcache fun e he =>
        .inr ⟨k, hk, members, hcause, EndPoint.mem_of_mem_distinct he⟩
    | exhausts attempt failures _ hle =>
      refine .exhausted attempt failures hle fun a ha hle => ?_
      rcases Nat.lt_or_eq_of_le hle with hlt | rfl
      · exact (failsAttempt_of_lt hphase ha hlt).mono (Nat.le_of_lt hk)
      · exact (failsAttempt_of_ready hphase).mono (Nat.le_of_lt hk)
    | refusesSeeds _ _ error _ hcache => exact endsIn_of_reconcile hcache fun e he => .inl he

/-- A resolution breaks down only if it is made to. -/
theorem not_brokenDown (hsteady : x.IsSteady) :
    (x.state n).resolver.phase? id ≠ some .brokenDown := by
  intro h
  rcases exists_turn h with h | ⟨k, hk, before, hturns⟩
  · cases h
  · have hworks := hturns.worksOn?_eq
    have hturn := hturns.turn
    generalize (x.state (k + 1)).cache = cache' at hturn
    cases hturn with
    | breaks _ _ _ _ _ hcause =>
      cases hevent : x.events k with
      | breakDown id' => exact hsteady k id' hevent
      | _ => rw [hevent] at hcause; cases hcause

theorem endsIn_of_result? (hsteady : x.IsSteady)
    (h : (x.state n).resolver.result? id = some result) : x.EndsIn n id result := by
  unfold Resolver.result? at h
  split at h
  · rename_i hphase
    cases h
    exact endsIn_of_ended hphase
  · rename_i hphase
    exact absurd hphase (not_brokenDown hsteady)
  · cases h

/-! ## What the calls are told -/

/-- **A call has this result**, or the refresh in the background has. -/
def Tells (x : DiscoveryRun) (n : Nat) (result : Except Error Resolution) : Prop :=
  (∃ (i : Nat) (q : Request), (x.state n).requests[i]? = some q ∧ q.call.result? = some result)
    ∨ ∃ call due, (x.state n).resolver.refresh = .refreshing call due
      ∧ call.result? = some result

/-- A call that is told its own end, or the result of a resolution. -/
def IsOwnOrShared (x : DiscoveryRun) (n : Nat) (result : Except Error Resolution) : Prop :=
  result = .error .cancelled ∨ result = .error Resolver.disposedError
    ∨ ∃ id, (x.state n).resolver.result? id = some result

/-- The result of a resolution stays what it is. -/
theorem IsOwnOrShared.succ (h : x.IsOwnOrShared n result) : x.IsOwnOrShared (n + 1) result :=
  h.imp_right (Or.imp_right fun ⟨id, hr⟩ => ⟨id, (x.grows (Nat.le_succ n)).result?_eq hr⟩)

theorem isOwnOrShared_of_request {i : Nat} {q : Request}
    (hq : (x.state n).requests[i]? = some q) (hresult : q.call.result? = some result) :
    x.IsOwnOrShared n result := by
  induction n generalizing q with
  | zero => cases hq
  | succ n ih =>
    refine IsOwnOrShared.succ ?_
    rcases (Discovery.change_perform _ _).request_cases hq with
      ⟨-, rfl⟩ | ⟨q₀, hq₀, rfl | rfl | rfl | ⟨call, -, rfl, hcall⟩⟩
    · cases hresult
    · exact ih hq₀ hresult
    · exact ih hq₀ hresult
    · refine ih hq₀ ?_
      cases hc : q₀.call <;> simp_all [RefreshCall.drop, RefreshCall.result?]
    · rcases Resolver.result?_of_advanceCall hcall hresult with h | h
      · exact ih hq₀ h
      · exact h

theorem isOwnOrShared_of_refresh {call : RefreshCall} {due : Instant}
    (hr : (x.state n).resolver.refresh = .refreshing call due)
    (hresult : call.result? = some result) : x.IsOwnOrShared n result := by
  induction n generalizing call due with
  | zero => cases hr
  | succ n ih =>
    refine IsOwnOrShared.succ ?_
    rcases (Discovery.change_perform _ _).refresh_cases hr with
      hr | rfl | ⟨old, due', r, hr, hcall⟩
    · exact ih hr hresult
    · cases hresult
    · rcases Resolver.result?_of_advanceCall hcall hresult with h | h
      · exact ih hr h
      · exact h

/-- **Calls are told nothing but their own end and the results of resolutions.** -/
theorem Tells.isOwnOrShared (h : x.Tells n result) : x.IsOwnOrShared n result := by
  rcases h with ⟨i, q, hq, hresult⟩ | ⟨call, due, hr, hresult⟩
  · exact isOwnOrShared_of_request hq hresult
  · exact isOwnOrShared_of_refresh hr hresult

/-! ## The documented results -/

/-- **The results that a call for a refresh is documented to have.** It says that no node is
available only if every attempt of the resolution has failed. -/
inductive IsDocumented (x : DiscoveryRun) (n : Nat) : Except Error Resolution → Prop where
  | found (resolution : Resolution) : IsDocumented x n (.ok resolution)
  | cancelled : IsDocumented x n (.error .cancelled)
  | disposed (component : Component) : IsDocumented x n (.error (.disposed component))
  | unavailable (message : String) (id : Nat)
      (hresult : (x.state n).resolver.result? id = some (.error (.unavailable message)))
      (hfails : ∀ a, 1 ≤ a → a ≤ x.settings.maxAttempts → x.FailsAttempt n id a) :
      IsDocumented x n (.error (.unavailable message))

/-- A result that a resolution may end in is documented if the factory is discreet. -/
theorem EndsIn.isDocumented (h : x.EndsIn n id result)
    (hresult : (x.state n).resolver.result? id = some result)
    (hfactory : x.cache.channels.factory.IsDiscreet) : x.IsDocumented n result := by
  cases h with
  | found resolution => exact .found resolution
  | cancelled => exact .cancelled
  | disposed => exact .disposed .connectionCache
  | exhausted attempts failures hle hfails =>
    exact .unavailable _ id hresult fun a ha hle' => hfails a ha (Nat.le_trans hle' hle)
  | refused e error hknown hrefuses =>
    rcases hfactory error hrefuses.mayRefuse with rfl | ⟨component, rfl⟩
    · exact .cancelled
    · exact .disposed component

/-! ## A factory that is not discreet -/

/-- **One answer**: a cached node is asked, and answers with these members. -/
def oneAnswer (cache : Cache) (members : List Member) : DiscoveryRun where
  seeds := cache.endpoints
  settings := {}
  cache := cache
  events
    | 1 | 2 | 3 | 7 => .advance 0
    | 4 | 5 => .step 0 false (fun left => left) 0 0.5
    | 6 => .answer 0 (.success members) 0
    | _ => .come

theorem isSteady_oneAnswer (cache : Cache) (members : List Member) :
    (oneAnswer cache members).IsSteady := by
  intro n id h
  simp only [oneAnswer] at h
  split at h <;> cases h

/-- No node is asked in vain. -/
theorem not_asksInVain_oneAnswer (cache : Cache) (members : List Member) (n id attempt : Nat)
    (contact : Contact) : ¬(oneAnswer cache members).AsksInVain n id attempt contact := by
  rintro ⟨left, failures, outcome, -, hcause, hmisses⟩
  have houtcome : outcome = .success members := by
    simp only [oneAnswer] at hcause
    split at hcause <;> cases hcause
    rfl
  exact hmisses members houtcome

variable {f : ChannelFactory} {requests : Nat} {e : EndPoint} {members : List Member}

/-- The first resolution of `oneAnswer`, which its only caller waits for, in the given phase. -/
def underWay (cache : Cache) (phase : ResolutionPhase) : Discovery where
  resolver := {
    seeds := cache.endpoints
    settings := {}
    inFlight := some ⟨0, 1⟩
    tasks := [{ backoff := .start {}, phase := phase }] }
  cache := cache
  requests := [⟨.waiting 0, false⟩]

/-- The node has been found in the cache. -/
theorem state_five_oneAnswer : (oneAnswer (.single f requests e) members).state 5
    = underWay (.single f requests e) (.ready 1 [(e, ⟨0, e, f.tls⟩)] []) := rfl

/-- The node has been asked. -/
theorem state_six_oneAnswer : (oneAnswer (.single f requests e) members).state 6
    = underWay (.single f requests e) (.asking 1 (e, ⟨0, e, f.tls⟩) [] []) := by
  rw [state, state_five_oneAnswer]
  rfl

/-- No attempt begins without a node to ask. -/
theorem not_begins_oneAnswer (attempt : Nat) :
    ¬(oneAnswer (.single f requests e) members).Begins n id attempt [] := by
  intro hbegins
  have hbefore := hbegins.phase?_eq
  obtain ⟨before, hturns⟩ := hbegins
  have hworks : ((oneAnswer (.single f requests e) members).events n).worksOn? = some id :=
    hturns.worksOn?_eq
  have hafter := hturns.records.phase?_eq
  simp only [oneAnswer] at hworks
  split at hworks <;> cases hworks
  · rw [state_five_oneAnswer] at hafter
    cases hafter
  · rw [state_five_oneAnswer] at hbefore
    rcases hbefore with h | ⟨a, delay, h⟩ <;> cases h
  · rw [state_six_oneAnswer] at hbefore
    rcases hbefore with h | ⟨a, delay, h⟩ <;> cases h

/-- No attempt fails. -/
theorem not_failsAttempt_oneAnswer (attempt : Nat) :
    ¬(oneAnswer (.single f requests e) members).FailsAttempt n id attempt := by
  rintro ⟨contacts, k, hk, hbegins, htried⟩
  cases contacts with
  | nil => exact not_begins_oneAnswer attempt hbegins
  | cons contact contacts =>
    obtain ⟨j, -, -, hvain⟩ := htried contact (List.mem_cons_self ..)
    exact not_asksInVain_oneAnswer _ _ _ _ _ _ hvain

/-- A resolution that waits for an answer ends in the error with which the cache refuses the members
that it gets. -/
theorem phase?_of_refusal {k : Nat} {now : Instant} {attempt : Nat} {asked : Contact}
    {left : List Contact} {failures : List String} {error : Error}
    (hevent : x.events k = .answer id (.success members) now)
    (hphase : (x.state k).resolver.phase? id = some (.asking attempt asked left failures))
    (hc : (x.state k).resolver.isCancelled id = false)
    (h : ((x.state k).cache.reconcile
      (EndPoint.distinct (members.map (·.endpoint)))).1 = .error error) :
    (x.state (k + 1)).resolver.phase? id = some (.ended (.error error)) := by
  have hanswer : (x.state (k + 1)).resolver = ((x.state k).resolver.takeIn (x.state k).cache id
      (.success members) now).1 := by rw [state, hevent]; rfl
  have hlogged : ∀ log, Resolver.phase? { (x.state k).resolver with log := log } id
      = some (.asking attempt asked left failures) := fun _ => hphase
  rw [hanswer, Resolver.takeIn, hphase]
  dsimp only
  rw [hc, if_neg Bool.false_ne_true, Resolver.succeed]
  split
  · rename_i error' cache' hcache
    rw [hcache] at h
    cases h
    exact (Resolver.Records.finish (hlogged _) ..).phase?_eq
  · rename_i cache' hcache
    rw [hcache] at h
    cases h

/-- **The caller is told with which error the cache refuses the members.** -/
theorem tells_oneAnswer {error : Error}
    (h : ((Cache.single f requests e).reconcile
      (EndPoint.distinct (members.map (·.endpoint)))).1 = .error error) :
    (oneAnswer (.single f requests e) members).Tells 8 (.error error) := by
  have hcache : ((oneAnswer (.single f requests e) members).state 6).cache
      = .single f requests e := by rw [state_six_oneAnswer]; rfl
  have hphase : ((oneAnswer (.single f requests e) members).state 6).resolver.phase? 0
      = some (.asking 1 (e, ⟨0, e, f.tls⟩) [] []) := by rw [state_six_oneAnswer]; rfl
  have hc : ((oneAnswer (.single f requests e) members).state 6).resolver.isCancelled 0
      = false := by rw [state_six_oneAnswer]; rfl
  have hended : ((oneAnswer (.single f requests e) members).state 7).resolver.phase? 0
      = some (.ended (.error error)) :=
    phase?_of_refusal (k := 6) rfl hphase hc (by rw [hcache]; exact h)
  have hrequest : ((oneAnswer (.single f requests e) members).state 7).requests[0]?
      = some ⟨.waiting 0, false⟩ := by rw [state, state_six_oneAnswer]; rfl
  have hcall : ((oneAnswer (.single f requests e) members).state 7).resolver.advanceCall
      (.waiting 0) false = some (.leaving 0 (.error error),
        ((oneAnswer (.single f requests e) members).state 7).resolver) := by
    rw [Resolver.advanceCall, if_neg Bool.false_ne_true, Resolver.result?, hended]
    rfl
  exact .inl ⟨0, _, requests_of_advance hrequest rfl hcall, rfl⟩

/-- A factory whose calls are all told what is documented is discreet. -/
theorem isDiscreet_of_isDocumented
    (h : ∀ x : DiscoveryRun, x.cache.channels.factory = f → x.IsSteady → ∀ n result,
      x.Tells n result → x.IsDocumented n result) : f.IsDiscreet := by
  rintro error ⟨request, e, hrefusal⟩
  -- a node beside `e` is cached, and reports `e`
  have hne : EndPoint.same ⟨e.host, e.port + 1⟩ e = false := by
    refine Bool.eq_false_iff.2 fun hsame => ?_
    have hport : e.port + 1 = e.port := congrArg Prod.snd (EndPoint.same_iff.1 hsame)
    simp at hport
  have hrefused : ((Cache.single f request ⟨e.host, e.port + 1⟩).reconcile [e]).1
      = .error error :=
    Cache.reconcile_of_refusal rfl (by rw [Cache.find?, Cache.single, List.find?_cons, hne]; rfl)
      hrefusal
  have htold :=
    h (oneAnswer (.single f request ⟨e.host, e.port + 1⟩) [⟨"", e, .follower, true⟩])
      rfl (isSteady_oneAnswer _ _) 8 (.error error) (tells_oneAnswer hrefused)
  cases htold with
  | cancelled => exact .inl rfl
  | disposed component => exact .inr ⟨component, rfl⟩
  | unavailable message id hresult hfails =>
    exact absurd (hfails 1 (Nat.le_refl 1) (Nat.le_of_ble_eq_true rfl))
      (not_failsAttempt_oneAnswer 1)

/-! ## The result -/

/-- **Calls for a refresh fail for known reasons only**, as long as no resolution breaks down: the
call was cancelled, the resolver was shut down, or the call shares the end of a resolution. That one
was cancelled, or has found the cache disposed of, or has failed in every attempt, or the channel
factory has refused a seed or a member that a node had reported, and then the error is the one that
the factory gives.

So whatever nodes report, whoever uses the cache, and at whatever moment calls are cancelled or the
resolver is shut down, calls are told only what is documented exactly if the factory refuses
nothing, or only by saying that something was cancelled or disposed of. -/
theorem refresh_fails_as_documented (f : ChannelFactory) :
    (∀ x : DiscoveryRun, x.cache.channels.factory = f → x.IsSteady → ∀ n result,
      x.Tells n result → result = .error .cancelled ∨ result = .error Resolver.disposedError
        ∨ ∃ id, (x.state n).resolver.result? id = some result ∧ x.EndsIn n id result)
    ∧ ((∀ x : DiscoveryRun, x.cache.channels.factory = f → x.IsSteady → ∀ n result,
        x.Tells n result → x.IsDocumented n result) ↔ f.IsDiscreet) := by
  have hreasons : ∀ x : DiscoveryRun, x.cache.channels.factory = f → x.IsSteady →
      ∀ n result, x.Tells n result → result = .error .cancelled
        ∨ result = .error Resolver.disposedError
        ∨ ∃ id, (x.state n).resolver.result? id = some result ∧ x.EndsIn n id result :=
    fun x _ hsteady n result htells => htells.isOwnOrShared.imp_right (Or.imp_right
      fun ⟨id, hresult⟩ => ⟨id, hresult, endsIn_of_result? hsteady hresult⟩)
  refine ⟨hreasons, isDiscreet_of_isDocumented, ?_⟩
  rintro hfactory x rfl hsteady n result htells
  rcases hreasons x rfl hsteady n result htells with rfl | rfl | ⟨id, hresult, hends⟩
  · exact .cancelled
  · exact .disposed .gossipResolver
  · exact hends.isDocumented hresult hfactory

/-- A healthy node reports itself and another member, for which no channel can be made. The caller
is told what is wrong with that one. -/
theorem tells_config_of_refused_member :
    (oneAnswer (.single (.refusing ["b"]) 1 ⟨"a", 1⟩)
      [⟨"one", ⟨"a", 1⟩, .leader, true⟩, ⟨"two", ⟨"b", 2⟩, .follower, true⟩]).Tells
        8 (.error (.config "channel refused")) :=
  tells_oneAnswer rfl

end DiscoveryRun

end ClusterLink
