import ClusterLink.Proofs.Resolver.Turns

/-!
# What has come before in an attempt

An attempt begins with the nodes that are cached, in some order, and asks them one after the other.
So a resolution that has no node left to ask has asked all of them in vain
(`DiscoveryRun.failsAttempt_of_ready`), and one that has come to a later attempt has failed in all
the attempts before (`DiscoveryRun.failsAttempt_of_lt`).
-/

namespace ClusterLink

namespace DiscoveryRun

/-- **An attempt begins** with these nodes. -/
def Begins (x : DiscoveryRun) (n id attempt : Nat) (contacts : List Contact) : Prop :=
  ∃ phase, x.Turns n id phase (.ready attempt contacts [])

/-- **A node is asked in vain**: what comes of it is no member table. -/
def AsksInVain (x : DiscoveryRun) (n id attempt : Nat) (contact : Contact) : Prop :=
  ∃ left failures outcome, x.Turns n id (.asking attempt contact left failures)
      (.ready attempt left (failures ++ [Resolver.complaint contact.1 outcome]))
    ∧ (x.events n).cause = .answer outcome ∧ ∀ members, outcome ≠ .success members

/-- Some of the nodes that the attempt has begun with have been asked in vain, and the others are
left. -/
def HasTried (x : DiscoveryRun) (n id attempt : Nat) (tried left : List Contact) : Prop :=
  ∃ k < n, x.Begins k id attempt (tried ++ left)
    ∧ ∀ contact ∈ tried, ∃ j, k < j ∧ j < n ∧ x.AsksInVain j id attempt contact

/-- **The attempt has failed**: every node that it has begun with has been asked in vain. -/
def FailsAttempt (x : DiscoveryRun) (n id attempt : Nat) : Prop :=
  ∃ contacts, x.HasTried n id attempt contacts []

variable {x : DiscoveryRun} {m n id attempt : Nat} {left : List Contact} {failures : List String}

theorem HasTried.mono {tried : List Contact} (h : x.HasTried m id attempt tried left)
    (hmn : m ≤ n) : x.HasTried n id attempt tried left := by
  obtain ⟨k, hk, hbegins, htried⟩ := h
  refine ⟨k, Nat.lt_of_lt_of_le hk hmn, hbegins, fun contact hcontact => ?_⟩
  obtain ⟨j, hkj, hj, hvain⟩ := htried contact hcontact
  exact ⟨j, hkj, Nat.lt_of_lt_of_le hj hmn, hvain⟩

theorem FailsAttempt.mono (h : x.FailsAttempt m id attempt) (hmn : m ≤ n) :
    x.FailsAttempt n id attempt := by
  obtain ⟨contacts, htried⟩ := h
  exact ⟨contacts, htried.mono hmn⟩

/-- One more node has been asked in vain. -/
theorem HasTried.concat {tried : List Contact} {asked : Contact}
    (h : x.HasTried m id attempt tried (asked :: left)) (hmn : m ≤ n)
    (hvain : x.AsksInVain n id attempt asked) :
    x.HasTried (n + 1) id attempt (tried ++ [asked]) left := by
  obtain ⟨k, hk, hbegins, htried⟩ := h.mono hmn
  refine ⟨k, Nat.lt_succ_of_lt hk, by rwa [List.append_assoc], fun contact hcontact => ?_⟩
  rcases List.mem_append.1 hcontact with hcontact | hcontact
  · obtain ⟨j, hkj, hj, hvain⟩ := htried contact hcontact
    exact ⟨j, hkj, Nat.lt_succ_of_lt hj, hvain⟩
  · cases List.mem_singleton.1 hcontact
    exact ⟨n, hk, Nat.lt_succ_self n, hvain⟩

/-- An attempt begins after nothing, or after a pause. -/
theorem Begins.phase?_eq {contacts : List Contact} (h : x.Begins n id attempt contacts) :
    (x.state n).resolver.phase? id = some .waiting
      ∨ ∃ before delay, (x.state n).resolver.phase? id = some (.pausing before delay) := by
  obtain ⟨phase, hturns⟩ := h
  have hphase := hturns.phase?_eq
  have hturn := hturns.turn
  generalize hready : ResolutionPhase.ready attempt contacts [] = phase' at hturn
  generalize (x.state (n + 1)).cache = cache' at hturn
  cases hturn with
  | begins => exact .inl hphase
  | resumes before delay => exact .inr ⟨before, delay, hphase⟩
  | misses => simp at hready
  | _ => cases hready

/-- A resolution that waits for an answer was about to ask that node before. -/
theorem exists_ready_of_asking {asked : Contact}
    (h : (x.state n).resolver.phase? id = some (.asking attempt asked left failures)) :
    ∃ k < n, (x.state k).resolver.phase? id = some (.ready attempt (asked :: left) failures) := by
  rcases exists_turn h with h | ⟨k, hk, before, hturns⟩
  · cases h
  · have hphase := hturns.phase?_eq
    have hturn := hturns.turn
    generalize (x.state (k + 1)).cache = cache' at hturn
    cases hturn with
    | asks => exact ⟨k, hk, hphase⟩

/-- **The nodes that are not left have been asked in vain.** -/
theorem exists_hasTried
    (h : (x.state n).resolver.phase? id = some (.ready attempt left failures)) :
    ∃ tried, x.HasTried n id attempt tried left := by
  induction n using Nat.strongRecOn generalizing left failures with
  | ind n ih =>
    rcases exists_turn h with h | ⟨k, hk, before, hturns⟩
    · cases h
    · have hphase := hturns.phase?_eq
      have hbegins : failures = [] → ∃ tried, x.HasTried n id attempt tried left := by
        rintro rfl
        exact ⟨[], k, hk, ⟨before, hturns⟩, nofun⟩
      have hturn := hturns.turn
      generalize (x.state (k + 1)).cache = cache' at hturn
      cases hturn with
      | begins | resumes => exact hbegins rfl
      | misses attempt asked left failures outcome hc hcause hmisses =>
        -- the node was asked some time before it has failed
        obtain ⟨j, hj, hready⟩ := exists_ready_of_asking hphase
        obtain ⟨tried, htried⟩ := ih j (Nat.lt_trans hj hk) hready
        exact ⟨tried ++ [asked], (htried.concat (Nat.le_of_lt hj)
          ⟨left, failures, outcome, hturns, hcause, hmisses⟩).mono hk⟩

/-- **A resolution that has no node left has failed in its attempt.** -/
theorem failsAttempt_of_ready
    (h : (x.state n).resolver.phase? id = some (.ready attempt [] failures)) :
    x.FailsAttempt n id attempt :=
  exists_hasTried h

/-- A resolution that pauses has failed in the attempt before the pause. -/
theorem exists_ready_of_pausing {delay : Duration}
    (h : (x.state n).resolver.phase? id = some (.pausing attempt delay)) :
    ∃ k < n, ∃ failures,
      (x.state k).resolver.phase? id = some (.ready attempt [] failures) := by
  rcases exists_turn h with h | ⟨k, hk, before, hturns⟩
  · cases h
  · have hphase := hturns.phase?_eq
    have hturn := hturns.turn
    generalize (x.state (k + 1)).cache = cache' at hturn
    cases hturn with
    | reseeds attempt failures => exact ⟨k, hk, failures, hphase⟩

/-- **All attempts before have failed.** -/
theorem failsAttempt_of_lt {a : Nat}
    (h : (x.state n).resolver.phase? id = some (.ready attempt left failures)) (ha : 1 ≤ a)
    (hlt : a < attempt) : x.FailsAttempt n id a := by
  induction n using Nat.strongRecOn generalizing attempt left failures with
  | ind n ih =>
    rcases exists_turn h with h | ⟨k, hk, before, hturns⟩
    · cases h
    · have hphase := hturns.phase?_eq
      have hturn := hturns.turn
      generalize (x.state (k + 1)).cache = cache' at hturn
      cases hturn with
      | begins => omega
      | resumes attempt delay =>
        obtain ⟨j, hj, failures', hready⟩ := exists_ready_of_pausing hphase
        have hjn : j < n := Nat.lt_trans hj hk
        rcases Nat.lt_or_eq_of_le (Nat.le_of_lt_succ hlt) with hlt | rfl
        · exact (ih j hjn hready hlt).mono (Nat.le_of_lt hjn)
        · exact (failsAttempt_of_ready hready).mono (Nat.le_of_lt hjn)
      | misses attempt asked left failures =>
        obtain ⟨j, hj, hready⟩ := exists_ready_of_asking hphase
        have hjn : j < n := Nat.lt_trans hj hk
        exact (ih j hjn hready hlt).mono (Nat.le_of_lt hjn)

end DiscoveryRun

end ClusterLink
