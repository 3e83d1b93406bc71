import ClusterLink.Proofs.Client.Hints
import ClusterLink.Proofs.Client.Rediscovery

/-!
# Runs connect by preference

What a run comes to that looks for a node anew (`ClientRun.runs_connect_by_preference`). Whatever
rows the member tables have that the nodes send, a run that connects is connected to a node that its
table offers and to which none is preferred, and a table that offers no node makes it fail. What
nodes tell about their capabilities never makes a run fail.

Two things stand out. The members of a table are put into the cache before anybody looks at their
roles, so one for which no channel can be made spoils a table that would have led nowhere anyway,
and the run fails by another error (`ClientRun.runs_fail_otherwise`). And a client that is ready to
wait for capabilities longer than any call can never connects.
-/

namespace ClusterLink.ClientRun

variable {x : ClientRun} {tables : Nat → Wire.MemberTable} {k n run : Nat} {node : EndPoint}
  {handle : Handle}

/-- The connection that a run has taken leads to the node that it has chosen. -/
theorem Takes.same (h : x.Takes k run node handle) : handle.endpoint.same node = true :=
  (x.genuine_state k).same_of_getOrCreate h.getOrCreate_eq

/-- A client of a single node has no resolver, and none of its runs asks for the members. -/
theorem resolver_of_single (htopology : x.config.topology = .single node) (n : Nat) :
    (x.state n).client.site.resolver = none := by
  induction n with
  | zero =>
    cases hr : (x.state 0).client.site.resolver with
    | none => rfl
    | some r =>
      obtain ⟨seeds, hcluster, -⟩ := x.resolver_client hr
      cases htopology.symm.trans hcluster
  | succ n ih =>
    have hsame := (x.change_site n).isSome_resolver
    rw [ih, Option.isSome_none] at hsame
    exact Option.isSome_eq_false_iff.1 hsame |> Option.isNone_iff_eq_none.1

/-- **A run that connects** has chosen a node and has taken the connection to it from the cache. -/
theorem reaches_of_ended (hx : x.Hears tables) {link : Link}
    (h : (x.state n).client.attempt run = .ended (.ok link)) :
    x.Reaches tables n run link.handle := by
  have htraced := traced_state hx n run
  rw [h] at htraced
  exact htraced

/-- **Runs connect by preference.** Suppose that the member tables come from remote nodes. Of each
client and each of its runs the following holds at all times.

* A run of a client of a cluster that looks for a node anew and connects has heard of a member
  table, and is connected to a node that this table offers, to which no other node that it offers is
  preferred.
* A run that waits for a resolution when a node answers that with a table which offers no node
  fails, with the error that no node is available, and asks for no channel from then on. The error
  is another one only if the resolution was cancelled, the cache was disposed of, or the channel
  factory refuses one of the members that the table describes.
* A table that describes no member at all offers no node, and a resolution that is answered with it
  goes on to the nodes that are left. A run that waits for a resolution which ends in an error fails
  by that error, and asks for no channel from then on. If there was nobody left to ask, that is the
  error that no node is available, unless the cache does not take the seeds back.
* A client of a single node has no resolver, no run of it asks for the members, and a run that looks
  for a node anew and connects is connected to that node.
* Every run that connects has taken its connection from the cache, which held it for the node from
  that step on, and before if it held one. From then on the run keeps it: it ends well with that
  connection and with what the node has told about its capabilities, or with none of them, unless it
  is told to stop, or breaks down since the client waits too long.
* Whatever comes of the question about the capabilities ends the run well. But no run of a client
  that waits too long ever connects. -/
theorem runs_connect_by_preference (x : ClientRun) (tables : Nat → Wire.MemberTable)
    (hx : x.Hears tables) :
    (∀ seeds n run link, x.config.topology = .cluster seeds →
      x.IsStartedBy n run .rediscover → (x.state n).client.attempt run = .ended (.ok link) →
      ∃ k node, x.HasHeard n run k (tables k)
        ∧ (tables k).IsBest x.config.selector.preference node
        ∧ link.handle.endpoint.same node = true)
    ∧ (∀ k id t result run, x.Settles k id t result → (∀ node, ¬t.Offers node) →
      (x.state k).client.attempt run = .resolving (.waiting id) →
      ∃ error, x.FailsOver k id t error ∧ x.Fails (k + 1) run error)
    ∧ (∀ k id (t : Wire.MemberTable) now hdials attempt asked left failures, t.usable = [] →
      x.events k = .discover (.answer id (.ofAnswer (.ok t.usable)) now) hdials →
      (x.state k).resolution? id = some (.asking attempt asked left failures) →
      (∀ node, ¬t.Offers node) ∧ x.GoesOn k id attempt asked left failures)
    ∧ (∀ k id before error run, (x.state k).resolution? id = some before →
      (x.state (k + 1)).resolution? id = some (.ended (.error error)) →
      before ≠ .ended (.error error) →
      (x.state k).client.attempt run = .resolving (.waiting id) → x.Fails (k + 1) run error
      ∧ ∀ attempt failures, before = .ready attempt [] failures →
        x.ComesToNothing k attempt failures error)
    ∧ (∀ node, x.config.topology = .single node →
      (∀ n, (x.state n).client.site.resolver = none)
      ∧ (∀ n run call, (x.state n).client.attempt run ≠ .resolving call)
      ∧ ∀ n run link, x.IsStartedBy n run .rediscover →
        (x.state n).client.attempt run = .ended (.ok link) →
        link.handle.endpoint.same node = true)
    ∧ (∀ n run link, (x.state n).client.attempt run = .ended (.ok link) →
      ∃ k < n, ∃ node, x.Takes k run node link.handle)
    ∧ (∀ k run node handle, x.Takes k run node handle →
      (x.state (k + 1)).client.site.cache.find? node = some handle
      ∧ (∀ held, (x.state k).client.site.cache.find? node = some held → held = handle)
      ∧ ∀ n, k < n → x.Keeps (k + 1) run handle n ((x.state n).client.attempt run))
    ∧ (∀ n run handle answer now draw, (x.state n).client.attempt run = .negotiating handle →
      x.events n = .answerRun run answer now draw →
      (x.state (n + 1)).client.attempt run
        = .ended (.ok ⟨handle, ConnectPhase.capabilitiesOf answer⟩))
    ∧ (x.config.WaitsTooLong →
      ∀ n run link, (x.state n).client.attempt run ≠ .ended (.ok link)) := by
  refine ⟨fun seeds n run link htopology htrigger hended => ?_, ?_, ?_, ?_,
    fun node htopology => ?_, ?_, ?_, ?_,
    fun hlong n run link hended => not_waitsTooLong_of_ended hended hlong⟩
  · obtain ⟨node, hchooses, k, hk, htakes⟩ := reaches_of_ended hx hended
    cases hchooses with
    | follows hleader => cases htrigger.eq hleader
    | visits _ hsingle => cases htopology.symm.trans hsingle
    | prefers seeds' _ _ k hheard hbest => exact ⟨k, node, hheard, hbest, htakes.same⟩
  · intro k id t result run hsettles hnone hwaiting
    exact ⟨_, hsettles.failsOver, fails_of_settles hx hsettles hnone hwaiting⟩
  · intro k id t now hdials attempt asked left failures hempty hevent hasking
    rw [hempty] at hevent
    exact ⟨Wire.MemberTable.not_offers_of_usable_eq_nil hempty, goesOn_of_empty hevent hasking⟩
  · intro k id before error run hbefore hended hne hwaiting
    obtain ⟨event, hturns⟩ := turns_of_ne hbefore hended hne
    refine ⟨fails_of_error ⟨event, before, hturns⟩ hwaiting, ?_⟩
    rintro attempt failures rfl
    exact comesToNothing_of_turns hturns
  · refine ⟨resolver_of_single htopology, fun n run call hresolving => ?_,
      fun n run link htrigger hended => ?_⟩
    · have htraced := traced_state hx n run
      rw [hresolving] at htraced
      obtain ⟨-, ⟨seeds, hcluster⟩, -⟩ := htraced
      cases htopology.symm.trans hcluster
    · obtain ⟨node', hchooses, k, hk, htakes⟩ := reaches_of_ended hx hended
      cases hchooses with
      | follows hleader => cases htrigger.eq hleader
      | visits _ hsingle =>
        cases htopology.symm.trans hsingle
        exact htakes.same
      | prefers seeds _ hcluster => cases htopology.symm.trans hcluster
  · intro n run link hended
    obtain ⟨node, -, k, hk, htakes⟩ := reaches_of_ended hx hended
    exact ⟨k, hk, node, htakes⟩
  · intro k run node handle htakes
    obtain ⟨hafter, hbefore⟩ := Cache.find?_of_getOrCreate htakes.getOrCreate_eq
    exact ⟨hafter, hbefore, fun n hkn => keeps_of_takes htakes hkn⟩
  · intro n run handle answer now draw hphase hevent
    exact attempt_of_answerRun hphase hevent

/-! ### A client that is told a member table -/

/-- A row of a member table. -/
def row (id host : String) (port : UInt32) (state : Int32)
    (isAlive : Bool) : Wire.MemberRecord where
  id := id
  state := state
  isAlive := isAlive
  address := some ⟨host, port⟩

/-- A leader that is down, one without a host, one with a port that there cannot be, a member that
tells a role which nobody knows, and one that is about to lead, before a follower. -/
def sparseTable : Wire.MemberTable where
  members := [row "a" "a" 1 8 false, row "b" "" 1 8 true, row "c" "c" 65536 8 true,
    row "d" "d" 1 99 true, row "e" "e" 1 7 true, row "f" "f" 1 6 true]

/-- The resolution goes on. -/
def resolutionStep : DiscoveryEvent := .step 0 false id 0 0

/-- A node answers the resolution with the table. -/
def tableAnswer (t : Wire.MemberTable) : DiscoveryEvent := .answer 0 (.success t.usable) 0

/-- A caller asks, a run asks for the members, a node answers with a table, and the run goes on. -/
def toldEvents (t : Wire.MemberTable) : List ClientEvent :=
  [.connectionInfo false, .advance 0 0 0, .stepRun 0 id 0 0, .stepRun 0 id 0 0, .stepRun 0 id 0 0,
    .stepRun 0 id 0 0, .discover resolutionStep rfl, .discover resolutionStep rfl,
    .discover (tableAnswer t) rfl, .stepRun 0 id 0 0, .stepRun 0 id 0 0, .stepRun 0 id 0 0]

/-- The client of one seed is told a member table. -/
def toldRun (t : Wire.MemberTable) : ClientRun where
  options := { gossipSeeds := ["s:1"], negotiate := some false }
  config := seedConfig
  built := build_seedConfig
  factory := .refusing ["bad"]
  client := seedClient
  made := new_seedClient
  events := fun n => (toldEvents t).getD n (.connectionInfo false)

theorem hears_toldRun (t : Wire.MemberTable) : (toldRun t).Hears fun _ => t := by
  have hall : ∀ event ∈ toldEvents t, event.Brings t := by
    simp [toldEvents, ClientEvent.Brings, resolutionStep, tableAnswer]
  intro n
  show ((toldEvents t).getD n (.connectionInfo false)).Brings t
  rw [List.getD_eq_getElem?_getD]
  cases hevent : (toldEvents t)[n]? with
  | none => trivial
  | some event => exact hall event (List.mem_of_getElem? hevent)

/-- The endpoint that a run has connected to. -/
def connectedTo? (x : ClientRun) (n run : Nat) : Option EndPoint :=
  match (x.state n).client.attempt run with
  | .ended (.ok link) => some link.handle.endpoint
  | _ => none

theorem ended_of_connectedTo? (h : x.connectedTo? n run = some node) :
    ∃ link, (x.state n).client.attempt run = .ended (.ok link)
      ∧ link.handle.endpoint = node := by
  unfold connectedTo? at h
  split at h
  · cases h
    exact ⟨_, ‹_›, rfl⟩
  · cases h

/-- The follower is chosen. -/
theorem toldRun_connects_to_follower : ∃ link,
    ((toldRun sparseTable).state 12).client.attempt 0 = .ended (.ok link)
      ∧ link.handle.endpoint = ⟨"f", 1⟩
      ∧ ∃ node, sparseTable.IsBest .leader node ∧ link.handle.endpoint.same node = true := by
  obtain ⟨link, hended, hnode⟩ : ∃ link,
      ((toldRun sparseTable).state 12).client.attempt 0 = .ended (.ok link)
        ∧ link.handle.endpoint = ⟨"f", 1⟩ :=
    ended_of_connectedTo? (by decide +kernel)
  have hstarted : (toldRun sparseTable).IsStartedBy 12 0 .rediscover := by
    have htrigger : (((toldRun sparseTable).state 12).client.provider.runs[0]?).map (·.trigger)
        = some .rediscover := by decide +kernel
    exact Option.map_eq_some_iff.1 htrigger
  obtain ⟨hprefers, -⟩ :=
    runs_connect_by_preference (toldRun sparseTable) (fun _ => sparseTable)
      (hears_toldRun sparseTable)
  obtain ⟨k, node, -, hbest, hsame⟩ := hprefers [⟨"s", 1⟩] 12 0 link rfl hstarted hended
  exact ⟨link, hended, hnode, node, hbest, hsame⟩

/-! ### Runs that fail otherwise -/

/-- The only member is a manager, for which no channel can be made. -/
def refusedTable : Wire.MemberTable where
  members := [row "m" "bad" 1 9 true]

/-- The least time that no call can carry. -/
def patience : Duration := ⟨Wire.deadlineLimit * (3600 * nanosPerSecond), by decide⟩

/-- A client of a single node that waits too long for its capabilities takes four steps. -/
def patientRun : ClientRun where
  options := { singleNode := some "a:1", negotiationTimeout := some patience }
  config := { soloConfig with negotiationTimeout := some patience }
  built := by rfl
  factory := {}
  client :=
    { settings := Client.settingsOf { soloConfig with negotiationTimeout := some patience }
      provider := .new {}, site := { cache := { channels := {} } } }
  made := by rfl
  events := fun n =>
    [.connectionInfo false, .advance 0 0 0, .stepRun 0 id 0 0, .stepRun 0 id 0 0,
      .stepRun 0 id 0 0].getD n (.connectionInfo false)

/-- **A run may fail otherwise**, though nobody has told it to stop. The table that a run waits for
offers no node, and the run fails by what the channel factory says of the member. And a run that has
its connection breaks down before the node is even asked for its capabilities. -/
theorem runs_fail_otherwise :
    ((∀ node, ¬refusedTable.Offers node)
      ∧ (toldRun refusedTable).events 8
        = .discover (.answer 0 (.success refusedTable.usable) 0) rfl
      ∧ ((toldRun refusedTable).state 8).client.attempt 0 = .resolving (.waiting 0)
      ∧ (∀ n ≤ 11, ((toldRun refusedTable).state n).client.provider.isRunCancelled 0 = false)
      ∧ ((toldRun refusedTable).state 11).client.attempt 0
        = .ended (.error (.config "channel refused")))
    ∧ (∃ handle, (patientRun.state 4).client.attempt 0 = .linked handle patience)
      ∧ (∀ n ≤ 5, (patientRun.state n).client.provider.isRunCancelled 0 = false)
      ∧ (patientRun.state 5).client.attempt 0 = .brokenDown := by
  refine ⟨⟨?_, rfl, by rfl, by decide +kernel, by rfl⟩,
    ⟨_, by rfl⟩, by decide +kernel, by rfl⟩
  rintro node ⟨r, hr, -, ⟨s, hs, hstate⟩, -⟩
  obtain rfl := List.mem_singleton.1 hr
  rcases hs with rfl | rfl | rfl | rfl <;> exact absurd hstate (by decide)

end ClusterLink.ClientRun
