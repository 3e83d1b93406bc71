import ClusterLink.Proofs.Failure.Classification
import ClusterLink.Proofs.Node.Selection

/-!
# Addresses that can be used

The address of a node comes in two ways: in the member table of another node, and in the headers of
a status that turns a call away and hints at the leader (`Status.HintsAt`). The table gives the port
as a number of thirty-two bits, and 0 if it gives none; the headers give it in digits.

Both ways an address without a host is refused, and one whose port does not fit into sixteen bits.
The hint is refused as well if the port is 0, but a member with that port is kept
(`MemberRecord.exists_member?_iff`, `Status.HintsAt.classify_eq_iff`). So the two agree on all other
addresses, and there on the endpoint, and disagree on those with a host and the port 0
(`tables_and_hints_agree`).
-/

namespace ClusterLink

namespace Wire

/-- **The address can be told in headers**: its host consists of plain characters, with no blanks
around it. -/
structure AddressRecord.IsTellable (a : AddressRecord) : Prop where
  host_isPlain : ∀ c ∈ a.host.toList, Metadata.IsPlain c.toNat
  host_trimmed : Text.trim a.host.toList = a.host.toList

/-- **The address names a node**: it has a host, and its port fits into sixteen bits. -/
structure AddressRecord.NamesNode (a : AddressRecord) : Prop where
  host_ne : a.host ≠ ""
  port_le : a.port.toNat ≤ 65535

/-- The endpoint of an address that names a node. -/
def AddressRecord.endpoint (a : AddressRecord) : EndPoint := ⟨a.host, UInt16.ofNat a.port.toNat⟩

theorem AddressRecord.NamesNode.toNat_port {a : AddressRecord} (h : a.NamesNode) :
    a.endpoint.port.toNat = a.port.toNat :=
  UInt16.toNat_ofNat_of_lt' (Nat.lt_succ_of_le h.port_le)

/-- **A member is kept** if its address names a node. -/
theorem MemberRecord.exists_member?_iff {r : MemberRecord} {a : AddressRecord}
    (ha : r.address = some a) {e : EndPoint} :
    (∃ m, r.member? = some m ∧ m.endpoint = e) ↔ a.NamesNode ∧ e = a.endpoint := by
  simp only [MemberRecord.member?_eq_some_iff, ha, Option.some.injEq, exists_eq_left']
  constructor
  · rintro ⟨_, ⟨hhost, hport, rfl⟩, rfl⟩
    exact ⟨⟨hhost, hport⟩, rfl⟩
  · rintro ⟨⟨hhost, hport⟩, rfl⟩
    exact ⟨_, ⟨hhost, hport, rfl⟩, rfl⟩

theorem MemberRecord.isKept_iff {r : MemberRecord} {a : AddressRecord} (ha : r.address = some a) :
    (∃ m, r.member? = some m) ↔ a.NamesNode := by
  refine ⟨fun ⟨m, hm⟩ => ((exists_member?_iff ha).1 ⟨m, hm, rfl⟩).1, fun hnames => ?_⟩
  obtain ⟨m, hm, -⟩ := (exists_member?_iff ha).2 ⟨hnames, rfl⟩
  exact ⟨m, hm⟩

end Wire

open Wire

namespace Status

/-- **The status hints at the address**: it turns the call away, and its headers give the host, and
the port in digits. -/
structure HintsAt (s : Status) (a : AddressRecord) : Prop where
  isRejection : s.IsRejection
  host : s.metadata.SaysUnder "leader-endpoint-host" "leader-host" a.host.toList
  port : s.metadata.SaysUnder "leader-endpoint-port" "leader-port" (toString a.port.toNat).toList

/-- A status that hints at an address under the preferred keys. -/
def hinting (a : AddressRecord) : Status where
  code := .notFound
  message := "Leader info available"
  metadata :=
    [(exceptionKey, notLeaderException.toUTF8.data.toList),
      ("leader-endpoint-host", a.host.toUTF8.data.toList),
      ("leader-endpoint-port", (toString a.port.toNat).toUTF8.data.toList)]

/-- Every address that can be told in headers is hinted at by some status. -/
theorem hintsAt_hinting {a : AddressRecord}
    (h : ∀ c ∈ a.host.toList, Metadata.IsPlain c.toNat) :
    (hinting a).HintsAt a := by
  have hread : ∀ text : String, (∀ c ∈ text.toList, Metadata.IsPlain c.toNat) →
      Metadata.text? text.toUTF8.data.toList = some text.toList := fun _ hplain =>
    Metadata.text?_toUTF8_eq_some_iff.2 ⟨rfl, hplain⟩
  refine ⟨⟨notLeaderException.toList, Metadata.header?_eq_some_iff.1 ?_, rfl⟩,
    .inl (Metadata.header?_eq_some_iff.1 ?_), .inl (Metadata.header?_eq_some_iff.1 ?_)⟩
  · exact hread notLeaderException (Metadata.isPlain_of_all rfl)
  · rw [hinting, Metadata.header?_cons, if_neg (by decide), Metadata.header?_cons,
      if_pos (by decide)]
    exact hread a.host h
  · rw [hinting, Metadata.header?_cons, if_neg (by decide), Metadata.header?_cons,
      if_neg (by decide), Metadata.header?_cons, if_pos (by decide)]
    exact hread (toString a.port.toNat) fun _ hc =>
      Metadata.isPlain_of_isDigit (Text.isDigit_of_mem_toString hc)

/-- **A hint is followed** if its address names a node and the port is not 0. -/
theorem HintsAt.classify_eq_iff {s : Status} {a : AddressRecord} (h : s.HintsAt a)
    (ha : a.IsTellable) {e : EndPoint} :
    s.classify = .notLeader e ↔ a.NamesNode ∧ a.port ≠ 0 ∧ e = a.endpoint := by
  rw [s.isClassified.notLeader_iff, and_iff_right h.isRejection]
  constructor
  · rintro ⟨⟨host, hgiven, htrim⟩, hne, ⟨port, hgiven', hnumeral⟩, hzero⟩
    rw [hgiven.text_unique h.host, ha.host_trimmed] at htrim
    rw [hgiven'.text_unique h.port, Text.trim_toString, Text.isNumeral_toString_iff] at hnumeral
    obtain ⟨host, port⟩ := e
    obtain rfl := String.toList_inj.1 htrim
    refine ⟨⟨hne, hnumeral ▸ Nat.le_of_lt_succ port.toNat_lt⟩, fun hnone => hzero ?_, ?_⟩
    · rw [← UInt16.toNat_inj, hnumeral, hnone]
      rfl
    · rw [AddressRecord.endpoint, ← hnumeral, UInt16.ofNat_toNat]
  · rintro ⟨hnames, hzero, rfl⟩
    exact {
      host := ⟨_, h.host, ha.host_trimmed⟩
      host_ne := hnames.host_ne
      port :=
        ⟨_, h.port, by rw [Text.trim_toString, Text.isNumeral_toString_iff, hnames.toNat_port]⟩
      port_ne := fun hnone =>
        hzero (UInt32.toNat_inj.1 (hnames.toNat_port.symm.trans (congrArg UInt16.toNat hnone))) }

theorem HintsAt.isFollowed_iff {s : Status} {a : AddressRecord} (h : s.HintsAt a)
    (ha : a.IsTellable) :
    (∃ leader, s.classify = .notLeader leader) ↔ a.NamesNode ∧ a.port ≠ 0 := by
  simp only [h.classify_eq_iff ha, ← and_assoc, exists_and_left, exists_eq, and_true]

/-- A hint that is not followed counts as no hint. -/
theorem HintsAt.classify_eq_unavailable_iff {s : Status} {a : AddressRecord} (h : s.HintsAt a) :
    s.classify = .unavailable ↔ ∀ e, s.classify ≠ .notLeader e := by
  rw [s.isClassified.unavailable_iff, and_iff_left (.inl h.isRejection), not_exists]
  exact forall_congr' fun e => not_congr (s.isClassified.notLeader_iff e).symm

end Status

namespace Wire

/-- **The two ways agree on an address**: a member with it is kept just if a hint at it is
followed. -/
def AddressRecord.IsAgreed (a : AddressRecord) : Prop :=
  ∀ (r : MemberRecord) (s : Status), r.address = some a → s.HintsAt a →
    ((∃ m, r.member? = some m) ↔ ∃ leader, s.classify = .notLeader leader)

/-- **The two ways agree** on an address without a host, and on one whose port is not 0. -/
theorem AddressRecord.isAgreed_iff {a : AddressRecord} (ha : a.IsTellable) :
    a.IsAgreed ↔ a.host = "" ∨ a.port ≠ 0 := by
  constructor
  · intro hagreed
    by_contra hnot
    obtain ⟨hhost, hport⟩ := not_or.1 hnot
    have hzero : a.port = 0 := Decidable.not_not.1 hport
    have hnames : a.NamesNode := ⟨hhost, by rw [hzero]; exact Nat.zero_le _⟩
    -- a member with the address is kept, and a hint at it is not followed
    have hhint : (Status.hinting a).HintsAt a := Status.hintsAt_hinting ha.host_isPlain
    have hkept : ∃ m, MemberRecord.member? { address := some a } = some m :=
      (MemberRecord.isKept_iff rfl).2 hnames
    exact ((hhint.isFollowed_iff ha).1 ((hagreed { address := some a } _ rfl hhint).1 hkept)).2
      hzero
  · intro husable r s hr hs
    rw [r.isKept_iff hr, hs.isFollowed_iff ha, iff_self_and]
    exact fun hnames => husable.resolve_left hnames.host_ne

/-- **Member tables and hints agree on an address** just if it has no host or its port is not 0.
Whatever can be told in headers is hinted at by some status. If a hint is followed, then a member
with the address is kept, with the endpoint that the hint leads to. And if a member is kept, then a
hint at its address is followed, unless the port is 0: then the hint counts as none. -/
theorem tables_and_hints_agree {a : AddressRecord} (ha : a.IsTellable) :
    (∃ s : Status, s.HintsAt a)
    ∧ (∀ (r : MemberRecord) (s : Status), r.address = some a → s.HintsAt a →
      (∀ leader, s.classify = .notLeader leader →
        ∃ m, r.member? = some m ∧ m.endpoint = leader)
      ∧ ∀ m, r.member? = some m → (a.port ≠ 0 ∧ s.classify = .notLeader m.endpoint)
        ∨ (a.port = 0 ∧ s.classify = .unavailable))
    ∧ (a.IsAgreed ↔ a.host = "" ∨ a.port ≠ 0) := by
  refine ⟨⟨.hinting a, Status.hintsAt_hinting ha.host_isPlain⟩,
    fun r s hr hs => ⟨fun leader hleader => ?_, fun m hm => ?_⟩,
      AddressRecord.isAgreed_iff ha⟩
  · obtain ⟨hnames, -, hendpoint⟩ := (hs.classify_eq_iff ha).1 hleader
    exact (r.exists_member?_iff hr).2 ⟨hnames, hendpoint⟩
  · obtain ⟨hnames, hendpoint⟩ := (r.exists_member?_iff hr).1 ⟨m, hm, rfl⟩
    by_cases hzero : a.port = 0
    · refine .inr ⟨hzero, hs.classify_eq_unavailable_iff.2 fun e he => ?_⟩
      exact ((hs.classify_eq_iff ha).1 he).2.1 hzero
    · exact .inl ⟨hzero, (hs.classify_eq_iff ha).2 ⟨hnames, hzero, hendpoint⟩⟩

/-- The address `node-1:2113` can be told in headers, and the two agree on it. -/
theorem tables_and_hints_agree_on_node :
    AddressRecord.IsTellable ⟨"node-1", 2113⟩
      ∧ AddressRecord.IsAgreed ⟨"node-1", 2113⟩ := by
  have ha : AddressRecord.IsTellable ⟨"node-1", 2113⟩ :=
    ⟨Metadata.isPlain_of_all rfl, by decide⟩
  exact ⟨ha, (tables_and_hints_agree ha).2.2.2 (.inr (by decide))⟩

/-- A member at port 0 is kept, and a hint at its address counts as none. -/
theorem keeps_member_at_port_zero :
    MemberRecord.member? { id := "n", state := 8, isAlive := true, address := some ⟨"a", 0⟩ }
        = some ⟨"n", ⟨"a", 0⟩, .leader, true⟩
      ∧ AddressRecord.IsTellable ⟨"a", 0⟩
      ∧ (Status.hinting ⟨"a", 0⟩).HintsAt ⟨"a", 0⟩
      ∧ (Status.hinting ⟨"a", 0⟩).classify = .unavailable
      ∧ ¬AddressRecord.IsAgreed ⟨"a", 0⟩ := by
  have ha : AddressRecord.IsTellable ⟨"a", 0⟩ := ⟨Metadata.isPlain_of_all rfl, by decide⟩
  have hhint : (Status.hinting ⟨"a", 0⟩).HintsAt ⟨"a", 0⟩ :=
    Status.hintsAt_hinting ha.host_isPlain
  have hclass : (Status.hinting ⟨"a", 0⟩).classify = .unavailable :=
    hhint.classify_eq_unavailable_iff.2 fun e he => ((hhint.classify_eq_iff ha).1 he).2.1 rfl
  refine ⟨by decide, ha, hhint, hclass, fun hagreed => ?_⟩
  obtain ⟨leader, hleader⟩ :=
    (hagreed { address := some ⟨"a", 0⟩ } _ rfl hhint).1 ⟨_, rfl⟩
  cases hclass.symm.trans hleader

end Wire

end ClusterLink
