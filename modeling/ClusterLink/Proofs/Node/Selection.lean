import ClusterLink.Wire.Gossip
import Mathlib.Tactic.IntervalCases

/-!
# Which node is chosen

A selector chooses a member that a client may connect to, such that no other one is preferred to it,
and it chooses none only if there is none (`NodeSelector.select_eq_some`,
`NodeSelector.select_eq_none_iff`). Which of several members of equal rank it takes does not matter,
nor does the order in which it looks at them.

A row of a member table stands for such a member if it is alive, has an address that can be used,
and tells one of four roles by its number (`Wire.MemberRecord.Offers`). What a selector makes of the
members that a table describes can so be said of the table as it was sent
(`Wire.MemberTable.isBest_of_select`, `Wire.MemberTable.select_eq_none_iff`).
-/

namespace ClusterLink

/-! ## Among members -/

theorem mem_selectNodes {members : List Member} {p : NodePreference} {m : Member} :
    m ∈ selectNodes members p ↔ m ∈ members ∧ m.isEligible = true := by
  rw [selectNodes, List.mem_mergeSort, List.mem_filter]

/-- Of the members a client may connect to, a better one never stands behind a worse one. -/
theorem pairwise_selectNodes (members : List Member) (p : NodePreference) :
    (selectNodes members p).Pairwise fun m n => p.rank m.state ≤ p.rank n.state := by
  refine (List.pairwise_mergeSort (fun a b c hab hbc => ?_) (fun a b => ?_) _).imp fun h =>
    of_decide_eq_true h
  · exact decide_eq_true (Nat.le_trans (of_decide_eq_true hab) (of_decide_eq_true hbc))
  · simpa using Nat.le_total ..

namespace NodeSelector

variable {s : NodeSelector} {members shuffled : List Member}

/-- A shuffle changes nothing about who the candidates are. -/
theorem mem_candidates (hperm : shuffled.Perm members) {m : Member} :
    m ∈ s.candidates members shuffled ↔ m ∈ members ∧ m.isEligible = true := by
  rw [candidates, mem_selectNodes]
  split
  · rw [hperm.mem_iff]
  · rfl

/-- **The chosen member** is one that a client may connect to, and no other such member is preferred
to it. -/
theorem select_eq_some (hperm : shuffled.Perm members) {m : Member}
    (h : s.select members shuffled = some m) :
    m ∈ members ∧ m.isEligible = true
      ∧ ∀ n ∈ members, n.isEligible = true →
        s.preference.rank m.state ≤ s.preference.rank n.state := by
  obtain ⟨rest, hcandidates⟩ := List.head?_eq_some_iff.1 h
  obtain ⟨hmem, heligible⟩ := (mem_candidates hperm).1 (hcandidates ▸ List.mem_cons_self ..)
  refine ⟨hmem, heligible, fun n hn hne => ?_⟩
  have hsorted := pairwise_selectNodes (if s.randomizeTies then shuffled else members) s.preference
  rw [← candidates, hcandidates, List.pairwise_cons] at hsorted
  rcases List.mem_cons.1 (hcandidates ▸ (mem_candidates hperm).2 ⟨hn, hne⟩) with rfl | hrest
  · exact Nat.le_refl _
  · exact hsorted.1 n hrest

/-- **No member is chosen** exactly if there is none that a client may connect to. -/
theorem select_eq_none_iff (hperm : shuffled.Perm members) :
    s.select members shuffled = none ↔ ∀ m ∈ members, m.isEligible = false := by
  rw [select, List.head?_eq_none_iff, List.eq_nil_iff_forall_not_mem]
  simp only [mem_candidates hperm, not_and, Bool.not_eq_true]

end NodeSelector

/-! ## Among the rows of a table -/

namespace NodeState

theorem ofNumber?_eq_some_iff {n : Int} {s : NodeState} :
    ofNumber? n = some s ↔ n = s.number := by
  constructor
  · intro h
    unfold ofNumber? at h
    split at h
    · rename_i hn
      have hlt : n.toNat < 16 := (List.getElem?_eq_some_iff.1 h).1
      obtain ⟨k, rfl⟩ := Int.eq_ofNat_of_zero_le hn
      rw [Int.toNat_natCast] at h hlt
      interval_cases k <;> cases h <;> rfl
    · cases h
  · rintro rfl
    exact ofNumber?_number s

/-- A role in which a client may connect to a member is told by its own number alone. -/
theorem isConnectable_ofNumber_iff {n : Int} : (ofNumber n).isConnectable = true
    ↔ ∃ s : NodeState, s.isConnectable = true ∧ n = s.number := by
  unfold ofNumber
  cases hrole : ofNumber? n with
  | none =>
    refine ⟨fun h => absurd h (by decide), fun ⟨s, _, hs⟩ => ?_⟩
    cases hrole.symm.trans (ofNumber?_eq_some_iff.2 hs)
  | some s =>
    refine ⟨fun h => ⟨s, h, ofNumber?_eq_some_iff.1 hrole⟩, fun ⟨s', hs', hn⟩ => ?_⟩
    cases hrole.symm.trans (ofNumber?_eq_some_iff.2 hn)
    exact hs'

end NodeState

namespace Wire

namespace MemberRecord

/-- **The row offers a node**: the node is alive, the row gives its address with a port that there
can be, and it tells one of the roles in which a client may connect to it. -/
structure Offers (r : MemberRecord) (node : EndPoint) : Prop where
  isAlive : r.isAlive = true
  role : ∃ s, (s = .follower ∨ s = .leader ∨ s = .readOnlyLeaderless ∨ s = .readOnlyReplica)
    ∧ r.state.toInt = NodeState.number s
  address : ∃ a, r.address = some a ∧ a.host ≠ "" ∧ a.port.toNat ≤ 65535
    ∧ node = ⟨a.host, UInt16.ofNat a.port.toNat⟩

theorem member?_eq_some_iff {r : MemberRecord} {m : Member} : r.member? = some m ↔
    ∃ a, r.address = some a ∧ a.host ≠ "" ∧ a.port.toNat ≤ 65535
      ∧ m = ⟨r.id, ⟨a.host, UInt16.ofNat a.port.toNat⟩, r.role, r.isAlive⟩ := by
  unfold member?
  cases r.address with
  | none => simp
  | some a =>
    simp only [EndPoint.ofAddress, Option.some.injEq, String.isEmpty_iff, exists_eq_left', ne_eq]
    by_cases hhost : a.host = ""
    · simp [hhost]
    · by_cases hport : a.port.toNat < 65536
      · simp [hhost, hport, Nat.le_of_lt_succ hport, eq_comm]
      · simp [hhost, hport, show ¬a.port.toNat ≤ 65535 by omega]

/-- **A row offers the node of the member that it describes**, if a client may connect to that. -/
theorem offers_iff {r : MemberRecord} {node : EndPoint} : r.Offers node ↔
    ∃ m, r.member? = some m ∧ m.isEligible = true ∧ m.endpoint = node := by
  constructor
  · rintro ⟨halive, ⟨s, hs, hstate⟩, a, ha, hhost, hport, rfl⟩
    refine ⟨_, member?_eq_some_iff.2 ⟨a, ha, hhost, hport, rfl⟩, ?_, rfl⟩
    rw [Member.isEligible, Bool.and_eq_true]
    exact ⟨halive, NodeState.isConnectable_ofNumber_iff.2
      ⟨s, (NodeState.isConnectable_iff s).2 hs, hstate⟩⟩
  · rintro ⟨m, hm, heligible, rfl⟩
    obtain ⟨a, ha, hhost, hport, rfl⟩ := member?_eq_some_iff.1 hm
    rw [Member.isEligible, Bool.and_eq_true] at heligible
    obtain ⟨s, hs, hstate⟩ := NodeState.isConnectable_ofNumber_iff.1 heligible.2
    exact ⟨heligible.1, ⟨s, (NodeState.isConnectable_iff s).1 hs, hstate⟩, a, ha,
      hhost, hport, rfl⟩

end MemberRecord

namespace MemberTable

variable {t : MemberTable} {s : NodeSelector} {shuffled : List Member}

/-- **The table offers a node**. -/
def Offers (t : MemberTable) (node : EndPoint) : Prop := ∃ r ∈ t.members, r.Offers node

/-- **The table offers no better node**: one of its rows offers the node, and no row that offers one
tells a role that is preferred to the role of that row. -/
def IsBest (t : MemberTable) (p : NodePreference) (node : EndPoint) : Prop :=
  ∃ r ∈ t.members, r.Offers node
    ∧ ∀ r' ∈ t.members, ∀ node', r'.Offers node' → p.rank r.role ≤ p.rank r'.role

/-- **The member that is chosen from a table** is the best that the table offers. -/
theorem isBest_of_select (hperm : shuffled.Perm t.usable) {m : Member}
    (h : s.select t.usable shuffled = some m) : t.IsBest s.preference m.endpoint := by
  obtain ⟨hmem, heligible, hbest⟩ := NodeSelector.select_eq_some hperm h
  obtain ⟨r, hr, hm⟩ := List.mem_filterMap.1 hmem
  refine ⟨r, hr, MemberRecord.offers_iff.2 ⟨m, hm, heligible, rfl⟩,
    fun r' hr' node' hoffers => ?_⟩
  obtain ⟨m', hm', heligible', -⟩ := MemberRecord.offers_iff.1 hoffers
  have hrank := hbest m' (List.mem_filterMap.2 ⟨r', hr', hm'⟩) heligible'
  obtain ⟨_, _, _, _, rfl⟩ := MemberRecord.member?_eq_some_iff.1 hm
  obtain ⟨_, _, _, _, rfl⟩ := MemberRecord.member?_eq_some_iff.1 hm'
  exact hrank

/-- A table that describes no member offers no node. -/
theorem not_offers_of_usable_eq_nil (h : t.usable = []) (node : EndPoint) : ¬t.Offers node := by
  rintro ⟨r, hr, hoffers⟩
  obtain ⟨m, hm, -⟩ := MemberRecord.offers_iff.1 hoffers
  have hmem : m ∈ t.usable := List.mem_filterMap.2 ⟨r, hr, hm⟩
  rw [h] at hmem
  cases hmem

/-- **No member is chosen from a table** exactly if the table offers no node. -/
theorem select_eq_none_iff (hperm : shuffled.Perm t.usable) :
    s.select t.usable shuffled = none ↔ ∀ node, ¬t.Offers node := by
  rw [NodeSelector.select_eq_none_iff hperm]
  constructor
  · rintro hnone node ⟨r, hr, hoffers⟩
    obtain ⟨m, hm, heligible, -⟩ := MemberRecord.offers_iff.1 hoffers
    cases (hnone m (List.mem_filterMap.2 ⟨r, hr, hm⟩)).symm.trans heligible
  · intro hnone m hmem
    obtain ⟨r, hr, hm⟩ := List.mem_filterMap.1 hmem
    refine Bool.eq_false_iff.2 fun heligible => hnone m.endpoint ⟨r, hr, ?_⟩
    exact MemberRecord.offers_iff.2 ⟨m, hm, heligible, rfl⟩

end MemberTable

end Wire

end ClusterLink
