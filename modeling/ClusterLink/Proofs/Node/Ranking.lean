import ClusterLink.Proofs.Node.Selection
import Mathlib.Data.List.Basic

/-!
# The order of the chosen members

A preference divides the roles into classes, from best to worst: each role that it lists, and last
all the roles that it does not list (`NodePreference.classes`). Choosing goes through the classes
and takes of each the members that a client may connect to, in the order in which gossip reported
them (`isRanking_selectNodes`). So nobody who may be connected to is left out, no worse member
stands before a better one, and choosing once more from the chosen ones changes nothing.

The order is that of a stable sort. What the proof needs of it are two facts: members of one class
keep their order (`filter_selectNodes`), and a list that is sorted by rank is its classes one after
the other (`flatMap_filter_of_pairwise`).
-/

namespace ClusterLink

namespace NodePreference

/-- The roles that no preference cares about. -/
def indifferent : List NodeState :=
  [.initializing, .discoverLeader, .unknown, .preReplica, .catchingUp, .clone, .preLeader, .manager,
    .shuttingDown, .shutdown, .resigningLeader]

/-- **The classes of roles under a preference**, best first. -/
def classes : NodePreference → List (List NodeState)
  | .leader =>
    [[.leader], [.follower], [.readOnlyReplica], [.preReadOnlyReplica], [.readOnlyLeaderless],
      indifferent]
  | .follower =>
    [[.follower], [.leader], [.readOnlyReplica], [.preReadOnlyReplica], [.readOnlyLeaderless],
      indifferent]
  | .readOnlyReplica =>
    [[.readOnlyReplica], [.preReadOnlyReplica], [.readOnlyLeaderless], [.leader], [.follower],
      indifferent]
  | .random => [NodeState.all]

/-- **The classes are those of the ranking**: one for each role that it lists, and one for the
others. -/
theorem classes_eq (p : NodePreference) :
    p.classes = p.ranking.map ([·]) ++ [NodeState.all.filter (!p.ranking.contains ·)] := by
  cases p <;> rfl

/-- Every role is in a class. -/
theorem exists_class (p : NodePreference) (s : NodeState) : ∃ c ∈ p.classes, s ∈ c := by
  rw [classes_eq]
  by_cases hlisted : s ∈ p.ranking
  · exact ⟨[s], List.mem_append_left _ (List.mem_map_of_mem hlisted),
      List.mem_singleton_self s⟩
  · refine ⟨_, List.mem_append_right _ (List.mem_singleton_self _),
      List.mem_filter.2 ⟨?_, ?_⟩⟩
    · cases s <;> decide
    · simpa using hlisted

/-- Roles of one class are alike. -/
theorem rank_eq_of_mem_class {p : NodePreference} {c : List NodeState} (hc : c ∈ p.classes) :
    ∀ s ∈ c, ∀ t ∈ c, p.rank s = p.rank t := by
  have hall : ∀ c ∈ p.classes, ∀ s ∈ c, ∀ t ∈ c, p.rank s = p.rank t := by
    cases p <;> decide
  exact hall c hc

/-- Roles of a class are better than those of a later one. -/
theorem rank_lt_of_class_lt (p : NodePreference) :
    p.classes.Pairwise fun c d => ∀ s ∈ c, ∀ t ∈ d, p.rank s < p.rank t := by
  cases p <;> decide

end NodePreference

/-! ## Sorted lists and their classes -/

/-- What comes first in a list can be taken out and put back in front. -/
theorem filter_append_filter_of_pairwise {α : Type} {first : α → Bool} {s : List α}
    (h : s.Pairwise fun a b => first b = true → first a = true) :
    s.filter first ++ s.filter (!first ·) = s := by
  induction s with
  | nil => rfl
  | cons a s ih =>
    obtain ⟨ha, hs⟩ := List.pairwise_cons.1 h
    cases hfirst : first a with
    | true => simp [hfirst, ih hs]
    | false =>
      -- if the head does not come first, nothing does
      have hnone : s.filter first = [] := List.filter_eq_nil_iff.2 fun b hb hb' => by
        cases hfirst.symm.trans (ha b hb hb')
      have hrest : s.filter (!first ·) = s := by
        have := ih hs
        rwa [hnone, List.nil_append] at this
      simp [hfirst, hnone, hrest]

/-- **A list that is sorted by rank is its classes**, one after the other. -/
theorem flatMap_filter_of_pairwise {rank : NodeState → Nat} {classes : List (List NodeState)}
    (hclasses : classes.Pairwise fun c d => ∀ s ∈ c, ∀ t ∈ d, rank s < rank t)
    {members : List Member} (hsorted : members.Pairwise fun m n => rank m.state ≤ rank n.state)
    (hcover : ∀ m ∈ members, ∃ c ∈ classes, m.state ∈ c) :
    (classes.flatMap fun c => members.filter (c.contains ·.state)) = members := by
  induction classes generalizing members with
  | nil =>
    refine (List.eq_nil_iff_forall_not_mem.2 fun m hm => ?_).symm
    obtain ⟨c, hc, -⟩ := hcover m hm
    cases hc
  | cons c classes ih =>
    obtain ⟨hfirst, hclasses⟩ := List.pairwise_cons.1 hclasses
    -- who is not in the first class is in a later one, behind all that are
    have hlater : ∀ m ∈ members, m.state ∉ c → ∃ d ∈ classes, m.state ∈ d := by
      intro m hm hnot
      obtain ⟨d, hd, hmem⟩ := hcover m hm
      rcases List.mem_cons.1 hd with rfl | hd
      · exact absurd hmem hnot
      · exact ⟨d, hd, hmem⟩
    have hparts : members.filter (c.contains ·.state) ++ members.filter (!c.contains ·.state)
        = members := by
      refine filter_append_filter_of_pairwise (hsorted.imp_of_mem fun {m n} hm hn hle hn' => ?_)
      by_contra hnot
      obtain ⟨d, hd, hmem⟩ := hlater m hm (by simpa using hnot)
      have := hfirst d hd n.state (by simpa using hn') m.state hmem
      omega
    have hrest : (classes.flatMap fun d => members.filter (d.contains ·.state))
        = members.filter (!c.contains ·.state) := by
      rw [← ih hclasses (hsorted.filter (!c.contains ·.state))]
      · refine List.flatMap_congr fun d hd => ?_
        rw [List.filter_filter]
        refine List.filter_congr fun m _ => ?_
        cases hmem : d.contains m.state with
        | false => rfl
        | true =>
          -- no role is in two classes
          have hnot : c.contains m.state = false := Bool.eq_false_iff.2 fun hmem' =>
            Nat.lt_irrefl _
              (hfirst d hd m.state (by simpa using hmem') m.state (by simpa using hmem))
          rw [hnot]
          rfl
      · intro m hm
        obtain ⟨hm, hnot⟩ := List.mem_filter.1 hm
        exact hlater m hm (by simpa using hnot)
    rw [List.flatMap_cons, hrest, hparts]

/-! ## Choosing -/

variable (members : List Member) (p : NodePreference)

theorem selectNodes_perm : (selectNodes members p).Perm (members.filter Member.isEligible) :=
  List.mergeSort_perm _ _

/-- Choosing from members who may all be connected to, and are in order, changes nothing. -/
theorem selectNodes_of_pairwise {members : List Member} {p : NodePreference}
    (heligible : ∀ m ∈ members, m.isEligible = true)
    (hsorted : members.Pairwise fun m n => p.rank m.state ≤ p.rank n.state) :
    selectNodes members p = members := by
  rw [selectNodes, List.filter_eq_self.2 heligible]
  exact List.mergeSort_of_pairwise (hsorted.imp fun h => decide_eq_true h)

/-- **Members of one class stay in the order in which they were reported.** -/
theorem filter_selectNodes {c : List NodeState} (hc : c ∈ p.classes) :
    (selectNodes members p).filter (c.contains ·.state)
      = (members.filter Member.isEligible).filter (c.contains ·.state) := by
  set eligible := members.filter Member.isEligible
  have halike : (eligible.filter (c.contains ·.state)).Pairwise
      fun m n => decide (p.rank m.state ≤ p.rank n.state) = true := by
    refine List.pairwise_of_forall_mem_list fun m hm n hn => decide_eq_true (Nat.le_of_eq ?_)
    exact NodePreference.rank_eq_of_mem_class hc m.state (by simpa using (List.mem_filter.1 hm).2)
      n.state (by simpa using (List.mem_filter.1 hn).2)
  have htrans : ∀ a b d : Member, decide (p.rank a.state ≤ p.rank b.state) = true →
      decide (p.rank b.state ≤ p.rank d.state) = true →
        decide (p.rank a.state ≤ p.rank d.state) = true :=
    fun _ _ _ hab hbd =>
      decide_eq_true (Nat.le_trans (of_decide_eq_true hab) (of_decide_eq_true hbd))
  have htotal : ∀ a b : Member,
      (decide (p.rank a.state ≤ p.rank b.state)
        || decide (p.rank b.state ≤ p.rank a.state)) = true :=
    fun _ _ => by simpa using Nat.le_total ..
  -- the class is in order already, so the sort leaves its members in their order
  have hsub : (eligible.filter (c.contains ·.state)).Sublist (selectNodes members p) :=
    List.sublist_mergeSort htrans htotal halike List.filter_sublist
  have hsub' := hsub.filter (c.contains ·.state)
  rw [List.filter_filter] at hsub'
  simp only [Bool.and_self] at hsub'
  exact (hsub'.eq_of_length ((selectNodes_perm members p).filter _).length_eq.symm).symm

/-- **What a ranking of members by a preference is.** -/
structure IsRanking (members : List Member) (p : NodePreference) (chosen : List Member) : Prop where
  /-- The classes stand one after the other, each in the order in which it was reported. -/
  by_class : chosen
    = p.classes.flatMap fun c => members.filter fun m => m.isEligible && c.contains m.state
  /-- All who may be connected to are chosen, and nobody else. -/
  complete : chosen.Perm (members.filter Member.isEligible)
  /-- Nobody stands behind one who is worse. -/
  ordered : chosen.Pairwise fun m n => p.rank m.state ≤ p.rank n.state
  /-- Members of one class stay in their order. -/
  stable : ∀ c ∈ p.classes, chosen.filter (c.contains ·.state)
    = (members.filter Member.isEligible).filter (c.contains ·.state)
  /-- Choosing again changes nothing. -/
  settled : selectNodes chosen p = chosen

/-- **The chosen members are ranked.** -/
theorem isRanking_selectNodes : IsRanking members p (selectNodes members p) where
  by_class := by
    have hparts := flatMap_filter_of_pairwise p.rank_lt_of_class_lt (pairwise_selectNodes members p)
      fun m _ => p.exists_class m.state
    rw [← hparts]
    refine List.flatMap_congr fun c hc => ?_
    rw [filter_selectNodes members p hc, List.filter_filter]
    exact List.filter_congr fun m _ => Bool.and_comm _ _
  complete := selectNodes_perm members p
  ordered := pairwise_selectNodes members p
  stable := fun _ => filter_selectNodes members p
  settled :=
    selectNodes_of_pairwise (fun _ hm => (mem_selectNodes.1 hm).2) (pairwise_selectNodes members p)

end ClusterLink
