import ClusterLink.Proofs.Node.Ranking
import Mathlib.Data.List.Perm.Basic
import Mathlib.Data.List.SplitBy

/-!
# Shuffled ties

A selector that randomizes ties ranks a shuffled snapshot. The members that it ranks are those of
the snapshot in reported order, and so are the ranks, place by place; only members of equal rank may
have changed places among each other (`ShufflesTies`). Nothing that such an exchange can bring about
is lost: however the members of each run of equal rank are put, some shuffle puts them so.

The proof needs no more of a shuffle than that it keeps the members. Sorted lists with the same
members have the same ranks (`map_rank_eq_of_perm`); and a list that is in order already is left as
it is (`selectNodes_of_pairwise`), so that a shuffle which puts the members to be ranked in the
wanted order, and the others behind, is ranked in just that order (`exists_shuffle`).
-/

namespace ClusterLink

variable {members shuffled order : List Member} {p : NodePreference}

/-! ## Ranks and roles -/

namespace NodePreference

/-- The place of a role that a preference ranks tells the role. -/
theorem ranking_rank (hp : p ≠ .random) {s : NodeState} (hs : s.isConnectable = true) :
    p.ranking[p.rank s]? = some s := by
  rcases (NodeState.isConnectable_iff s).1 hs with rfl | rfl | rfl | rfl <;> cases p <;>
    first | exact absurd rfl hp | rfl

end NodePreference

/-- Members that may be connected to have equal roles, place by place, if they have equal ranks. -/
theorem map_state_eq_of_map_rank_eq (hp : p ≠ .random) {ms ns : List Member}
    (hm : ∀ m ∈ ms, m.isEligible = true) (hn : ∀ n ∈ ns, n.isEligible = true)
    (h : ms.map (p.rank ·.state) = ns.map (p.rank ·.state)) :
    ms.map (·.state) = ns.map (·.state) := by
  have hroles : ∀ l : List Member, (∀ m ∈ l, m.isEligible = true) →
      l.map (some ·.state) = (l.map (p.rank ·.state)).map (p.ranking[·]?) := by
    intro l hl
    rw [List.map_map]
    refine List.map_congr_left fun m hmem => ?_
    have heligible := hl m hmem
    rw [Member.isEligible, Bool.and_eq_true] at heligible
    exact (NodePreference.ranking_rank hp heligible.2).symm
  refine List.map_injective_iff.2 (Option.some_injective NodeState) ?_
  rw [List.map_map, List.map_map]
  exact (hroles ms hm).trans ((congrArg _ h).trans (hroles ns hn).symm)

/-! ## What a shuffle keeps -/

theorem isEligible_of_mem_selectNodes {m : Member} (h : m ∈ selectNodes members p) :
    m.isEligible = true :=
  (mem_selectNodes.1 h).2

theorem perm_selectNodes (h : shuffled.Perm members) :
    (selectNodes shuffled p).Perm (selectNodes members p) :=
  (selectNodes_perm shuffled p).trans <| (h.filter _).trans (selectNodes_perm members p).symm

/-- Lists in order that have the same members have the same ranks. -/
theorem map_rank_eq_of_perm {ms ns : List Member} (h : ms.Perm ns)
    (hm : ms.Pairwise fun m n => p.rank m.state ≤ p.rank n.state)
    (hn : ns.Pairwise fun m n => p.rank m.state ≤ p.rank n.state) :
    ms.map (p.rank ·.state) = ns.map (p.rank ·.state) :=
  (h.map _).eq_of_pairwise (fun _ _ _ _ => Nat.le_antisymm) (List.pairwise_map.2 hm)
    (List.pairwise_map.2 hn)

/-! ## What a shuffle can bring about -/

/-- A list with the same ranks is in order as well. -/
theorem pairwise_of_map_rank_eq
    (h : order.map (p.rank ·.state) = (selectNodes members p).map (p.rank ·.state)) :
    order.Pairwise fun m n => p.rank m.state ≤ p.rank n.state := by
  have hsorted := List.pairwise_map.2 (pairwise_selectNodes members p)
  rw [← h] at hsorted
  exact List.pairwise_map.1 hsorted

/-- **Whatever keeps the ranks is brought about by a shuffle**: put the members to be ranked in that
order, and the others behind. -/
theorem exists_shuffle (hperm : order.Perm (selectNodes members p))
    (hrank : order.map (p.rank ·.state) = (selectNodes members p).map (p.rank ·.state)) :
    ∃ shuffled, shuffled.Perm members ∧ selectNodes shuffled p = order := by
  have heligible : ∀ m ∈ order, m.isEligible = true := fun m hm =>
    isEligible_of_mem_selectNodes (hperm.mem_iff.1 hm)
  have hsplit : (order ++ members.filter (!·.isEligible)).Perm members :=
    ((hperm.trans (selectNodes_perm members p)).append_right _).trans
      (List.filter_append_perm Member.isEligible members)
  refine ⟨_, hsplit, ?_⟩
  have hfilter : (order ++ members.filter (!·.isEligible)).filter Member.isEligible
      = order.filter Member.isEligible := by
    rw [List.filter_append, List.filter_filter]
    simp
  rw [selectNodes, hfilter]
  exact selectNodes_of_pairwise heligible (pairwise_of_map_rank_eq hrank)

/-! ## Runs of equal rank -/

/-- The members of a run have one rank. -/
theorem rank_eq_of_mem_tieGroups {run : List Member} (h : run ∈ tieGroups p members) :
    ∀ m ∈ run, ∀ n ∈ run, p.rank m.state = p.rank n.state := by
  have hchain : (run.map (p.rank ·.state)).IsChain (· = ·) :=
    (List.isChain_map _).2 <| (List.isChain_of_mem_splitBy h).imp fun _ _ => eq_of_beq
  intro m hm n hn
  exact hchain.pairwise.forall_of_forall (fun _ _ => rfl) (List.mem_map_of_mem hm)
    (List.mem_map_of_mem hn)

/-- Putting the members of each run in another order keeps the ranks. -/
theorem map_rank_flatten {runs groups : List (List Member)}
    (h : List.Forall₂ List.Perm runs groups)
    (hrank : ∀ run ∈ groups, ∀ m ∈ run, ∀ n ∈ run, p.rank m.state = p.rank n.state) :
    runs.flatten.map (p.rank ·.state) = groups.flatten.map (p.rank ·.state) := by
  induction h with
  | nil => rfl
  | @cons run group runs groups hperm _ ih =>
    obtain ⟨hgroup, hgroups⟩ := List.forall_mem_cons.1 hrank
    have hsorted : ∀ l : List Member, l.Perm group →
        l.Pairwise fun m n => p.rank m.state ≤ p.rank n.state := fun l hl =>
      List.pairwise_of_forall_mem_list fun m hm n hn =>
        Nat.le_of_eq (hgroup m (hl.mem_iff.1 hm) n (hl.mem_iff.1 hn))
    rw [List.flatten_cons, List.flatten_cons, List.map_append, List.map_append, ih hgroups,
      map_rank_eq_of_perm hperm (hsorted run hperm) (hsorted group (.refl group))]

/-! ## Selectors that shuffle -/

/-- **What becomes of ties** under a selector of the given preference that shuffles them. -/
structure ShufflesTies (members : List Member) (p : NodePreference) (s : NodeSelector) : Prop where
  /-- A shuffle loses nobody and adds nobody. -/
  perm : ∀ shuffled, shuffled.Perm members →
    (s.candidates members shuffled).Perm (selectNodes members p)
  /-- Every place keeps its rank. -/
  rank_eq : ∀ shuffled, shuffled.Perm members →
    (s.candidates members shuffled).map (p.rank ·.state)
      = (selectNodes members p).map (p.rank ·.state)
  /-- Every place keeps its role, if the preference tells roles apart. -/
  state_eq : p ≠ .random → ∀ shuffled, shuffled.Perm members →
    (s.candidates members shuffled).map (·.state) = (selectNodes members p).map (·.state)
  /-- Some shuffle brings about any other order that keeps the ranks. -/
  exists_shuffle : ∀ order, order.Perm (selectNodes members p) →
    order.map (p.rank ·.state) = (selectNodes members p).map (p.rank ·.state) →
    ∃ shuffled, shuffled.Perm members ∧ s.candidates members shuffled = order
  /-- Some shuffle puts the members of each run of equal rank in any order. -/
  exists_shuffle_of_runs : ∀ runs,
    List.Forall₂ List.Perm runs (tieGroups p (selectNodes members p)) →
    ∃ shuffled, shuffled.Perm members ∧ s.candidates members shuffled = runs.flatten
  /-- The member that is chosen has the best rank of all that may be connected to. -/
  best : ∀ shuffled m, shuffled.Perm members → s.select members shuffled = some m →
    m ∈ members ∧ m.isEligible = true
      ∧ ∀ n ∈ members, n.isEligible = true → p.rank m.state ≤ p.rank n.state
  /-- None is chosen exactly if none is without the shuffle. -/
  select_eq_none_iff : ∀ shuffled, shuffled.Perm members →
    (s.select members shuffled = none ↔ selectNode members p = none)

/-- **Shuffling brings ties into any order**, and does nothing else. -/
theorem shufflesTies_selector (members : List Member) (p : NodePreference) :
    ShufflesTies members p { preference := p, randomizeTies := true } := by
  have hrank : ∀ shuffled : List Member, shuffled.Perm members →
      (selectNodes shuffled p).map (p.rank ·.state)
        = (selectNodes members p).map (p.rank ·.state) :=
    fun shuffled h => map_rank_eq_of_perm (perm_selectNodes h) (pairwise_selectNodes shuffled p)
      (pairwise_selectNodes members p)
  have hgroups : (tieGroups p (selectNodes members p)).flatten = selectNodes members p :=
    List.flatten_splitBy ..
  exact {
    perm := fun shuffled h => perm_selectNodes h
    rank_eq := hrank
    state_eq := fun hp shuffled h => map_state_eq_of_map_rank_eq hp
      (fun _ => isEligible_of_mem_selectNodes) (fun _ => isEligible_of_mem_selectNodes)
        (hrank shuffled h)
    exists_shuffle := fun order => exists_shuffle
    exists_shuffle_of_runs := fun runs h => by
      have hperm := List.Perm.flatten_congr h
      have hruns := map_rank_flatten h fun run => rank_eq_of_mem_tieGroups
      rw [hgroups] at hperm hruns
      exact exists_shuffle hperm hruns
    best := fun shuffled m h hm => NodeSelector.select_eq_some h hm
    select_eq_none_iff := fun shuffled h => by
      have hlength : (selectNodes shuffled p).length = (selectNodes members p).length :=
        (perm_selectNodes h).length_eq
      rw [NodeSelector.select, selectNode, List.head?_eq_none_iff, List.head?_eq_none_iff,
        ← List.length_eq_zero_iff, ← List.length_eq_zero_iff, ← hlength]
      rfl }

end ClusterLink
