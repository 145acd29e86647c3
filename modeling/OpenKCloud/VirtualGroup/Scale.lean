import OpenKCloud.VirtualGroup.Model
import Mathlib.Algebra.Order.BigOperators.Group.List
import Mathlib.Data.List.Forall2
/-
# What `scale_group` does to a group

* `scaleOut_spec`: scaling out changes only the `CREATE_COMPLETE` clusters, which gain the
  missing nodes between them, `nodes_per_cluster` or one more each;
* `scaleIn_spec`: scaling in lowers no count, keeps every cluster at one node at least, and
  removes `min(reduce_nodes, Σ (node_count - 1))` nodes, however the clusters are ordered;
* `TotalsAgree`: `total_nodes` is the sum of the clusters' counts; the group's methods keep it;
* `scaleGroup_horizontal`: the whole of `scale_group` on a horizontal call.

The counts recorded in the group do not depend on Magnum's answers at all.  Hence
`scaleGroup_records_failed_update`: after an update that Magnum refused, the group records a
count Magnum does not hold.
-/

namespace OpenKCloud.VirtualGroup

open VirtualClusterGroup

/-! ## 1. `total_nodes` -/

/-- `total_nodes` is the sum of the clusters' `node_count`. -/
def TotalsAgree (g : VirtualClusterGroup) : Prop := g.totalNodes = currentTotal g

instance : DecidablePred TotalsAgree := fun _ => inferInstanceAs (Decidable (_ = _))

theorem totalsAgree_init (name groupType : String) : TotalsAgree (init name groupType) := rfl

theorem totalsAgree_recalculateTotals (g : VirtualClusterGroup) :
    TotalsAgree g.recalculateTotals := rfl

theorem TotalsAgree.addCluster {g : VirtualClusterGroup} (h : TotalsAgree g) (c : VirtualCluster) :
    TotalsAgree (g.addCluster c) := by
  simp only [TotalsAgree, currentTotal, VirtualClusterGroup.addCluster, List.map_append,
    List.sum_append, List.map_singleton, List.sum_singleton] at h ⊢
  rw [h]

theorem totalsAgree_removeCluster (g : VirtualClusterGroup) (clusterName : String) :
    TotalsAgree (g.removeCluster clusterName) := rfl

/-! ## 2. Scaling out -/

/-- What `_scale_out_group` adds to the `i`-th `CREATE_COMPLETE` cluster. -/
def share (nodesPerCluster remainingNodes : ℤ) (i : ℕ) : ℤ :=
  if (i : ℤ) < remainingNodes then nodesPerCluster + 1 else nodesPerCluster

/-- What each `CREATE_COMPLETE` cluster of `cs` gained in `cs'`, in order. -/
def completeGains (cs cs' : List VirtualCluster) : List ℤ :=
  ((cs.zip cs').filter fun p => decide (IsComplete p.1)).map fun p => p.2.nodeCount - p.1.nodeCount

@[simp] theorem completeGains_nil_left (cs' : List VirtualCluster) :
    completeGains [] cs' = [] := rfl

theorem completeGains_cons (c c' : VirtualCluster) (cs cs' : List VirtualCluster) :
    completeGains (c :: cs) (c' :: cs') =
      if IsComplete c then (c'.nodeCount - c.nodeCount) :: completeGains cs cs'
      else completeGains cs cs' := by
  by_cases hc : IsComplete c <;> simp [completeGains, hc]

/-- **The scale-out loop.**  From the `i`-th `CREATE_COMPLETE` cluster on, it changes only
the counts of `CREATE_COMPLETE` clusters, and the `k`-th of them gains `share k`. -/
theorem scaleOutLoop_spec {nodesPerCluster remainingNodes : ℤ} (hper : 0 ≤ nodesPerCluster)
    (i : ℕ) (cs : List VirtualCluster) (m : Magnum) :
    List.Forall₂ (fun c c' => c' = { c with nodeCount := c'.nodeCount } ∧ (¬ IsComplete c → c' = c))
        cs (scaleOutLoop nodesPerCluster remainingNodes i cs m).1 ∧
      completeGains cs (scaleOutLoop nodesPerCluster remainingNodes i cs m).1 =
        (List.range' i (cs.filter IsComplete).length).map
          (share nodesPerCluster remainingNodes) := by
  induction cs generalizing i m with
  | nil => exact ⟨List.Forall₂.nil, rfl⟩
  | cons c cs ih =>
    by_cases hc : IsComplete c
    · have hrange : List.range' i ((c :: cs).filter IsComplete).length =
          i :: List.range' (i + 1) (cs.filter IsComplete).length := by
        rw [List.filter_cons_of_pos (by simpa using hc), List.length_cons, List.range'_succ]
      have hshare : (if (i : ℤ) < remainingNodes then nodesPerCluster + 1 else nodesPerCluster) =
          share nodesPerCluster remainingNodes i := rfl
      simp only [scaleOutLoop, if_pos hc, hshare, hrange, List.map_cons]
      split_ifs with hpos
      · obtain ⟨h1, h2⟩ := ih (i + 1) (scaleMagnumCluster c.name
          (c.nodeCount + share nodesPerCluster remainingNodes i) m)
        refine ⟨.cons ⟨rfl, absurd hc⟩ h1, ?_⟩
        rw [completeGains_cons, if_pos hc, h2, add_sub_cancel_left, share]
      · have hzero : share nodesPerCluster remainingNodes i = 0 := by
          unfold share at hpos ⊢; split_ifs at hpos ⊢ <;> omega
        obtain ⟨h1, h2⟩ := ih (i + 1) m
        refine ⟨.cons ⟨rfl, absurd hc⟩ h1, ?_⟩
        rw [completeGains_cons, if_pos hc, h2, sub_self, hzero]
    · obtain ⟨h1, h2⟩ := ih i m
      simp only [scaleOutLoop, if_neg hc, completeGains_cons, List.filter_cons,
        decide_eq_false hc, h2]
      exact ⟨List.Forall₂.cons ⟨rfl, fun _ => rfl⟩ h1, rfl⟩

/-- The first `n` shares add up to `n * nodes_per_cluster + min(remaining_nodes, n)`. -/
theorem sum_shares (nodesPerCluster : ℤ) {remainingNodes : ℤ} (h0 : 0 ≤ remainingNodes) (n : ℕ) :
    ((List.range n).map (share nodesPerCluster remainingNodes)).sum =
      n * nodesPerCluster + min remainingNodes n := by
  induction n with
  | zero => simpa using h0
  | succ n ih =>
    rw [List.range_succ, List.map_append, List.sum_append, ih, List.map_singleton,
      List.sum_singleton, share, Nat.cast_succ, add_one_mul]
    split_ifs <;> omega

theorem share_bounds (nodesPerCluster remainingNodes : ℤ) (i : ℕ) :
    nodesPerCluster ≤ share nodesPerCluster remainingNodes i ∧
      share nodesPerCluster remainingNodes i ≤ nodesPerCluster + 1 := by
  unfold share; split_ifs <;> omega

/-- **Scaling out.**  With at least one `CREATE_COMPLETE` cluster, `_scale_out_group` changes
only the counts of those clusters; between them they gain `additional_nodes`, and any two gains
differ by one at most. -/
theorem scaleOut_spec (g : VirtualClusterGroup) {additionalNodes : ℤ} (hadd : 0 ≤ additionalNodes)
    (hcomplete : ∃ c ∈ g.clusters, IsComplete c) (m : Magnum) :
    List.Forall₂ (fun c c' => c' = { c with nodeCount := c'.nodeCount } ∧ (¬ IsComplete c → c' = c))
        g.clusters (scaleOutGroup g additionalNodes m).1.clusters ∧
      (completeGains g.clusters (scaleOutGroup g additionalNodes m).1.clusters).sum =
        additionalNodes ∧
      (∀ a ∈ completeGains g.clusters (scaleOutGroup g additionalNodes m).1.clusters,
        ∀ b ∈ completeGains g.clusters (scaleOutGroup g additionalNodes m).1.clusters, a ≤ b + 1) ∧
      TotalsAgree (scaleOutGroup g additionalNodes m).1 := by
  set n := (g.clusters.filter IsComplete).length with hn
  have hpos : 0 < n := List.length_pos.2 fun h => by
    obtain ⟨c, hc, hcc⟩ := hcomplete
    exact (List.filter_eq_nil_iff.1 h) c hc (by simpa using hcc)
  have hn0 : (n : ℤ) ≠ 0 := by omega
  obtain ⟨h1, h2⟩ := @scaleOutLoop_spec _ (additionalNodes % n)
    (Int.ediv_nonneg hadd (Int.natCast_nonneg n)) 0 g.clusters m
  rw [← hn, ← List.range_eq_range'] at h2
  simp only [scaleOutGroup, ← hn, if_neg hpos.ne', recalculateTotals_clusters]
  refine ⟨h1, ?_, ?_, totalsAgree_recalculateTotals _⟩
  · rw [h2, sum_shares _ (Int.emod_nonneg _ hn0),
      min_eq_left (Int.emod_lt_of_pos _ (by omega)).le, Int.ediv_add_emod]
  · rw [h2]
    simp only [List.mem_map]
    rintro _ ⟨i, -, rfl⟩ _ ⟨j, -, rfl⟩
    have := share_bounds (additionalNodes / n) (additionalNodes % n) i
    have := share_bounds (additionalNodes / n) (additionalNodes % n) j
    omega

/-! ## 3. Scaling in -/

/-- `c'` is `c` with at most as many nodes, and one at least. -/
def ScaledDown (c c' : VirtualCluster) : Prop :=
  c' = { c with nodeCount := c'.nodeCount } ∧ c'.nodeCount ≤ c.nodeCount ∧ 1 ≤ c'.nodeCount

theorem ScaledDown.lower {a c : VirtualCluster} (h : ScaledDown a c) {n : ℤ}
    (hle : n ≤ c.nodeCount) (h1 : 1 ≤ n) : ScaledDown a { c with nodeCount := n } := by
  refine ⟨?_, hle.trans h.2.1, h1⟩
  show { c with nodeCount := n } = { a with nodeCount := n }
  rw [h.1]

/-- Writing a cluster lowered further keeps every cluster `ScaledDown` from the original. -/
theorem forall₂_set {orig cs : List VirtualCluster} (h : List.Forall₂ ScaledDown orig cs)
    {j : ℕ} {c : VirtualCluster} (hj : cs[j]? = some c) {n : ℤ} (hle : n ≤ c.nodeCount)
    (h1 : 1 ≤ n) : List.Forall₂ ScaledDown orig (cs.set j { c with nodeCount := n }) := by
  induction h generalizing j with
  | nil => simp at hj
  | @cons a b orig cs hab htl ih =>
    cases j with
    | zero =>
      rw [List.getElem?_cons_zero, Option.some_inj] at hj
      subst hj
      exact .cons (hab.lower hle h1) htl
    | succ j =>
      rw [List.getElem?_cons_succ] at hj
      exact .cons hab (ih hj)

theorem sum_map_set (f : VirtualCluster → ℤ) {cs : List VirtualCluster} {j : ℕ}
    {c : VirtualCluster} (hj : cs[j]? = some c) (c' : VirtualCluster) :
    ((cs.set j c').map f).sum = (cs.map f).sum - f c + f c' := by
  induction cs generalizing j with
  | nil => simp at hj
  | cons a cs ih =>
    cases j with
    | zero =>
      rw [List.getElem?_cons_zero, Option.some_inj] at hj
      subst hj
      simp only [List.set_cons_zero, List.map_cons, List.sum_cons]
      omega
    | succ j =>
      rw [List.getElem?_cons_succ] at hj
      simp only [List.set_cons_succ, List.map_cons, List.sum_cons, ih hj]
      omega

/-- **The scale-in loop.**  Visiting distinct positions of `cs`, with at least one node each,
from `remaining_reduce = r ≥ 0`, it keeps every cluster `ScaledDown` from `orig` and removes
`min(r, Σ (node_count - 1))` nodes over the clusters it visits. -/
theorem scaleInLoop_spec (orig : List VirtualCluster) (L : List (ℕ × VirtualCluster)) (r : ℤ)
    (cs : List VirtualCluster) (m : Magnum) (hr : 0 ≤ r) (hnd : (L.map (·.1)).Nodup)
    (hL : ∀ p ∈ L, cs[p.1]? = some p.2) (hpos : ∀ p ∈ L, 1 ≤ p.2.nodeCount)
    (hcs : List.Forall₂ ScaledDown orig cs) :
    List.Forall₂ ScaledDown orig (scaleInLoop L r cs m).1 ∧
      (cs.map (·.nodeCount)).sum - ((scaleInLoop L r cs m).1.map (·.nodeCount)).sum =
        min r (L.map fun p => p.2.nodeCount - 1).sum := by
  induction L generalizing r cs m with
  | nil => exact ⟨hcs, by simp [scaleInLoop, hr]⟩
  | cons p L ih =>
    obtain ⟨j, c⟩ := p
    have hc1 : 1 ≤ c.nodeCount := hpos _ (List.mem_cons_self _ _)
    have hS : 0 ≤ (L.map fun p => p.2.nodeCount - 1).sum :=
      List.sum_nonneg fun x hx => by
        obtain ⟨q, hq, rfl⟩ := List.mem_map.1 hx
        have := hpos q (List.mem_cons_of_mem _ hq)
        omega
    have hnd' := List.nodup_cons.1 hnd
    have hL' (q) (hq : q ∈ L) (cs' : List VirtualCluster) (c' : VirtualCluster) :
        (cs'.set j c')[q.1]? = cs'[q.1]? :=
      List.getElem?_set_ne fun h => hnd'.1 (List.mem_map.2 ⟨q, hq, h.symm⟩)
    simp only [List.map_cons, List.sum_cons, scaleInLoop]
    split_ifs with h0 h1
    · exact ⟨hcs, by dsimp only; omega⟩
    · -- `reduce_from_this = min(remaining_reduce, current_nodes - 1)` nodes come off `c`
      have hj : cs[j]? = some c := hL _ (List.mem_cons_self _ _)
      obtain ⟨h1', h2'⟩ := ih (r - min r (c.nodeCount - 1))
        (cs.set j { c with nodeCount := c.nodeCount - min r (c.nodeCount - 1) })
        (scaleMagnumCluster c.name (c.nodeCount - min r (c.nodeCount - 1)) m) (by omega) hnd'.2
        (fun q hq => (hL' q hq _ _).trans (hL q (List.mem_cons_of_mem _ hq)))
        (fun q hq => hpos q (List.mem_cons_of_mem _ hq))
        (forall₂_set hcs hj (by omega) (by omega))
      have hsum := sum_map_set (·.nodeCount) hj
        { c with nodeCount := c.nodeCount - min r (c.nodeCount - 1) }
      refine ⟨h1', ?_⟩
      simp only at hsum
      omega
    · obtain ⟨h1', h2'⟩ := ih r cs m hr hnd'.2 (fun q hq => hL q (List.mem_cons_of_mem _ hq))
        (fun q hq => hpos q (List.mem_cons_of_mem _ hq)) hcs
      exact ⟨h1', by omega⟩

theorem byCostDesc_perm (cs : List VirtualCluster) : (byCostDesc cs).Perm cs.enum :=
  List.perm_insertionSort _ _

/-- **Scaling in.**  With every cluster at one node at least, `_scale_in_group` lowers no
count, leaves every cluster at one node at least, and removes
`min(reduce_nodes, Σ (node_count - 1))` nodes. -/
theorem scaleIn_spec (g : VirtualClusterGroup) {reduceNodes : ℤ} (hr : 0 ≤ reduceNodes)
    (hpos : ∀ c ∈ g.clusters, 1 ≤ c.nodeCount) (m : Magnum) :
    List.Forall₂ ScaledDown g.clusters (scaleInGroup g reduceNodes m).1.clusters ∧
      currentTotal g - currentTotal (scaleInGroup g reduceNodes m).1 =
        min reduceNodes (g.clusters.map fun c => c.nodeCount - 1).sum ∧
      TotalsAgree (scaleInGroup g reduceNodes m).1 := by
  have hperm := byCostDesc_perm g.clusters
  have hmem (p) (hp : p ∈ byCostDesc g.clusters) : g.clusters[p.1]? = some p.2 :=
    List.mem_enum_iff_getElem?.1 (hperm.subset hp)
  obtain ⟨h1, h2⟩ := scaleInLoop_spec g.clusters (byCostDesc g.clusters) reduceNodes g.clusters m
    hr (by rw [(hperm.map _).nodup_iff, List.enum_map_fst]; exact List.nodup_range _) hmem
    (fun p hp => hpos _ (List.getElem?_mem (hmem p hp)))
    (List.forall₂_same.2 fun c hc => ⟨rfl, le_rfl, hpos c hc⟩)
  have hS : ((byCostDesc g.clusters).map fun p => p.2.nodeCount - 1).sum =
      (g.clusters.map fun c => c.nodeCount - 1).sum := by
    rw [(hperm.map _).sum_eq]
    conv_rhs => rw [← List.enum_map_snd g.clusters, List.map_map]
    rfl
  exact ⟨h1, by rw [← hS]; exact h2, totalsAgree_recalculateTotals _⟩

/-! ## 4. `scale_group` -/

/-- `scale_group` keeps `total_nodes` the sum of the counts: both scalings recalculate it, and
the paths that change nothing leave it as it was. -/
theorem TotalsAgree.scaleFound {g : VirtualClusterGroup} (h : TotalsAgree g)
    (scalingPolicy : ScalingPolicy) (m : Magnum) :
    TotalsAgree (scaleFound g scalingPolicy m).1 := by
  unfold OpenKCloud.VirtualGroup.scaleFound
  dsimp only
  split_ifs
  · unfold scaleOutGroup
    dsimp only
    split_ifs
    exacts [h, totalsAgree_recalculateTotals _]
  exacts [totalsAgree_recalculateTotals _, h, h]

theorem scaleGroup_of_get? {mgr : Manager} {groupName : String} {g : VirtualClusterGroup}
    (hg : mgr.virtualGroups.get? groupName = some g) (scalingPolicy : ScalingPolicy) :
    mgr.scaleGroup groupName scalingPolicy =
      (true, { mgr with
        virtualGroups := mgr.virtualGroups.set groupName (scaleFound g scalingPolicy mgr.magnum).1
        magnum := (scaleFound g scalingPolicy mgr.magnum).2 }) := by
  rw [Manager.scaleGroup, hg]

/-- **A horizontal `scale_group`**, on a group of clusters with one node at least each whose
`total_nodes` is the sum of their counts, to a target `t`, whatever Magnum answers.  Scaling
out, when some cluster is `CREATE_COMPLETE`: only those clusters change, gaining
`t - current` nodes between them, any two gains at most one apart.  Scaling in: no count goes
up or below one node, and `min(current - t, Σ (node_count - 1))` nodes go.  In every case
`total_nodes` is the sum of the counts afterwards. -/
theorem scaleGroup_horizontal (mgr : Manager) (groupName : String) (g : VirtualClusterGroup)
    (scalingPolicy : ScalingPolicy) (t : ℤ) (hg : mgr.virtualGroups.get? groupName = some g)
    (hpos : ∀ c ∈ g.clusters, 1 ≤ c.nodeCount) (hagree : TotalsAgree g)
    (hh : scalingPolicy.type.getD "horizontal" = "horizontal")
    (ht : scalingPolicy.targetTotalNodes.getD g.totalNodes = t) :
    (mgr.scaleGroup groupName scalingPolicy).1 = true ∧
    ∃ g', (mgr.scaleGroup groupName scalingPolicy).2.virtualGroups.get? groupName = some g' ∧
      (currentTotal g < t → (∃ c ∈ g.clusters, IsComplete c) →
        List.Forall₂ (fun c c' => c' = { c with nodeCount := c'.nodeCount } ∧
          (¬ IsComplete c → c' = c)) g.clusters g'.clusters ∧
        (completeGains g.clusters g'.clusters).sum = t - currentTotal g ∧
        ∀ a ∈ completeGains g.clusters g'.clusters,
          ∀ b ∈ completeGains g.clusters g'.clusters, a ≤ b + 1) ∧
      (t < currentTotal g →
        List.Forall₂ (fun c c' => c' = { c with nodeCount := c'.nodeCount } ∧
          c'.nodeCount ≤ c.nodeCount ∧ 1 ≤ c'.nodeCount) g.clusters g'.clusters ∧
        currentTotal g - currentTotal g' =
          min (currentTotal g - t) (g.clusters.map fun c => c.nodeCount - 1).sum) ∧
      g'.totalNodes = currentTotal g' := by
  rw [scaleGroup_of_get? hg]
  refine ⟨rfl, _, (Dict.get?_set ..).trans (if_pos rfl), fun hlt hc => ?_, fun hlt => ?_,
    hagree.scaleFound scalingPolicy mgr.magnum⟩
  · have hout : scaleFound g scalingPolicy mgr.magnum =
        scaleOutGroup g (t - currentTotal g) mgr.magnum := by
      simp only [scaleFound, hh, ht, if_true, if_pos hlt]
    obtain ⟨h1, h2, h3, -⟩ := scaleOut_spec g (show 0 ≤ t - currentTotal g by omega) hc mgr.magnum
    rw [hout]
    exact ⟨h1, h2, h3⟩
  · have hin : scaleFound g scalingPolicy mgr.magnum =
        scaleInGroup g (currentTotal g - t) mgr.magnum := by
      simp only [scaleFound, hh, ht, if_true, if_neg (not_lt.2 hlt.le), if_pos hlt]
    obtain ⟨h1, h2, -⟩ := scaleIn_spec g (show 0 ≤ currentTotal g - t by omega) hpos mgr.magnum
    rw [hin]
    exact ⟨h1, h2⟩

/-- Two `CREATE_COMPLETE` clusters of one and three nodes, and one still being created. -/
def sampleGroup : VirtualClusterGroup :=
  (((init "g" "mixed").addCluster ⟨"c1", "CREATE_COMPLETE", 1, 1⟩).addCluster
    ⟨"c2", "CREATE_COMPLETE", 3, 2⟩).addCluster ⟨"c3", "CREATE_IN_PROGRESS", 2, 1⟩

/-- A manager holding `sampleGroup`, Magnum agreeing on its counts and answering `updates`. -/
def sampleManager (updates : List Bool) : Manager :=
  ⟨[("g", sampleGroup)], ⟨[("c1", 1), ("c2", 3), ("c3", 2)], updates⟩⟩

theorem scaleGroup_horizontal_sampleManager :
    (sampleManager [true, true]).virtualGroups.get? "g" = some sampleGroup ∧
    (∀ c ∈ sampleGroup.clusters, 1 ≤ c.nodeCount) ∧ TotalsAgree sampleGroup ∧
    (ScalingPolicy.mk (some "horizontal") (some 9)).type.getD "horizontal" = "horizontal" ∧
    (ScalingPolicy.mk (some "horizontal") (some 9)).targetTotalNodes.getD sampleGroup.totalNodes =
      9 ∧
    (((sampleManager [true, true]).scaleGroup "g" ⟨some "horizontal", some 9⟩).1 = true ∧
    ∃ g', ((sampleManager [true, true]).scaleGroup "g" ⟨some "horizontal", some 9⟩
        ).2.virtualGroups.get? "g" = some g' ∧
      (currentTotal sampleGroup < 9 → (∃ c ∈ sampleGroup.clusters, IsComplete c) →
        List.Forall₂ (fun c c' => c' = { c with nodeCount := c'.nodeCount } ∧
          (¬ IsComplete c → c' = c)) sampleGroup.clusters g'.clusters ∧
        (completeGains sampleGroup.clusters g'.clusters).sum = 9 - currentTotal sampleGroup ∧
        ∀ a ∈ completeGains sampleGroup.clusters g'.clusters,
          ∀ b ∈ completeGains sampleGroup.clusters g'.clusters, a ≤ b + 1) ∧
      (9 < currentTotal sampleGroup →
        List.Forall₂ (fun c c' => c' = { c with nodeCount := c'.nodeCount } ∧
          c'.nodeCount ≤ c.nodeCount ∧ 1 ≤ c'.nodeCount) sampleGroup.clusters g'.clusters ∧
        currentTotal sampleGroup - currentTotal g' =
          min (currentTotal sampleGroup - 9)
            (sampleGroup.clusters.map fun c => c.nodeCount - 1).sum) ∧
      g'.totalNodes = currentTotal g') :=
  ⟨rfl, by decide, by decide, rfl, rfl,
    scaleGroup_horizontal (sampleManager [true, true]) "g" sampleGroup ⟨some "horizontal", some 9⟩ 9
      rfl (by decide) (by decide) rfl rfl⟩

/-! ## 5. Magnum's answers -/

theorem scaleOutLoop_fst (nodesPerCluster remainingNodes : ℤ) (i : ℕ) (cs : List VirtualCluster)
    (m m' : Magnum) :
    (scaleOutLoop nodesPerCluster remainingNodes i cs m).1 =
      (scaleOutLoop nodesPerCluster remainingNodes i cs m').1 := by
  induction cs generalizing i m m' with
  | nil => rfl
  | cons c cs ih =>
    simp only [scaleOutLoop]
    split_ifs <;> simp only [ih _ _ m]

theorem scaleInLoop_fst (L : List (ℕ × VirtualCluster)) (r : ℤ) (cs : List VirtualCluster)
    (m m' : Magnum) : (scaleInLoop L r cs m).1 = (scaleInLoop L r cs m').1 := by
  induction L generalizing r cs m m' with
  | nil => rfl
  | cons p L ih =>
    obtain ⟨j, c⟩ := p
    simp only [scaleInLoop]
    split_ifs <;> simp only [ih _ _ _ m]

/-- **The group's records ignore Magnum.**  What `scale_group` writes into the clusters and
`total_nodes` is the same whatever Magnum answers, so a refused update is recorded as done. -/
theorem scaleFound_fst_eq (g : VirtualClusterGroup) (scalingPolicy : ScalingPolicy)
    (m m' : Magnum) : (scaleFound g scalingPolicy m).1 = (scaleFound g scalingPolicy m').1 := by
  simp only [scaleFound, scaleOutGroup, scaleInGroup]
  split_ifs <;> simp only [scaleOutLoop_fst _ _ _ _ m m', scaleInLoop_fst _ _ _ m m']

/-- Scaling `sampleGroup` from six to nine nodes asks Magnum for three nodes on `c1` and four
on `c2`.  When Magnum refuses the first, the group still records three nodes on `c1` and nine
in all, while Magnum keeps `c1` at one node.  Had Magnum accepted, it would hold three. -/
theorem scaleGroup_records_failed_update :
    (((sampleManager [false, true]).scaleGroup "g" ⟨some "horizontal", some 9⟩).2.virtualGroups.get?
        "g").map (fun g => (g.clusters.map (·.nodeCount), g.totalNodes)) = some ([3, 4, 2], 9) ∧
      ((sampleManager [false, true]).scaleGroup "g" ⟨some "horizontal", some 9⟩
        ).2.magnum.nodeCounts.get? "c1" = some 1 ∧
      ((sampleManager [true, true]).scaleGroup "g" ⟨some "horizontal", some 9⟩
        ).2.magnum.nodeCounts.get? "c1" = some 3 := by
  decide

end OpenKCloud.VirtualGroup
