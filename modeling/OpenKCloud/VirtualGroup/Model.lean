import OpenKCloud.Dict
import Mathlib.Data.List.Sort
import Mathlib.Algebra.Order.Ring.Rat
/-
# Virtual cluster groups and their scaling

`kcloud-infra-optimization/virtual_cluster_group_manager.py` keeps named groups of Magnum
clusters.  A group holds its clusters (one dictionary each) and two totals, `total_nodes` and
`total_cost`, that `_recalculate_totals` recomputes from the clusters.

`scale_group` brings a group's node count to a target.  Scaling out spreads the missing nodes
evenly over the `CREATE_COMPLETE` clusters (`nodes_per_cluster`, one more for the first
`remaining_nodes` of them).  Scaling in visits the clusters from the most to the least costly
per node and takes from each all it can spare above one node, until enough are removed.  Each
new count goes to Magnum through `_scale_magnum_cluster`, which catches every exception, and is
written into the cluster's dictionary whatever Magnum answered.

In this snapshot of the source the docstrings of several methods are misplaced, so that the
bodies of `scale_group` and `_scale_in_group` stand inside string literals; the model follows
the evident code.  A cluster is a value here: the dictionaries of one group are distinct
objects, shared with no other group.  A cluster's dictionary is modelled with the fields the
scaling reads (every cluster `create_group_with_clusters` adds carries them).

Magnum is a map from cluster names to node counts, with `updates`, the script of its answers
to `_scale_magnum_cluster`: `true` where `clusters.get` and `clusters.update` both return,
`false` where one of them raises.  An exhausted script raises.
-/

namespace OpenKCloud.VirtualGroup

/-! ## 1. Groups -/

/-- The fields of a cluster's dictionary that scaling reads: `name`, `status`, `node_count` and
`hourly_cost`. -/
structure VirtualCluster where
  name : String
  status : String
  nodeCount : ℤ
  hourlyCost : ℚ

/-- `VirtualClusterGroup`, without `policy` and `created_at`, which only `get_status` reads. -/
structure VirtualClusterGroup where
  name : String
  groupType : String
  clusters : List VirtualCluster
  totalNodes : ℤ
  totalCost : ℚ

namespace VirtualClusterGroup

/-- `VirtualClusterGroup(name, group_type, policy)`. -/
def init (name groupType : String) : VirtualClusterGroup := ⟨name, groupType, [], 0, 0⟩

/-- `add_cluster(cluster_info)`. -/
def addCluster (g : VirtualClusterGroup) (c : VirtualCluster) : VirtualClusterGroup :=
  { g with clusters := g.clusters ++ [c], totalNodes := g.totalNodes + c.nodeCount,
           totalCost := g.totalCost + c.hourlyCost }

/-- `_recalculate_totals()`. -/
def recalculateTotals (g : VirtualClusterGroup) : VirtualClusterGroup :=
  { g with totalNodes := (g.clusters.map (·.nodeCount)).sum,
           totalCost := (g.clusters.map (·.hourlyCost)).sum }

@[simp] theorem recalculateTotals_clusters (g : VirtualClusterGroup) :
    g.recalculateTotals.clusters = g.clusters := rfl

@[simp] theorem recalculateTotals_totalNodes (g : VirtualClusterGroup) :
    g.recalculateTotals.totalNodes = (g.clusters.map (·.nodeCount)).sum := rfl

/-- `remove_cluster(cluster_name)`. -/
def removeCluster (g : VirtualClusterGroup) (clusterName : String) : VirtualClusterGroup :=
  recalculateTotals { g with clusters := g.clusters.filter (·.name != clusterName) }

end VirtualClusterGroup

/-! ## 2. Magnum -/

/-- Magnum's node counts, and the script of its answers to `_scale_magnum_cluster`. -/
structure Magnum where
  nodeCounts : Dict ℤ
  updates : List Bool

/-- `_scale_magnum_cluster(cluster_name, new_node_count)`: it returns `None` either way. -/
def scaleMagnumCluster (clusterName : String) (newNodeCount : ℤ) (m : Magnum) : Magnum :=
  match m.updates with
  | true :: rest => ⟨m.nodeCounts.set clusterName newNodeCount, rest⟩
  | false :: rest => ⟨m.nodeCounts, rest⟩
  | [] => m

/-! ## 3. Scaling out -/

/-- `c.get('status') == 'CREATE_COMPLETE'`. -/
def IsComplete (c : VirtualCluster) : Prop := c.status = "CREATE_COMPLETE"

instance : DecidablePred IsComplete := fun c => inferInstanceAs (Decidable (c.status = _))

/-- The loop of `_scale_out_group` over `enumerate(clusters)`, run along `group.clusters`:
`i` counts the `CREATE_COMPLETE` clusters before this one, and the others are skipped, as the
list comprehension `clusters` leaves them out. -/
def scaleOutLoop (nodesPerCluster remainingNodes : ℤ) :
    ℕ → List VirtualCluster → Magnum → List VirtualCluster × Magnum
  | _, [], m => ([], m)
  | i, c :: cs, m =>
    if IsComplete c then
      let additionalForThis := if (i : ℤ) < remainingNodes then nodesPerCluster + 1
        else nodesPerCluster
      if 0 < additionalForThis then
        let newCount := c.nodeCount + additionalForThis
        let r := scaleOutLoop nodesPerCluster remainingNodes (i + 1) cs
          (scaleMagnumCluster c.name newCount m)
        ({ c with nodeCount := newCount } :: r.1, r.2)
      else
        let r := scaleOutLoop nodesPerCluster remainingNodes (i + 1) cs m
        (c :: r.1, r.2)
    else
      let r := scaleOutLoop nodesPerCluster remainingNodes i cs m
      (c :: r.1, r.2)

/-- `_scale_out_group(group, additional_nodes)`. -/
def scaleOutGroup (g : VirtualClusterGroup) (additionalNodes : ℤ) (m : Magnum) :
    VirtualClusterGroup × Magnum :=
  let n := (g.clusters.filter IsComplete).length
  if n = 0 then (g, m) else
  let r := scaleOutLoop (additionalNodes / n) (additionalNodes % n) 0 g.clusters m
  ({ g with clusters := r.1 }.recalculateTotals, r.2)

/-! ## 4. Scaling in -/

/-- The sort key of `_scale_in_group`: `hourly_cost / max(node_count, 1)`. -/
def costPerNode (c : VirtualCluster) : ℚ := c.hourlyCost / (max c.nodeCount 1 : ℤ)

/-- `sorted(group.clusters, key=..., reverse=True)`, each cluster with its position in
`group.clusters`: a stable sort, most costly per node first. -/
def byCostDesc (cs : List VirtualCluster) : List (ℕ × VirtualCluster) :=
  cs.enum.insertionSort fun a b => costPerNode b.2 ≤ costPerNode a.2

/-- The loop of `_scale_in_group` over the sorted clusters; a new count is written into the
cluster at its position in `clusters`. -/
def scaleInLoop : List (ℕ × VirtualCluster) → ℤ → List VirtualCluster → Magnum →
    List VirtualCluster × Magnum
  | [], _, cs, m => (cs, m)
  | (j, cluster) :: rest, remainingReduce, cs, m =>
    if remainingReduce ≤ 0 then (cs, m) else
    let currentNodes := cluster.nodeCount
    if 1 < currentNodes then
      let reduceFromThis := min remainingReduce (currentNodes - 1)
      let newCount := currentNodes - reduceFromThis
      scaleInLoop rest (remainingReduce - reduceFromThis)
        (cs.set j { cluster with nodeCount := newCount })
        (scaleMagnumCluster cluster.name newCount m)
    else scaleInLoop rest remainingReduce cs m

/-- `_scale_in_group(group, reduce_nodes)`. -/
def scaleInGroup (g : VirtualClusterGroup) (reduceNodes : ℤ) (m : Magnum) :
    VirtualClusterGroup × Magnum :=
  let r := scaleInLoop (byCostDesc g.clusters) reduceNodes g.clusters m
  ({ g with clusters := r.1 }.recalculateTotals, r.2)

/-! ## 5. `scale_group` -/

/-- The keys of `scaling_policy` that `scale_group` reads. -/
structure ScalingPolicy where
  type : Option String
  targetTotalNodes : Option ℤ

/-- `sum(c.get('node_count', 0) for c in group.clusters)`. -/
def currentTotal (g : VirtualClusterGroup) : ℤ := (g.clusters.map (·.nodeCount)).sum

/-- The body of `scale_group` once the group is found. -/
def scaleFound (g : VirtualClusterGroup) (scalingPolicy : ScalingPolicy) (m : Magnum) :
    VirtualClusterGroup × Magnum :=
  let scalingType := scalingPolicy.type.getD "horizontal"
  let targetNodes := scalingPolicy.targetTotalNodes.getD g.totalNodes
  if scalingType = "horizontal" then
    if currentTotal g < targetNodes then scaleOutGroup g (targetNodes - currentTotal g) m
    else if targetNodes < currentTotal g then scaleInGroup g (currentTotal g - targetNodes) m
    else (g, m)
  else (g, m)

/-- `VirtualClusterGroupManager`: `virtual_groups` and the Magnum client's cloud. -/
structure Manager where
  virtualGroups : Dict VirtualClusterGroup
  magnum : Magnum

/-- `create_virtual_group(name, group_type, policy)`. -/
def Manager.createVirtualGroup (mgr : Manager) (name groupType : String) :
    Option VirtualClusterGroup × Manager :=
  if (mgr.virtualGroups.get? name).isSome then (none, mgr) else
  let g := VirtualClusterGroup.init name groupType
  (some g, { mgr with virtualGroups := mgr.virtualGroups.set name g })

/-- `scale_group(group_name, scaling_policy)`; the group is changed in place. -/
def Manager.scaleGroup (mgr : Manager) (groupName : String) (scalingPolicy : ScalingPolicy) :
    Bool × Manager :=
  match mgr.virtualGroups.get? groupName with
  | none => (false, mgr)
  | some g =>
    let r := scaleFound g scalingPolicy mgr.magnum
    (true, { mgr with virtualGroups := mgr.virtualGroups.set groupName r.1, magnum := r.2 })

end OpenKCloud.VirtualGroup
