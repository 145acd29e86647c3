import OpenKCloud.Dict
import Mathlib.Algebra.BigOperators.Group.List
import Mathlib.Algebra.Ring.Int.Defs
/-
# The cluster group orchestrator

`kcloud-infra-optimization/cluster_group_orchestrator.py` keeps `self.groups`, a dictionary
from group id to `ClusterGroupInfo`, and changes it through `create_group`,
`add_cluster_to_group`, `remove_cluster_from_group`, `delete_group` and
`execute_optimization_command`, whose `scale_group` command calls the two in between.  Each
group caches two counters of its cluster list, `active_clusters` and `total_nodes`.

Every OpenStack call goes through `OpenStackClusterCRUD`, whose answers the orchestrator cannot
predict: `create_cluster` returns a cluster or raises, `delete_cluster` returns `True` or
`False` or raises.  `Crud` is the script of those answers, consumed one call at a time, so the
runs from every script are the runs under every pattern of success, failure and exception.

Python mutates a group IN PLACE; here an update of a group writes it back with `Dict.set`,
which keeps its position in `groups`.  Every coroutine runs to its end before the next command
(nothing here awaits anything but other coroutines of the orchestrator), so a command is one
step.
-/

namespace OpenKCloud.Orchestrator

/-! ## 1. Groups and clusters -/

/-- `GroupType`. -/
inductive GroupType where
  | gpuIntensive
  | cpuCompute
  | mixedWorkload
  | development
  | production
  deriving DecidableEq, Repr

/-- `GroupStatus`. -/
inductive GroupStatus where
  | creating
  | active
  | scaling
  | consolidating
  | deleting
  | error
  deriving DecidableEq, Repr

/-- `ClusterGroupConfig`: the fields the orchestrator reads. -/
structure ClusterGroupConfig where
  name : String
  groupType : GroupType
  minClusters : ℤ := 1
  deriving DecidableEq

/-- The `ClusterInfo` that `create_cluster` returns: the fields copied into the group. -/
structure ClusterInfo where
  id : String
  name : String
  masterCount : ℤ
  nodeCount : ℤ
  deriving DecidableEq

/-- One `cluster_info` dictionary of `group.clusters`. -/
structure ClusterEntry where
  id : String
  name : String
  nodeCount : ℤ
  masterCount : ℤ
  workloadAssignments : List String
  deriving DecidableEq

/-- `ClusterGroupInfo`, without its timestamps and metrics. -/
structure ClusterGroupInfo where
  id : String
  name : String
  groupType : GroupType
  status : GroupStatus
  clusters : List ClusterEntry
  totalNodes : ℤ
  activeClusters : ℤ
  config : ClusterGroupConfig
  deriving DecidableEq

/-- A cluster's share of `total_nodes`: `node_count + master_count`. -/
def ClusterEntry.nodes (c : ClusterEntry) : ℤ := c.nodeCount + c.masterCount

/-- The cached counters agree with the cluster list. -/
def ClusterGroupInfo.Consistent (g : ClusterGroupInfo) : Prop :=
  g.activeClusters = g.clusters.length ∧ g.totalNodes = (g.clusters.map ClusterEntry.nodes).sum

instance : DecidablePred ClusterGroupInfo.Consistent :=
  fun _ => inferInstanceAs (Decidable (_ ∧ _))

/-- The body of `add_cluster_to_group` once `create_cluster` returned `c`. -/
def ClusterGroupInfo.addCluster (g : ClusterGroupInfo) (c : ClusterInfo) : ClusterGroupInfo :=
  { g with
    clusters := g.clusters ++ [⟨c.id, c.name, c.nodeCount, c.masterCount, []⟩]
    activeClusters := g.activeClusters + 1
    totalNodes := g.totalNodes + (c.nodeCount + c.masterCount) }

/-- The body of `remove_cluster_from_group` once `delete_cluster` returned `True`:
`list.remove` drops the first entry equal to `c`. -/
def ClusterGroupInfo.removeCluster (g : ClusterGroupInfo) (c : ClusterEntry) : ClusterGroupInfo :=
  { g with
    clusters := g.clusters.erase c
    activeClusters := g.activeClusters - 1
    totalNodes := g.totalNodes - (c.nodeCount + c.masterCount) }

/-! ## 2. The orchestrator and the CRUD layer -/

/-- What `OpenStackClusterCRUD` will answer, in call order: the clusters `create_cluster`
returns and the results `delete_cluster` returns, `none` where the call raises.  A call past
the end of its list raises. -/
structure Crud where
  creates : List (Option ClusterInfo)
  deletes : List (Option Bool)

/-- The orchestrator's `groups` and the CRUD layer it calls. -/
structure World where
  groups : Dict ClusterGroupInfo
  crud : Crud

/-- `ClusterGroupOrchestrator()`: no group yet. -/
def init (crud : Crud) : World := ⟨[], crud⟩

/-- `self.crud.create_cluster(config)`. -/
def World.createCluster (w : World) : Option ClusterInfo × World :=
  match w.crud.creates with
  | [] => (none, w)
  | r :: rest => (r, { w with crud := { w.crud with creates := rest } })

/-- `self.crud.delete_cluster(cluster_id, force)`. -/
def World.deleteCluster (w : World) : Option Bool × World :=
  match w.crud.deletes with
  | [] => (none, w)
  | r :: rest => (r, { w with crud := { w.crud with deletes := rest } })

/-- Write a group back into `groups`. -/
def World.setGroup (w : World) (groupId : String) (g : ClusterGroupInfo) : World :=
  { w with groups := w.groups.set groupId g }

@[simp] theorem createCluster_groups (w : World) : w.createCluster.2.groups = w.groups := by
  unfold World.createCluster; split <;> rfl

@[simp] theorem deleteCluster_groups (w : World) : w.deleteCluster.2.groups = w.groups := by
  unfold World.deleteCluster; split <;> rfl

@[simp] theorem setGroup_groups (w : World) (groupId : String) (g : ClusterGroupInfo) :
    (w.setGroup groupId g).groups = w.groups.set groupId g := rfl

/-! ## 3. Adding and removing one cluster -/

/-- `add_cluster_to_group(group_id, cluster_config)`.  The `ClusterConfig` built for
`create_cluster` does not change what the script answers. -/
def addClusterToGroup (groupId : String) (w : World) : Bool × World :=
  match w.groups.get? groupId with
  | none => (false, w)
  | some g =>
    match w.createCluster with
    | (some c, w) => (true, w.setGroup groupId (g.addCluster c))
    | (none, w) => (false, w)

/-- `remove_cluster_from_group(group_id, cluster_id, migrate_workloads)`.  Its migration,
`_migrate_workloads_from_cluster`, is `pass`. -/
def removeClusterFromGroup (groupId clusterId : String) (w : World) : Bool × World :=
  match w.groups.get? groupId with
  | none => (false, w)
  | some g =>
    match g.clusters.find? (·.id = clusterId) with
    | none => (false, w)
    | some c =>
      match w.deleteCluster with
      | (some true, w) => (true, w.setGroup groupId (g.removeCluster c))
      | (_, w) => (false, w)

/-- `for _ in range(n): await self.add_cluster_to_group(group_id, ...)`. -/
def addClusters (groupId : String) : ℕ → World → World
  | 0, w => w
  | n + 1, w => addClusters groupId n (addClusterToGroup groupId w).2

/-- `for cluster_info in clusters: await self.remove_cluster_from_group(group_id,
cluster_info['id'])`. -/
def removeClusters (groupId : String) : List ClusterEntry → World → World
  | [], w => w
  | c :: cs, w => removeClusters groupId cs (removeClusterFromGroup groupId c.id w).2

/-! ## 4. Creating and deleting a group -/

/-- `f"group-{config.name}-{datetime.now().strftime('%Y%m%d%H%M%S')}"`, the clock reading
`now`. -/
def groupIdOf (config : ClusterGroupConfig) (now : String) : String :=
  "group-" ++ config.name ++ "-" ++ now

/-- `_ensure_min_clusters(group_id)`: `min_clusters - len(group.clusters)` calls of
`add_cluster_to_group`.  `create_group` has just stored the group, so `self.groups[group_id]`
finds it. -/
def ensureMinClusters (groupId : String) (w : World) : World :=
  match w.groups.get? groupId with
  | none => w
  | some g => addClusters groupId (g.config.minClusters - g.clusters.length).toNat w

/-- `create_group(config)`.  `add_cluster_to_group` catches every exception, so the body never
raises; the group it returns is the object stored under `group_id`. -/
def createGroup (config : ClusterGroupConfig) (now : String) (w : World) :
    ClusterGroupInfo × World :=
  let groupId := groupIdOf config now
  let info : ClusterGroupInfo :=
    ⟨groupId, config.name, config.groupType, .creating, [], 0, 0, config⟩
  let w := w.setGroup groupId info
  let w := if 0 < config.minClusters then ensureMinClusters groupId w else w
  let g := { (w.groups.get? groupId).getD info with status := .active }
  (g, w.setGroup groupId g)

/-- The loop of `delete_group` over `group.clusters.copy()`, with `live` the group's list as
the loop mutates it: the live list when the loop ends (`.ok`), or when a `delete_cluster`
raised with `force` off and the exception left the loop (`.error`). -/
def deleteClusters (force : Bool) : List ClusterEntry → List ClusterEntry → World →
    Except (List ClusterEntry) (List ClusterEntry) × World
  | [], live, w => (.ok live, w)
  | c :: cs, live, w =>
    match w.deleteCluster with
    | (some true, w) => deleteClusters force cs (live.erase c) w
    | (some false, w) => deleteClusters force cs live w
    | (none, w) => if force then deleteClusters force cs live w else (.error live, w)

/-- `delete_group(group_id, force)`.  The loop removes clusters from the live group before the
`del`; when it re-raises, the handler marks that same group `ERROR` and leaves it in
`groups`. -/
def deleteGroup (groupId : String) (force : Bool) (w : World) : Bool × World :=
  match w.groups.get? groupId with
  | none => (false, w)
  | some g =>
    let g := { g with status := .deleting }
    match deleteClusters force g.clusters g.clusters w with
    | (.ok _, w) => (true, { w with groups := w.groups.erase groupId })
    | (.error live, w) => (false, w.setGroup groupId { g with clusters := live, status := .error })

/-! ## 5. Commands -/

/-- A command for `execute_optimization_command`: `command.get('type')`,
`command.get('group_id')` and `command.get('target_clusters')`. -/
structure OptimizationCommand where
  type : Option String
  groupId : Option String
  targetClusters : Option ℤ
  deriving DecidableEq

/-- The dictionary `execute_optimization_command` returns, without its timestamp. -/
inductive CommandResult where
  | scaled (groupId : String) (newClusterCount : ℕ)
  | completed (message : String)
  | failed (error : String)
  deriving DecidableEq

/-- `str(x)` of an optional string. -/
def pyStr : Option String → String
  | none => "None"
  | some s => s

/-- `l[t:]`: the entries from index `t` on, a negative `t` counting from the end. -/
def pySliceFrom {α : Type} (l : List α) (t : ℤ) : List α :=
  if 0 ≤ t then l.drop t.toNat else l.drop (l.length - t.natAbs)

/-- `_handle_scale_group_command(command)`: its result, or the message of the exception it
raises. -/
def handleScaleGroupCommand (command : OptimizationCommand) (w : World) :
    Except String CommandResult × World :=
  match command.groupId with
  | none => (.error "Group not found: None", w)
  | some groupId =>
    match w.groups.get? groupId with
    | none => (.error ("Group not found: " ++ groupId), w)
    | some g =>
      match command.targetClusters with
      | none => (.error "'>' not supported between instances of 'NoneType' and 'int'", w)
      | some t =>
        let current : ℤ := g.clusters.length
        let w :=
          if current < t then addClusters groupId (t - current).toNat w
          else if t < current then removeClusters groupId (pySliceFrom g.clusters t) w
          else w
        (.ok (.scaled groupId (((w.groups.get? groupId).map (·.clusters.length)).getD 0)), w)

/-- `execute_optimization_command(command)`. -/
def executeOptimizationCommand (command : OptimizationCommand) (w : World) :
    CommandResult × World :=
  match command.type with
  | some "scale_group" =>
    match handleScaleGroupCommand command w with
    | (.ok r, w) => (r, w)
    | (.error e, w) => (.failed e, w)
  | some "consolidate_groups" => (.completed "Consolidation completed", w)
  | some "migrate_workloads" => (.completed "Migration completed", w)
  | some "optimize_placement" => (.completed "Placement optimized", w)
  | t => (.failed ("Unknown command type: " ++ pyStr t), w)

/-- `get_group(group_id)`. -/
def getGroup (groupId : String) (w : World) : Option ClusterGroupInfo := w.groups.get? groupId

/-- `list_groups(group_type)`, in the dictionary's order. -/
def listGroups (groupType : Option GroupType) (w : World) : List ClusterGroupInfo :=
  let groups := w.groups.map Prod.snd
  match groupType with
  | none => groups
  | some t => groups.filter (·.groupType = t)

/-- The orchestrator's entry points that change `groups`. -/
inductive Command where
  | createGroup (config : ClusterGroupConfig) (now : String)
  | addClusterToGroup (groupId : String)
  | removeClusterFromGroup (groupId clusterId : String)
  | deleteGroup (groupId : String) (force : Bool)
  | executeOptimizationCommand (command : OptimizationCommand)

/-- One command, run to its end. -/
def step : Command → World → World
  | .createGroup config now, w => (createGroup config now w).2
  | .addClusterToGroup groupId, w => (addClusterToGroup groupId w).2
  | .removeClusterFromGroup groupId clusterId, w => (removeClusterFromGroup groupId clusterId w).2
  | .deleteGroup groupId force, w => (deleteGroup groupId force w).2
  | .executeOptimizationCommand command, w => (executeOptimizationCommand command w).2

/-- Commands one after another. -/
def run (cmds : List Command) (w : World) : World := cmds.foldl (fun w c => step c w) w

/-- The states the orchestrator reaches from a fresh start, under any CRUD script. -/
inductive Reachable : World → Prop where
  | init (crud : Crud) : Reachable (init crud)
  | step {w : World} (c : Command) : Reachable w → Reachable (step c w)

theorem Reachable.run {w : World} (h : Reachable w) (cmds : List Command) :
    Reachable (Orchestrator.run cmds w) := by
  induction cmds generalizing w with
  | nil => exact h
  | cons c cmds ih => exact ih (h.step c)

end OpenKCloud.Orchestrator
