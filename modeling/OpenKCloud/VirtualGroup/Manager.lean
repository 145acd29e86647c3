import OpenKCloud.VirtualGroup.Scale
/-
# The virtual group manager over whole runs

Beyond `create_virtual_group` and `scale_group` (`Model.lean`), `VirtualClusterGroupManager` has
three entry points:

* `create_group_with_clusters(group_name, group_config)` creates the group, asks Magnum for one
  cluster per entry of `group_config.get('clusters', [])`, and adds each cluster Magnum created
  to the group, `CREATE_IN_PROGRESS`, with the cost `_estimate_cluster_cost` gives it;
* `get_group_status(group_name)` copies each cluster's status from Magnum into the group and
  returns `group.get_status()`;
* `delete_virtual_group(group_name, delete_clusters)` asks Magnum to delete the group's clusters
  and drops the group.

The group `create_virtual_group` stores is the object `create_group_with_clusters` then fills,
so the model writes the filled group back under its name.  A cluster spec without `name` raises
`KeyError` in the middle of the loop: the group stays registered with the clusters added before.
As in `Model.lean`, the bodies of `delete_virtual_group` and `create_group_with_clusters` are cut
by misplaced docstring quotes in this snapshot (an `except` and an `else` lost their printing
statements); the evident code is modelled.

* `reachable_manager_ok`: in every state the manager reaches, whatever Magnum answers, each
  name is bound once, to a group of that name whose `total_nodes` and `total_cost` are the sums
  over its clusters; so `get_group_status` reports totals that match the clusters it reports;
* `scaleGroup_keeps_costs`: `scale_group` changes node counts only.  The hourly costs estimated
  when the clusters were created, and the group's `total_cost`, stay as they were.
-/

namespace OpenKCloud.VirtualGroup

open VirtualClusterGroup

/-! ## 1. Creating a group with its clusters -/

/-- An entry of `group_config['clusters']`, with the keys the manager reads:
`cluster_spec['name']` (`none` where it raises `KeyError`), `spec.get('template')` and
`spec.get('node_count')`. -/
structure ClusterSpec where
  name : Option String
  template : Option String
  nodeCount : Option ℤ

/-- `group_config`: `group_config['type']` (`none` where it raises `KeyError`), whether
`group_config['policy']` is there, and `group_config.get('clusters', [])`. -/
structure GroupConfig where
  type : Option String
  hasPolicy : Bool
  clusters : List ClusterSpec

/-- `cost_map` of `_estimate_cluster_cost`. -/
def costMap : Dict ℚ :=
  [("ai-k8s-template", 1.20), ("dev-k8s-template", 0.15), ("prod-k8s-template", 0.30)]

/-- `_estimate_cluster_cost(spec)`.  Its default template is `'dev-k8s-template'`, where
`_create_magnum_cluster` asks Magnum for `'ai-k8s-template'`. -/
def estimateClusterCost (spec : ClusterSpec) : ℚ :=
  costMap.getD (spec.template.getD "dev-k8s-template") 0.15 * spec.nodeCount.getD 1

/-- The manager, and Magnum's answers to `clusters.create` and to the `clusters.get` and
`clusters.delete` of `delete_virtual_group`, in call order: `true` where the calls return. -/
structure World where
  mgr : Manager
  creates : List Bool
  deletes : List Bool

/-- `_create_magnum_cluster(name, spec)`: whether it returns a cluster.  A cluster Magnum creates
holds `spec.get('node_count', 1)` nodes; an exhausted script raises, and the method catches
every exception. -/
def World.createMagnumCluster (w : World) (name : String) (spec : ClusterSpec) : Bool × World :=
  match w.creates with
  | true :: rest =>
    (true, { w with creates := rest,
                    mgr.magnum.nodeCounts := w.mgr.magnum.nodeCounts.set name (spec.nodeCount.getD 1) })
  | false :: rest => (false, { w with creates := rest })
  | [] => (false, w)

/-- The `cluster_info` that `create_group_with_clusters` adds for a cluster Magnum created. -/
def clusterInfo (clusterName : String) (spec : ClusterSpec) : VirtualCluster :=
  ⟨clusterName, "CREATE_IN_PROGRESS", spec.nodeCount.getD 1, estimateClusterCost spec⟩

/-- The loop of `create_group_with_clusters` over the cluster specs, filling `g`: `false` where
`cluster_spec['name']` raises, with the clusters added so far. -/
def addSpecClusters (groupName : String) :
    List ClusterSpec → VirtualClusterGroup → World → Bool × VirtualClusterGroup × World
  | [], g, w => (true, g, w)
  | spec :: specs, g, w =>
    match spec.name with
    | none => (false, g, w)
    | some n =>
      let r := w.createMagnumCluster (groupName ++ "-" ++ n) spec
      addSpecClusters groupName specs
        (if r.1 then g.addCluster (clusterInfo (groupName ++ "-" ++ n) spec) else g) r.2

/-- `create_group_with_clusters(group_name, group_config)`: `none` where it raises, else what it
returns (`None` when the name is taken). -/
def World.createGroupWithClusters (w : World) (groupName : String) (config : GroupConfig) :
    Option (Option VirtualClusterGroup) × World :=
  match config.type, config.hasPolicy with
  | some type, true =>
    match w.mgr.createVirtualGroup groupName type with
    | (none, _) => (some none, w)
    | (some g, mgr) =>
      let r := addSpecClusters groupName config.clusters g { w with mgr }
      (if r.1 then some (some r.2.1) else none,
        { r.2.2 with mgr.virtualGroups := r.2.2.mgr.virtualGroups.set groupName r.2.1 })
  | _, _ => (none, w)

/-! ## 2. Status and deletion -/

/-- `cluster_info['status'] = magnum_cluster.status`, where `statusOf` is Magnum's answer to
`clusters.get(cluster_info['name'])`, `none` where it raises (the `except` passes). -/
def refreshStatus (statusOf : String → Option String) (c : VirtualCluster) : VirtualCluster :=
  match statusOf c.name with
  | some s => { c with status := s }
  | none => c

/-- `group.get_status()`, without `policy` and `created_at`. -/
structure GroupStatus where
  name : String
  groupType : String
  clusterCount : ℕ
  totalNodes : ℤ
  totalHourlyCost : ℚ
  clusters : List VirtualCluster

/-- `get_status()`. -/
def VirtualClusterGroup.getStatus (g : VirtualClusterGroup) : GroupStatus :=
  ⟨g.name, g.groupType, g.clusters.length, g.totalNodes, g.totalCost, g.clusters⟩

/-- `get_group_status(group_name)`; the clusters' statuses are refreshed in place. -/
def Manager.getGroupStatus (mgr : Manager) (groupName : String)
    (statusOf : String → Option String) : Option GroupStatus × Manager :=
  match mgr.virtualGroups.get? groupName with
  | none => (none, mgr)
  | some g =>
    let g := { g with clusters := g.clusters.map (refreshStatus statusOf) }
    (some g.getStatus, { mgr with virtualGroups := mgr.virtualGroups.set groupName g })

/-- The loop of `delete_virtual_group` over the group's clusters: `clusters.get` then
`clusters.delete`; Magnum drops a cluster it deleted, and every exception is caught. -/
def deleteMagnumClusters : List VirtualCluster → World → World
  | [], w => w
  | c :: cs, w =>
    deleteMagnumClusters cs <| match w.deletes with
      | true :: rest =>
        { w with deletes := rest,
                 mgr.magnum.nodeCounts := w.mgr.magnum.nodeCounts.erase c.name }
      | false :: rest => { w with deletes := rest }
      | [] => w

/-- `delete_virtual_group(group_name, delete_clusters)`. -/
def World.deleteVirtualGroup (w : World) (groupName : String) (deleteClusters : Bool) :
    Bool × World :=
  match w.mgr.virtualGroups.get? groupName with
  | none => (false, w)
  | some g =>
    let w := if deleteClusters then deleteMagnumClusters g.clusters w else w
    (true, { w with mgr.virtualGroups := w.mgr.virtualGroups.erase groupName })

/-! ## 3. Runs -/

/-- The manager's entry points; `get_group_status` with Magnum's answers to its status reads. -/
inductive Call where
  | createVirtualGroup (name groupType : String)
  | createGroupWithClusters (groupName : String) (config : GroupConfig)
  | scaleGroup (groupName : String) (scalingPolicy : ScalingPolicy)
  | getGroupStatus (groupName : String) (statusOf : String → Option String)
  | deleteVirtualGroup (groupName : String) (deleteClusters : Bool)

/-- One call, run to its end. -/
def World.call (w : World) : Call → World
  | .createVirtualGroup name groupType => { w with mgr := (w.mgr.createVirtualGroup name groupType).2 }
  | .createGroupWithClusters groupName config => (w.createGroupWithClusters groupName config).2
  | .scaleGroup groupName scalingPolicy => { w with mgr := (w.mgr.scaleGroup groupName scalingPolicy).2 }
  | .getGroupStatus groupName statusOf =>
    { w with mgr := (w.mgr.getGroupStatus groupName statusOf).2 }
  | .deleteVirtualGroup groupName deleteClusters =>
    (w.deleteVirtualGroup groupName deleteClusters).2

/-- The states a fresh `VirtualClusterGroupManager()` reaches, whatever Magnum holds and
answers. -/
inductive Reachable : World → Prop where
  | init (magnum : Magnum) (creates deletes : List Bool) : Reachable ⟨⟨[], magnum⟩, creates, deletes⟩
  | call {w : World} (c : Call) : Reachable w → Reachable (w.call c)

/-! ## 4. What a call leaves alone -/

theorem createMagnumCluster_groups (w : World) (name : String) (spec : ClusterSpec) :
    (w.createMagnumCluster name spec).2.mgr.virtualGroups = w.mgr.virtualGroups := by
  unfold World.createMagnumCluster; split <;> rfl

theorem deleteMagnumClusters_groups (cs : List VirtualCluster) (w : World) :
    (deleteMagnumClusters cs w).mgr.virtualGroups = w.mgr.virtualGroups := by
  induction cs generalizing w with
  | nil => rfl
  | cons c cs ih => rw [deleteMagnumClusters, ih]; split <;> rfl

@[simp] theorem refreshStatus_nodeCount (statusOf : String → Option String) (c : VirtualCluster) :
    (refreshStatus statusOf c).nodeCount = c.nodeCount := by
  unfold refreshStatus; split <;> rfl

@[simp] theorem refreshStatus_hourlyCost (statusOf : String → Option String) (c : VirtualCluster) :
    (refreshStatus statusOf c).hourlyCost = c.hourlyCost := by
  unfold refreshStatus; split <;> rfl

/-- `c'` is `c` with another `node_count`. -/
def Rescaled (c c' : VirtualCluster) : Prop := c' = { c with nodeCount := c'.nodeCount }

/-- A field that `node_count` does not hold is the same along rescaled clusters. -/
theorem map_eq_of_rescaled {α : Type} (f : VirtualCluster → α)
    (hf : ∀ c n, f { c with nodeCount := n } = f c) {cs cs' : List VirtualCluster}
    (h : List.Forall₂ Rescaled cs cs') : cs'.map f = cs.map f := by
  induction h with
  | nil => rfl
  | @cons c c' cs cs' hc _ ih => rw [List.map_cons, List.map_cons, ih, hc, hf]

theorem forall₂_set_of_getElem? {R : VirtualCluster → VirtualCluster → Prop}
    {orig cs : List VirtualCluster} (h : List.Forall₂ R orig cs) {j : ℕ} {a : VirtualCluster}
    (hj : orig[j]? = some a) {b : VirtualCluster} (hab : R a b) :
    List.Forall₂ R orig (cs.set j b) := by
  induction h generalizing j with
  | nil => simp at hj
  | cons hc htl ih =>
    cases j with
    | zero =>
      rw [List.getElem?_cons_zero, Option.some_inj] at hj
      subst hj
      exact .cons hab htl
    | succ j =>
      rw [List.getElem?_cons_succ] at hj
      exact .cons hc (ih hj)

theorem scaleOutLoop_rescaled (nodesPerCluster remainingNodes : ℤ) (i : ℕ)
    (cs : List VirtualCluster) (m : Magnum) :
    List.Forall₂ Rescaled cs (scaleOutLoop nodesPerCluster remainingNodes i cs m).1 := by
  induction cs generalizing i m with
  | nil => exact .nil
  | cons c cs ih =>
    simp only [scaleOutLoop]
    split_ifs <;> exact .cons rfl (ih _ _)

/-- The scale-in loop writes, at each position it visits, the cluster of `orig` there with a new
count. -/
theorem scaleInLoop_rescaled {orig : List VirtualCluster} (L : List (ℕ × VirtualCluster))
    (hL : ∀ p ∈ L, orig[p.1]? = some p.2) (r : ℤ) (cs : List VirtualCluster) (m : Magnum)
    (h : List.Forall₂ Rescaled orig cs) : List.Forall₂ Rescaled orig (scaleInLoop L r cs m).1 := by
  induction L generalizing r cs m with
  | nil => exact h
  | cons p L ih =>
    obtain ⟨j, c⟩ := p
    have hL' := fun q hq => hL q (List.mem_cons_of_mem _ hq)
    simp only [scaleInLoop]
    split_ifs
    exacts [h, ih hL' _ _ _ (forall₂_set_of_getElem? h (hL _ (List.mem_cons_self _ _)) rfl),
      ih hL' _ _ _ h]

theorem byCostDesc_getElem? {cs : List VirtualCluster} {p : ℕ × VirtualCluster}
    (hp : p ∈ byCostDesc cs) : cs[p.1]? = some p.2 :=
  List.mem_enum_iff_getElem?.1 ((byCostDesc_perm cs).subset hp)

/-- `scale_group` on a found group leaves every cluster as it was but for its `node_count`. -/
theorem scaleFound_rescaled (g : VirtualClusterGroup) (scalingPolicy : ScalingPolicy) (m : Magnum) :
    List.Forall₂ Rescaled g.clusters (scaleFound g scalingPolicy m).1.clusters := by
  have hsame : List.Forall₂ Rescaled g.clusters g.clusters := List.forall₂_same.2 fun _ _ => rfl
  simp only [scaleFound, scaleOutGroup, scaleInGroup]
  split_ifs
  exacts [hsame, scaleOutLoop_rescaled .., scaleInLoop_rescaled _ (fun _ => byCostDesc_getElem?) _ _ _
    hsame, hsame, hsame]

/-- `scale_group` on a found group leaves it as it was, or writes new clusters and recalculates
its totals. -/
theorem scaleFound_cases (g : VirtualClusterGroup) (scalingPolicy : ScalingPolicy) (m : Magnum) :
    (scaleFound g scalingPolicy m).1 = g ∨
      ∃ cs, (scaleFound g scalingPolicy m).1 = { g with clusters := cs }.recalculateTotals := by
  simp only [scaleFound, scaleOutGroup, scaleInGroup]
  split_ifs
  exacts [.inl rfl, .inr ⟨_, rfl⟩, .inr ⟨_, rfl⟩, .inl rfl, .inl rfl]

/-! ## 5. The manager's invariant -/

/-- A group as the manager keeps it under `name`: of that name, with `total_nodes` and
`total_cost` the sums over its clusters. -/
structure GroupOk (name : String) (g : VirtualClusterGroup) : Prop where
  name_eq : g.name = name
  nodes : TotalsAgree g
  cost : g.totalCost = (g.clusters.map (·.hourlyCost)).sum

/-- `virtual_groups` binds each name once, to a group `GroupOk` under it. -/
structure GroupsOk (groups : Dict VirtualClusterGroup) : Prop where
  keys_nodup : groups.keys.Nodup
  ok : ∀ e ∈ groups, GroupOk e.1 e.2

section
variable {name : String} {g : VirtualClusterGroup} {groups : Dict VirtualClusterGroup}

theorem groupOk_init (name groupType : String) : GroupOk name (init name groupType) :=
  ⟨rfl, rfl, rfl⟩

theorem GroupOk.addCluster (h : GroupOk name g) (c : VirtualCluster) :
    GroupOk name (g.addCluster c) :=
  ⟨h.name_eq, h.nodes.addCluster c, by simp [VirtualClusterGroup.addCluster, h.cost]⟩

/-- New clusters with the same counts and costs keep a group `GroupOk`. -/
theorem GroupOk.withClusters (h : GroupOk name g) {cs : List VirtualCluster}
    (hn : cs.map (·.nodeCount) = g.clusters.map (·.nodeCount))
    (hc : cs.map (·.hourlyCost) = g.clusters.map (·.hourlyCost)) :
    GroupOk name { g with clusters := cs } :=
  ⟨h.name_eq, by rw [TotalsAgree, currentTotal, hn]; exact h.nodes, by rw [hc]; exact h.cost⟩

theorem GroupOk.scaleFound (h : GroupOk name g) (scalingPolicy : ScalingPolicy) (m : Magnum) :
    GroupOk name (scaleFound g scalingPolicy m).1 := by
  rcases scaleFound_cases g scalingPolicy m with he | ⟨cs, he⟩ <;> rw [he]
  exacts [h, ⟨h.name_eq, rfl, rfl⟩]

theorem addSpecClusters_ok (groupName : String) (specs : List ClusterSpec) {w : World}
    (h : GroupOk name g) :
    GroupOk name (addSpecClusters groupName specs g w).2.1 ∧
      (addSpecClusters groupName specs g w).2.2.mgr.virtualGroups = w.mgr.virtualGroups := by
  induction specs generalizing g w with
  | nil => exact ⟨h, rfl⟩
  | cons spec specs ih =>
    simp only [addSpecClusters]
    split
    · exact ⟨h, rfl⟩
    · refine (ih ?_).imp_right (·.trans (createMagnumCluster_groups ..))
      split_ifs
      exacts [h.addCluster _, h]

theorem groupsOk_nil : GroupsOk ([] : Dict VirtualClusterGroup) := ⟨List.nodup_nil, by simp⟩

theorem GroupOk.refreshStatus (h : GroupOk name g) (statusOf : String → Option String) :
    GroupOk name { g with clusters := g.clusters.map (refreshStatus statusOf) } :=
  h.withClusters (by simp [Function.comp_def]) (by simp [Function.comp_def])

theorem GroupsOk.set (h : GroupsOk groups) (hg : GroupOk name g) : GroupsOk (groups.set name g) :=
  ⟨Dict.nodup_keys_set h.keys_nodup name g, fun e he => by
    rcases Dict.mem_set he with ⟨he, -⟩ | rfl
    exacts [h.ok e he, hg]⟩

theorem GroupsOk.erase (h : GroupsOk groups) (name : String) : GroupsOk (groups.erase name) :=
  ⟨Dict.nodup_keys_erase h.keys_nodup name, fun e he => h.ok e (Dict.mem_erase he)⟩

theorem GroupsOk.get? (h : GroupsOk groups) (hg : groups.get? name = some g) : GroupOk name g :=
  h.ok _ (Dict.mem_of_get?_eq_some hg)

end

section
variable {w : World}

theorem GroupsOk.createGroupWithClusters (h : GroupsOk w.mgr.virtualGroups) (groupName : String)
    (config : GroupConfig) :
    GroupsOk (w.createGroupWithClusters groupName config).2.mgr.virtualGroups := by
  unfold World.createGroupWithClusters Manager.createVirtualGroup
  split
  · split_ifs
    · exact h
    · obtain ⟨hok, hframe⟩ := addSpecClusters_ok groupName config.clusters
        (w := { w with mgr.virtualGroups := w.mgr.virtualGroups.set groupName (init groupName ‹_›) })
        (groupOk_init groupName ‹_›)
      dsimp only at hframe ⊢
      rw [hframe]
      exact (h.set (groupOk_init groupName _)).set hok
  · exact h

theorem GroupsOk.scaleGroup {mgr : Manager} (h : GroupsOk mgr.virtualGroups) (groupName : String)
    (scalingPolicy : ScalingPolicy) : GroupsOk (mgr.scaleGroup groupName scalingPolicy).2.virtualGroups := by
  unfold Manager.scaleGroup
  split
  · exact h
  · exact h.set ((h.get? ‹_›).scaleFound _ _)

theorem GroupsOk.getGroupStatus {mgr : Manager} (h : GroupsOk mgr.virtualGroups) (groupName : String)
    (statusOf : String → Option String) :
    GroupsOk (mgr.getGroupStatus groupName statusOf).2.virtualGroups := by
  unfold Manager.getGroupStatus
  split
  · exact h
  · exact h.set ((h.get? ‹_›).refreshStatus statusOf)

theorem GroupsOk.deleteVirtualGroup (h : GroupsOk w.mgr.virtualGroups) (groupName : String)
    (deleteClusters : Bool) :
    GroupsOk (w.deleteVirtualGroup groupName deleteClusters).2.mgr.virtualGroups := by
  unfold World.deleteVirtualGroup
  split
  · exact h
  · split_ifs
    · exact (deleteMagnumClusters_groups _ w ▸ h).erase groupName
    · exact h.erase groupName

theorem GroupsOk.call (h : GroupsOk w.mgr.virtualGroups) : ∀ c : Call,
    GroupsOk (w.call c).mgr.virtualGroups
  | .createVirtualGroup name groupType => by
    dsimp only [World.call, Manager.createVirtualGroup]
    split_ifs
    exacts [h, h.set (groupOk_init name groupType)]
  | .createGroupWithClusters groupName config => h.createGroupWithClusters groupName config
  | .scaleGroup groupName scalingPolicy => GroupsOk.scaleGroup h groupName scalingPolicy
  | .getGroupStatus groupName statusOf => GroupsOk.getGroupStatus h groupName statusOf
  | .deleteVirtualGroup groupName deleteClusters => h.deleteVirtualGroup groupName deleteClusters

theorem groupsOk_of_reachable (hw : Reachable w) : GroupsOk w.mgr.virtualGroups := by
  induction hw with
  | init => exact groupsOk_nil
  | call c _ ih => exact ih.call c

/-- **The manager's invariant over whole runs.**  In every state a fresh manager reaches, under
any answers of Magnum, `virtual_groups` binds each name once, to a group of that name whose
`total_nodes` and `total_cost` are the sums of its clusters' `node_count` and `hourly_cost`.  So
`get_group_status` reports the group asked for, with totals that match the clusters it
reports. -/
theorem reachable_manager_ok (hw : Reachable w) :
    GroupsOk w.mgr.virtualGroups ∧
      ∀ groupName statusOf r, (w.mgr.getGroupStatus groupName statusOf).1 = some r →
        r.name = groupName ∧ r.totalNodes = (r.clusters.map (·.nodeCount)).sum ∧
          r.totalHourlyCost = (r.clusters.map (·.hourlyCost)).sum := by
  have h := groupsOk_of_reachable hw
  refine ⟨h, fun groupName statusOf r hr => ?_⟩
  unfold Manager.getGroupStatus at hr
  split at hr
  · cases hr
  · cases hr
    have hok := (h.get? ‹_›).refreshStatus statusOf
    exact ⟨hok.name_eq, hok.nodes, hok.cost⟩

/-- A fresh manager creates a group of two clusters, Magnum refusing the second: `ml` holds one
cluster of 2 nodes. -/
def sampleGrouped : World :=
  (World.mk ⟨[], ⟨[], [true]⟩⟩ [true, false] []).call
    (.createGroupWithClusters "ml" ⟨some "ml_training", true,
      [⟨some "gpu", some "ai-k8s-template", some 2⟩, ⟨some "cpu", none, none⟩]⟩)

/-- `sampleGrouped`, then the group scaled in to one node. -/
def sampleRun : World := sampleGrouped.call (.scaleGroup "ml" ⟨none, some 1⟩)

theorem reachable_manager_ok_sampleRun :
    Reachable sampleRun ∧
      (GroupsOk sampleRun.mgr.virtualGroups ∧
        ∀ groupName statusOf r, (sampleRun.mgr.getGroupStatus groupName statusOf).1 = some r →
          r.name = groupName ∧ r.totalNodes = (r.clusters.map (·.nodeCount)).sum ∧
            r.totalHourlyCost = (r.clusters.map (·.hourlyCost)).sum) :=
  ⟨.call _ (.call _ (.init _ _ _)), reachable_manager_ok (.call _ (.call _ (.init _ _ _)))⟩

/-- **`scale_group` changes node counts only.**  From any reachable state, `scale_group` leaves
each cluster of the group as it was but for its `node_count`: the hourly costs estimated when
the clusters were created stay, and so does `total_cost`, whatever counts it sets. -/
theorem scaleGroup_keeps_costs (hw : Reachable w) {groupName : String} {g : VirtualClusterGroup}
    (hg : w.mgr.virtualGroups.get? groupName = some g) (scalingPolicy : ScalingPolicy) :
    ∃ g', (w.mgr.scaleGroup groupName scalingPolicy).2.virtualGroups.get? groupName = some g' ∧
      List.Forall₂ Rescaled g.clusters g'.clusters ∧ g'.totalCost = g.totalCost := by
  have hres := scaleFound_rescaled g scalingPolicy w.mgr.magnum
  refine ⟨(scaleFound g scalingPolicy w.mgr.magnum).1,
    by rw [scaleGroup_of_get? hg, Dict.get?_set, if_pos rfl], hres, ?_⟩
  rcases scaleFound_cases g scalingPolicy w.mgr.magnum with he | ⟨cs, he⟩
  · rw [he]
  · rw [((groupsOk_of_reachable hw).get? hg).cost,
      ← map_eq_of_rescaled (·.hourlyCost) (fun _ _ => rfl) hres, he]
    rfl

/-- Scaling `ml` of `sampleGrouped` in to one node rescales its cluster from 2 nodes to 1. -/
theorem scaleGroup_keeps_costs_sampleGrouped :
    Reachable sampleGrouped ∧
      ∃ g, sampleGrouped.mgr.virtualGroups.get? "ml" = some g ∧ g.clusters.map (·.nodeCount) = [2] ∧
        ∃ g', (sampleGrouped.mgr.scaleGroup "ml" ⟨none, some 1⟩).2.virtualGroups.get? "ml" = some g' ∧
          g'.clusters.map (·.nodeCount) = [1] ∧
          List.Forall₂ Rescaled g.clusters g'.clusters ∧ g'.totalCost = g.totalCost := by
  have hw : Reachable sampleGrouped := .call _ (.init _ _ _)
  obtain ⟨g, hg, hcount⟩ : ∃ g, sampleGrouped.mgr.virtualGroups.get? "ml" = some g ∧
      g.clusters.map (·.nodeCount) = [2] := ⟨_, rfl, rfl⟩
  obtain ⟨g', hg', hres, hcost⟩ := scaleGroup_keeps_costs hw hg ⟨none, some 1⟩
  have h : ((sampleGrouped.mgr.scaleGroup "ml" ⟨none, some 1⟩).2.virtualGroups.get? "ml").map
      (·.clusters.map (·.nodeCount)) = some [1] := rfl
  rw [hg'] at h
  exact ⟨hw, g, hg, hcount, g', hg', Option.some.inj h, hres, hcost⟩

end

end OpenKCloud.VirtualGroup
