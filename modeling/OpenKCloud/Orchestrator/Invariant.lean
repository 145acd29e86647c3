import OpenKCloud.Orchestrator.Model
/-
# The counters of a group, over every run

A group's `active_clusters` and `total_nodes` are kept by hand: `add_cluster_to_group` and
`remove_cluster_from_group` change the list and both counters together.  `delete_group` does
not.  Its loop removes each cluster it deleted from the LIVE list and leaves the counters
alone, because the group is about to go; when a `delete_cluster` raises with `force` off, the
handler keeps the group, marks it `ERROR`, and the counters still count the clusters already
gone.

* `addClusterToGroup_groups_of_false`, `executeOptimizationCommand_of_failed`, ...: a refused
  request changes no group, except a `delete_group` that marks its group `ERROR`
  (`deleteGroup_of_false`);
* `deleteGroup_force`: `delete_group(force=True)` always removes the group;
* `Closed`, `Inv`: a property of the entries of `groups` that each update to one group keeps;
  every entry point keeps it (`step_inv`), with `delete_group` asking one more thing of it;
* `run_consistent`: without a non-forced `delete_group`, every group of every run has
  consistent counters, under every CRUD script;
* `listGroups_consistent_of_reachable`: in EVERY reachable state, a group not marked `ERROR`
  has consistent counters;
* `deleteGroup_leaves_stale_counters`: a run in which a group keeps one cluster and counts two.
-/

namespace OpenKCloud.Orchestrator

/-! ## 1. One group -/

namespace ClusterGroupInfo

theorem Consistent.addCluster {g : ClusterGroupInfo} (c : ClusterInfo) (h : g.Consistent) :
    (g.addCluster c).Consistent := by
  obtain ⟨ha, ht⟩ := h
  exact ⟨by simp [ClusterGroupInfo.addCluster, ha],
    by simp [ClusterGroupInfo.addCluster, ht, ClusterEntry.nodes]⟩

theorem Consistent.removeCluster {g : ClusterGroupInfo} {c : ClusterEntry} (hc : c ∈ g.clusters)
    (h : g.Consistent) : (g.removeCluster c).Consistent := by
  obtain ⟨ha, ht⟩ := h
  have hlen := List.length_erase_of_mem hc
  have hpos := List.length_pos_of_mem hc
  have hsum := List.sum_map_erase ClusterEntry.nodes hc
  simp only [ClusterEntry.nodes] at hsum
  simp only [Consistent, ClusterGroupInfo.removeCluster, hlen]
  omega

@[simp] theorem consistent_with_status (g : ClusterGroupInfo) (s : GroupStatus) :
    ({ g with status := s } : ClusterGroupInfo).Consistent ↔ g.Consistent := Iff.rfl

/-- A group not marked `ERROR` has consistent counters. -/
def Healthy (g : ClusterGroupInfo) : Prop := g.status = .error ∨ g.Consistent

end ClusterGroupInfo

open ClusterGroupInfo

/-! ## 2. Properties of `groups` that the updates keep -/

/-- A property of the entries of `groups` that holds of every consistent group and survives
adding or removing one cluster. -/
structure Closed (Q : String × ClusterGroupInfo → Prop) : Prop where
  of_consistent : ∀ k g, g.Consistent → Q (k, g)
  addCluster : ∀ k g c, Q (k, g) → Q (k, g.addCluster c)
  removeCluster : ∀ k g c, c ∈ g.clusters → Q (k, g) → Q (k, g.removeCluster c)

/-- Every entry of `groups` has `Q`. -/
def Inv (Q : String × ClusterGroupInfo → Prop) (w : World) : Prop := ∀ e ∈ w.groups, Q e

theorem closed_consistent : Closed fun e => e.2.Consistent :=
  ⟨fun _ _ h => h, fun _ _ c h => h.addCluster c, fun _ _ _ hc h => h.removeCluster hc⟩

theorem closed_healthy : Closed fun e => e.2.Healthy where
  of_consistent _ _ h := .inr h
  addCluster _ _ c h := h.imp id (·.addCluster c)
  removeCluster _ _ _ hc h := h.imp id (·.removeCluster hc)

/-- `Q`, and consistency of the group stored under `k`. -/
theorem Closed.keyConsistent {Q : String × ClusterGroupInfo → Prop} (hQ : Closed Q)
    (k : String) :
    Closed fun e => Q e ∧ (e.1 = k → e.2.Consistent) where
  of_consistent k' g h := ⟨hQ.of_consistent k' g h, fun _ => h⟩
  addCluster k' g c h := ⟨hQ.addCluster k' g c h.1, fun hk => (h.2 hk).addCluster c⟩
  removeCluster k' g c hc h :=
    ⟨hQ.removeCluster k' g c hc h.1, fun hk => (h.2 hk).removeCluster hc⟩

section Inv

variable {Q : String × ClusterGroupInfo → Prop} {w w' : World}

theorem Inv.of_groups (h : Inv Q w) (he : w'.groups = w.groups) : Inv Q w' :=
  fun e hmem => h e (he ▸ hmem)

theorem Inv.setGroup {k : String} {g : ClusterGroupInfo} (h : Inv Q w) (hg : Q (k, g)) :
    Inv Q (w.setGroup k g) := by
  intro e he
  rcases Dict.mem_set he with ⟨he, -⟩ | rfl
  · exact h e he
  · exact hg

theorem Inv.get? {k : String} {g : ClusterGroupInfo} (h : Inv Q w) (hg : w.groups.get? k = some g) :
    Q (k, g) :=
  h _ (Dict.mem_of_get?_eq_some hg)

theorem createCluster_groups_of_eq {r : Option ClusterInfo} (h : w.createCluster = (r, w')) :
    w'.groups = w.groups := by
  rw [← createCluster_groups w, h]

theorem deleteCluster_groups_of_eq {r : Option Bool} (h : w.deleteCluster = (r, w')) :
    w'.groups = w.groups := by
  rw [← deleteCluster_groups w, h]

/-! ## 3. Refused requests -/

/-- **A refused `add_cluster_to_group` changes no group.** -/
theorem addClusterToGroup_groups_of_false {groupId : String}
    (h : (addClusterToGroup groupId w).1 = false) :
    (addClusterToGroup groupId w).2.groups = w.groups := by
  revert h
  unfold addClusterToGroup
  split
  · exact fun _ => rfl
  · split <;> rename_i hc
    · intro h; cases h
    · exact fun _ => createCluster_groups_of_eq hc

/-- **A refused `remove_cluster_from_group` changes no group.** -/
theorem removeClusterFromGroup_groups_of_false {groupId clusterId : String}
    (h : (removeClusterFromGroup groupId clusterId w).1 = false) :
    (removeClusterFromGroup groupId clusterId w).2.groups = w.groups := by
  revert h
  unfold removeClusterFromGroup
  split
  · exact fun _ => rfl
  · split
    · exact fun _ => rfl
    · split <;> rename_i hd
      · intro h; cases h
      · exact fun _ => deleteCluster_groups_of_eq hd

/-- `_handle_scale_group_command` either raises before it changes anything, or scales. -/
theorem handleScaleGroupCommand_cases (command : OptimizationCommand) (w : World) :
    (∃ e, (handleScaleGroupCommand command w).1 = .error e ∧
        (handleScaleGroupCommand command w).2 = w) ∨
      ∃ groupId n, (handleScaleGroupCommand command w).1 = .ok (.scaled groupId n) := by
  unfold handleScaleGroupCommand
  split
  · exact .inl ⟨_, rfl, rfl⟩
  · split
    · exact .inl ⟨_, rfl, rfl⟩
    · split
      · exact .inl ⟨_, rfl, rfl⟩
      · exact .inr ⟨_, _, rfl⟩

/-- **A command that reports failure changes nothing.** -/
theorem executeOptimizationCommand_of_failed {command : OptimizationCommand} {e : String}
    (h : (executeOptimizationCommand command w).1 = .failed e) :
    (executeOptimizationCommand command w).2 = w := by
  revert h
  unfold executeOptimizationCommand
  split
  · rcases handleScaleGroupCommand_cases command w with ⟨e', he, hw⟩ | ⟨g, n, hok⟩
    · split <;> rename_i hs <;> rw [hs] at he hw
      · cases he
      · exact fun _ => hw
    · split <;> rename_i hs <;> rw [hs] at hok <;> cases hok
      intro h; cases h
  all_goals exact fun _ => rfl

/-! ## 4. `delete_group` -/

@[simp] theorem deleteClusters_groups (force : Bool) (cs live : List ClusterEntry) (w : World) :
    (deleteClusters force cs live w).2.groups = w.groups := by
  induction cs generalizing live w with
  | nil => rfl
  | cons c cs ih =>
    unfold deleteClusters
    split <;> rename_i hd
    · rw [ih, deleteCluster_groups_of_eq hd]
    · rw [ih, deleteCluster_groups_of_eq hd]
    · split
      · rw [ih, deleteCluster_groups_of_eq hd]
      · exact deleteCluster_groups_of_eq hd

/-- **A `delete_group` that returns `False` found no group, or left it marked `ERROR`.** -/
theorem deleteGroup_of_false {groupId : String} {force : Bool}
    (h : (deleteGroup groupId force w).1 = false) :
    (w.groups.get? groupId = none ∧ (deleteGroup groupId force w).2 = w) ∨
      ((deleteGroup groupId force w).2.groups.get? groupId).map (·.status) = some .error := by
  revert h
  unfold deleteGroup
  split <;> rename_i hg
  · exact fun _ => .inl ⟨hg, rfl⟩
  · dsimp only
    split
    · intro h; cases h
    · exact fun _ => .inr (by simp)

/-- `delete_group` keeps `Q` when `Q` holds of every group marked `ERROR`: that is the group a
failed loop leaves behind. -/
theorem deleteGroup_inv (hE : ∀ k g, g.status = .error → Q (k, g)) (groupId : String)
    (force : Bool) (h : Inv Q w) : Inv Q (deleteGroup groupId force w).2 := by
  unfold deleteGroup
  split
  · exact h
  · rename_i g hg
    dsimp only
    split <;> rename_i hd
    · intro e he
      have hw := congrArg (·.2.groups) hd
      simp only [deleteClusters_groups] at hw
      exact h e (hw ▸ Dict.mem_erase he)
    · have hw := congrArg (·.2.groups) hd
      simp only [deleteClusters_groups] at hw
      exact (h.of_groups hw.symm).setGroup (hE _ _ rfl)

/-- With `force` on, the loop never re-raises. -/
theorem deleteClusters_force (cs live : List ClusterEntry) (w : World) :
    ∃ live', (deleteClusters true cs live w).1 = .ok live' := by
  induction cs generalizing live w with
  | nil => exact ⟨live, rfl⟩
  | cons c cs ih =>
    unfold deleteClusters
    split
    · exact ih _ _
    · exact ih _ _
    · exact ih _ _

/-- **`delete_group(force=True)` always removes the group.** -/
theorem deleteGroup_force {groupId : String} {g : ClusterGroupInfo}
    (hg : w.groups.get? groupId = some g) :
    (deleteGroup groupId true w).1 = true ∧
      (deleteGroup groupId true w).2.groups = w.groups.erase groupId := by
  obtain ⟨live, hlive⟩ := deleteClusters_force g.clusters g.clusters w
  have hw := deleteClusters_groups true g.clusters g.clusters w
  unfold deleteGroup
  rw [hg]
  dsimp only
  generalize deleteClusters true g.clusters g.clusters w = p at hlive hw
  obtain ⟨r, w'⟩ := p
  dsimp only at hlive hw
  subst hlive
  exact ⟨rfl, by dsimp only; rw [hw]⟩

theorem deleteGroup_force_inv (groupId : String) (h : Inv Q w) :
    Inv Q (deleteGroup groupId true w).2 := by
  cases hg : w.groups.get? groupId with
  | none => simpa only [deleteGroup, hg] using h
  | some g => exact fun e he => h e (Dict.mem_erase ((deleteGroup_force hg).2 ▸ he))

/-! ## 5. The other entry points -/

variable (hQ : Closed Q)
include hQ

theorem addClusterToGroup_inv (groupId : String) (h : Inv Q w) :
    Inv Q (addClusterToGroup groupId w).2 := by
  unfold addClusterToGroup
  split
  · exact h
  · rename_i g hg
    split <;> rename_i hc
    · exact (h.of_groups (createCluster_groups_of_eq hc)).setGroup
        (hQ.addCluster _ _ _ (h.get? hg))
    · exact h.of_groups (createCluster_groups_of_eq hc)

theorem removeClusterFromGroup_inv (groupId clusterId : String) (h : Inv Q w) :
    Inv Q (removeClusterFromGroup groupId clusterId w).2 := by
  unfold removeClusterFromGroup
  split
  · exact h
  · rename_i g hg
    split
    · exact h
    · rename_i c hc
      split <;> rename_i hd
      · exact (h.of_groups (deleteCluster_groups_of_eq hd)).setGroup
          (hQ.removeCluster _ _ _ (List.mem_of_find?_eq_some hc) (h.get? hg))
      · exact h.of_groups (deleteCluster_groups_of_eq hd)

theorem addClusters_inv (groupId : String) (n : ℕ) (h : Inv Q w) :
    Inv Q (addClusters groupId n w) := by
  induction n generalizing w with
  | zero => exact h
  | succ n ih => exact ih (addClusterToGroup_inv hQ groupId h)

theorem removeClusters_inv (groupId : String) (cs : List ClusterEntry) (h : Inv Q w) :
    Inv Q (removeClusters groupId cs w) := by
  induction cs generalizing w with
  | nil => exact h
  | cons c cs ih => exact ih (removeClusterFromGroup_inv hQ groupId c.id h)

theorem ensureMinClusters_inv (groupId : String) (h : Inv Q w) :
    Inv Q (ensureMinClusters groupId w) := by
  unfold ensureMinClusters
  split
  · exact h
  · exact addClusters_inv hQ groupId _ h

/-- `create_group` stores a consistent group, adds clusters to it, and marks it `ACTIVE`. -/
theorem createGroup_inv (config : ClusterGroupConfig) (now : String) (h : Inv Q w) :
    Inv Q (createGroup config now w).2 := by
  set groupId := groupIdOf config now
  set info : ClusterGroupInfo :=
    ⟨groupId, config.name, config.groupType, .creating, [], 0, 0, config⟩
  have hinfo : info.Consistent := ⟨rfl, rfl⟩
  have hQk := hQ.keyConsistent groupId
  have h₁ :
      Inv (fun e => Q e ∧ (e.1 = groupId → e.2.Consistent)) (w.setGroup groupId info) := by
    intro e he
    rcases Dict.mem_set he with ⟨he, hk⟩ | rfl
    · exact ⟨h e he, fun h' => absurd h' hk⟩
    · exact hQk.of_consistent _ _ hinfo
  set w₂ := if 0 < config.minClusters then ensureMinClusters groupId (w.setGroup groupId info)
    else w.setGroup groupId info
  have h₂ : Inv (fun e => Q e ∧ (e.1 = groupId → e.2.Consistent)) w₂ := by
    simp only [w₂]
    split
    · exact ensureMinClusters_inv hQk groupId h₁
    · exact h₁
  have hg : ((w₂.groups.get? groupId).getD info).Consistent := by
    cases hget : w₂.groups.get? groupId with
    | none => exact hinfo
    | some g => exact (h₂.get? hget).2 rfl
  exact (Inv.of_groups (fun e he => (h₂ e he).1) rfl).setGroup (hQ.of_consistent _ _ hg)

theorem handleScaleGroupCommand_inv (command : OptimizationCommand) (h : Inv Q w) :
    Inv Q (handleScaleGroupCommand command w).2 := by
  unfold handleScaleGroupCommand
  split
  · exact h
  · split
    · exact h
    · split
      · exact h
      · dsimp only
        split
        · exact addClusters_inv hQ _ _ h
        · split
          · exact removeClusters_inv hQ _ _ h
          · exact h

theorem executeOptimizationCommand_inv (command : OptimizationCommand) (h : Inv Q w) :
    Inv Q (executeOptimizationCommand command w).2 := by
  unfold executeOptimizationCommand
  split
  · have hs := handleScaleGroupCommand_inv hQ command h
    split <;> rename_i hc <;> rw [hc] at hs <;> exact hs
  all_goals exact h

/-- **Every entry point keeps `Q`**, a `delete_group` when it keeps `Q` itself. -/
theorem step_inv (c : Command) (h : Inv Q w)
    (hdel : ∀ groupId force, c = .deleteGroup groupId force →
      Inv Q (deleteGroup groupId force w).2) :
    Inv Q (step c w) := by
  cases c with
  | createGroup config now => exact createGroup_inv hQ config now h
  | addClusterToGroup groupId => exact addClusterToGroup_inv hQ groupId h
  | removeClusterFromGroup groupId clusterId =>
    exact removeClusterFromGroup_inv hQ groupId clusterId h
  | deleteGroup groupId force => exact hdel groupId force rfl
  | executeOptimizationCommand command => exact executeOptimizationCommand_inv hQ command h

end Inv

/-! ## 6. Over runs -/

/-- A command other than `delete_group(force=False)`. -/
def Command.NotSoftDelete : Command → Prop
  | .deleteGroup _ false => False
  | _ => True

/-- **Without a non-forced `delete_group`, the counters hold in every run**, from a fresh
orchestrator and under every CRUD script. -/
theorem run_consistent (crud : Crud) (cmds : List Command) (hc : ∀ c ∈ cmds, c.NotSoftDelete) :
    ∀ g ∈ listGroups none (run cmds (init crud)), g.Consistent := by
  suffices ∀ w, Inv (fun e => e.2.Consistent) w →
      Inv (fun e => e.2.Consistent) (run cmds w) by
    intro g hg
    obtain ⟨e, he, rfl⟩ := List.mem_map.1 hg
    exact this _ (fun _ h => absurd h (List.not_mem_nil _)) e he
  induction cmds with
  | nil => exact fun _ h => h
  | cons c cmds ih =>
    intro w h
    refine ih (fun c' hc' => hc c' (List.mem_cons_of_mem _ hc')) _ ?_
    refine step_inv closed_consistent c h ?_
    rintro groupId (_ | _) rfl
    · exact absurd (hc _ (List.mem_cons_self _ _)) id
    · exact deleteGroup_force_inv _ h

/-- **In every reachable state, a group not marked `ERROR` has consistent counters**: every
entry point keeps the counters of a group it does not mark `ERROR`. -/
theorem listGroups_consistent_of_reachable {w : World} (hw : Reachable w) :
    ∀ g ∈ listGroups none w, g.status ≠ .error → g.Consistent := by
  have hinv : Inv (fun e => e.2.Healthy) w := by
    induction hw with
    | init crud => exact fun _ h => absurd h (List.not_mem_nil _)
    | step c _ ih =>
      exact step_inv closed_healthy c ih fun groupId force _ =>
        deleteGroup_inv (fun _ _ h => .inl h) groupId force ih
  intro g hg hs
  obtain ⟨e, he, rfl⟩ := List.mem_map.1 hg
  exact (hinv e he).resolve_left hs

/-! ## 7. A failed `delete_group` -/

/-- A group of two one-plus-one clusters, as `create_group` makes it with `min_clusters = 2`,
then `delete_group(force=False)`. -/
def failedDeleteTrace : List Command :=
  [.createGroup ⟨"g", .development, 2⟩ "0", .deleteGroup "group-g-0" false]

/-- `create_cluster` succeeds twice; `delete_cluster` deletes the first cluster and raises on
the second. -/
def failedDeleteCrud : Crud :=
  ⟨[some ⟨"c1", "c1", 1, 1⟩, some ⟨"c2", "c2", 1, 1⟩], [some true, none]⟩

/-- The group stays, marked `ERROR`, with one cluster but `active_clusters = 2` and
`total_nodes = 4`. -/
theorem deleteGroup_leaves_stale_counters :
    Reachable (run failedDeleteTrace (init failedDeleteCrud)) ∧
      (listGroups none (run failedDeleteTrace (init failedDeleteCrud))).map
          (fun g => (g.status, g.clusters.length, g.activeClusters, g.totalNodes)) =
        [(.error, 1, 2, 4)] ∧
      ∃ g ∈ listGroups none (run failedDeleteTrace (init failedDeleteCrud)), ¬ g.Consistent :=
  ⟨(Reachable.init _).run _, by decide, by decide⟩

end OpenKCloud.Orchestrator
