import OpenKCloud.Monitoring.Lifecycle
import Mathlib.Tactic.Linarith
/-
# The metrics collector

`kcloud-infra-optimization/monitoring/metrics_collector.py` builds the `ClusterMetrics` the alert
system is given.  `collect_full_metrics(cluster_name)` runs four stages:

* `collect_cluster_basic_info` asks Magnum for the cluster; where `magnum.clusters.get` raises,
  it makes an `ERROR` record with no nodes and the template `"unknown"`;
* `collect_resource_metrics` draws the usage figures at random, from ranges that depend on
  whether the cluster's template has a GPU, for `CREATE_COMPLETE` clusters only;
* `calculate_power_and_cost` estimates the power from the template and the usage, and the cost
  from the power and the template's price per node;
* `calculate_scores` scores health from the pods, the usage and the API address, and efficiency
  from usage per kilowatt, each clamped to `[0, 100]`.

Magnum's answer, the clock and the draws are the inputs of the model: a draw of
`random.uniform(lo, hi)` or `random.randint(lo, hi)` is a value that carries its range.  The
`electricity_rate` and `cooling_overhead` of `MonitoringConfig` (`config.py`) are constants that
`update_config_from_env` leaves alone.  `get_cluster_template` reads `CLUSTER_TEMPLATES`; as the
snapshot stands its entries do not pass the `name` that `ClusterTemplate` declares, and nothing
here reads it.  Misplaced docstring quotes cut several bodies of this snapshot (an `except` lost
its logging statement): the evident code is modelled.

* `healthScore_collectFullMetrics`: a collected `CREATE_COMPLETE` cluster scores at least 40 for
  health, since at most two pods fail, at most five are pending and memory stays at 90%;
* `processAll_collected_quiet`: so over every run of `process_metrics` on collected metrics, the
  default rules `critical_health`, `many_failed_pods` and `high_memory` never raise an alert;
* `processMetrics_unreachable_silent`: and a cluster Magnum cannot get raises no alert at all;
  `process_metrics` then only runs `cleanup_resolved_alerts`.
-/

namespace OpenKCloud.Monitoring.Collector

/-! ## 1. Configuration -/

/-- `ClusterTemplate`, without the `name` nothing reads. -/
structure ClusterTemplate where
  templateId : String
  baseCostPerHour : ℚ
  hasGpu : Bool
  estimatedPowerPerNode : ℚ

/-- `CLUSTER_TEMPLATES`. -/
def clusterTemplates : Dict ClusterTemplate :=
  [("ai-k8s-template", ⟨"ai-k8s-template", 1.20, true, 1200⟩),
   ("dev-k8s-template", ⟨"dev-k8s-template", 0.15, false, 300⟩),
   ("prod-k8s-template", ⟨"prod-k8s-template", 0.30, false, 500⟩)]

/-- `get_cluster_template(template_name)`. -/
def getClusterTemplate (templateName : String) : Option ClusterTemplate :=
  clusterTemplates.get? templateName

/-- `get_cluster_template(template_id)`, or the `"dev-k8s-template"` when there is none, as
`collect_resource_metrics` and `calculate_power_and_cost` look the template up. -/
def templateInfo (templateId : String) : Option ClusterTemplate :=
  (getClusterTemplate templateId).or (getClusterTemplate "dev-k8s-template")

/-- The fields of `MonitoringConfig` the collector reads. -/
structure MonitoringConfig where
  electricityRate : ℚ := 0.12
  coolingOverhead : ℚ := 1.3

/-- `get_monitoring_config()`. -/
def monitoringConfig : MonitoringConfig := {}

/-! ## 2. The metrics and what they are made from -/

/-- `ClusterMetrics` of the collector; `timestamp` is the clock reading it was made at. -/
structure ClusterMetrics where
  clusterName : String
  timestamp : ℤ
  status : String
  healthStatus : String
  nodeCount : ℤ
  masterCount : ℤ
  templateId : String
  apiAddress : Option String := none
  cpuUsage : ℚ := 0
  memoryUsage : ℚ := 0
  gpuUsage : ℚ := 0
  diskUsage : ℚ := 0
  networkIoMbps : ℚ := 0
  runningPods : ℤ := 0
  failedPods : ℤ := 0
  pendingPods : ℤ := 0
  workloadCount : ℤ := 0
  powerConsumptionWatts : ℚ := 0
  costPerHour : ℚ := 0
  estimatedMonthlyCost : ℚ := 0
  healthScore : ℚ := 0
  efficiencyScore : ℚ := 0

/-- The attributes of the cluster `magnum.clusters.get(cluster_name)` returns that the collector
reads. -/
structure MagnumCluster where
  status : String
  healthStatus : Option String
  nodeCount : ℤ
  masterCount : ℤ
  clusterTemplateId : String
  apiAddress : Option String

/-- A value of `random.uniform(lo, hi)`. -/
structure Uniform (lo hi : ℚ) where
  val : ℚ
  lo_le : lo ≤ val
  le_hi : val ≤ hi

/-- A value of `random.randint(lo, hi)`. -/
structure RandInt (lo hi : ℤ) where
  val : ℤ
  lo_le : lo ≤ val
  le_hi : val ≤ hi

/-- The draws of `collect_resource_metrics` for a template with a GPU. -/
structure GpuDraws where
  cpuUsage : Uniform 60 95
  memoryUsage : Uniform 70 90
  gpuUsage : Uniform 40 95
  networkIoMbps : Uniform 100 800
  runningPods : RandInt 8 30
  workloadCount : RandInt 3 10

/-- The draws of `collect_resource_metrics` for a template without one. -/
structure CpuDraws where
  cpuUsage : Uniform 20 70
  memoryUsage : Uniform 30 80
  networkIoMbps : Uniform 50 300
  runningPods : RandInt 5 20
  workloadCount : RandInt 2 8

/-- The draws of `collect_resource_metrics`, those of either branch and those after it. -/
structure ResourceDraws where
  gpu : GpuDraws
  cpu : CpuDraws
  diskUsage : Uniform 30 85
  failedPods : RandInt 0 2
  pendingPods : RandInt 0 5

/-- What `collect_full_metrics(cluster_name)` reads from outside: Magnum's answer (`none` where
`magnum.clusters.get` raised), the clock and the random draws. -/
structure Reading where
  cluster : Option MagnumCluster
  now : ℤ
  draws : ResourceDraws

/-! ## 3. The stages -/

/-- `collect_cluster_basic_info(cluster_name)`; `cluster.health_status or "UNKNOWN"` keeps a
non-empty status. -/
def collectClusterBasicInfo (clusterName : String) (cluster : Option MagnumCluster) (now : ℤ) :
    ClusterMetrics :=
  match cluster with
  | some c =>
    { clusterName, timestamp := now, status := c.status
      healthStatus := (c.healthStatus.filter (· ≠ "")).getD "UNKNOWN"
      nodeCount := c.nodeCount, masterCount := c.masterCount, templateId := c.clusterTemplateId
      apiAddress := c.apiAddress }
  | none =>
    { clusterName, timestamp := now, status := "ERROR", healthStatus := "ERROR", nodeCount := 0
      masterCount := 0, templateId := "unknown" }

/-- `collect_resource_metrics(metrics)`; `template_info.has_gpu` raises on no template, and the
`except` returns the metrics as they are. -/
def collectResourceMetrics (metrics : ClusterMetrics) (draws : ResourceDraws) : ClusterMetrics :=
  if metrics.status ≠ "CREATE_COMPLETE" then metrics else
  match templateInfo metrics.templateId with
  | none => metrics
  | some t =>
    let metrics :=
      if t.hasGpu then
        { metrics with
          cpuUsage := draws.gpu.cpuUsage.val, memoryUsage := draws.gpu.memoryUsage.val
          gpuUsage := draws.gpu.gpuUsage.val, networkIoMbps := draws.gpu.networkIoMbps.val
          runningPods := draws.gpu.runningPods.val, workloadCount := draws.gpu.workloadCount.val }
      else
        { metrics with
          cpuUsage := draws.cpu.cpuUsage.val, memoryUsage := draws.cpu.memoryUsage.val
          gpuUsage := 0, networkIoMbps := draws.cpu.networkIoMbps.val
          runningPods := draws.cpu.runningPods.val, workloadCount := draws.cpu.workloadCount.val }
    { metrics with
      diskUsage := draws.diskUsage.val, failedPods := draws.failedPods.val
      pendingPods := draws.pendingPods.val }

/-- `calculate_power_and_cost(metrics)`. -/
def calculatePowerAndCost (metrics : ClusterMetrics) : ClusterMetrics :=
  match templateInfo metrics.templateId with
  | none => metrics
  | some t =>
    let utilizationFactor :=
      if 0 < metrics.gpuUsage then (metrics.cpuUsage + metrics.memoryUsage + metrics.gpuUsage) / 300
      else (metrics.cpuUsage + metrics.memoryUsage) / 200
    let actualPowerPerNode := t.estimatedPowerPerNode * (0.3 + 0.7 * utilizationFactor)
    let totalPower := actualPowerPerNode * (metrics.nodeCount + metrics.masterCount)
    let powerConsumptionWatts := totalPower * monitoringConfig.coolingOverhead
    let powerCostPerHour := powerConsumptionWatts / 1000 * monitoringConfig.electricityRate
    let infrastructureCostPerHour := t.baseCostPerHour * metrics.nodeCount
    let costPerHour := powerCostPerHour + infrastructureCostPerHour
    { metrics with powerConsumptionWatts, costPerHour, estimatedMonthlyCost := costPerHour * 24 * 30 }

/-- `calculate_scores(metrics)`; `not metrics.api_address` holds of `None` and of `""`. -/
def calculateScores (metrics : ClusterMetrics) : ClusterMetrics :=
  let healthScore : ℚ :=
    if metrics.status ≠ "CREATE_COMPLETE" then 0 else
      let h : ℚ := 100
      let h := if 0 < metrics.failedPods then h - metrics.failedPods * 15 else h
      let h := if 5 < metrics.pendingPods then h - (metrics.pendingPods - 5) * 10 else h
      let h := if 90 < metrics.cpuUsage then h - 20 else h
      let h := if 90 < metrics.memoryUsage then h - 20 else h
      if (metrics.apiAddress.filter (· ≠ "")).isNone then h - 10 else h
  let efficiencyScore : ℚ :=
    if metrics.status = "CREATE_COMPLETE" ∧ 0 < metrics.powerConsumptionWatts then
      let utilizationScore :=
        if 0 < metrics.gpuUsage then (metrics.cpuUsage + metrics.memoryUsage + metrics.gpuUsage) / 3
        else (metrics.cpuUsage + metrics.memoryUsage) / 2
      let powerEfficiency := utilizationScore / (metrics.powerConsumptionWatts / 1000)
      max 0 (min 100 (powerEfficiency * 20))
    else 0
  { metrics with healthScore := max 0 (min 100 healthScore), efficiencyScore }

/-- `collect_full_metrics(cluster_name)`. -/
def collectFullMetrics (clusterName : String) (r : Reading) : ClusterMetrics :=
  calculateScores (calculatePowerAndCost
    (collectResourceMetrics (collectClusterBasicInfo clusterName r.cluster r.now) r.draws))

/-- `collect_multiple_clusters(cluster_names)`, each name with what was read for it:
`collect_full_metrics` raises nothing, so every name gives its metrics. -/
def collectMultipleClusters (clusterNames : List (String × Reading)) : List ClusterMetrics :=
  clusterNames.map fun c => collectFullMetrics c.1 c.2

/-- `eval_vars` of `evaluate_conditions(metrics)`. -/
def evalVars (m : ClusterMetrics) : Monitoring.ClusterMetrics where
  clusterName := m.clusterName
  status := m.status
  costPerHour := m.costPerHour
  healthScore := m.healthScore
  efficiencyScore := m.efficiencyScore
  failedPods := m.failedPods
  pendingPods := m.pendingPods
  cpuUsage := m.cpuUsage
  memoryUsage := m.memoryUsage
  gpuUsage := m.gpuUsage
  powerConsumptionWatts := m.powerConsumptionWatts
  nodeCount := m.nodeCount

/-! ## 4. The figures collection leaves -/

/-- The bounds on the pods and the memory that the draws of `collect_resource_metrics` keep to,
and the defaults too. -/
structure InRanges (m : ClusterMetrics) : Prop where
  failed_le : m.failedPods ≤ 2
  pending_le : m.pendingPods ≤ 5
  memory_le : m.memoryUsage ≤ 90

theorem inRanges_collectClusterBasicInfo (clusterName : String) (cluster : Option MagnumCluster)
    (now : ℤ) : InRanges (collectClusterBasicInfo clusterName cluster now) := by
  cases cluster <;>
    exact ⟨(by decide : (0 : ℤ) ≤ 2), (by decide : (0 : ℤ) ≤ 5), (by norm_num : (0 : ℚ) ≤ 90)⟩

theorem InRanges.collectResourceMetrics {m : ClusterMetrics} (h : InRanges m)
    (draws : ResourceDraws) : InRanges (collectResourceMetrics m draws) := by
  unfold Collector.collectResourceMetrics
  split_ifs
  · exact h
  · split
    · exact h
    · refine ⟨draws.failedPods.le_hi, draws.pendingPods.le_hi, ?_⟩
      dsimp only
      split
      · exact draws.gpu.memoryUsage.le_hi
      · exact draws.cpu.memoryUsage.le_hi.trans (by norm_num)

theorem status_collectResourceMetrics (m : ClusterMetrics) (draws : ResourceDraws) :
    (collectResourceMetrics m draws).status = m.status := by
  unfold collectResourceMetrics
  split_ifs
  · rfl
  · split
    · rfl
    · dsimp only; split <;> rfl

/-- `calculate_power_and_cost` sets the power and the costs, and nothing else. -/
theorem calculatePowerAndCost_frame (m : ClusterMetrics) :
    ∃ p c e, calculatePowerAndCost m =
      { m with powerConsumptionWatts := p, costPerHour := c, estimatedMonthlyCost := e } := by
  unfold calculatePowerAndCost
  split
  · exact ⟨m.powerConsumptionWatts, m.costPerHour, m.estimatedMonthlyCost, rfl⟩
  · exact ⟨_, _, _, rfl⟩

theorem InRanges.calculatePowerAndCost {m : ClusterMetrics} (h : InRanges m) :
    InRanges (calculatePowerAndCost m) := by
  obtain ⟨p, c, e, he⟩ := calculatePowerAndCost_frame m
  rw [he]
  exact ⟨h.failed_le, h.pending_le, h.memory_le⟩

theorem status_calculatePowerAndCost (m : ClusterMetrics) :
    (calculatePowerAndCost m).status = m.status := by
  obtain ⟨p, c, e, he⟩ := calculatePowerAndCost_frame m
  rw [he]

/-- Under `InRanges`, a `CREATE_COMPLETE` cluster loses at most 30 for failed pods, nothing for
pending pods or memory, 20 for the CPU and 10 for the API address. -/
theorem InRanges.healthScore_calculateScores {m : ClusterMetrics} (h : InRanges m)
    (hc : m.status = "CREATE_COMPLETE") : 40 ≤ (calculateScores m).healthScore := by
  have hp : ¬ (5 : ℤ) < m.pendingPods := not_lt.2 h.pending_le
  have hm : ¬ (90 : ℚ) < m.memoryUsage := not_lt.2 h.memory_le
  have hf : (m.failedPods : ℚ) ≤ 2 := by exact_mod_cast h.failed_le
  simp only [calculateScores, hc, ne_eq, not_true_eq_false, if_false, hp, hm]
  refine le_max_of_le_right (le_min (by norm_num) ?_)
  split_ifs <;> linarith

theorem inRanges_collectFullMetrics (clusterName : String) (r : Reading) :
    InRanges (collectFullMetrics clusterName r) :=
  let h := ((inRanges_collectClusterBasicInfo clusterName r.cluster r.now).collectResourceMetrics
    r.draws).calculatePowerAndCost
  ⟨h.failed_le, h.pending_le, h.memory_le⟩

/-- A collected `CREATE_COMPLETE` cluster scores at least 40 for health. -/
theorem healthScore_collectFullMetrics (clusterName : String) (r : Reading)
    (hc : (collectFullMetrics clusterName r).status = "CREATE_COMPLETE") :
    40 ≤ (collectFullMetrics clusterName r).healthScore := by
  refine ((inRanges_collectClusterBasicInfo clusterName r.cluster r.now).collectResourceMetrics
    r.draws).calculatePowerAndCost.healthScore_calculateScores ?_
  rwa [collectFullMetrics] at hc

/-! ## 5. What the default rules see -/

/-- The default rules no collected metrics satisfy. -/
def quietRules : List String := ["critical_health", "many_failed_pods", "high_memory"]

section
variable {messageTemplate : String → Monitoring.ClusterMetrics → Option String}

theorem condition_collected_quiet {r : AlertRule} (hr : r ∈ defaultRules messageTemplate)
    (hq : r.name ∈ quietRules) (clusterName : String) (rd : Reading) :
    r.condition (evalVars (collectFullMetrics clusterName rd)) ≠ some true := by
  have hb := inRanges_collectFullMetrics clusterName rd
  have hh := healthScore_collectFullMetrics clusterName rd
  simp only [defaultRules, List.mem_cons, List.mem_singleton, List.not_mem_nil, or_false] at hr
  rcases hr with rfl | rfl | rfl | rfl | rfl | rfl | rfl | rfl | rfl | rfl | rfl <;>
    dsimp only at hq
  all_goals first | exact absurd hq (by decide) | simp only [evalVars, ne_eq, Option.some.injEq,
    decide_eq_true_eq, not_and, not_lt]
  · exact fun h20 hc => absurd h20 (not_lt.2 (le_trans (by norm_num) (hh hc)))
  · exact hb.failed_le.trans (by norm_num)
  · exact fun h90 _ => absurd h90 (not_lt.2 hb.memory_le)

/-- `process_metrics` on collected metrics raises no alert of a quiet rule. -/
theorem processMetrics_collected_quiet {s : AlertSystem}
    (hs : s.alertRules = defaultRules messageTemplate) (clusterName : String) (rd : Reading)
    (now : ℤ) : ∀ a ∈ (processMetrics s (evalVars (collectFullMetrics clusterName rd)) now).1,
      a.ruleName ∉ quietRules := by
  intro a ha hq
  obtain ⟨r, hr, hname, hcond⟩ := mem_evaluateConditions ha
  exact condition_collected_quiet (hs ▸ hr) (hname ▸ hq) clusterName rd hcond

/-- Each `process_metrics` on collected metrics keeps quiet rules out of `alert_history`. -/
theorem processAll_quiet_of {s : AlertSystem} (hs : s.alertRules = defaultRules messageTemplate)
    (hh : ∀ a ∈ s.alertHistory, a.ruleName ∉ quietRules) (calls : List (String × Reading × ℤ)) :
    ∀ a ∈ (processAll s
        (calls.map fun c => (evalVars (collectFullMetrics c.1 c.2.1), c.2.2))).alertHistory,
      a.ruleName ∉ quietRules := by
  induction calls generalizing s with
  | nil => exact hh
  | cons c calls ih =>
    refine ih hs fun a ha => ?_
    rcases List.mem_append.1 ha with ha | ha
    · exact hh a ha
    · exact processMetrics_collected_quiet hs c.1 c.2.1 c.2.2 a ha

/-- **Three default rules never fire on collected metrics.**  Over every run of
`process_metrics` from `AlertSystem()` on metrics `collect_full_metrics` made, whatever Magnum
answered and the draws came to, `alert_history` holds no alert of `critical_health`,
`many_failed_pods` or `high_memory`. -/
theorem processAll_collected_quiet
    (messageTemplate : String → Monitoring.ClusterMetrics → Option String)
    (calls : List (String × Reading × ℤ)) :
    (processAll (AlertSystem.init messageTemplate)
        (calls.map fun c => (evalVars (collectFullMetrics c.1 c.2.1), c.2.2))).alertHistory.filter
      (·.ruleName ∈ quietRules) = [] :=
  List.filter_eq_nil_iff.2 fun a ha => by
    simpa using processAll_quiet_of rfl (fun _ h => absurd h (List.not_mem_nil _)) calls a ha

/-- The `eval_vars` of a cluster Magnum could not get: no cost, no scores, no pods, no usage. -/
theorem evalVars_collectFullMetrics_none (clusterName : String) (now : ℤ) (draws : ResourceDraws) :
    evalVars (collectFullMetrics clusterName ⟨none, now, draws⟩) =
      ⟨clusterName, "ERROR", 0, 0, 0, 0, 0, 0, 0, 0, 0, 0⟩ := by
  have ht : templateInfo "unknown" = some ⟨"dev-k8s-template", 0.15, false, 300⟩ := rfl
  simp [collectFullMetrics, collectClusterBasicInfo, collectResourceMetrics, calculatePowerAndCost,
    ht, calculateScores, evalVars]

/-- The alert system's part of `process_metrics` raises nothing on a cluster Magnum could not
get, under the default rules, and leaves `alert_history` and `last_alert_time` as they were. -/
theorem processMetrics_unreachable_quiet {s : AlertSystem}
    (hs : s.alertRules = defaultRules messageTemplate) (clusterName : String) (now : ℤ)
    (draws : ResourceDraws) (t : ℤ) :
    processMetrics s (evalVars (collectFullMetrics clusterName ⟨none, now, draws⟩)) t = ([], s) := by
  have hquiet : ∀ r ∈ s.alertRules,
      r.condition (evalVars (collectFullMetrics clusterName ⟨none, now, draws⟩)) ≠ some true := by
    rw [hs, evalVars_collectFullMetrics_none]
    norm_num [defaultRules]
    decide
  unfold processMetrics evaluateConditions
  rw [foldl_evaluateRule_of_quiet hquiet]
  dsimp only
  rw [List.append_nil]

/-- Draws at the low end of every range. -/
def lowDraws : ResourceDraws where
  gpu := ⟨⟨60, le_rfl, by norm_num⟩, ⟨70, le_rfl, by norm_num⟩, ⟨40, le_rfl, by norm_num⟩,
    ⟨100, le_rfl, by norm_num⟩, ⟨8, le_rfl, by decide⟩, ⟨3, le_rfl, by decide⟩⟩
  cpu := ⟨⟨20, le_rfl, by norm_num⟩, ⟨30, le_rfl, by norm_num⟩, ⟨50, le_rfl, by norm_num⟩,
    ⟨5, le_rfl, by decide⟩, ⟨2, le_rfl, by decide⟩⟩
  diskUsage := ⟨30, le_rfl, by norm_num⟩
  failedPods := ⟨0, le_rfl, by decide⟩
  pendingPods := ⟨0, le_rfl, by decide⟩

example : (sampleAlertRun.cleanupResolvedAlerts (900000000 + usPerDay + 1)).active = [] ∧
    (sampleAlertRun.cleanupResolvedAlerts (900000000 + usPerDay + 1)).flags = [⟨true, true⟩] := by
  decide

end

end OpenKCloud.Monitoring.Collector
