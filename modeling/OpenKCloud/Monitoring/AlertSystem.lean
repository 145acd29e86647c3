import OpenKCloud.Dict
import Mathlib.Algebra.Order.Ring.Rat
/-
# The alert system

`kcloud-infra-optimization/monitoring/alert_system.py` checks each `ClusterMetrics` it is given
against a list of rules.  A rule whose condition holds raises an alert unless the same
`alert_key = f"{rule.name}_{metrics.cluster_name}"` raised one less than the rule's
`cooldown_minutes` ago; `last_alert_time[alert_key]` remembers when.

A rule's `condition` is a Python expression that `evaluate_conditions` hands to `eval`, and its
`message_template` goes to `str.format`: neither is part of this program, so a rule carries
what they make of the metrics, `none` where they raise.  Every exception in the loop body is
caught and the rule skipped.

Clock readings are microseconds from `datetime.min`.  `process_metrics` also feeds the alerts
to the notification handlers and to `active_alerts`, which `cleanup_resolved_alerts` prunes;
neither feeds back into which alerts are raised.  The handlers are left out, and
`Lifecycle.lean` follows `active_alerts`.
-/

namespace OpenKCloud.Monitoring

/-! ## 1. Rules, metrics, alerts -/

/-- The fields of `ClusterMetrics` that `evaluate_conditions` puts in `eval_vars`. -/
structure ClusterMetrics where
  clusterName : String
  status : String
  costPerHour : ℚ
  healthScore : ℚ
  efficiencyScore : ℚ
  failedPods : ℤ
  pendingPods : ℤ
  cpuUsage : ℚ
  memoryUsage : ℚ
  gpuUsage : ℚ
  powerConsumptionWatts : ℚ
  nodeCount : ℤ

/-- `AlertRule`.  `condition m` is the truth of `eval(rule.condition, {"__builtins__": {}},
eval_vars)`, and `messageTemplate m` is `rule.message_template.format(**eval_vars)`; each is
`none` where Python raises. -/
structure AlertRule where
  name : String
  condition : ClusterMetrics → Option Bool
  severity : String
  messageTemplate : ClusterMetrics → Option String
  cooldownMinutes : ℤ := 5
  enabled : Bool := true

/-- `Alert`, without its `id` (`f"{alert_key}_{int(current_time.timestamp())}"`) and with its
clock reading for `timestamp`. -/
structure Alert where
  ruleName : String
  clusterName : String
  severity : String
  message : String
  time : ℤ
  deriving DecidableEq

/-- The alert system's state: its rules, `alert_history` and `last_alert_time`. -/
structure AlertSystem where
  alertRules : List AlertRule
  alertHistory : List Alert
  lastAlertTime : Dict ℤ

/-! ## 2. Time -/

/-- Microseconds in a minute. -/
def usPerMinute : ℤ := 60000000

/-- `datetime.min`, the default of `last_alert_time.get(alert_key, datetime.min)`. -/
def datetimeMin : ℤ := 0

/-- `timedelta(minutes=m)` in microseconds; `none` where it raises `OverflowError`, beyond
999999999 days either way. -/
def timedeltaMinutes (m : ℤ) : Option ℤ :=
  if -999999999 ≤ m / 1440 ∧ m / 1440 ≤ 999999999 then some (m * usPerMinute) else none

theorem timedeltaMinutes_eq_some {m d : ℤ} (h : timedeltaMinutes m = some d) :
    d = m * usPerMinute := by
  unfold timedeltaMinutes at h
  split at h
  · exact (Option.some.inj h).symm
  · cases h

/-! ## 3. The rules -/

/-- `setup_default_rules`.  The snapshot of the source passes these rules no
`message_template`; `messageTemplate name` is the one of the rule `name`. -/
def defaultRules (messageTemplate : String → ClusterMetrics → Option String) : List AlertRule :=
  [{ name := "high_cost"
     condition := fun m => some (decide (20 < m.costPerHour))
     severity := "WARNING", messageTemplate := messageTemplate "high_cost"
     cooldownMinutes := 10 },
   { name := "very_high_cost"
     condition := fun m => some (decide (50 < m.costPerHour))
     severity := "CRITICAL", messageTemplate := messageTemplate "very_high_cost"
     cooldownMinutes := 5 },
   { name := "low_health"
     condition := fun m => some (decide (m.healthScore < 50 ∧ m.status = "CREATE_COMPLETE"))
     severity := "WARNING", messageTemplate := messageTemplate "low_health"
     cooldownMinutes := 15 },
   { name := "critical_health"
     condition := fun m => some (decide (m.healthScore < 20 ∧ m.status = "CREATE_COMPLETE"))
     severity := "CRITICAL", messageTemplate := messageTemplate "critical_health"
     cooldownMinutes := 5 },
   { name := "failed_pods"
     condition := fun m => some (decide (0 < m.failedPods))
     severity := "WARNING", messageTemplate := messageTemplate "failed_pods"
     cooldownMinutes := 10 },
   { name := "many_failed_pods"
     condition := fun m => some (decide (5 < m.failedPods))
     severity := "CRITICAL", messageTemplate := messageTemplate "many_failed_pods"
     cooldownMinutes := 5 },
   { name := "high_cpu"
     condition := fun m => some (decide (90 < m.cpuUsage ∧ m.status = "CREATE_COMPLETE"))
     severity := "WARNING", messageTemplate := messageTemplate "high_cpu"
     cooldownMinutes := 15 },
   { name := "high_memory"
     condition := fun m => some (decide (90 < m.memoryUsage ∧ m.status = "CREATE_COMPLETE"))
     severity := "WARNING", messageTemplate := messageTemplate "high_memory"
     cooldownMinutes := 15 },
   { name := "low_efficiency"
     condition := fun m => some (decide (m.efficiencyScore < 30 ∧ m.status = "CREATE_COMPLETE"))
     severity := "INFO", messageTemplate := messageTemplate "low_efficiency"
     cooldownMinutes := 30 },
   { name := "cluster_creation_failed"
     condition := fun m => some (decide (m.status = "CREATE_FAILED"))
     severity := "CRITICAL", messageTemplate := messageTemplate "cluster_creation_failed"
     cooldownMinutes := 0 },
   { name := "high_power_consumption"
     condition := fun m => some (decide (5000 < m.powerConsumptionWatts))
     severity := "INFO", messageTemplate := messageTemplate "high_power_consumption"
     cooldownMinutes := 60 }]

/-- `AlertSystem()`. -/
def AlertSystem.init (messageTemplate : String → ClusterMetrics → Option String) :
    AlertSystem :=
  ⟨defaultRules messageTemplate, [], []⟩

/-- `add_rule(rule)`. -/
def AlertSystem.addRule (s : AlertSystem) (rule : AlertRule) : AlertSystem :=
  { s with alertRules := s.alertRules ++ [rule] }

/-- `remove_rule(rule_name)`. -/
def AlertSystem.removeRule (s : AlertSystem) (ruleName : String) : AlertSystem :=
  { s with alertRules := s.alertRules.filter (·.name != ruleName) }

/-! ## 4. Raising alerts -/

/-- `f"{rule.name}_{metrics.cluster_name}"`. -/
def alertKey (ruleName clusterName : String) : String := ruleName ++ "_" ++ clusterName

/-- One turn of `for rule in self.alert_rules` in `evaluate_conditions(metrics)`, the clock
reading `now`: the alerts triggered so far and `last_alert_time`. -/
def evaluateRule (metrics : ClusterMetrics) (now : ℤ) (acc : List Alert × Dict ℤ)
    (rule : AlertRule) : List Alert × Dict ℤ :=
  if !rule.enabled then acc else
  match rule.condition metrics with
  | some true =>
    let key := alertKey rule.name metrics.clusterName
    let lastAlert := (acc.2.get? key).getD datetimeMin
    match timedeltaMinutes rule.cooldownMinutes with
    | some cooldown =>
      if cooldown ≤ now - lastAlert then
        match rule.messageTemplate metrics with
        | some message =>
          (acc.1 ++ [⟨rule.name, metrics.clusterName, rule.severity, message, now⟩],
            acc.2.set key now)
        | none => acc
      else acc
    | none => acc
  | _ => acc

/-- `evaluate_conditions(metrics)`: the triggered alerts, and `last_alert_time` after. -/
def evaluateConditions (s : AlertSystem) (metrics : ClusterMetrics) (now : ℤ) :
    List Alert × Dict ℤ :=
  s.alertRules.foldl (evaluateRule metrics now) ([], s.lastAlertTime)

/-- `process_metrics(metrics)`: the triggered alerts, appended to `alert_history`. -/
def processMetrics (s : AlertSystem) (metrics : ClusterMetrics) (now : ℤ) :
    List Alert × AlertSystem :=
  let r := evaluateConditions s metrics now
  (r.1, { s with alertHistory := s.alertHistory ++ r.1, lastAlertTime := r.2 })

/-- `process_metrics` on each `(metrics, clock reading)` in turn. -/
def processAll (s : AlertSystem) (calls : List (ClusterMetrics × ℤ)) : AlertSystem :=
  calls.foldl (fun s c => (processMetrics s c.1 c.2).2) s

/-! ## 5. Where alerts come from -/

section
variable {metrics : ClusterMetrics} {now : ℤ}

/-- One rule adds at most an alert of its own, and only when its condition holds. -/
theorem mem_evaluateRule {acc : List Alert × Dict ℤ} {rule : AlertRule} {a : Alert}
    (ha : a ∈ (evaluateRule metrics now acc rule).1) :
    a ∈ acc.1 ∨ rule.name = a.ruleName ∧ rule.condition metrics = some true := by
  unfold evaluateRule at ha
  split at ha
  · exact .inl ha
  · split at ha
    · rename_i hcond
      dsimp only at ha
      repeat (split at ha <;> try exact .inl ha)
      rcases List.mem_append.1 ha with ha | ha
      · exact .inl ha
      · exact .inr ⟨by rw [List.mem_singleton.1 ha], hcond⟩
    · exact .inl ha

theorem mem_foldl_evaluateRule (rules : List AlertRule) {acc : List Alert × Dict ℤ} {a : Alert}
    (ha : a ∈ (rules.foldl (evaluateRule metrics now) acc).1) :
    a ∈ acc.1 ∨ ∃ r ∈ rules, r.name = a.ruleName ∧ r.condition metrics = some true := by
  induction rules generalizing acc with
  | nil => exact .inl ha
  | cons r rules ih =>
    rcases ih ha with ha | ⟨r', hr', hr'a⟩
    · rcases mem_evaluateRule ha with ha | hra
      · exact .inl ha
      · exact .inr ⟨r, List.mem_cons_self _ _, hra⟩
    · exact .inr ⟨r', List.mem_cons_of_mem _ hr', hr'a⟩

/-- Every alert `evaluate_conditions` raises is of a rule of the system whose condition held. -/
theorem mem_evaluateConditions {s : AlertSystem} {a : Alert}
    (ha : a ∈ (evaluateConditions s metrics now).1) :
    ∃ r ∈ s.alertRules, r.name = a.ruleName ∧ r.condition metrics = some true :=
  (mem_foldl_evaluateRule s.alertRules ha).resolve_left (List.not_mem_nil _)

/-- Rules none of whose conditions holds raise nothing and record nothing. -/
theorem foldl_evaluateRule_of_quiet {rules : List AlertRule}
    (h : ∀ r ∈ rules, r.condition metrics ≠ some true) (acc : List Alert × Dict ℤ) :
    rules.foldl (evaluateRule metrics now) acc = acc := by
  induction rules generalizing acc with
  | nil => rfl
  | cons r rules ih =>
    rw [List.foldl_cons, ih (fun r' hr' => h r' (List.mem_cons_of_mem _ hr'))]
    unfold evaluateRule
    split
    · rfl
    · split
      · exact absurd ‹_› (h r (List.mem_cons_self _ _))
      · rfl

end

end OpenKCloud.Monitoring
