import OpenKCloud.Monitoring.AlertSystem
import Mathlib.Data.List.Nodup
/-
# Cooldowns over runs of `process_metrics`

`last_alert_time[alert_key]` only ever moves to the current clock reading, so with a clock that
does not go back it never falls behind an alert filed under its key.  Hence two alerts of one
rule for one cluster are a cooldown apart, whatever ran in between.

The key does not name the pair, though: `f"{rule.name}_{cluster_name}"` is the same string for
rule `high` on cluster `cost_c1` and rule `high_cost` on cluster `c1`, and an alert of either
pair starts the cooldown of the other.

* `evaluateRule_good`: one rule keeps `Good`, the run invariant;
* `evaluateRule_get?_of_ne`: a rule writes only its own key;
* `processAll_cooldown`: over every run with a non-decreasing clock, alerts of the same rule
  and cluster are that rule's cooldown apart;
* `alertKey_collision_suppresses`: the default rule `high_cost` stays silent on cluster `c1`
  because an added rule `high` alerted on cluster `cost_c1`.
-/

namespace OpenKCloud.Monitoring

/-! ## 1. The invariant -/

/-- `b` comes at least its rule's cooldown after `a` when both are of one rule and one
cluster. -/
def CooledDown (rules : List AlertRule) (a b : Alert) : Prop :=
  a.ruleName = b.ruleName → a.clusterName = b.clusterName →
    ∀ r ∈ rules, r.name = b.ruleName → r.cooldownMinutes * usPerMinute ≤ b.time - a.time

/-- What a run keeps at clock `now`, of the alerts raised so far and `last_alert_time`. -/
structure Good (rules : List AlertRule) (alerts : List Alert) (last : Dict ℤ) (now : ℤ) :
    Prop where
  last_le : ∀ k t, last.get? k = some t → t ≤ now
  recorded :
    ∀ a ∈ alerts, ∃ t, last.get? (alertKey a.ruleName a.clusterName) = some t ∧ a.time ≤ t
  cooled : alerts.Pairwise (CooledDown rules)

variable {rules : List AlertRule}

theorem Good.mono {alerts : List Alert} {last : Dict ℤ} {now now' : ℤ}
    (h : Good rules alerts last now) (hle : now ≤ now') : Good rules alerts last now' :=
  ⟨fun k t hk => (h.last_le k t hk).trans hle, h.recorded, h.cooled⟩

theorem good_nil (now : ℤ) : Good rules [] [] now :=
  ⟨fun _ _ h => (nomatch h), fun _ h => absurd h (List.not_mem_nil _), List.Pairwise.nil⟩

/-! ## 2. One rule -/

/-- **An alert keeps `Good`.**  `evaluateRule` raised `b` for `r` at `now`, having found the
key's last reading `t` at least `r`'s cooldown back; any earlier alert of `b`'s pair is filed
under the same key, so it is no later than `t`. -/
theorem good_snoc {alerts : List Alert} {last : Dict ℤ} {now : ℤ} {r : AlertRule} {b : Alert}
    (hnames : (rules.map (·.name)).Nodup) (hr : r ∈ rules) (h : Good rules alerts last now)
    (hb : b.ruleName = r.name ∧ b.time = now)
    (hcd : r.cooldownMinutes * usPerMinute ≤
      now - (last.get? (alertKey b.ruleName b.clusterName)).getD datetimeMin) :
    Good rules (alerts ++ [b]) (last.set (alertKey b.ruleName b.clusterName) now) now := by
  obtain ⟨hname, htime⟩ := hb
  refine ⟨fun k t hk => ?_, fun a ha => ?_, ?_⟩
  · rw [Dict.get?_set] at hk
    split at hk
    · cases hk; exact le_rfl
    · exact h.last_le k t hk
  · rw [Dict.get?_set]
    rcases List.mem_append.1 ha with ha | ha
    · obtain ⟨t, ht, hat⟩ := h.recorded a ha
      split
      · exact ⟨now, rfl, hat.trans (h.last_le _ _ ht)⟩
      · exact ⟨t, ht, hat⟩
    · rw [List.mem_singleton.1 ha, if_pos rfl]
      exact ⟨now, rfl, htime.le⟩
  · refine List.pairwise_append.2 ⟨h.cooled, List.pairwise_singleton _ _, ?_⟩
    intro a ha b' hb' hrn hcn r' hr' hr'n
    rw [List.mem_singleton.1 hb'] at hrn hcn hr'n ⊢
    have hrr : r' = r := List.inj_on_of_nodup_map hnames hr' hr (hr'n.trans hname)
    obtain ⟨t, ht, hat⟩ := h.recorded a ha
    rw [← hrn, ← hcn, ht, Option.getD_some] at hcd
    rw [hrr, htime]
    exact hcd.trans (sub_le_sub_left hat now)

/-- **One rule of `evaluate_conditions` keeps `Good`**, for the alerts before the call followed
by those of the call so far. -/
theorem evaluateRule_good {history : List Alert} {acc : List Alert × Dict ℤ} {now : ℤ}
    {r : AlertRule} (metrics : ClusterMetrics) (hnames : (rules.map (·.name)).Nodup)
    (hr : r ∈ rules) (h : Good rules (history ++ acc.1) acc.2 now) :
    Good rules (history ++ (evaluateRule metrics now acc r).1)
      (evaluateRule metrics now acc r).2 now := by
  unfold evaluateRule
  split
  · exact h
  · split
    · dsimp only
      split
      · rename_i cd hcd
        split
        · rename_i hle
          split
          · rw [← List.append_assoc]
            refine good_snoc hnames hr h ⟨rfl, rfl⟩ ?_
            rwa [← timedeltaMinutes_eq_some hcd]
          · exact h
        · exact h
      · exact h
    · exact h

/-- **A rule writes only its own key**: one pair reaches another only through a shared key. -/
theorem evaluateRule_get?_of_ne {metrics : ClusterMetrics} {now : ℤ}
    {acc : List Alert × Dict ℤ} {r : AlertRule} {k : String} (hk : k ≠ alertKey r.name metrics.clusterName) :
    (evaluateRule metrics now acc r).2.get? k = acc.2.get? k := by
  unfold evaluateRule
  split
  · rfl
  · split
    · dsimp only
      split
      · split
        · split
          · rw [Dict.get?_set, if_neg hk]
          · rfl
        · rfl
      · rfl
    · rfl

/-! ## 3. Runs -/

theorem foldl_evaluateRule_good {history : List Alert} {now : ℤ} (metrics : ClusterMetrics)
    (hnames : (rules.map (·.name)).Nodup) (rs : List AlertRule) (hrs : rs ⊆ rules)
    (acc : List Alert × Dict ℤ) (h : Good rules (history ++ acc.1) acc.2 now) :
    Good rules (history ++ (rs.foldl (evaluateRule metrics now) acc).1)
      (rs.foldl (evaluateRule metrics now) acc).2 now := by
  induction rs generalizing acc with
  | nil => exact h
  | cons r rs ih =>
    exact ih (fun _ h' => hrs (List.mem_cons_of_mem _ h')) _
      (evaluateRule_good metrics hnames (hrs (List.mem_cons_self _ _)) h)

/-- **`process_metrics` keeps `Good`**, the clock moving to the call's reading. -/
theorem processMetrics_good {s : AlertSystem} {now : ℤ} (metrics : ClusterMetrics)
    (hnames : (s.alertRules.map (·.name)).Nodup)
    (h : Good s.alertRules s.alertHistory s.lastAlertTime now) :
    Good s.alertRules (processMetrics s metrics now).2.alertHistory
      (processMetrics s metrics now).2.lastAlertTime now :=
  foldl_evaluateRule_good metrics hnames s.alertRules (fun _ h => h) ([], s.lastAlertTime)
    (by simpa using h)

@[simp] theorem processMetrics_alertRules (s : AlertSystem) (metrics : ClusterMetrics) (now : ℤ) :
    (processMetrics s metrics now).2.alertRules = s.alertRules := rfl

theorem processAll_good (s : AlertSystem) (calls : List (ClusterMetrics × ℤ))
    (hnames : (s.alertRules.map (·.name)).Nodup) (hmono : (calls.map (·.2)).Pairwise (· ≤ ·))
    (hcool : s.alertHistory.Pairwise (CooledDown s.alertRules))
    (h : ∀ c ∈ calls.head?, Good s.alertRules s.alertHistory s.lastAlertTime c.2) :
    (processAll s calls).alertHistory.Pairwise (CooledDown s.alertRules) := by
  induction calls generalizing s with
  | nil => exact hcool
  | cons c calls ih =>
    have hc := processMetrics_good c.1 hnames (h c rfl)
    simp only [List.map_cons, List.pairwise_cons, List.forall_mem_map] at hmono
    exact ih (processMetrics s c.1 c.2).2 hnames hmono.2 hc.cooled fun c' hc' =>
      hc.mono (hmono.1 c' (List.mem_of_mem_head? hc'))

/-- **Alerts of one rule for one cluster are that rule's cooldown apart**, in every run from a
system with no alert yet, whatever its rules (with distinct names), metrics and clusters, as
long as the clock does not go back. -/
theorem processAll_cooldown (rules : List AlertRule) (hnames : (rules.map (·.name)).Nodup)
    (calls : List (ClusterMetrics × ℤ)) (hmono : (calls.map (·.2)).Pairwise (· ≤ ·)) :
    (processAll ⟨rules, [], []⟩ calls).alertHistory.Pairwise (CooledDown rules) :=
  processAll_good ⟨rules, [], []⟩ calls hnames hmono List.Pairwise.nil fun c _ => good_nil c.2

/-- The default rules have distinct names. -/
example : ((AlertSystem.init fun _ _ => none).alertRules.map (·.name)).Nodup := by decide

/-! ## 4. Two pairs, one key -/

/-- A rule `high`, added next to the default `high_cost`. -/
def highRule : AlertRule :=
  { name := "high", condition := fun m => some (decide (20 < m.costPerHour)),
    severity := "WARNING", messageTemplate := fun _ => some "high", cooldownMinutes := 10 }

/-- The default rules, every message template formatting, and `high`. -/
def collisionSystem : AlertSystem := (AlertSystem.init fun _ _ => some "alert").addRule highRule

/-- A healthy cluster that costs 25 an hour. -/
def costlyMetrics (clusterName : String) : ClusterMetrics :=
  ⟨clusterName, "CREATE_COMPLETE", 25, 100, 100, 0, 0, 0, 0, 0, 0, 1⟩

/-- A clock reading in the year 2025. -/
def noon : ℤ := 2025 * 365 * 1440 * usPerMinute

/-- Alone, a call for `c1` raises `high_cost` on `c1`.  After an alert of `high` on `cost_c1`
a minute earlier, the same call does not. -/
theorem alertKey_collision_suppresses :
    alertKey "high" "cost_c1" = alertKey "high_cost" "c1" ∧
      ((processAll collisionSystem [(costlyMetrics "c1", noon + usPerMinute)]).alertHistory.map
          fun a => (a.ruleName, a.clusterName)) = [("high_cost", "c1"), ("high", "c1")] ∧
      ((processAll collisionSystem
          [(costlyMetrics "cost_c1", noon), (costlyMetrics "c1", noon + usPerMinute)]
          ).alertHistory.map fun a => (a.ruleName, a.clusterName)) =
        [("high_cost", "cost_c1"), ("high", "cost_c1"), ("high", "c1")] := by
  decide

end OpenKCloud.Monitoring
