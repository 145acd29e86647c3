import OpenKCloud.Monitoring.AlertSystem
import Mathlib.Data.List.Sort
/-
# Active alerts: acknowledging, resolving, expiring

`process_metrics` appends every alert it raises to both `active_alerts` and `alert_history`, then
runs `cleanup_resolved_alerts`, which marks resolved every active alert raised more than 24 hours
before its own clock reading and drops the resolved ones from `active_alerts`.
`acknowledge_alert(alert_id)` and `resolve_alert(alert_id)` mark the first active alert with
that id; `get_active_alerts(severity)` lists the active alerts not resolved, and
`get_alert_summary()` counts them.

The two lists hold the same `Alert` objects, so marking an alert of `active_alerts` marks it in
`alert_history` too.  The model keeps the mutable flags (`acknowledged`, `resolved`) once per
position of `alert_history`, and `active_alerts` as the list of the positions of its alerts.
`alert.timestamp` is the clock reading's `isoformat()`, which `datetime.fromisoformat` reads back
as the same reading.  In this snapshot misplaced docstring quotes cut `process_metrics` (an
`except` lost its printing statement) and `resolve_alert`: the evident code is modelled.  `int(current_time.timestamp())` in an alert's id depends on the local time
zone: the model takes it as a function of the clock reading.

* `activeOk_of_reachable`: in every reachable state `active_alerts` lists positions of
  `alert_history` in the order raised, and every alert it leaves out is resolved;
* `getActiveAlerts_of_reachable`: hence `get_active_alerts()` is exactly the alerts of
  `alert_history` not resolved, in the order raised, and right after a `process_metrics` every
  one of them was raised less than 24 hours before the cleanup's clock reading;
* `getAlertSummary_of_reachable`: `get_alert_summary()` counts those alerts, in all and by
  cluster.
-/

namespace OpenKCloud.Monitoring

/-! ## 1. The state -/

/-- The mutable fields of an `Alert`. -/
structure AlertFlags where
  acknowledged : Bool
  resolved : Bool
  deriving DecidableEq

/-- `acknowledged=False, resolved=False`, as `Alert(...)` leaves them. -/
def AlertFlags.new : AlertFlags := ⟨false, false⟩

/-- The alert system with its `active_alerts`: `flags[i]` are the flags of `alert_history[i]`,
and `active` lists the positions in `alert_history` of the alerts of `active_alerts`. -/
structure AlertState where
  sys : AlertSystem
  flags : List AlertFlags
  active : List ℕ

/-- `AlertSystem()`. -/
def AlertState.init (messageTemplate : String → ClusterMetrics → Option String) : AlertState :=
  ⟨AlertSystem.init messageTemplate, [], []⟩

/-- The alert at position `i` of `alert_history`, with its flags. -/
def AlertState.entry (st : AlertState) (i : ℕ) : Option (Alert × AlertFlags) :=
  st.sys.alertHistory[i]?.bind fun a => st.flags[i]?.map fun f => (a, f)

/-- Whether the alert at position `i` is resolved. -/
def isResolved (flags : List AlertFlags) (i : ℕ) : Bool := (flags[i]?.map (·.resolved)).getD false

/-! ## 2. The methods -/

/-- `timedelta(hours=24)`, in microseconds. -/
def usPerDay : ℤ := 24 * 60 * usPerMinute

/-- One turn of `for alert in self.active_alerts` in `cleanup_resolved_alerts`: the alert at
position `i` is marked resolved when it was raised before `cutoff`. -/
def markIfOld (history : List Alert) (cutoff : ℤ) (flags : List AlertFlags) (i : ℕ) :
    List AlertFlags :=
  match history[i]? with
  | some a => if a.time < cutoff then flags.modify (fun f => { f with resolved := true }) i else flags
  | none => flags

/-- `cleanup_resolved_alerts()`, at the clock reading `now`. -/
def AlertState.cleanupResolvedAlerts (st : AlertState) (now : ℤ) : AlertState :=
  let flags := st.active.foldl (markIfOld st.sys.alertHistory (now - usPerDay)) st.flags
  { st with flags, active := st.active.filter fun i => !isResolved flags i }

/-- `process_metrics(metrics)`: `now` is the clock reading of `evaluate_conditions`, `cleanupNow`
that of `cleanup_resolved_alerts`.  The notification handlers' exceptions are caught. -/
def AlertState.processMetrics (st : AlertState) (metrics : ClusterMetrics) (now cleanupNow : ℤ) :
    List Alert × AlertState :=
  let r := OpenKCloud.Monitoring.processMetrics st.sys metrics now
  (r.1, AlertState.cleanupResolvedAlerts
    ⟨r.2, st.flags ++ r.1.map fun _ => AlertFlags.new,
      st.active ++ List.range' st.sys.alertHistory.length r.1.length⟩ cleanupNow)

/-- `alert.id`, `f"{alert_key}_{int(current_time.timestamp())}"`, where `posixSeconds` is
`int(datetime.timestamp())` of a clock reading. -/
def Alert.id (posixSeconds : ℤ → ℤ) (a : Alert) : String :=
  alertKey a.ruleName a.clusterName ++ "_" ++ toString (posixSeconds a.time)

/-- The position of the first alert of `active_alerts` with the id `alertId`. -/
def AlertState.findActive (st : AlertState) (posixSeconds : ℤ → ℤ) (alertId : String) :
    Option ℕ :=
  st.active.find? fun i => st.sys.alertHistory[i]?.map (Alert.id posixSeconds) == some alertId

/-- `acknowledge_alert(alert_id)`. -/
def AlertState.acknowledgeAlert (st : AlertState) (posixSeconds : ℤ → ℤ) (alertId : String) :
    Bool × AlertState :=
  match st.findActive posixSeconds alertId with
  | some i => (true, { st with flags := st.flags.modify (fun f => { f with acknowledged := true }) i })
  | none => (false, st)

/-- `resolve_alert(alert_id)`; the alert stays in `active_alerts` until the next cleanup. -/
def AlertState.resolveAlert (st : AlertState) (posixSeconds : ℤ → ℤ) (alertId : String) :
    Bool × AlertState :=
  match st.findActive posixSeconds alertId with
  | some i => (true, { st with flags := st.flags.modify (fun f => { f with resolved := true }) i })
  | none => (false, st)

/-- `get_active_alerts(severity)`: `if severity:` filters on a non-empty severity only. -/
def AlertState.getActiveAlerts (st : AlertState) (severity : Option String) :
    List (Alert × AlertFlags) :=
  let alerts := (st.active.filterMap st.entry).filter fun p => !p.2.resolved
  match severity with
  | some s => if s = "" then alerts else alerts.filter (·.1.severity = s)
  | none => alerts

/-- One turn of `for alert in active_alerts` in `get_alert_summary`, on `summary['by_cluster']`. -/
def countCluster (byCluster : Dict ℕ) (p : Alert × AlertFlags) : Dict ℕ :=
  let cluster := p.1.clusterName
  let byCluster := if cluster ∈ byCluster.keys then byCluster else byCluster.set cluster 0
  byCluster.set cluster (byCluster.getD cluster 0 + 1)

/-- `get_alert_summary()`, without its `timestamp`, and with the alerts of `recent_alerts` for
their `to_dict()`. -/
structure AlertSummary where
  totalActive : ℕ
  critical : ℕ
  warning : ℕ
  info : ℕ
  byCluster : Dict ℕ
  recentAlerts : List (Alert × AlertFlags)

/-- `get_alert_summary()`. -/
def AlertState.getAlertSummary (st : AlertState) : AlertSummary :=
  let activeAlerts := st.getActiveAlerts none
  let bySeverity (severity : String) := (activeAlerts.filter (·.1.severity = severity)).length
  { totalActive := activeAlerts.length
    critical := bySeverity "CRITICAL"
    warning := bySeverity "WARNING"
    info := bySeverity "INFO"
    byCluster := activeAlerts.foldl countCluster []
    recentAlerts := activeAlerts.drop (activeAlerts.length - 10) }

/-! ## 3. Runs -/

/-- The alert system's methods that change it. -/
inductive AlertCall where
  | processMetrics (metrics : ClusterMetrics) (now cleanupNow : ℤ)
  | acknowledgeAlert (alertId : String)
  | resolveAlert (alertId : String)
  | addRule (rule : AlertRule)
  | removeRule (ruleName : String)

/-- One call. -/
def AlertState.call (posixSeconds : ℤ → ℤ) (st : AlertState) : AlertCall → AlertState
  | .processMetrics metrics now cleanupNow => (st.processMetrics metrics now cleanupNow).2
  | .acknowledgeAlert alertId => (st.acknowledgeAlert posixSeconds alertId).2
  | .resolveAlert alertId => (st.resolveAlert posixSeconds alertId).2
  | .addRule rule => { st with sys := st.sys.addRule rule }
  | .removeRule ruleName => { st with sys := st.sys.removeRule ruleName }

/-- The states `AlertSystem()` reaches, under any message templates and clock readings. -/
inductive AlertState.Reachable (posixSeconds : ℤ → ℤ) : AlertState → Prop where
  | init (messageTemplate : String → ClusterMetrics → Option String) :
    AlertState.Reachable posixSeconds (AlertState.init messageTemplate)
  | call {st : AlertState} (c : AlertCall) :
    AlertState.Reachable posixSeconds st → AlertState.Reachable posixSeconds (st.call posixSeconds c)

/-! ## 4. What the methods do to `resolved` -/

theorem isResolved_append {l : List AlertFlags} {i : ℕ} (hi : i < l.length) (l' : List AlertFlags) :
    isResolved (l ++ l') i = isResolved l i := by
  rw [isResolved, List.getElem?_append_left hi, isResolved]

/-- A change of flags that keeps `resolved` keeps it at every position. -/
theorem isResolved_modify_of_eq {f : AlertFlags → AlertFlags} (hf : ∀ x, (f x).resolved = x.resolved)
    (l : List AlertFlags) (n m : ℕ) : isResolved (l.modify f n) m = isResolved l m := by
  simp only [isResolved, List.getElem?_modify]
  cases l[m]? <;> simp [apply_ite AlertFlags.resolved, hf]

/-- A change of flags that never clears `resolved` never clears it at any position. -/
theorem isResolved_modify_of_imp {f : AlertFlags → AlertFlags}
    (hf : ∀ x, x.resolved = true → (f x).resolved = true) {l : List AlertFlags} {m : ℕ}
    (h : isResolved l m = true) (n : ℕ) : isResolved (l.modify f n) m = true := by
  simp only [isResolved, List.getElem?_modify] at h ⊢
  cases hm : l[m]? with
  | none => simp [hm] at h
  | some x =>
    simp only [hm, Option.map_some', Option.getD_some] at h ⊢
    split_ifs
    exacts [hf x h, h]

theorem isResolved_modify_self {l : List AlertFlags} {n : ℕ} (hn : n < l.length) :
    isResolved (l.modify (fun f => { f with resolved := true }) n) n = true := by
  simp [isResolved, List.getElem?_modify, List.getElem?_eq_getElem hn]

section
variable {history : List Alert} {cutoff : ℤ}

theorem length_markIfOld (flags : List AlertFlags) (i : ℕ) :
    (markIfOld history cutoff flags i).length = flags.length := by
  unfold markIfOld
  split
  · split_ifs
    exacts [List.length_modify .., rfl]
  · rfl

theorem isResolved_markIfOld {flags : List AlertFlags} {j : ℕ} (h : isResolved flags j = true)
    (i : ℕ) : isResolved (markIfOld history cutoff flags i) j = true := by
  unfold markIfOld
  split
  · split_ifs
    exacts [isResolved_modify_of_imp (fun _ _ => rfl) h i, h]
  · exact h

theorem length_foldl_markIfOld (l : List ℕ) (flags : List AlertFlags) :
    (l.foldl (markIfOld history cutoff) flags).length = flags.length := by
  induction l generalizing flags with
  | nil => rfl
  | cons i l ih => rw [List.foldl_cons, ih, length_markIfOld]

theorem isResolved_foldl_markIfOld (l : List ℕ) {flags : List AlertFlags} {j : ℕ}
    (h : isResolved flags j = true) :
    isResolved (l.foldl (markIfOld history cutoff) flags) j = true := by
  induction l generalizing flags with
  | nil => exact h
  | cons i l ih => exact ih (isResolved_markIfOld h i)

/-- The cleanup's loop marks resolved every alert it visits that was raised before `cutoff`. -/
theorem isResolved_foldl_markIfOld_of_old {l : List ℕ} {i : ℕ} (hi : i ∈ l) {a : Alert}
    (ha : history[i]? = some a) (hold : a.time < cutoff) {flags : List AlertFlags}
    (hlen : i < flags.length) : isResolved (l.foldl (markIfOld history cutoff) flags) i = true := by
  induction l generalizing flags with
  | nil => cases hi
  | cons k l ih =>
    rw [List.foldl_cons]
    rcases List.mem_cons.1 hi with rfl | hi
    · refine isResolved_foldl_markIfOld l ?_
      simp only [markIfOld, ha, if_pos hold]
      exact isResolved_modify_self hlen
    · exact ih hi (by rwa [length_markIfOld])

end

/-! ## 5. `active_alerts` over runs -/

/-- `active_alerts` as the methods keep it: positions of `alert_history` in the order raised,
covering every alert not resolved, with one set of flags per alert. -/
structure ActiveOk (st : AlertState) : Prop where
  flags_length : st.flags.length = st.sys.alertHistory.length
  sorted : st.active.Sorted (· < ·)
  lt_length : ∀ i ∈ st.active, i < st.sys.alertHistory.length
  resolved_of_not_mem : ∀ i < st.flags.length, i ∉ st.active → isResolved st.flags i = true

section
variable {st : AlertState}

theorem ActiveOk.cleanupResolvedAlerts (h : ActiveOk st) (now : ℤ) :
    ActiveOk (st.cleanupResolvedAlerts now) where
  flags_length := (length_foldl_markIfOld ..).trans h.flags_length
  sorted := h.sorted.filter _
  lt_length i hi := h.lt_length i (List.mem_of_mem_filter hi)
  resolved_of_not_mem i hi hn := by
    dsimp only [AlertState.cleanupResolvedAlerts] at hi hn ⊢
    rw [length_foldl_markIfOld] at hi
    by_cases ha : i ∈ st.active
    · simpa [List.mem_filter, ha] using hn
    · exact isResolved_foldl_markIfOld _ (h.resolved_of_not_mem i hi ha)

/-- New alerts, appended to `alert_history` and to `active_alerts`, keep `ActiveOk`. -/
theorem ActiveOk.append (h : ActiveOk st) (sys : AlertSystem) {new : List Alert}
    (hsys : sys.alertHistory = st.sys.alertHistory ++ new) :
    ActiveOk ⟨sys, st.flags ++ new.map fun _ => AlertFlags.new,
      st.active ++ List.range' st.sys.alertHistory.length new.length⟩ where
  flags_length := by simp [hsys, h.flags_length]
  sorted := by
    refine List.pairwise_append.2 ⟨h.sorted, List.pairwise_lt_range' .., fun a ha b hb => ?_⟩
    have := h.lt_length a ha
    have := (List.mem_range'_1.1 hb).1
    omega
  lt_length i hi := by
    rw [hsys, List.length_append]
    rcases List.mem_append.1 hi with hi | hi
    · have := h.lt_length i hi; omega
    · exact (List.mem_range'_1.1 hi).2
  resolved_of_not_mem i hi hn := by
    rw [List.mem_append, not_or, List.mem_range'_1] at hn
    have hlt : i < st.flags.length := by
      simp only [List.length_append, List.length_map] at hi
      rw [h.flags_length] at hi ⊢
      omega
    rw [isResolved_append hlt]
    exact h.resolved_of_not_mem i hlt hn.1

theorem ActiveOk.processMetrics (h : ActiveOk st) (metrics : ClusterMetrics) (now cleanupNow : ℤ) :
    ActiveOk (st.processMetrics metrics now cleanupNow).2 :=
  (h.append _ rfl).cleanupResolvedAlerts cleanupNow

theorem ActiveOk.modifyFlags (h : ActiveOk st) {f : AlertFlags → AlertFlags}
    (hf : ∀ x, x.resolved = true → (f x).resolved = true) (i : ℕ) :
    ActiveOk { st with flags := st.flags.modify f i } where
  flags_length := (List.length_modify ..).trans h.flags_length
  sorted := h.sorted
  lt_length := h.lt_length
  resolved_of_not_mem j hj hn := by
    rw [List.length_modify] at hj
    exact isResolved_modify_of_imp hf (h.resolved_of_not_mem j hj hn) i

theorem ActiveOk.call (h : ActiveOk st) (posixSeconds : ℤ → ℤ) :
    ∀ c : AlertCall, ActiveOk (st.call posixSeconds c)
  | .processMetrics metrics now cleanupNow => h.processMetrics metrics now cleanupNow
  | .acknowledgeAlert alertId => by
    dsimp only [AlertState.call, AlertState.acknowledgeAlert]
    split <;> dsimp only
    exacts [h.modifyFlags (fun _ h => by exact h) _, h]
  | .resolveAlert alertId => by
    dsimp only [AlertState.call, AlertState.resolveAlert]
    split <;> dsimp only
    exacts [h.modifyFlags (fun _ _ => rfl) _, h]
  | .addRule _ => ⟨h.flags_length, h.sorted, h.lt_length, h.resolved_of_not_mem⟩
  | .removeRule _ => ⟨h.flags_length, h.sorted, h.lt_length, h.resolved_of_not_mem⟩

theorem activeOk_of_reachable {posixSeconds : ℤ → ℤ} (hst : st.Reachable posixSeconds) :
    ActiveOk st := by
  induction hst with
  | init => exact ⟨rfl, List.sorted_nil, (fun _ h => by cases h), fun _ h => absurd h (Nat.not_lt_zero _)⟩
  | call c _ ih => exact ih.call posixSeconds c

end

/-! ## 6. `get_active_alerts()` -/

/-- Reading every position of two lists of one length pairs them up. -/
theorem filterMap_range_getElem? {α β : Type} (l₁ : List α) (l₂ : List β)
    (h : l₂.length = l₁.length) :
    (List.range l₁.length).filterMap (fun i => l₁[i]?.bind fun a => l₂[i]?.map fun b => (a, b)) =
      l₁.zip l₂ := by
  induction l₁ generalizing l₂ with
  | nil => rfl
  | cons a l₁ ih =>
    cases l₂ with
    | nil => cases h
    | cons b l₂ =>
      rw [List.length_cons, List.range_succ_eq_map, List.filterMap_cons, List.filterMap_map]
      simp only [Function.comp_def, List.getElem?_cons_succ, List.getElem?_cons_zero,
        Option.some_bind, Option.map_some', List.zip_cons_cons]
      rw [ih l₂ (Nat.succ_injective h)]

/-- `get_active_alerts` drops an entry exactly when its alert is resolved. -/
theorem entry_filter (st : AlertState) (i : ℕ) :
    (st.entry i).filter (fun p => !p.2.resolved) =
      if !isResolved st.flags i then st.entry i else none := by
  simp only [AlertState.entry, isResolved]
  cases st.flags[i]? <;> cases st.sys.alertHistory[i]? <;> simp [Option.filter, apply_ite]

section
variable {st : AlertState}

/-- Under `ActiveOk`, the positions of `active_alerts` not resolved are those of
`alert_history`. -/
theorem ActiveOk.filter_active (h : ActiveOk st) :
    st.active.filter (fun i => !isResolved st.flags i) =
      (List.range st.sys.alertHistory.length).filter (fun i => !isResolved st.flags i) := by
  apply List.eq_of_perm_of_sorted (r := (· < ·)) _ (h.sorted.filter _)
    ((List.sorted_lt_range _).filter _)
  apply (List.perm_ext_iff_of_nodup (h.sorted.filter _).nodup
    ((List.sorted_lt_range _).filter _).nodup).2
  intro i
  simp only [List.mem_filter, List.mem_range]
  refine ⟨fun ⟨hi, hu⟩ => ⟨h.lt_length i hi, hu⟩, fun ⟨hi, hu⟩ => ⟨?_, hu⟩⟩
  by_contra hn
  rw [h.resolved_of_not_mem i (h.flags_length ▸ hi) hn] at hu
  cases hu

theorem ActiveOk.getActiveAlerts_none (h : ActiveOk st) :
    st.getActiveAlerts none = (st.sys.alertHistory.zip st.flags).filter fun p => !p.2.resolved := by
  have hentry (l : List ℕ) : (l.filterMap st.entry).filter (fun p => !p.2.resolved) =
      (l.filter fun i => !isResolved st.flags i).filterMap st.entry := by
    rw [List.filter_filterMap, List.filterMap_filter]
    exact List.filterMap_congr fun i _ => entry_filter st i
  rw [AlertState.getActiveAlerts, hentry, h.filter_active, ← hentry]
  exact congrArg _ (filterMap_range_getElem? _ _ h.flags_length)

/-- Right after `cleanup_resolved_alerts` at `now`, no alert of `active_alerts` was raised
more than 24 hours before `now`. -/
theorem cleanupResolvedAlerts_fresh (hlen : ∀ i ∈ st.active, i < st.flags.length) (now : ℤ)
    {i : ℕ} (hi : i ∈ (st.cleanupResolvedAlerts now).active) {a : Alert}
    (ha : st.sys.alertHistory[i]? = some a) : now - usPerDay ≤ a.time := by
  simp only [AlertState.cleanupResolvedAlerts, List.mem_filter] at hi
  by_contra hold
  rw [isResolved_foldl_markIfOld_of_old hi.1 ha (lt_of_not_le hold) (hlen i hi.1)] at hi
  cases hi.2

theorem getActiveAlerts_none_fresh (h : ActiveOk st) (metrics : ClusterMetrics)
    (now cleanupNow : ℤ) :
    ∀ p ∈ (st.processMetrics metrics now cleanupNow).2.getActiveAlerts none,
      cleanupNow - usPerDay ≤ p.1.time := by
  intro p hp
  have happ := h.append (processMetrics st.sys metrics now).2 rfl
  obtain ⟨i, hi, hpi⟩ := List.mem_filterMap.1 (List.mem_of_mem_filter hp)
  simp only [AlertState.entry, Option.bind_eq_some, Option.map_eq_some'] at hpi
  obtain ⟨a, ha, f, -, rfl⟩ := hpi
  exact cleanupResolvedAlerts_fresh
    (fun j hj => happ.flags_length ▸ happ.lt_length j hj) cleanupNow hi ha

end

/-- **`active_alerts` over runs.**  In every state `AlertSystem()` reaches,
`get_active_alerts()` lists exactly the alerts of `alert_history` not resolved, in the order
raised, with their flags; and right after a `process_metrics` every one of them was raised less
than 24 hours before the clock reading of its cleanup. -/
theorem getActiveAlerts_of_reachable {posixSeconds : ℤ → ℤ} {st : AlertState}
    (hst : st.Reachable posixSeconds) :
    st.getActiveAlerts none = (st.sys.alertHistory.zip st.flags).filter (fun p => !p.2.resolved) ∧
      ∀ metrics now cleanupNow,
        ∀ p ∈ (st.processMetrics metrics now cleanupNow).2.getActiveAlerts none,
          cleanupNow - usPerDay ≤ p.1.time :=
  ⟨(activeOk_of_reachable hst).getActiveAlerts_none,
    getActiveAlerts_none_fresh (activeOk_of_reachable hst)⟩

/-- `AlertSystem()` given one cluster's metrics at CPU 95%, 15 minutes after `datetime.min` (the
first reading `high_cpu`'s cooldown lets through), then asked to acknowledge the alert it
raised. -/
def sampleAlertRun : AlertState :=
  ((AlertState.init fun _ _ => some "alert").call id
    (.processMetrics ⟨"c1", "CREATE_COMPLETE", 1, 80, 70, 0, 0, 95, 50, 0, 300, 3⟩
      900000000 900000000)).call id
    (.acknowledgeAlert "high_cpu_c1_900000000")

example : sampleAlertRun.flags = [⟨true, false⟩] ∧ sampleAlertRun.active = [0] := by decide

theorem getActiveAlerts_of_reachable_sampleAlertRun :
    sampleAlertRun.Reachable id ∧
      (sampleAlertRun.getActiveAlerts none =
          (sampleAlertRun.sys.alertHistory.zip sampleAlertRun.flags).filter
            (fun p => !p.2.resolved) ∧
        ∀ metrics now cleanupNow,
          ∀ p ∈ (sampleAlertRun.processMetrics metrics now cleanupNow).2.getActiveAlerts none,
            cleanupNow - usPerDay ≤ p.1.time) :=
  ⟨.call _ (.call _ (.init _)), getActiveAlerts_of_reachable (.call _ (.call _ (.init _)))⟩

/-! ## 7. `get_alert_summary()` -/

/-- One turn of the count: the alert's cluster goes up by one, every other entry stays. -/
theorem countCluster_get? (d : Dict ℕ) (p : Alert × AlertFlags) (c : String) :
    (countCluster d p).get? c = if c = p.1.clusterName then some (d.getD c 0 + 1) else d.get? c := by
  unfold countCluster
  have hzero : (if p.1.clusterName ∈ d.keys then d else d.set p.1.clusterName 0).getD
      p.1.clusterName 0 = d.getD p.1.clusterName 0 := by
    split_ifs with hk
    · rfl
    · rw [Dict.getD, Dict.getD, Dict.get?_set, if_pos rfl,
        Option.not_isSome_iff_eq_none.1 (mt Dict.get?_isSome_iff.1 hk)]
      rfl
  rw [Dict.get?_set, hzero]
  by_cases hc : c = p.1.clusterName
  · rw [if_pos hc, if_pos hc, hc]
  · rw [if_neg hc, if_neg hc]
    split_ifs
    · rfl
    · rw [Dict.get?_set, if_neg hc]

theorem foldl_countCluster_get? (l : List (Alert × AlertFlags)) (d : Dict ℕ) (c : String) :
    (l.foldl countCluster d).get? c =
      if l.countP (·.1.clusterName = c) = 0 then d.get? c
      else some (d.getD c 0 + l.countP (·.1.clusterName = c)) := by
  induction l generalizing d with
  | nil => rfl
  | cons p l ih =>
    rw [List.foldl_cons, ih, List.countP_cons]
    by_cases hc : c = p.1.clusterName
    · have hd : (countCluster d p).getD c 0 = d.getD c 0 + 1 := by
        rw [Dict.getD, countCluster_get?, if_pos hc]; rfl
      simp only [hd, hc.symm, decide_True, if_true, Nat.add_one_ne_zero, if_false]
      rw [countCluster_get?, if_pos hc]
      split_ifs <;> congr 1 <;> omega
    · have hne : (decide (p.1.clusterName = c)) = false := decide_eq_false (Ne.symm hc)
      simp only [Dict.getD, countCluster_get?, if_neg hc, hne, Bool.false_eq_true, if_false,
        Nat.add_zero]

/-- **`get_alert_summary()` over runs.**  In every state `AlertSystem()` reaches, the summary
counts the alerts of `alert_history` not resolved: `total_active` all of them, and
`by_cluster[c]` those of the cluster `c`, with no entry for a cluster that has none. -/
theorem getAlertSummary_of_reachable {posixSeconds : ℤ → ℤ} {st : AlertState}
    (hst : st.Reachable posixSeconds) (c : String) :
    st.getAlertSummary.totalActive =
        (st.sys.alertHistory.zip st.flags).countP (fun p => !p.2.resolved) ∧
      st.getAlertSummary.byCluster.get? c =
        let n := (st.sys.alertHistory.zip st.flags).countP
          fun p => p.1.clusterName = c && !p.2.resolved
        if n = 0 then none else some n := by
  have hact := (activeOk_of_reachable hst).getActiveAlerts_none
  refine ⟨by rw [AlertState.getAlertSummary, hact, List.countP_eq_length_filter], ?_⟩
  dsimp only [AlertState.getAlertSummary]
  rw [foldl_countCluster_get?, hact, List.countP_filter]
  simp only [Dict.get?_nil, Dict.getD_nil, Nat.zero_add]

theorem getAlertSummary_of_reachable_sampleAlertRun :
    sampleAlertRun.Reachable id ∧
      (sampleAlertRun.getAlertSummary.totalActive =
          (sampleAlertRun.sys.alertHistory.zip sampleAlertRun.flags).countP
            (fun p => !p.2.resolved) ∧
        sampleAlertRun.getAlertSummary.byCluster.get? "c1" =
          let n := (sampleAlertRun.sys.alertHistory.zip sampleAlertRun.flags).countP
            fun p => p.1.clusterName = "c1" && !p.2.resolved
          if n = 0 then none else some n) :=
  ⟨.call _ (.call _ (.init _)), getAlertSummary_of_reachable (.call _ (.call _ (.init _))) "c1"⟩

end OpenKCloud.Monitoring
