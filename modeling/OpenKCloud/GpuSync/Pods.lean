import OpenKCloud.GpuSync.Flavors
/-
# The GPU inventory: `sync_gpu_pod_status_from_prometheus`, and the job that runs both syncs

`sync_gpu_pod_status_from_prometheus` (`app/db/featch_gpu.py`) reads the same Prometheus series
as `sync_flavors_to_db`, keeps those with an `exported_pod` label, and rewrites the `servers`
table and the `server_gpu_mapping` table from them:

* a row of `servers` whose pod Prometheus no longer reports is deleted with its mappings,
  unless it is tagged `LEGEND`;
* a reported pod whose name starts with `ailabserver-` only has the mappings of its row (the
  first row of that pod, `LEGEND` or not) rebuilt;
* any other reported pod has its row, the first not tagged `LEGEND`, updated (GPUs, CPU and
  memory, internal IP, tags, status `Running`), or one created when it has no row at all; a
  pod that only has a `LEGEND` row is skipped.  The mappings of the row are then rebuilt:
  one per `gpu_flavor` row that one of its GPUs finds under the normalized key.

`scheduled_sync_gpu_flavors` (`app/main.py`) runs `sync_flavors_to_db` and then this sync, in
one `try`: when the first raises, the second does not run.  Each sync commits or rolls back
on its own.  Kubernetes' answers (`get_cpu_memory_from_k8s`, `get_pod_internal_ip`, which
catch every error) are inputs, as Prometheus' are.

* `runSyncs_of_nonMig`: while Prometheus reports a GPU that is not a MIG instance, the job
  changes nothing: no pod is deleted or added, no flavor updated;
* `runSyncs_legend`: over every run of the job, whatever the answers, the rows tagged
  `LEGEND` stay as they are;
* `syncGpuPodStatus_servers`: after a committed pod sync, every row not tagged `LEGEND` is
  a reported pod's, every reported pod has a row unless its name starts with `ailabserver-`,
  and no row the sync writes is tagged `DASHBOARD`: that branch of the tags is dead;
* `runSyncs_refs`: every mapping points at a row of `servers` and of `gpu_flavor` in every
  state the job reaches, so neither sync trips a foreign key it does not check;
* `runSyncs_syncFlavorsToDb`: in every state the job reaches from a table of normalized keys,
  a committed flavor sync leaves for each key the value of the last entry with that key of the
  dictionary `fetch_gpu_status_from_prometheus` builds;
* `runSyncs_keeps_unnormalized`: a row `init_flavors_from_csv` wrote under a name
  `normalize_key` changes is never updated nor deleted while Prometheus reports its GPU, and
  once a flavor sync commits, a second row for that GPU holds its use.
-/

namespace OpenKCloud.GpuSync

/-! ## 1. What the pod sync reads -/

/-- `s.startswith(p)`. -/
def startswith (s p : String) : Bool := p.data.isPrefixOf s.data

/-- `extract_user_name_from_pod(pod_name)`: `jupyter-js-lee---a4b212d2` gives `js.lee`. -/
def extractUserNameFromPod (podName : String) : Option String :=
  if startswith podName "jupyter-" then
    match podName.data.splitOn '-' with
    | _ :: a :: b :: _ => some ⟨a ++ '.' :: b⟩
    | _ => none
  else none

/-- What the pod sync asks Kubernetes, by pod name and namespace: `get_cpu_memory_from_k8s`
(`("N/A", "N/A")` where the API raises) and `get_pod_internal_ip` (`None` where it raises). -/
structure K8s where
  cpuMemory : String → String → String × String
  podInternalIp : String → String → Option String

/-- What the first loop gathers for one pod: `pod_gpu_details[pod]`, whose names are
`pod_gpu_map[pod]`, and the last of its series, `pod_info_map[pod]`. -/
structure PodGpus where
  podName : String
  details : List GpuKey
  metric : Metric

/-- `pod_gpu_map[pod].append(...)`, `pod_gpu_details[pod].append(...)` and
`pod_info_map[pod] = metric`: a pod seen before keeps its place. -/
def addPodGpu (pods : List PodGpus) (pod : String) (k : GpuKey) (m : Metric) : List PodGpus :=
  if pods.any (·.podName = pod) then
    pods.map fun p => if p.podName = pod then { p with details := p.details ++ [k], metric := m } else p
  else pods ++ [⟨pod, [k], m⟩]

/-- `gpu_name` and `mig_id` of a series, as the pod sync's first loop reads them.  Unlike
`fetch_gpu_status_from_prometheus`, it keeps a MIG instance without `GPU_I_ID` (as
`mig_id=None`) and reads a series without `modelName` as the GPU `""`. -/
def podGpu (m : Metric) : Except SyncError (String × Option ℤ) :=
  match m.get? "GPU_I_PROFILE" with
  | some profile => do
    let migId ← match m.get? "GPU_I_ID" with
      | some s => some <$> parseInt s
      | none => pure none
    pure (profile, migId)
  | none => pure (strip <| removeprefix (m.getD "modelName" "") "NVIDIA ", none)

/-- One series of the first loop: it is skipped without an `exported_pod`. -/
def scanStep (pods : List PodGpus) (m : Metric) : Except SyncError (List PodGpus) :=
  match m.get? "exported_pod" with
  | none => pure pods
  | some pod =>
    if pod = "" then pure pods else do
      let g ← podGpu m
      let gpuId ← intLabel m "gpu"
      pure (addPodGpu pods pod ⟨m.get? "Hostname", gpuId, g.2, g.1⟩ m)

/-! ## 2. `sync_gpu_pod_status_from_prometheus` -/

/-- `Counter(gpu_names).items()`: each name once, in the order first seen, with its count. -/
def counter (names : List String) : Dict ℕ :=
  names.foldl (fun c n => c.set n (c.getD n 0 + 1)) []

/-- The `gpu` column: `", ".join(gpu_str_list)`, with `f"{name} * {count}"` for a name that
comes more than once. -/
def gpuStr (names : List String) : String :=
  ", ".intercalate ((counter names).map fun e => if e.2 > 1 then e.1 ++ " * " ++ toString e.2 else e.1)

/-- `metric.get("exported_namespace") or metric.get("namespace") or "default"`. -/
def podNamespace (m : Metric) : String :=
  if labelSet m "exported_namespace" then m.getD "exported_namespace" ""
  else if labelSet m "namespace" then m.getD "namespace" "" else "default"

/-- The tags a pod's row is given. -/
def podTags (podName : String) : String :=
  if startswith podName "jupyter-" then "JUPYTER"
  else if startswith podName "ailabserver-" then "DASHBOARD" else "DEV"

/-- Steps 3 and 4: the rows not tagged `LEGEND` whose pod Prometheus does not report are
deleted, their mappings first; `db.delete(server)` deletes the row's links to claims with it
(`pvcs` is a `secondary` relationship). -/
def deleteGonePods (db : Db) (reported : List String) : Db :=
  let gone := fun s : ServerRow => s.podName ∉ reported ∧ s.tags ≠ some "LEGEND"
  { db with
    mappings := db.mappings.filter fun m => !(db.servers.filter gone).any (·.id = m.serverId)
    assocs := db.assocs.filter fun a => !(db.servers.filter gone).any (·.id = a.serverId)
    servers := db.servers.filter fun s => !gone s }

/-- One GPU of a pod in the mapping loop: the `gpu_flavor` row it finds (the loop normalizes
as `normalize_key` does, and asks `mig_id IS NULL` for `None`), mapped to the server unless
that mapping is there. -/
def mapGpu (L : Lowering) (sid : ℕ) (db : Db) (k : GpuKey) : Db :=
  match db.flavors.find? (·.stored = normalizeKey L k) with
  | none => db
  | some f =>
    if db.mappings.any fun m => m.serverId = sid ∧ m.gpuId = f.id then db
    else { db with mappings := db.mappings ++ [⟨db.mappingSeq, sid, f.id⟩], mappingSeq := db.mappingSeq + 1 }

/-- The mappings of server `sid`, rebuilt: the old ones deleted, then one per GPU of the pod. -/
def remapServer (L : Lowering) (db : Db) (sid : ℕ) (details : List GpuKey) : Db :=
  details.foldl (mapGpu L sid) { db with mappings := db.mappings.filter (·.serverId ≠ sid) }

/-- One pod of step 5.  The row the query finds is replaced by its update (`server.gpu = ...`,
and so on); a new row takes the next id, and fails the explicit `db.flush()` where no user was
found, since `servers.user_id` is `NOT NULL`. -/
def syncPod (L : Lowering) (k8s : K8s) (db : Db) (p : PodGpus) : Except SyncError Db :=
  let gpu := gpuStr (p.details.map (·.gpuName))
  if startswith p.podName "ailabserver-" then
    match db.servers.find? (·.podName = p.podName) with
    | some s => .ok (remapServer L db s.id p.details)
    | none => .ok db
  else
    let user := ((extractUserNameFromPod p.podName).bind fun n => db.users.find? (·.name = n)).orElse
      fun _ => db.users.find? (·.name = "dev")
    let ns := podNamespace p.metric
    let (cpu, memory) := k8s.cpuMemory p.podName ns
    let ip := k8s.podInternalIp p.podName ns
    let tags := podTags p.podName
    match db.servers.find? fun s => s.podName = p.podName ∧ s.tags ≠ some "LEGEND" with
    | some s =>
      let s' := { s with gpu, cpu, memory, tags := some tags, status := "Running",
                         internalIp := if ip.getD "" ≠ "" then ip else s.internalIp }
      .ok (remapServer L { db with servers := db.servers.map fun r => if r = s then s' else r } s.id p.details)
    | none =>
      if db.servers.any fun s => s.podName = p.podName ∧ s.tags = some "LEGEND" then .ok db
      else match user with
        | none => .error (.notNull "servers.user_id")
        | some u =>
          .ok (remapServer L { db with
              servers := db.servers ++ [⟨db.serverSeq, u.id, p.podName, p.podName, cpu, memory, gpu, ip,
                "Running", some tags⟩]
              serverSeq := db.serverSeq + 1 } db.serverSeq p.details)

/-- `sync_gpu_pod_status_from_prometheus()`: the database its commit leaves, or what it raised
(it rolls back and raises again). -/
def syncGpuPodStatusFromPrometheus (L : Lowering) (k8s : K8s) (db : Db) (answer : Except SyncError (List Metric)) :
    Except SyncError Db := do
  let pods ← (← answer).foldlM scanStep []
  pods.foldlM (syncPod L k8s) (deleteGonePods db (pods.map (·.podName)))

/-! ## 3. The scheduled job -/

/-- What one run of `scheduled_sync_gpu_flavors` reads: Prometheus' answer to each sync's
query, and Kubernetes. -/
structure SyncTick where
  flavorAnswer : Except SyncError (List Metric)
  podAnswer : Except SyncError (List Metric)
  k8s : K8s

/-- `scheduled_sync_gpu_flavors()`: the database after one run.  An exception of either sync
is logged; the pod sync does not run after the flavor sync raised. -/
def scheduledSyncGpuFlavors (L : Lowering) (db : Db) (t : SyncTick) : Db :=
  match syncFlavorsToDb L db t.flavorAnswer with
  | .error _ => db
  | .ok db₁ =>
    match syncGpuPodStatusFromPrometheus L t.k8s db₁ t.podAnswer with
    | .error _ => db₁
    | .ok db₂ => db₂

/-- The database after runs of the job. -/
def runSyncs (L : Lowering) (db : Db) (ticks : List SyncTick) : Db := ticks.foldl (scheduledSyncGpuFlavors L) db

/-! ### A sample database -/

/-- A MIG instance of `node1`, used by a Jupyter pod. -/
def sampleSeries : Metric :=
  [("Hostname", "node1"), ("gpu", "0"), ("GPU_I_PROFILE", "1g.10gb"), ("GPU_I_ID", "3"),
    ("exported_pod", "jupyter-js-lee---a4b2")]

/-- A row tagged `LEGEND`, of a pod Prometheus does not report. -/
def sampleLegend : ServerRow := ⟨1, 9, "legend", "legend-pod", "1", "1Gi", "", none, "Running", some "LEGEND"⟩

/-- A database with a `LEGEND` row, the row of a pod that is gone, and the user `js.lee`. -/
def sampleDb : Db :=
  ⟨[], [sampleLegend, ⟨2, 9, "gone", "gone-pod", "1", "1Gi", "", none, "Running", some "DEV"⟩],
    [⟨5, "js.lee"⟩], [], 1, 3, 1, [], [], 1⟩

def sampleK8s : K8s := ⟨fun _ _ => ("4", "8Gi"), fun _ _ => some "10.0.0.7"⟩

/-- The pod's row, which the sync creates for `js.lee`. -/
def sampleRow : ServerRow :=
  ⟨3, 5, "jupyter-js-lee---a4b2", "jupyter-js-lee---a4b2", "4", "8Gi", "1g.10gb", some "10.0.0.7",
    "Running", some "JUPYTER"⟩

/-- A GPU of `node2` that is not a MIG instance. -/
def fullGpuSeries : Metric :=
  [("Hostname", "node2"), ("gpu", "1"), ("modelName", "NVIDIA A100-SXM4-40GB")]

/-- A run of the job where both syncs read the MIG instance of `sampleSeries`. -/
def sampleTick : SyncTick := ⟨.ok [sampleSeries], .ok [sampleSeries], sampleK8s⟩

/-- A run of the job where the flavor sync also reads the GPU of `fullGpuSeries`. -/
def nonMigTick : SyncTick := ⟨.ok [sampleSeries, fullGpuSeries], .ok [sampleSeries], sampleK8s⟩

/-- `sampleDb` after `sampleTick`: the MIG instance has a flavor row, the Jupyter pod a row
mapped to it. -/
def sampleSynced : Db :=
  ⟨[⟨1, "1g.10gb", 1, "node1", 0, 3⟩], [sampleLegend, sampleRow], [⟨5, "js.lee"⟩], [⟨1, 3, 1⟩], 2, 4, 2, [], [], 1⟩

/-! ## 4. What each step writes -/

variable {L : Lowering}

section Frame

variable (sid : ℕ) (db : Db) (k : GpuKey) (ks : List GpuKey)

/-- One GPU of the mapping loop writes `server_gpu_mapping` only. -/
theorem mapGpu_frame :
    mapGpu L sid db k = { db with mappings := (mapGpu L sid db k).mappings,
                                  mappingSeq := (mapGpu L sid db k).mappingSeq } := by
  unfold mapGpu; split <;> [rfl; split <;> rfl]

theorem foldl_mapGpu_frame :
    ks.foldl (mapGpu L sid) db = { db with mappings := (ks.foldl (mapGpu L sid) db).mappings,
                                           mappingSeq := (ks.foldl (mapGpu L sid) db).mappingSeq } := by
  induction ks generalizing db with
  | nil => rfl
  | cons k ks ih =>
    rw [List.foldl_cons, ih, mapGpu_frame sid db k]

@[simp] theorem servers_mapGpu : (mapGpu L sid db k).servers = db.servers := by
  rw [mapGpu_frame]

@[simp] theorem servers_remapServer : (remapServer L db sid ks).servers = db.servers := by
  rw [remapServer, foldl_mapGpu_frame]

@[simp] theorem flavors_remapServer : (remapServer L db sid ks).flavors = db.flavors := by
  rw [remapServer, foldl_mapGpu_frame]

@[simp] theorem flavorSeq_remapServer : (remapServer L db sid ks).flavorSeq = db.flavorSeq := by
  rw [remapServer, foldl_mapGpu_frame]

@[simp] theorem serverSeq_remapServer : (remapServer L db sid ks).serverSeq = db.serverSeq := by
  rw [remapServer, foldl_mapGpu_frame]

@[simp] theorem users_remapServer : (remapServer L db sid ks).users = db.users := by
  rw [remapServer, foldl_mapGpu_frame]

@[simp] theorem pvcs_remapServer : (remapServer L db sid ks).pvcs = db.pvcs := by
  rw [remapServer, foldl_mapGpu_frame]

@[simp] theorem assocs_remapServer : (remapServer L db sid ks).assocs = db.assocs := by
  rw [remapServer, foldl_mapGpu_frame]

end Frame

/-- The tags the sync writes are never `LEGEND`. -/
theorem podTags_ne_legend (pod : String) : podTags pod ≠ "LEGEND" := by
  unfold podTags; split_ifs <;> decide

/-- ... and `DASHBOARD` only for a pod whose name starts with `ailabserver-`. -/
theorem podTags_ne_dashboard {pod : String} (h : startswith pod "ailabserver-" = false) :
    podTags pod ≠ "DASHBOARD" := by
  unfold podTags; split_ifs <;> simp_all

/-- **What one pod of step 5 does to `servers`.**  The `ailabserver-` branch and a pod with
only a `LEGEND` row leave it; otherwise the pod's first row not tagged `LEGEND` is replaced
by its update, with the pod's tags, or a row with those tags is added for the pod. -/
theorem syncPod_servers {k8s : K8s} {db db' : Db} {p : PodGpus} (h : syncPod L k8s db p = .ok db') :
    db'.servers = db.servers ∨
      (startswith p.podName "ailabserver-" = false ∧
        ((∃ s ∈ db.servers, s.podName = p.podName ∧ s.tags ≠ some "LEGEND" ∧ ∃ s' : ServerRow,
          db'.servers = (db.servers.map fun r => if r = s then s' else r) ∧
          s'.id = s.id ∧ s'.podName = p.podName ∧ s'.tags = some (podTags p.podName)) ∨
        (∃ s' : ServerRow, db'.servers = db.servers ++ [s'] ∧ s'.id = db.serverSeq ∧
          s'.podName = p.podName ∧ s'.tags = some (podTags p.podName)))) := by
  dsimp only [syncPod] at h
  split at h
  · split at h <;> (cases h; exact .inl (by simp))
  · rename_i hai
    have hai : startswith p.podName "ailabserver-" = false := by simpa using hai
    split at h
    · rename_i s hs
      cases h
      obtain ⟨hpod, htag⟩ := by simpa using List.find?_some hs
      exact .inr ⟨hai, .inl ⟨s, List.mem_of_find?_eq_some hs, hpod, htag, _,
        servers_remapServer _ _ _, rfl, hpod, rfl⟩⟩
    · split at h
      · cases h; exact .inl rfl
      · split at h
        · cases h
        · cases h; exact .inr ⟨hai, .inr ⟨_, servers_remapServer _ _ _, rfl, rfl, rfl⟩⟩
/-! ## 5. The rows tagged `LEGEND` -/

/-- The rows of `servers` tagged `LEGEND`. -/
def legendRows (db : Db) : List ServerRow := db.servers.filter (·.tags = some "LEGEND")

/-- Replacing one row by another, neither of which a filter keeps, does not change what it
keeps. -/
theorem filter_map_replace {α : Type} [DecidableEq α] {p : α → Bool} {s s' : α} (hs : p s = false)
    (hs' : p s' = false) (l : List α) : (l.map fun r => if r = s then s' else r).filter p = l.filter p := by
  induction l with
  | nil => rfl
  | cons r l ih => by_cases hr : r = s <;> simp_all [List.filter_cons]

theorem syncPod_legend {k8s : K8s} {db db' : Db} {p : PodGpus} (h : syncPod L k8s db p = .ok db') :
    legendRows db' = legendRows db := by
  unfold legendRows
  rcases syncPod_servers h with hs | ⟨-, ⟨s, -, -, htag, s', hs, -, -, hs'⟩ | ⟨s', hs, -, -, hs'⟩⟩
  · rw [hs]
  · rw [hs]
    exact filter_map_replace (by simpa using htag) (by simp [hs', podTags_ne_legend]) _
  · rw [hs, List.filter_append]
    simp [hs', podTags_ne_legend]

theorem deleteGonePods_legend (db : Db) (reported : List String) :
    legendRows (deleteGonePods db reported) = legendRows db := by
  simp only [legendRows, deleteGonePods, List.filter_filter]
  exact List.filter_congr fun s _ => by by_cases h : s.tags = some "LEGEND" <;> simp [h]

/-- What a committed pod sync did: it read the answer, gathered the pods, deleted the rows of
the pods that are gone, and ran step 5 over the pods. -/
theorem syncGpuPodStatus_eq_ok {k8s : K8s} {db db' : Db} {answer : Except SyncError (List Metric)}
    (h : syncGpuPodStatusFromPrometheus L k8s db answer = .ok db') :
    ∃ data pods, answer = .ok data ∧ data.foldlM scanStep [] = .ok pods ∧
      pods.foldlM (syncPod L k8s) (deleteGonePods db (pods.map (·.podName))) = .ok db' := by
  rcases answer with _ | data
  · cases h
  cases hs : data.foldlM scanStep [] with
  | error => simp only [syncGpuPodStatusFromPrometheus, bind, Except.bind, hs] at h; cases h
  | ok pods =>
    simp only [syncGpuPodStatusFromPrometheus, bind, Except.bind, hs] at h
    exact ⟨data, pods, rfl, hs, h⟩

theorem syncGpuPodStatus_legend {k8s : K8s} {db db' : Db} {answer : Except SyncError (List Metric)}
    (h : syncGpuPodStatusFromPrometheus L k8s db answer = .ok db') : legendRows db' = legendRows db := by
  obtain ⟨-, pods, -, -, hfold⟩ := syncGpuPodStatus_eq_ok h
  rw [foldlM_invariant (P := fun b => legendRows b = legendRows db)
    (fun b _ b' _ hb hs => (syncPod_legend hs).trans hb) (deleteGonePods_legend _ _) hfold]

theorem scheduledSyncGpuFlavors_legend (db : Db) (t : SyncTick) :
    legendRows (scheduledSyncGpuFlavors L db t) = legendRows db := by
  unfold scheduledSyncGpuFlavors
  split
  · rfl
  · rename_i db₁ h₁
    have h₁ : legendRows db₁ = legendRows db := by rw [syncFlavorsToDb_frame h₁]; rfl
    split
    · exact h₁
    · rename_i h₂; exact (syncGpuPodStatus_legend h₂).trans h₁

/-- **The rows tagged `LEGEND` never change.**  Over every run of the job, whatever Prometheus
and Kubernetes answer, the rows of `servers` tagged `LEGEND` stay as they are, in order. -/
theorem runSyncs_legend (db : Db) (ticks : List SyncTick) :
    legendRows (runSyncs L db ticks) = legendRows db := by
  induction ticks generalizing db with
  | nil => rfl
  | cons t ticks ih => exact (ih _).trans (scheduledSyncGpuFlavors_legend db t)

/-! ## 6. While Prometheus reports a GPU that is not a MIG instance -/

/-- A series of a GPU that is not a MIG instance: `modelName` and no `GPU_I_PROFILE`. -/
def NonMigSeries (m : Metric) : Prop := m.get? "GPU_I_PROFILE" = none ∧ (m.get? "modelName").isSome

instance (m : Metric) : Decidable (NonMigSeries m) := inferInstanceAs (Decidable (_ ∧ _))

theorem scheduledSyncGpuFlavors_of_nonMig (db : Db) {t : SyncTick}
    (h : ∀ data, t.flavorAnswer = .ok data → ∃ m ∈ data, NonMigSeries m) :
    scheduledSyncGpuFlavors L db t = db := by
  unfold scheduledSyncGpuFlavors
  split
  · rfl
  · rename_i db₁ h₁
    obtain ⟨data, flavors, db₂, hdata, -⟩ := syncFlavorsToDb_eq_ok h₁
    obtain ⟨m, hm, hp, hmodel⟩ := h data hdata
    rw [hdata] at h₁
    exact absurd h₁ (syncFlavorsToDb_fails_of_nonMig db hm hp hmodel db₁)

/-- **While Prometheus reports a GPU that is not a MIG instance, the job changes nothing.**
`sync_flavors_to_db` raises on such a GPU, and the pod sync does not run after it: no row of
a pod that is gone is deleted, no pod gets a row, no flavor is updated. -/
theorem runSyncs_of_nonMig (db : Db) {ticks : List SyncTick}
    (h : ∀ t ∈ ticks, ∀ data, t.flavorAnswer = .ok data → ∃ m ∈ data, NonMigSeries m) :
    runSyncs L db ticks = db := by
  induction ticks with
  | nil => rfl
  | cons t ticks ih =>
    show runSyncs L (scheduledSyncGpuFlavors L db t) ticks = db
    rw [scheduledSyncGpuFlavors_of_nonMig db (h t (List.mem_cons_self _ _))]
    exact ih fun t ht => h t (List.mem_cons_of_mem _ ht)

/-- With `nonMigTick`, the job leaves `sampleDb` as it is: the row of the pod that is gone
stays, and the Jupyter pod gets none. -/
theorem runSyncs_of_nonMig_sampleDb :
    (∀ t ∈ [nonMigTick], ∀ data, t.flavorAnswer = .ok data → ∃ m ∈ data, NonMigSeries m) ∧
      runSyncs asciiLowering sampleDb [nonMigTick] = sampleDb :=
  have h : ∀ t ∈ [nonMigTick], ∀ data, t.flavorAnswer = .ok data → ∃ m ∈ data, NonMigSeries m := by
    intro t ht data hd
    rw [List.mem_singleton.1 ht] at hd
    cases hd
    exact ⟨fullGpuSeries, by simp, by decide⟩
  ⟨h, runSyncs_of_nonMig sampleDb h⟩

/-! ## 7. `servers` after a committed pod sync -/

/-- The pods an answer reports: those of its series with a non-empty `exported_pod`. -/
def Reported (data : List Metric) (pod : String) : Prop :=
  ∃ m ∈ data, m.get? "exported_pod" = some pod ∧ pod ≠ ""

theorem mem_podNames_addPodGpu {pods : List PodGpus} {pod q : String} {k : GpuKey} {m : Metric} :
    q ∈ (addPodGpu pods pod k m).map (·.podName) ↔ q = pod ∨ q ∈ pods.map (·.podName) := by
  unfold addPodGpu
  split
  · rename_i h
    have hk : pod ∈ pods.map (·.podName) := by
      obtain ⟨p, hp, hpp⟩ := List.any_eq_true.1 h
      exact List.mem_map.2 ⟨p, hp, of_decide_eq_true hpp⟩
    have hnames : (pods.map fun p => if p.podName = pod then
        { p with details := p.details ++ [k], metric := m } else p).map (·.podName) = pods.map (·.podName) := by
      rw [List.map_map]; exact List.map_congr_left fun p _ => by dsimp only [Function.comp]; split <;> rfl
    rw [hnames]
    exact ⟨Or.inr, by rintro (rfl | h); exacts [hk, h]⟩
  · simp [or_comm]

/-- One series of the first loop: the pods gathered stay, and the series' pod joins them when
its `exported_pod` is not empty. -/
theorem scanStep_podNames {pods pods' : List PodGpus} {m : Metric} (h : scanStep pods m = .ok pods')
    (q : String) :
    q ∈ pods'.map (·.podName) ↔ q ∈ pods.map (·.podName) ∨ (m.get? "exported_pod" = some q ∧ q ≠ "") := by
  unfold scanStep at h
  split at h
  · rename_i hp; cases h; simp [hp]
  · rename_i pod hp
    split at h
    · rename_i h0; cases h; subst h0
      simp only [hp, Option.some_inj]
      exact ⟨Or.inl, by rintro (h | ⟨rfl, h⟩); exacts [h, absurd rfl h]⟩
    · obtain ⟨g, -, h⟩ := exists_of_bind_eq_ok h
      obtain ⟨gpuId, -, h⟩ := exists_of_bind_eq_ok h
      cases h
      rw [mem_podNames_addPodGpu, hp]
      constructor
      · rintro (rfl | h); exacts [.inr ⟨rfl, ‹_›⟩, .inl h]
      · rintro (h | ⟨h, -⟩); exacts [.inr h, .inl (Option.some_inj.1 h).symm]

theorem foldlM_scanStep_podNames {data : List Metric} {acc pods : List PodGpus}
    (h : data.foldlM scanStep acc = .ok pods) (q : String) :
    q ∈ pods.map (·.podName) ↔ q ∈ acc.map (·.podName) ∨ Reported data q := by
  induction data generalizing acc with
  | nil => cases h; simp [Reported]
  | cons m data ih =>
    rw [List.foldlM_cons] at h
    obtain ⟨acc₁, h₁, h⟩ := exists_of_bind_eq_ok h
    rw [ih h, scanStep_podNames h₁]
    simp only [Reported, List.mem_cons, exists_eq_or_imp]
    tauto

/-- Rows never leave `servers` in step 5, and keep their pod. -/
theorem syncPod_keeps_row {k8s : K8s} {db db' : Db} {p : PodGpus} (h : syncPod L k8s db p = .ok db')
    {q : String} (hq : ∃ s ∈ db.servers, s.podName = q) : ∃ s ∈ db'.servers, s.podName = q := by
  obtain ⟨s₀, hs₀, rfl⟩ := hq
  rcases syncPod_servers h with hs | ⟨-, ⟨s, -, hpod, -, s', hs, -, hpod', -⟩ | ⟨s', hs, -⟩⟩
  · exact ⟨s₀, hs ▸ hs₀, rfl⟩
  · refine ⟨if s₀ = s then s' else s₀, hs ▸ List.mem_map_of_mem _ hs₀, ?_⟩
    split
    · subst_vars; exact hpod'.trans hpod.symm
    · rfl
  · exact ⟨s₀, hs ▸ List.mem_append_left _ hs₀, rfl⟩

/-- A pod not named `ailabserver-…` has a row after its step. -/
theorem syncPod_row {k8s : K8s} {db db' : Db} {p : PodGpus} (h : syncPod L k8s db p = .ok db')
    (hai : startswith p.podName "ailabserver-" = false) : ∃ s ∈ db'.servers, s.podName = p.podName := by
  dsimp only [syncPod] at h
  rw [if_neg (by simp [hai])] at h
  split at h
  · rename_i s hs
    cases h
    obtain ⟨hpod, -⟩ := by simpa using List.find?_some hs
    exact ⟨_, by rw [servers_remapServer]; exact List.mem_map_of_mem _ (List.mem_of_find?_eq_some hs),
      by simp [hpod]⟩
  · split at h
    · rename_i hl
      cases h
      obtain ⟨s, hs, hps⟩ := List.any_eq_true.1 hl
      exact ⟨s, hs, (of_decide_eq_true hps).1⟩
    · split at h
      · cases h
      · cases h
        exact ⟨_, by rw [servers_remapServer]; exact List.mem_append_right _ (List.mem_singleton_self _), rfl⟩

/-- Every pod of step 5 not named `ailabserver-…` has a row once the loop is over. -/
theorem foldlM_syncPod_rows {k8s : K8s} {pods : List PodGpus} {db db' : Db}
    (h : pods.foldlM (syncPod L k8s) db = .ok db') :
    ∀ p ∈ pods, startswith p.podName "ailabserver-" = false → ∃ s ∈ db'.servers, s.podName = p.podName := by
  induction pods generalizing db with
  | nil => intro p hp; cases hp
  | cons p₀ pods ih =>
    rw [List.foldlM_cons] at h
    obtain ⟨db₁, h₁, hrest⟩ := exists_of_bind_eq_ok h
    intro p hp hai
    rcases List.mem_cons.1 hp with rfl | hp
    · exact foldlM_invariant (P := fun b => ∃ s ∈ b.servers, s.podName = p.podName)
        (fun _ _ _ _ hb hs => syncPod_keeps_row hs hb) (syncPod_row h₁ hai) hrest
    · exact ih hrest p hp hai

/-- **`servers` after a committed pod sync.**  Every row not tagged `LEGEND` belongs to a pod
the answer reports; every pod it reports has a row, unless its name starts with
`ailabserver-` (that branch never creates one); and no row the sync writes is tagged
`DASHBOARD`, since `podTags` gives that tag only to the pods of the other branch. -/
theorem syncGpuPodStatus_servers {k8s : K8s} {db db' : Db} {data : List Metric}
    (h : syncGpuPodStatusFromPrometheus L k8s db (.ok data) = .ok db') :
    (∀ s ∈ db'.servers, s.tags ≠ some "LEGEND" → Reported data s.podName) ∧
      (∀ pod, Reported data pod → startswith pod "ailabserver-" = false →
        ∃ s ∈ db'.servers, s.podName = pod) ∧
      (∀ s ∈ db'.servers, s.tags = some "DASHBOARD" → s ∈ db.servers) := by
  obtain ⟨_, pods, hdata, hscan, hfold⟩ := syncGpuPodStatus_eq_ok h
  cases hdata
  have hnames : ∀ q, q ∈ pods.map (·.podName) ↔ Reported data q := fun q => by
    simpa using foldlM_scanStep_podNames hscan q
  refine ⟨fun s hs hl => (hnames _).1 ?_, fun pod hpod hai => ?_, fun s hs hd => ?_⟩
  · -- every row not tagged `LEGEND` is a gathered pod's, before step 5 and after each pod
    refine foldlM_invariant (P := fun b => ∀ s ∈ b.servers, s.tags ≠ some "LEGEND" →
      s.podName ∈ pods.map (·.podName)) (fun b p b' hp hb hs => ?_) ?_ hfold s hs hl
    · intro r hr hrl
      have hpn : p.podName ∈ pods.map (·.podName) := List.mem_map_of_mem _ hp
      rcases syncPod_servers hs with he | ⟨-, ⟨s, -, -, -, s', he, -, hpod', -⟩ | ⟨s', he, -, hpod', -⟩⟩
      · exact hb r (he ▸ hr) hrl
      · obtain ⟨r₀, hr₀, rfl⟩ := List.mem_map.1 (he ▸ hr)
        by_cases hrs : r₀ = s
        · rw [if_pos hrs]; exact hpod' ▸ hpn
        · rw [if_neg hrs] at hrl ⊢; exact hb r₀ hr₀ hrl
      · rcases List.mem_append.1 (he ▸ hr) with hr | hr
        · exact hb r hr hrl
        · rw [List.mem_singleton.1 hr, hpod']; exact hpn
    · intro r hr hrl
      simp only [deleteGonePods, List.mem_filter, Bool.not_eq_true', decide_eq_false_iff_not,
        not_and, not_not] at hr
      by_contra hn
      exact hrl (hr.2 hn)
  · obtain ⟨p, hp, rfl⟩ := List.mem_map.1 ((hnames pod).2 hpod)
    exact foldlM_syncPod_rows hfold p hp hai
  · -- a row tagged `DASHBOARD` was there before: step 5 tags its rows with `podTags`
    refine foldlM_invariant (P := fun b => ∀ s ∈ b.servers, s.tags = some "DASHBOARD" → s ∈ db.servers)
      (fun b p b' _ hb hs => ?_) (fun r hr _ => List.mem_of_mem_filter hr) hfold s hs hd
    intro r hr hrd
    rcases syncPod_servers hs with he | ⟨hai, ⟨s, -, -, -, s', he, -, -, htag'⟩ | ⟨s', he, -, -, htag'⟩⟩
    · exact hb r (he ▸ hr) hrd
    · obtain ⟨r₀, hr₀, rfl⟩ := List.mem_map.1 (he ▸ hr)
      by_cases hrs : r₀ = s
      · rw [if_pos hrs, htag'] at hrd
        exact absurd (Option.some_inj.1 hrd) (podTags_ne_dashboard hai)
      · rw [if_neg hrs] at hrd ⊢; exact hb r₀ hr₀ hrd
    · rcases List.mem_append.1 (he ▸ hr) with hr | hr
      · exact hb r hr hrd
      · rw [List.mem_singleton.1 hr, htag'] at hrd
        exact absurd (Option.some_inj.1 hrd) (podTags_ne_dashboard hai)
/-- The pod sync of `sampleDb`: the row of the pod that is gone is deleted, the `LEGEND` row
stays, and the Jupyter pod gets a row. -/
theorem syncGpuPodStatus_servers_sampleDb :
    syncGpuPodStatusFromPrometheus asciiLowering sampleK8s sampleDb (.ok [sampleSeries]) =
        .ok { sampleDb with servers := [sampleLegend, sampleRow], serverSeq := 4 } ∧
      (∀ s ∈ [sampleLegend, sampleRow], s.tags ≠ some "LEGEND" →
        Reported [sampleSeries] s.podName) ∧
      (∀ pod, Reported [sampleSeries] pod → startswith pod "ailabserver-" = false →
        ∃ s ∈ [sampleLegend, sampleRow], s.podName = pod) ∧
      (∀ s ∈ [sampleLegend, sampleRow], s.tags = some "DASHBOARD" → s ∈ sampleDb.servers) :=
  have h : syncGpuPodStatusFromPrometheus asciiLowering sampleK8s sampleDb (.ok [sampleSeries]) =
      .ok { sampleDb with servers := [sampleLegend, sampleRow], serverSeq := 4 } := rfl
  ⟨h, syncGpuPodStatus_servers h⟩

/-! ## 8. The foreign keys of `server_gpu_mapping`, and the flavor table, over runs -/

/-- The foreign keys: every mapping points at a row of `servers` and at a row of
`gpu_flavor`, every link of `pvc_server_association` at a row of `servers` and at a claim. -/
structure RefsOk (db : Db) : Prop where
  server : ∀ m ∈ db.mappings, ∃ s ∈ db.servers, s.id = m.serverId
  flavor : ∀ m ∈ db.mappings, ∃ f ∈ db.flavors, f.id = m.gpuId
  assocServer : ∀ a ∈ db.assocs, ∃ s ∈ db.servers, s.id = a.serverId
  assocPvc : ∀ a ∈ db.assocs, ∃ p ∈ db.pvcs, p.id = a.pvcId

/-- A write that keeps the id of every row of `servers` and every claim, and the mappings,
links and flavors, keeps the foreign keys. -/
theorem RefsOk.of_servers {db db' : Db} (hok : RefsOk db)
    (hs : ∀ s ∈ db.servers, ∃ s' ∈ db'.servers, s'.id = s.id) (hm : db'.mappings = db.mappings)
    (hf : db'.flavors = db.flavors) (ha : db'.assocs = db.assocs) (hp : db.pvcs ⊆ db'.pvcs) :
    RefsOk db' := by
  refine ⟨fun m hm' => ?_, hf ▸ hm ▸ hok.flavor, fun a ha' => ?_, fun a ha' => ?_⟩
  · obtain ⟨s, hs₀, hid⟩ := hok.server m (hm ▸ hm')
    obtain ⟨s', hs', hid'⟩ := hs s hs₀
    exact ⟨s', hs', hid'.trans hid⟩
  · obtain ⟨s, hs₀, hid⟩ := hok.assocServer a (ha ▸ ha')
    obtain ⟨s', hs', hid'⟩ := hs s hs₀
    exact ⟨s', hs', hid'.trans hid⟩
  · obtain ⟨q, hq, hid⟩ := hok.assocPvc a (ha ▸ ha')
    exact ⟨q, hp hq, hid⟩

theorem refsOk_mapGpu {sid : ℕ} {db : Db} (hok : RefsOk db) (hs : ∃ s ∈ db.servers, s.id = sid)
    (k : GpuKey) : RefsOk (mapGpu L sid db k) := by
  unfold mapGpu
  split
  · exact hok
  · rename_i f hf
    split
    · exact hok
    · refine ⟨fun m hm => ?_, fun m hm => ?_, hok.assocServer, hok.assocPvc⟩ <;>
        rcases List.mem_append.1 hm with hm | hm
      · exact hok.server m hm
      · rw [List.mem_singleton.1 hm]; exact hs
      · exact hok.flavor m hm
      · rw [List.mem_singleton.1 hm]; exact ⟨f, List.mem_of_find?_eq_some hf, rfl⟩

/-- Rebuilding the mappings of a server that has a row keeps the foreign keys. -/
theorem refsOk_remapServer {sid : ℕ} {db : Db} (hok : RefsOk db) (hs : ∃ s ∈ db.servers, s.id = sid)
    (ks : List GpuKey) : RefsOk (remapServer L db sid ks) := by
  have h₀ : RefsOk { db with mappings := db.mappings.filter (·.serverId ≠ sid) } :=
    ⟨fun m hm => hok.server m (List.mem_of_mem_filter hm), fun m hm => hok.flavor m (List.mem_of_mem_filter hm),
      hok.assocServer, hok.assocPvc⟩
  have hs₀ : ∃ s ∈ ({ db with mappings := db.mappings.filter (·.serverId ≠ sid) } : Db).servers,
      s.id = sid := hs
  unfold remapServer
  generalize { db with mappings := db.mappings.filter (·.serverId ≠ sid) } = db₀ at h₀ hs₀ ⊢
  induction ks generalizing db₀ with
  | nil => exact h₀
  | cons k ks ih => exact ih _ (refsOk_mapGpu h₀ hs₀ k) (by simpa using hs₀)

theorem deleteGonePods_refsOk {db : Db} (hok : RefsOk db) (reported : List String) :
    RefsOk (deleteGonePods db reported) := by
  -- a reference the deletion keeps points at a row it keeps
  have hkeep : ∀ i, (∃ s ∈ db.servers, s.id = i) →
      (!(db.servers.filter fun s => decide (s.podName ∉ reported ∧ s.tags ≠ some "LEGEND")).any
        (·.id = i)) = true → ∃ s ∈ (deleteGonePods db reported).servers, s.id = i := by
    rintro i ⟨s, hs, hid⟩ hi
    refine ⟨s, List.mem_filter.2 ⟨hs, ?_⟩, hid⟩
    simp only [Bool.not_eq_true', List.any_eq_false, List.mem_filter] at hi
    by_contra hgone
    have hg : s.podName ∉ reported ∧ s.tags ≠ some "LEGEND" := by simpa using hgone
    exact hi s ⟨hs, decide_eq_true hg⟩ (by simpa using hid)
  refine ⟨fun m hm => ?_, fun m hm => hok.flavor m (List.mem_of_mem_filter hm), fun a ha => ?_,
    fun a ha => hok.assocPvc a (List.mem_of_mem_filter ha)⟩
  · exact hkeep _ (hok.server m (List.mem_of_mem_filter hm)) (List.mem_filter.1 hm).2
  · exact hkeep _ (hok.assocServer a (List.mem_of_mem_filter ha)) (List.mem_filter.1 ha).2

theorem syncPod_refsOk {k8s : K8s} {db db' : Db} {p : PodGpus} (hok : RefsOk db)
    (h : syncPod L k8s db p = .ok db') : RefsOk db' := by
  dsimp only [syncPod] at h
  split at h
  · split at h
    · rename_i s hs; cases h; exact refsOk_remapServer hok ⟨s, List.mem_of_find?_eq_some hs, rfl⟩ _
    · cases h; exact hok
  · split at h
    · rename_i s hs
      cases h
      apply refsOk_remapServer
      · exact hok.of_servers (fun r hr => ⟨_, List.mem_map_of_mem _ hr, by split <;> simp_all⟩) rfl rfl rfl (List.Subset.refl _)
      · exact ⟨_, List.mem_map_of_mem _ (List.mem_of_find?_eq_some hs), by simp⟩
    · split at h
      · cases h; exact hok
      · split at h
        · cases h
        · cases h
          apply refsOk_remapServer
          · exact hok.of_servers (fun r hr => ⟨r, List.mem_append_left _ hr, rfl⟩) rfl rfl rfl (List.Subset.refl _)
          · exact ⟨_, List.mem_append_right _ (List.mem_singleton_self _), rfl⟩

theorem syncGpuPodStatus_refsOk {k8s : K8s} {db db' : Db} {answer : Except SyncError (List Metric)}
    (hok : RefsOk db) (h : syncGpuPodStatusFromPrometheus L k8s db answer = .ok db') : RefsOk db' := by
  obtain ⟨-, pods, -, -, hfold⟩ := syncGpuPodStatus_eq_ok h
  exact foldlM_invariant (fun _ _ _ _ hb hs => syncPod_refsOk hb hs) (deleteGonePods_refsOk hok _) hfold

theorem syncFlavorsToDb_refsOk {db db' : Db} {answer : Except SyncError (List Metric)}
    (hok : RefsOk db) (h : syncFlavorsToDb L db answer = .ok db') : RefsOk db' := by
  have hframe := syncFlavorsToDb_frame h
  refine ⟨?_, syncFlavorsToDb_refs h hok.flavor, ?_, ?_⟩ <;> rw [hframe]
  exacts [hok.server, hok.assocServer, hok.assocPvc]

theorem scheduledSyncGpuFlavors_refsOk {db : Db} (hok : RefsOk db) (t : SyncTick) :
    RefsOk (scheduledSyncGpuFlavors L db t) := by
  unfold scheduledSyncGpuFlavors
  split
  · exact hok
  · rename_i db₁ h₁
    have hok₁ := syncFlavorsToDb_refsOk hok h₁
    split
    · exact hok₁
    · rename_i h₂; exact syncGpuPodStatus_refsOk hok₁ h₂

/-- **The foreign keys hold in every state the job reaches.**  From a database whose mappings
point at rows of `servers` and of `gpu_flavor`, every run of the job, whatever Prometheus and
Kubernetes answer, leaves one: the flavor sync's commit fails rather than delete a row a
mapping points at, and the pod sync deletes a server's mappings with it and maps only rows
it has found. -/
theorem runSyncs_refs {db : Db} (hok : RefsOk db) (ticks : List SyncTick) : RefsOk (runSyncs L db ticks) := by
  induction ticks generalizing db with
  | nil => exact hok
  | cons t ticks ih => exact ih (scheduledSyncGpuFlavors_refsOk hok t)

/-- `sampleDb` has no mapping; after `sampleTick` it has one, to the pod's row and the flavor row. -/
theorem runSyncs_refs_sampleDb : RefsOk sampleDb ∧ RefsOk (runSyncs asciiLowering sampleDb [sampleTick]) :=
  have hok : RefsOk sampleDb := ⟨by simp [sampleDb], by simp [sampleDb], by simp [sampleDb], by simp [sampleDb]⟩
  ⟨hok, runSyncs_refs hok [sampleTick]⟩

/-- Step 5 does not write `gpu_flavor`. -/
theorem syncPod_flavors {k8s : K8s} {db db' : Db} {p : PodGpus} (h : syncPod L k8s db p = .ok db') :
    db'.flavors = db.flavors ∧ db'.flavorSeq = db.flavorSeq := by
  dsimp only [syncPod] at h
  split at h
  · split at h <;> (cases h; simp)
  · split at h
    · cases h; simp
    · split at h
      · cases h; simp
      · split at h
        · cases h
        · cases h; simp

/-- The pod sync does not write `gpu_flavor`. -/
theorem syncGpuPodStatus_flavors {k8s : K8s} {db db' : Db} {answer : Except SyncError (List Metric)}
    (h : syncGpuPodStatusFromPrometheus L k8s db answer = .ok db') :
    db'.flavors = db.flavors ∧ db'.flavorSeq = db.flavorSeq := by
  obtain ⟨-, pods, -, -, hfold⟩ := syncGpuPodStatus_eq_ok h
  exact foldlM_invariant (P := fun b => b.flavors = db.flavors ∧ b.flavorSeq = db.flavorSeq)
    (fun _ _ _ _ hb hs => ⟨(syncPod_flavors hs).1.trans hb.1, (syncPod_flavors hs).2.trans hb.2⟩)
    ⟨rfl, rfl⟩ hfold

theorem syncGpuPodStatus_flavorsOk {k8s : K8s} {db db' : Db} {answer : Except SyncError (List Metric)}
    (hok : FlavorsOk L db) (h : syncGpuPodStatusFromPrometheus L k8s db answer = .ok db') : FlavorsOk L db' := by
  obtain ⟨hf, hseq⟩ := syncGpuPodStatus_flavors h
  exact ⟨⟨hf ▸ hseq ▸ hok.id_lt, hf ▸ hok.ids_nodup⟩, hf ▸ hok.keys_nodup, hf ▸ hok.normal⟩

/-- From a table of normalized, distinct keys, every state the job reaches has one. -/
theorem runSyncs_flavorsOk {db : Db} (hok : FlavorsOk L db) (ticks : List SyncTick) :
    FlavorsOk L (runSyncs L db ticks) := by
  induction ticks generalizing db with
  | nil => exact hok
  | cons t ticks ih =>
    refine ih ?_
    unfold scheduledSyncGpuFlavors
    split
    · exact hok
    · rename_i db₁ h₁
      have hok₁ := (syncFlavorsToDb_spec hok h₁).1
      split
      · exact hok₁
      · rename_i h₂; exact syncGpuPodStatus_flavorsOk hok₁ h₂

/-- **The flavor table holds the last answer.**  From a table of normalized, distinct keys,
after any run of the job, a committed `sync_flavors_to_db` leaves such a table, holding for
each normalized key the value of the last entry with that key of the dictionary
`fetch_gpu_status_from_prometheus` builds from Prometheus' answer (each raw key where its first
series put it, with the value of its last), and nothing for a key the answer does not hold. -/
theorem runSyncs_syncFlavorsToDb {db db' : Db} (hok : FlavorsOk L db) (ticks : List SyncTick)
    {answer : Except SyncError (List Metric)} (h : syncFlavorsToDb L (runSyncs L db ticks) answer = .ok db') :
    FlavorsOk L db' ∧ ∃ data flavors, answer = .ok data ∧
      fetchGpuStatusFromPrometheus data = .ok flavors ∧ ∀ k, db'.availableOf k = lastValue L flavors k :=
  syncFlavorsToDb_spec (runSyncs_flavorsOk hok ticks) h

/-- `sampleDb` after `sampleTick`, synced again from the same answer. -/
theorem runSyncs_syncFlavorsToDb_sampleDb :
    FlavorsOk asciiLowering sampleDb ∧
      syncFlavorsToDb asciiLowering (runSyncs asciiLowering sampleDb [sampleTick]) (.ok [sampleSeries]) = .ok sampleSynced ∧
      FlavorsOk asciiLowering sampleSynced ∧ ∃ data flavors, (.ok [sampleSeries] : Except SyncError (List Metric)) = .ok data ∧
        fetchGpuStatusFromPrometheus data = .ok flavors ∧
        ∀ k, sampleSynced.availableOf k = lastValue asciiLowering flavors k :=
  have hok : FlavorsOk asciiLowering sampleDb :=
    ⟨⟨by simp [sampleDb], by simp [sampleDb]⟩, by simp [sampleDb], by simp [sampleDb]⟩
  have h : syncFlavorsToDb asciiLowering (runSyncs asciiLowering sampleDb [sampleTick])
      (.ok [sampleSeries]) = .ok sampleSynced := rfl
  ⟨hok, h, runSyncs_syncFlavorsToDb hok [sampleTick] h⟩

/-! ## 9. A row the flavor file wrote under a name `normalize_key` changes -/

/-- One run of the job keeps the ids well formed, and a row whose stored key is not
normalized, when its flavor sync reports the row's GPU. -/
theorem scheduledSyncGpuFlavors_ids {db : Db} {t : SyncTick} (hok : IdsOk db) {r : FlavorRow}
    (hr : r ∈ db.flavors) (hstale : r.normKey L ≠ r.stored)
    (hrep : ∀ data flavors, t.flavorAnswer = .ok data →
      fetchGpuStatusFromPrometheus data = .ok flavors → r.normKey L ∈ flavors.map fun e => normalizeKey L e.1) :
    IdsOk (scheduledSyncGpuFlavors L db t) ∧ r ∈ (scheduledSyncGpuFlavors L db t).flavors := by
  unfold scheduledSyncGpuFlavors
  split
  · exact ⟨hok, hr⟩
  · rename_i db₁ h₁
    obtain ⟨hok₁, data, flavors, hd, hf, hkeep⟩ := syncFlavorsToDb_ids hok h₁
    have hr₁ := hkeep r hr hstale (hrep data flavors hd hf)
    split
    · exact ⟨hok₁, hr₁⟩
    · rename_i h₂
      obtain ⟨hfl, hseq⟩ := syncGpuPodStatus_flavors h₂
      exact ⟨⟨hfl ▸ hseq ▸ hok₁.id_lt, hfl ▸ hok₁.ids_nodup⟩, hfl ▸ hr₁⟩

/-- One run of the job keeps a row stored under a key its flavor sync reports, and makes one
where that sync commits. -/
theorem scheduledSyncGpuFlavors_stored {db : Db} {t : SyncTick} (hok : IdsOk db) {K : NormKey}
    (hK : ∀ data flavors, t.flavorAnswer = .ok data →
      fetchGpuStatusFromPrometheus data = .ok flavors → K ∈ flavors.map fun e => normalizeKey L e.1)
    (h : (∃ f ∈ db.flavors, f.stored = K) ∨ ∃ db₁, syncFlavorsToDb L db t.flavorAnswer = .ok db₁) :
    ∃ f ∈ (scheduledSyncGpuFlavors L db t).flavors, f.stored = K := by
  unfold scheduledSyncGpuFlavors
  split
  · rename_i e h₁
    rcases h with h | ⟨db₁, h⟩
    · exact h
    · rw [h₁] at h; cases h
  · rename_i db₁ h₁
    obtain ⟨data, flavors, hd, hf, hst⟩ := syncFlavorsToDb_stored hok h₁
    obtain ⟨e, he, hek⟩ := List.mem_map.1 (hK data flavors hd hf)
    obtain ⟨f, hf₁, hfst⟩ := hst e he
    have hfK : f.stored = K := hfst.trans hek
    split
    · exact ⟨f, hf₁, hfK⟩
    · rename_i h₂
      exact ⟨f, (syncGpuPodStatus_flavors h₂).1 ▸ hf₁, hfK⟩

/-- Over a run of the job whose flavor syncs all report the GPU of a row whose stored key is
not normalized, the ids stay well formed, the row stays, and so does a row stored under its
GPU's normalized key, once there is one. -/
theorem runSyncs_ids {db : Db} (hok : IdsOk db) {r : FlavorRow} (hr : r ∈ db.flavors)
    (hstale : r.normKey L ≠ r.stored) (ticks : List SyncTick)
    (hrep : ∀ t ∈ ticks, ∀ data flavors, t.flavorAnswer = .ok data →
      fetchGpuStatusFromPrometheus data = .ok flavors → r.normKey L ∈ flavors.map fun e => normalizeKey L e.1) :
    IdsOk (runSyncs L db ticks) ∧ r ∈ (runSyncs L db ticks).flavors ∧
      ((∃ f ∈ db.flavors, f.stored = r.normKey L) →
        ∃ f ∈ (runSyncs L db ticks).flavors, f.stored = r.normKey L) := by
  induction ticks generalizing db with
  | nil => exact ⟨hok, hr, id⟩
  | cons t ticks ih =>
    have ht := hrep t (List.mem_cons_self _ _)
    obtain ⟨hok₁, hr₁⟩ := scheduledSyncGpuFlavors_ids hok hr hstale ht
    obtain ⟨hok', hr', hst'⟩ := ih hok₁ hr₁ fun t' ht' => hrep t' (List.mem_cons_of_mem _ ht')
    exact ⟨hok', hr', fun hst => hst' (scheduledSyncGpuFlavors_stored hok ht (.inl hst))⟩

/-- **A row the syncs never find is never written.**  From a table with well-formed ids (one
`init_flavors_from_csv` leaves), a row whose stored key is not normalized, as a flavor file's
`1G.10GB` is, stays in the table as it is, `available` included, over every run of the job
whose flavor syncs all report its GPU: no query of the sync finds it.  The GPU's use is
written to a second row instead: once a flavor sync of the run commits, the table holds, after
it and to the end of the run, another row stored under the GPU's normalized key. -/
theorem runSyncs_keeps_unnormalized {db : Db} (hok : IdsOk db) {r : FlavorRow} (hr : r ∈ db.flavors)
    (hstale : r.normKey L ≠ r.stored) (ticks : List SyncTick)
    (hrep : ∀ t ∈ ticks, ∀ data flavors, t.flavorAnswer = .ok data →
      fetchGpuStatusFromPrometheus data = .ok flavors → r.normKey L ∈ flavors.map fun e => normalizeKey L e.1) :
    r ∈ (runSyncs L db ticks).flavors ∧
      ∀ pre t post, ticks = pre ++ t :: post →
        (∃ db₁, syncFlavorsToDb L (runSyncs L db pre) t.flavorAnswer = .ok db₁) →
        ∃ f ∈ (runSyncs L db ticks).flavors, f ≠ r ∧ f.stored = r.normKey L := by
  refine ⟨(runSyncs_ids hok hr hstale ticks hrep).2.1, fun pre t post hticks hsync => ?_⟩
  subst hticks
  have hpre := runSyncs_ids hok hr hstale pre fun t' ht' => hrep t' (List.mem_append_left _ ht')
  have ht := hrep t (List.mem_append_right _ (List.mem_cons_self _ _))
  obtain ⟨hok₁, hr₁⟩ := scheduledSyncGpuFlavors_ids hpre.1 hpre.2.1 hstale ht
  have hpost := runSyncs_ids hok₁ hr₁ hstale post fun t' ht' =>
    hrep t' (List.mem_append_right _ (List.mem_cons_of_mem _ ht'))
  have hrun : runSyncs L db (pre ++ t :: post) =
      runSyncs L (scheduledSyncGpuFlavors L (runSyncs L db pre) t) post := by
    simp only [runSyncs, List.foldl_append, List.foldl_cons]
  obtain ⟨f, hf, hfK⟩ := hpost.2.2 (scheduledSyncGpuFlavors_stored hpre.1 ht (.inr hsync))
  exact ⟨f, hrun ▸ hf, fun hfr => hstale (hfr ▸ hfK).symm, hfK⟩

/-- The table `init_flavors_from_csv` writes from `1G.10GB,0,node1,0,3`, after a run of the job
where the pod uses the instance: the file's row still says 0, the sync's own row says 1. -/
theorem runSyncs_keeps_unnormalized_csvDb :
    initFlavorsFromCsv ⟨[], [], [], [], 1, 1, 1, [], [], 1⟩ sampleCsv = .ok csvDb ∧ IdsOk csvDb ∧
      csvRow ∈ csvDb.flavors ∧ csvRow.normKey asciiLowering ≠ csvRow.stored ∧
      (∀ t ∈ [sampleTick], ∀ data flavors, t.flavorAnswer = .ok data →
        fetchGpuStatusFromPrometheus data = .ok flavors →
          csvRow.normKey asciiLowering ∈ flavors.map fun e => normalizeKey asciiLowering e.1) ∧
      (runSyncs asciiLowering csvDb [sampleTick]).flavors = [csvRow, ⟨2, "1g.10gb", 1, "node1", 0, 3⟩] ∧
      (csvRow ∈ (runSyncs asciiLowering csvDb [sampleTick]).flavors ∧
        ∀ pre t post, [sampleTick] = pre ++ t :: post →
          (∃ db₁, syncFlavorsToDb asciiLowering (runSyncs asciiLowering csvDb pre) t.flavorAnswer = .ok db₁) →
          ∃ f ∈ (runSyncs asciiLowering csvDb [sampleTick]).flavors, f ≠ csvRow ∧
            f.stored = csvRow.normKey asciiLowering) :=
  have hok : IdsOk csvDb := ⟨by simp [csvDb, csvRow], by simp [csvDb, csvRow]⟩
  have hr : csvRow ∈ csvDb.flavors := List.mem_singleton_self _
  have hstale : csvRow.normKey asciiLowering ≠ csvRow.stored := by decide
  have hrep : ∀ t ∈ [sampleTick], ∀ data flavors, t.flavorAnswer = .ok data →
      fetchGpuStatusFromPrometheus data = .ok flavors →
        csvRow.normKey asciiLowering ∈ flavors.map fun e => normalizeKey asciiLowering e.1 := by
    intro t ht data flavors hd hf
    rw [List.mem_singleton.1 ht] at hd
    cases hd
    cases hf
    decide
  ⟨rfl, hok, hr, hstale, hrep, rfl, runSyncs_keeps_unnormalized hok hr hstale [sampleTick] hrep⟩

end OpenKCloud.GpuSync
