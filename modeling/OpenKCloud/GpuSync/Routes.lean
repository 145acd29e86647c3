import OpenKCloud.GpuSync.Pods
/-
# The backend's routes on the same database: `create_pod`, `delete_server`, `delete_pvc`

`app/api/routes/server.py` writes the tables the syncs write.  `create_pod` commits a claim
(`pvcs`) when asked for a new one, then a row of `servers` tagged `LEGEND` with status
`Creating`; it waits for the pod's IP, and marks the row `Running`, linked to its claim.
`delete_server` releases a row's GPUs and deletes its mappings, its links and the row;
`delete_pvc` deletes a claim.  A `Call` is a request to one of these routes or a run of the
scheduled job, and `runCalls` runs them one after another, in any order.  Kubernetes'
answers, the pod's IP and the `uuid` are inputs, as Prometheus' are.

When the pod gets no IP within 180 s, `create_pod` cleans up with `delete_pod(pod_name,
db=db, delete_db=True)` (`app/utils/k8s.py`), which looks the row up by `server_name ==
pod_name`; but the row's `server_name` is `request.name`, always shorter than `pod_name`.

* `runCalls_refsOk`: over every interleaving of requests and runs of the job, every mapping
  and every link points at a row that exists, and the ids of `servers` stay distinct;
* `createPod_timeout_keeps_row`: a `create_pod` whose pod gets no IP fails, and its row, still
  `Creating`, stays in the user's `my-server` list in every later state, until the user
  deletes it;
* `createPod_links_any_claim`: `create_pod` links the existing claim a request names by id and
  name, whoever owns it.
-/

namespace OpenKCloud.GpuSync

/-! ## 1. Requests and answers -/

/-- `kubernetes.client.rest.ApiException`: its status and body. -/
structure ApiException where
  status : ℕ
  body : String
  deriving DecidableEq, Repr

/-- How a route ends when it does not return. -/
inductive RouteError where
  /-- `HTTPException(status_code, detail)`. -/
  | http (status : ℕ) (detail : String)
  /-- An exception the route does not catch, which FastAPI answers with 500. -/
  | uncaught (name : String)
  deriving DecidableEq, Repr

/-- `PodCreateRequest`: the fields `create_pod` writes to the database or checks (`image`
goes to Kubernetes only, `description` to a column left out). -/
structure PodCreateRequest where
  cpu : String
  memory : String
  gpu : String
  name : String
  pvc : Bool
  pvcId : Option ℕ
  pvcName : Option String
  deriving DecidableEq, Repr

/-- What `create_pod` gets from outside the database. -/
structure PodK8s where
  /-- `uuid.uuid4().hex[:6]`. -/
  hex : String
  /-- `create_namespaced_persistent_volume_claim`. -/
  createPvc : Except ApiException Unit
  /-- `get_bound_pv_name` of the new claim: its volume, `None` after 30 tries, or the text of
  what it raised. -/
  boundPv : Except String (Option String)
  /-- `create_namespaced_pod`. -/
  createPod : Except ApiException Unit
  /-- The polling loop: the last `pod.status.pod_ip` it read, or what `read_namespaced_pod`
  raised. -/
  podIp : Except ApiException (Option String)
  /-- `get_bound_pv_name` in the `delete_pvc` of a cleanup. -/
  cleanupBoundPv : Except String (Option String)

/-- `s.replace(a, b)`, of one character by another. -/
def replace (s : String) (a b : Char) : String := ⟨s.data.map fun c => if c = a then b else c⟩

/-- `name = f"{request.name.replace(' ', '-')}-{uuid.uuid4().hex[:6]}"`. -/
def podBaseName (req : PodCreateRequest) (hex : String) : String := replace req.name ' ' '-' ++ "-" ++ hex

/-- `pod_name = f"ailabserver-{name}"`. -/
def createPodName (req : PodCreateRequest) (hex : String) : String := "ailabserver-" ++ podBaseName req hex

/-- The keys of `create_pod`'s `gpu_mapping`: the GPUs a request may ask for. -/
def gpuChoices : List String := ["2g.20gb", "3g.40gb", "4g.40gb", "A100 80GB", "A100 80GB × 2"]

/-- `pod_record`: the row `create_pod` commits before it waits for the IP. -/
def podRecord (db : Db) (u : ℕ) (req : PodCreateRequest) (hex : String) : ServerRow :=
  ⟨db.serverSeq, u, req.name, createPodName req hex, req.cpu, req.memory, req.gpu, some "", "Creating",
    some "LEGEND"⟩

/-- The error `create_pod` raises when the pod has no IP after 180 s. -/
def timeoutError : RouteError := .http 500 "Pod did not receive an internal IP within timeout period"

/-- The row's `server_name` is never the pod's name: `delete_pod` cannot find it. -/
theorem name_ne_createPodName (req : PodCreateRequest) (hex : String) : req.name ≠ createPodName req hex := by
  unfold createPodName podBaseName
  generalize req.name = n
  intro h
  have := congrArg String.length h
  simp only [replace, String.length_append] at this
  simp only [String.length, List.length_map, List.length_cons, List.length_nil] at this
  omega

/-! ## 2. Deleting rows -/

/-- `db.delete(server)`: the row, and its links to claims (`pvcs` is a `secondary`
relationship). -/
def dropServer (db : Db) (sid : ℕ) : Db :=
  { db with servers := db.servers.filter (·.id ≠ sid), assocs := db.assocs.filter (·.serverId ≠ sid) }

/-- The database part of `delete_pod(pod_name, db=db, delete_db=True)`: the first row whose
`server_name` is `pod_name`, deleted and committed; `none` where the commit fails because a
mapping still points at the row, which `delete_pod` catches and logs. -/
def deletePodRecord (db : Db) (podName : String) : Option Db :=
  match db.servers.find? (·.serverName = podName) with
  | none => some db
  | some s => if db.mappings.any (·.serverId = s.id) then none else some (dropServer db s.id)

/-- The database part of `delete_pvc(pvc_name, db=db, delete_db=True)`: the first claim named
`pvc_name`, deleted with its links. -/
def deletePvcRecord (db : Db) (pvcName : String) : Db :=
  match db.pvcs.find? (·.pvcName = pvcName) with
  | none => db
  | some p => { db with pvcs := db.pvcs.filter (·.id ≠ p.id), assocs := db.assocs.filter (·.pvcId ≠ p.id) }

/-- `delete_pvc(pvc_name, namespace, db, delete_db, delete_pv)`, on the database.  It catches
Kubernetes' errors, but where `get_bound_pv_name` raised, `bound_pv_name` was never bound and
`if delete_pv and bound_pv_name` raises. -/
def deletePvc (db : Db) (pvcName : String) (deleteDb deletePv : Bool)
    (bound : Except String (Option String)) : Except RouteError Db :=
  match deletePv, bound with
  | true, .error _ => .error (.uncaught "UnboundLocalError")
  | _, _ => .ok (if deleteDb then deletePvcRecord db pvcName else db)

/-! ## 3. The routes -/

/-- The claim of `create_pod`, and the database after it: a new claim (`request.pvc`),
created in Kubernetes and committed with its bound volume, or the one `request.pvc_id` names,
which must have the name `request.pvc_name`.  The last component is `existing_pvc`. -/
def createPodVolume (ns : String) (db : Db) (u : ℕ) (req : PodCreateRequest) (k : PodK8s) :
    Except RouteError (Db × PvcRow × Bool) :=
  if req.pvc then
    let pvcName := "ailabserver-claim-" ++ podBaseName req k.hex
    match k.createPvc with
    | .error e => .error (.http e.status ("PVC creation failed: " ++ e.body))
    | .ok () =>
      match k.boundPv with
      | .error msg =>
        match deletePvc db pvcName false true k.cleanupBoundPv with
        | .error e => .error e
        | .ok _ => .error (.http 500 ("Failed to save PVC to DB: " ++ msg))
      | .ok pv =>
        let p : PvcRow := ⟨db.pvcSeq, u, pvcName, pv,
          some ("/nfsvolume/" ++ ns ++ "-" ++ pvcName ++ "-" ++ pv.getD "None")⟩
        .ok ({ db with pvcs := db.pvcs ++ [p], pvcSeq := db.pvcSeq + 1 }, p, false)
  else
    match db.pvcs.find? fun p => some p.id = req.pvcId with
    | none => .error (.uncaught "AttributeError")
    | some p => if some p.pvcName ≠ req.pvcName then .error (.http 404 "PVC not found") else .ok (db, p, true)

/-- The `except Exception` branch of `create_pod`, once the pod and its row exist:
`delete_pod(pod_name, db=db, delete_db=True)`, then for a new claim `delete_pvc(pvc_name,
db=db, delete_db=True)`, then `raise e`.  After a failed commit the session is failed, and
the claim's row is not deleted either. -/
def createPodCleanup (db : Db) (podName : String) (pvc : PvcRow) (existingPvc : Bool)
    (bound : Except String (Option String)) (e : RouteError) : Db × Except RouteError Unit :=
  let db' := (deletePodRecord db podName).getD db
  if existingPvc then (db', .error e)
  else
    match deletePvc db' pvc.pvcName (deletePodRecord db podName).isSome true bound with
    | .error e' => (db', .error e')
    | .ok db'' => (db'', .error e)

/-- `create_pod(request)` by the user `u`: the database it leaves, committed in steps, and how
it ends. -/
def createPod (ns : String) (db : Db) (u : ℕ) (req : PodCreateRequest) (k : PodK8s) :
    Db × Except RouteError Unit :=
  match createPodVolume ns db u req k with
  | .error e => (db, .error e)
  | .ok (db₁, pvc, existingPvc) =>
    if req.gpu ≠ "None" ∧ req.gpu ∉ gpuChoices then (db₁, .error (.uncaught "KeyError"))
    else
      match k.createPod with
      | .error e => (db₁, .error (.http e.status ("Pod creation failed: " ++ e.body)))
      | .ok () =>
        let row := podRecord db₁ u req k.hex
        let db₂ := { db₁ with servers := db₁.servers ++ [row], serverSeq := db₁.serverSeq + 1 }
        match k.podIp with
        | .error e => (db₂, .error (.http e.status ("Pod creation failed: " ++ e.body)))
        | .ok ip =>
          if ip.getD "" = "" then createPodCleanup db₂ row.podName pvc existingPvc k.cleanupBoundPv timeoutError
          else
            ({ db₂ with
                servers := db₂.servers.map fun r =>
                  if r.id = row.id then { r with internalIp := ip, status := "Running" } else r
                assocs := db₂.assocs ++ [⟨row.id, pvc.id⟩] }, .ok ())

/-- `delete_server(request)` by the user `u`: the first of the user's rows for the pod; its
GPUs released (`available = 0`), its mappings and its links deleted, then the row. -/
def deleteServer (db : Db) (u : ℕ) (name : String) : Except RouteError Db :=
  match db.servers.find? fun s => s.podName = name ∧ s.userId = u with
  | none => .error (.http 404 "Server not found or not authorized")
  | some s =>
    let gpus := (db.mappings.filter (·.serverId = s.id)).map (·.gpuId)
    .ok (dropServer { db with
      flavors := db.flavors.map fun f => if f.id ∈ gpus then { f with available := 0 } else f
      mappings := db.mappings.filter (·.serverId ≠ s.id) } s.id)

/-- `delete_pvc_endpoint(request)` by the user `u`. -/
def deletePvcEndpoint (db : Db) (u : ℕ) (name : String) (pv : Bool)
    (bound : Except String (Option String)) : Except RouteError Db :=
  match db.pvcs.find? fun p => p.pvcName = name ∧ p.userId = u with
  | none => .error (.http 404 "PVC not found or not authorized")
  | some p => deletePvc db p.pvcName true pv bound

/-- `get_my_servers()` of the user `u`: the user's rows tagged `LEGEND`. -/
def getMyServers (db : Db) (u : ℕ) : List ServerRow :=
  db.servers.filter fun s => s.userId = u ∧ s.tags = some "LEGEND"

/-! ## 4. Requests and runs of the job, interleaved -/

/-- A request to a route, by a user, with the answers it gets; or a run of the job. -/
inductive Call where
  | createPod (u : ℕ) (req : PodCreateRequest) (k : PodK8s)
  | deleteServer (u : ℕ) (name : String)
  | deletePvc (u : ℕ) (name : String) (pv : Bool) (bound : Except String (Option String))
  | sync (t : SyncTick)

/-- The database after a call: a route that raises before its first commit leaves it as it
was. -/
def Call.step (L : Lowering) (ns : String) (db : Db) : Call → Db
  | .createPod u req k => (GpuSync.createPod ns db u req k).1
  | .deleteServer u name =>
    match GpuSync.deleteServer db u name with
    | .ok db' => db'
    | .error _ => db
  | .deletePvc u name pv bound =>
    match deletePvcEndpoint db u name pv bound with
    | .ok db' => db'
    | .error _ => db
  | .sync t => scheduledSyncGpuFlavors L db t

/-- The database after calls, in order. -/
def runCalls (L : Lowering) (ns : String) (db : Db) (calls : List Call) : Db := calls.foldl (Call.step L ns) db

/-- The calls that may delete the row `s` of `servers`: a run of the job, unless the row is
tagged `LEGEND`; its owner's `delete_server` of its pod; and a `create_pod` whose cleanup
looks for a row with the row's `server_name`. -/
def Call.Removes (s : ServerRow) : Call → Prop
  | .createPod _ req k => createPodName req k.hex = s.serverName
  | .deleteServer u name => u = s.userId ∧ name = s.podName
  | .deletePvc .. => False
  | .sync _ => s.tags ≠ some "LEGEND"

/-! ## 5. What each route writes -/

variable {L : Lowering}

theorem createPodVolume_ok {ns : String} {db db₁ : Db} {u : ℕ} {req : PodCreateRequest} {k : PodK8s}
    {p : PvcRow} {b : Bool} (h : createPodVolume ns db u req k = .ok (db₁, p, b)) :
    db₁ = { db with pvcs := db₁.pvcs, pvcSeq := db₁.pvcSeq } ∧ db.pvcs ⊆ db₁.pvcs ∧ p ∈ db₁.pvcs := by
  dsimp only [createPodVolume] at h
  split at h
  · split at h
    · cases h
    · split at h
      · split at h <;> cases h
      · cases h
        exact ⟨rfl, List.subset_append_left _ _, List.mem_append_right _ (List.mem_singleton_self _)⟩
  · split at h
    · cases h
    · rename_i q hq
      split at h
      · cases h
      · cases h
        exact ⟨rfl, List.Subset.refl _, List.mem_of_find?_eq_some hq⟩

/-- What the cleanup of `create_pod` leaves: the database after `delete_pod`'s delete, if it
committed, and perhaps after `delete_pvc`'s. -/
theorem createPodCleanup_cases (db : Db) (podName : String) (pvc : PvcRow) (b : Bool)
    (bound : Except String (Option String)) (e : RouteError) :
    ∃ db₃, (deletePodRecord db podName = some db₃ ∨ db₃ = db) ∧
      ((createPodCleanup db podName pvc b bound e).1 = db₃ ∨
        (createPodCleanup db podName pvc b bound e).1 = deletePvcRecord db₃ pvc.pvcName) := by
  unfold createPodCleanup
  cases hd : deletePodRecord db podName with
  | none =>
    refine ⟨db, .inr rfl, ?_⟩
    cases b <;> cases bound <;> simp [deletePvc]
  | some db₃ =>
    refine ⟨db₃, .inl rfl, ?_⟩
    cases b <;> cases bound <;> simp [deletePvc]

/-- What `create_pod` leaves: the database it started from, or the database after its claim,
then with the pod's row, then either marked `Running` and linked to its claim, or cleaned up. -/
theorem createPod_cases (ns : String) (db : Db) (u : ℕ) (req : PodCreateRequest) (k : PodK8s) :
    (createPod ns db u req k).1 = db ∨ ∃ db₁ p b, createPodVolume ns db u req k = .ok (db₁, p, b) ∧
      let row := podRecord db₁ u req k.hex
      let db₂ : Db := { db₁ with servers := db₁.servers ++ [row], serverSeq := db₁.serverSeq + 1 }
      ((createPod ns db u req k).1 = db₁ ∨ (createPod ns db u req k).1 = db₂ ∨
        (∃ db₃, (deletePodRecord db₂ row.podName = some db₃ ∨ db₃ = db₂) ∧
          ((createPod ns db u req k).1 = db₃ ∨ (createPod ns db u req k).1 = deletePvcRecord db₃ p.pvcName)) ∨
        (∃ ip, (createPod ns db u req k).1 = { db₂ with
          servers := db₂.servers.map fun r =>
            if r.id = row.id then { r with internalIp := ip, status := "Running" } else r
          assocs := db₂.assocs ++ [⟨row.id, p.id⟩] })) := by
  unfold createPod
  split
  · exact .inl rfl
  · rename_i db₁ p b hv
    refine .inr ⟨db₁, p, b, hv, ?_⟩
    split
    · exact .inl rfl
    · split
      · exact .inl rfl
      · split
        · exact .inr (.inl rfl)
        · split
          · exact .inr (.inr (.inl (createPodCleanup_cases _ _ _ _ _ _)))
          · exact .inr (.inr (.inr ⟨_, rfl⟩))

/-- `delete_pvc`'s delete writes `pvcs` and `pvc_server_association` only. -/
theorem deletePvcRecord_frame (db : Db) (n : String) :
    deletePvcRecord db n = { db with pvcs := (deletePvcRecord db n).pvcs,
                                     assocs := (deletePvcRecord db n).assocs } := by
  unfold deletePvcRecord; split <;> rfl

@[simp] theorem servers_deletePvcRecord (db : Db) (n : String) : (deletePvcRecord db n).servers = db.servers := by
  rw [deletePvcRecord_frame]

@[simp] theorem serverSeq_deletePvcRecord (db : Db) (n : String) :
    (deletePvcRecord db n).serverSeq = db.serverSeq := by
  rw [deletePvcRecord_frame]

/-- What a committed `delete_pod` did: nothing, or it deleted a row with the name that no
mapping points at. -/
theorem deletePodRecord_eq_some {db db' : Db} {n : String} (h : deletePodRecord db n = some db') :
    db' = db ∨ ∃ s ∈ db.servers, s.serverName = n ∧ (∀ m ∈ db.mappings, m.serverId ≠ s.id) ∧
      db' = dropServer db s.id := by
  unfold deletePodRecord at h
  split at h
  · exact .inl (Option.some.inj h).symm
  · rename_i s hs
    split at h
    · cases h
    · rename_i hm
      refine .inr ⟨s, List.mem_of_find?_eq_some hs, by simpa using List.find?_some hs, fun m hm' hid => ?_,
        (Option.some.inj h).symm⟩
      exact hm (List.any_eq_true.2 ⟨m, hm', by simpa using hid⟩)

/-! ## 6. The ids of `servers` -/

/-- The ids of `servers`: below the sequence, and distinct (the primary key). -/
structure ServerIdsOk (db : Db) : Prop where
  id_lt : ∀ s ∈ db.servers, s.id < db.serverSeq
  ids_nodup : (db.servers.map ServerRow.id).Nodup

theorem ServerIdsOk.eq_of_id_eq {db : Db} (hok : ServerIdsOk db) {s s' : ServerRow} (hs : s ∈ db.servers)
    (hs' : s' ∈ db.servers) (h : s.id = s'.id) : s = s' :=
  List.inj_on_of_nodup_map hok.ids_nodup hs hs' h

theorem ServerIdsOk.of_sublist {db db' : Db} (hok : ServerIdsOk db) (hs : List.Sublist db'.servers db.servers)
    (hseq : db.serverSeq ≤ db'.serverSeq) : ServerIdsOk db' :=
  ⟨fun s h => lt_of_lt_of_le (hok.id_lt s (hs.subset h)) hseq, (hs.map _).nodup hok.ids_nodup⟩

theorem ServerIdsOk.of_ids {db db' : Db} (hok : ServerIdsOk db)
    (hids : db'.servers.map ServerRow.id = db.servers.map ServerRow.id) (hseq : db'.serverSeq = db.serverSeq) :
    ServerIdsOk db' := by
  refine ⟨fun s h => ?_, hids ▸ hok.ids_nodup⟩
  obtain ⟨r, hr, hid⟩ := List.mem_map.1 (hids ▸ List.mem_map_of_mem ServerRow.id h)
  exact hseq ▸ hid ▸ hok.id_lt r hr

theorem ServerIdsOk.of_append {db db' : Db} (hok : ServerIdsOk db) {r : ServerRow} (hr : r.id = db.serverSeq)
    (hs : db'.servers = db.servers ++ [r]) (hseq : db'.serverSeq = db.serverSeq + 1) : ServerIdsOk db' := by
  refine ⟨fun s h => ?_, ?_⟩
  · rw [hs] at h; rw [hseq]
    rcases List.mem_append.1 h with h | h
    · exact Nat.lt_succ_of_lt (hok.id_lt s h)
    · rw [List.mem_singleton.1 h, hr]; exact Nat.lt_succ_self _
  · rw [hs, List.map_append, List.nodup_append]
    exact ⟨hok.ids_nodup, List.nodup_singleton _, List.disjoint_singleton.2 fun hmem => by
      obtain ⟨s, hs', hid⟩ := List.mem_map.1 hmem
      exact absurd (hok.id_lt s hs') (by simp [hid, hr])⟩

/-- Marking rows, as `create_pod` marks its row `Running`, keeps their ids. -/
theorem map_id_of_id {l : List ServerRow} {f : ServerRow → ServerRow} (hf : ∀ r, (f r).id = r.id) :
    (l.map f).map ServerRow.id = l.map ServerRow.id := by
  rw [List.map_map]; exact List.map_congr_left fun r _ => hf r

theorem syncPod_serverIdsOk {k8s : K8s} {db db' : Db} {p : PodGpus} (hok : ServerIdsOk db)
    (h : syncPod L k8s db p = .ok db') : ServerIdsOk db' := by
  dsimp only [syncPod] at h
  split at h
  · split at h
    · cases h; exact hok.of_ids (by simp) (by simp)
    · cases h; exact hok
  · split at h
    · rename_i s hs
      cases h
      refine hok.of_ids ?_ (by simp)
      rw [servers_remapServer]
      exact map_id_of_id fun r => by split <;> simp_all
    · split at h
      · cases h; exact hok
      · split at h
        · cases h
        · cases h; exact hok.of_append (by rfl) (servers_remapServer _ _ _) (serverSeq_remapServer _ _ _)

theorem scheduledSyncGpuFlavors_serverIdsOk {db : Db} (hok : ServerIdsOk db) (t : SyncTick) :
    ServerIdsOk (scheduledSyncGpuFlavors L db t) := by
  unfold scheduledSyncGpuFlavors
  split
  · exact hok
  · rename_i db₁ h₁
    have hf := syncFlavorsToDb_frame h₁
    have hok₁ : ServerIdsOk db₁ := ⟨by rw [hf]; exact hok.id_lt, by rw [hf]; exact hok.ids_nodup⟩
    split
    · exact hok₁
    · rename_i h₂
      obtain ⟨-, pods, -, -, hfold⟩ := syncGpuPodStatus_eq_ok h₂
      have h₀ : ServerIdsOk (deleteGonePods db₁ (pods.map (·.podName))) :=
        hok₁.of_sublist (List.filter_sublist _) le_rfl
      exact foldlM_invariant (fun _ _ _ _ hb hs => syncPod_serverIdsOk hb hs) h₀ hfold

theorem deletePodRecord_serverIdsOk {db db' : Db} {n : String} (hok : ServerIdsOk db)
    (h : deletePodRecord db n = some db') : ServerIdsOk db' := by
  rcases deletePodRecord_eq_some h with rfl | ⟨s, -, -, -, rfl⟩
  · exact hok
  · exact hok.of_sublist (List.filter_sublist _) le_rfl

theorem createPodVolume_servers {ns : String} {db db₁ : Db} {u : ℕ} {req : PodCreateRequest} {k : PodK8s}
    {p : PvcRow} {b : Bool} (h : createPodVolume ns db u req k = .ok (db₁, p, b)) :
    db₁.servers = db.servers ∧ db₁.serverSeq = db.serverSeq := by
  rw [(createPodVolume_ok h).1]; exact ⟨rfl, rfl⟩

/-- The database `create_pod` commits its row into keeps the ids of `servers` distinct. -/
theorem serverIdsOk_podRow {ns : String} {db db₁ : Db} {u : ℕ} {req : PodCreateRequest} {k : PodK8s}
    {p : PvcRow} {b : Bool} (hok : ServerIdsOk db) (hv : createPodVolume ns db u req k = .ok (db₁, p, b)) :
    ServerIdsOk { db₁ with
      servers := db₁.servers ++ [podRecord db₁ u req k.hex], serverSeq := db₁.serverSeq + 1 } := by
  obtain ⟨hs₁, hseq₁⟩ := createPodVolume_servers hv
  exact (hok.of_ids (by rw [hs₁]) hseq₁ : ServerIdsOk db₁).of_append rfl rfl rfl

theorem createPod_serverIdsOk {ns : String} {db : Db} (hok : ServerIdsOk db) (u : ℕ) (req : PodCreateRequest)
    (k : PodK8s) : ServerIdsOk (createPod ns db u req k).1 := by
  rcases createPod_cases ns db u req k with h | ⟨db₁, p, b, hv, h⟩
  · rw [h]; exact hok
  obtain ⟨hs₁, hseq₁⟩ := createPodVolume_servers hv
  have hok₁ : ServerIdsOk db₁ := hok.of_ids (by rw [hs₁]) hseq₁
  have hok₂ := serverIdsOk_podRow hok hv
  rcases h with h | h | ⟨db₃, hd, h⟩ | ⟨ip, h⟩
  · rw [h]; exact hok₁
  · rw [h]; exact hok₂
  · have hok₃ : ServerIdsOk db₃ := by
      rcases hd with hd | rfl
      · exact deletePodRecord_serverIdsOk hok₂ hd
      · exact hok₂
    rcases h with h | h <;> rw [h]
    · exact hok₃
    · exact hok₃.of_ids (by simp) (by simp)
  · rw [h]; exact hok₂.of_ids (map_id_of_id fun r => by split <;> rfl) rfl

theorem deleteServer_serverIdsOk {db db' : Db} {u : ℕ} {name : String} (hok : ServerIdsOk db)
    (h : deleteServer db u name = .ok db') : ServerIdsOk db' := by
  unfold deleteServer at h
  split at h
  · cases h
  · cases h; exact hok.of_sublist (List.filter_sublist _) le_rfl

theorem deletePvcEndpoint_servers {db db' : Db} {u : ℕ} {name : String} {pv : Bool}
    {bound : Except String (Option String)} (h : deletePvcEndpoint db u name pv bound = .ok db') :
    db'.servers = db.servers ∧ db'.serverSeq = db.serverSeq := by
  unfold deletePvcEndpoint deletePvc at h
  split at h
  · cases h
  · split at h
    · cases h
    · cases h; simp

/-- Every call keeps the ids of `servers` distinct and below the sequence. -/
theorem step_serverIdsOk {ns : String} {db : Db} (hok : ServerIdsOk db) : ∀ c : Call, ServerIdsOk (c.step L ns db)
  | .createPod u req k => createPod_serverIdsOk hok u req k
  | .deleteServer u name => by
    dsimp only [Call.step]; split
    · rename_i h; exact deleteServer_serverIdsOk hok h
    · exact hok
  | .deletePvc u name pv bound => by
    dsimp only [Call.step]; split
    · rename_i h; obtain ⟨hs, hseq⟩ := deletePvcEndpoint_servers h; exact hok.of_ids (by rw [hs]) hseq
    · exact hok
  | .sync t => scheduledSyncGpuFlavors_serverIdsOk hok t

/-! ## 7. The foreign keys over every interleaving -/

/-- Deleting a row that no mapping points at, with its links, keeps the foreign keys. -/
theorem RefsOk.dropServer {db : Db} (hok : RefsOk db) {sid : ℕ}
    (hm : ∀ m ∈ db.mappings, m.serverId ≠ sid) : RefsOk (dropServer db sid) := by
  refine ⟨fun m hm' => ?_, hok.flavor, fun a ha => ?_, fun a ha => hok.assocPvc a (List.mem_filter.1 ha).1⟩
  · obtain ⟨s, hs, hid⟩ := hok.server m hm'
    exact ⟨s, List.mem_filter.2 ⟨hs, by simpa [hid] using hm m hm'⟩, hid⟩
  · obtain ⟨ha, hne⟩ := List.mem_filter.1 ha
    obtain ⟨s, hs, hid⟩ := hok.assocServer a ha
    exact ⟨s, List.mem_filter.2 ⟨hs, by simpa [hid] using hne⟩, hid⟩

/-- A write that keeps the id of every row of `servers`, the mappings, the flavors and the
claims, and adds one link between a row and a claim that exist, keeps the foreign keys. -/
theorem RefsOk.of_link {db db' : Db} (hok : RefsOk db)
    (hs : ∀ s ∈ db.servers, ∃ s' ∈ db'.servers, s'.id = s.id) (hm : db'.mappings = db.mappings)
    (hf : db'.flavors = db.flavors) (hp : db'.pvcs = db.pvcs) {a : AssocRow}
    (ha : db'.assocs = db.assocs ++ [a]) (has : ∃ s ∈ db.servers, s.id = a.serverId)
    (hap : ∃ q ∈ db.pvcs, q.id = a.pvcId) : RefsOk db' := by
  have hok' : RefsOk { db' with assocs := db.assocs } :=
    hok.of_servers hs hm hf rfl (hp ▸ List.Subset.refl _)
  refine ⟨hok'.server, hok'.flavor, fun a' ha' => ?_, fun a' ha' => ?_⟩ <;>
    rcases List.mem_append.1 (ha ▸ ha') with ha' | ha'
  · exact hok'.assocServer a' ha'
  · obtain ⟨s, hs₀, hid⟩ := has
    obtain ⟨s', hs', hid'⟩ := hs s hs₀
    exact ⟨s', hs', by rw [hid', hid, List.mem_singleton.1 ha']⟩
  · exact hok'.assocPvc a' ha'
  · rw [hp, List.mem_singleton.1 ha']; exact hap

theorem deletePodRecord_refsOk {db db' : Db} {n : String} (hok : RefsOk db)
    (h : deletePodRecord db n = some db') : RefsOk db' := by
  rcases deletePodRecord_eq_some h with rfl | ⟨s, -, -, hm, rfl⟩
  · exact hok
  · exact hok.dropServer hm

theorem deletePvcRecord_refsOk {db : Db} (hok : RefsOk db) (n : String) :
    RefsOk (deletePvcRecord db n) := by
  unfold deletePvcRecord
  split
  · exact hok
  · refine ⟨hok.server, hok.flavor, fun a ha => hok.assocServer a (List.mem_filter.1 ha).1,
      fun a ha => ?_⟩
    obtain ⟨ha, hne⟩ := List.mem_filter.1 ha
    obtain ⟨q, hq, hid⟩ := hok.assocPvc a ha
    exact ⟨q, List.mem_filter.2 ⟨hq, by simpa [hid] using hne⟩, hid⟩

theorem createPod_refsOk {ns : String} {db : Db} (hok : RefsOk db) (u : ℕ) (req : PodCreateRequest)
    (k : PodK8s) : RefsOk (createPod ns db u req k).1 := by
  rcases createPod_cases ns db u req k with h | ⟨db₁, p, b, hv, h⟩
  · rw [h]; exact hok
  obtain ⟨hdb₁, hsub, hp⟩ := createPodVolume_ok hv
  have hok₁ : RefsOk db₁ := by
    rw [hdb₁]; exact hok.of_servers (fun s hs => ⟨s, hs, rfl⟩) rfl rfl rfl hsub
  have hok₂ : RefsOk { db₁ with
      servers := db₁.servers ++ [podRecord db₁ u req k.hex], serverSeq := db₁.serverSeq + 1 } :=
    hok₁.of_servers (fun s hs => ⟨s, List.mem_append_left _ hs, rfl⟩) rfl rfl rfl (List.Subset.refl _)
  rcases h with h | h | ⟨db₃, hd, h⟩ | ⟨ip, h⟩
  · rw [h]; exact hok₁
  · rw [h]; exact hok₂
  · have hok₃ : RefsOk db₃ := by
      rcases hd with hd | rfl
      exacts [deletePodRecord_refsOk hok₂ hd, hok₂]
    rcases h with h | h <;> rw [h]
    exacts [hok₃, deletePvcRecord_refsOk hok₃ _]
  · -- the row marked `Running` keeps its id; the new link points at it and at the claim
    rw [h]
    exact hok₂.of_link (fun s hs => ⟨_, List.mem_map_of_mem _ hs, by split <;> rfl⟩) rfl rfl rfl rfl
      ⟨_, List.mem_append_right _ (List.mem_singleton_self _), rfl⟩ ⟨p, hp, rfl⟩

theorem deleteServer_refsOk {db db' : Db} {u : ℕ} {name : String} (hok : RefsOk db)
    (h : deleteServer db u name = .ok db') : RefsOk db' := by
  unfold deleteServer at h
  split at h
  · cases h
  · rename_i s _
    cases h
    refine RefsOk.dropServer ?_ fun m hm => by simpa using (List.mem_filter.1 hm).2
    refine ⟨fun m hm => hok.server m (List.mem_filter.1 hm).1, fun m hm => ?_, hok.assocServer,
      hok.assocPvc⟩
    obtain ⟨f, hf, hid⟩ := hok.flavor m (List.mem_filter.1 hm).1
    exact ⟨_, List.mem_map_of_mem _ hf, by split <;> exact hid⟩

/-- What a committed `delete_pvc_endpoint` leaves: the database, or it with a claim deleted. -/
theorem deletePvcEndpoint_eq_ok {db db' : Db} {u : ℕ} {name : String} {pv : Bool}
    {bound : Except String (Option String)} (h : deletePvcEndpoint db u name pv bound = .ok db') :
    db' = db ∨ ∃ n, db' = deletePvcRecord db n := by
  unfold deletePvcEndpoint deletePvc at h
  split at h
  · cases h
  · split at h
    · cases h
    · cases h; exact .inr ⟨_, rfl⟩

/-- Every call keeps the foreign keys. -/
theorem step_refsOk {ns : String} {db : Db} (hok : RefsOk db) : ∀ c : Call, RefsOk (c.step L ns db)
  | .createPod u req k => createPod_refsOk hok u req k
  | .deleteServer u name => by
    dsimp only [Call.step]; split
    · rename_i h; exact deleteServer_refsOk hok h
    · exact hok
  | .deletePvc u name pv bound => by
    dsimp only [Call.step]; split
    · rename_i h
      rcases deletePvcEndpoint_eq_ok h with rfl | ⟨n, rfl⟩
      exacts [hok, deletePvcRecord_refsOk hok n]
    · exact hok
  | .sync t => scheduledSyncGpuFlavors_refsOk hok t

/-- **The foreign keys hold over every interleaving.**  From a database whose mappings and links
point at rows that exist and whose `servers` ids are distinct, every run of requests to
`create_pod`, `delete_server` and `delete_pvc` and of the scheduled job, in any order and
whatever Kubernetes and Prometheus answer, keeps both. -/
theorem runCalls_refsOk (ns : String) {db : Db} (hr : RefsOk db) (hi : ServerIdsOk db)
    (calls : List Call) : RefsOk (runCalls L ns db calls) ∧ ServerIdsOk (runCalls L ns db calls) := by
  induction calls generalizing db with
  | nil => exact ⟨hr, hi⟩
  | cons c calls ih => exact ih (step_refsOk hr c) (step_serverIdsOk hi c)

/-- A request by `js.lee` for a pod on a new claim. -/
def sampleRequest : PodCreateRequest := ⟨"1", "1Gi", "None", "my server", true, none, none⟩

/-- Kubernetes creating the claim and the pod, which never gets an IP. -/
def timeoutK8s : PodK8s := ⟨"a1b2c3", .ok (), .ok (some "pv-1"), .ok (), .ok none, .ok (some "pv-1")⟩

/-- After the request, a run of the job, then the owner of the `LEGEND` row deleting it. -/
def laterCalls : List Call := [.sync sampleTick, .deleteServer 9 "legend-pod"]

theorem runCalls_refsOk_sampleDb :
    RefsOk sampleDb ∧ ServerIdsOk sampleDb ∧
      (RefsOk (runCalls asciiLowering "kcloud" sampleDb (.createPod 5 sampleRequest timeoutK8s :: laterCalls)) ∧
        ServerIdsOk (runCalls asciiLowering "kcloud" sampleDb (.createPod 5 sampleRequest timeoutK8s :: laterCalls))) :=
  have hr : RefsOk sampleDb := ⟨by simp [sampleDb], by simp [sampleDb], by simp [sampleDb], by simp [sampleDb]⟩
  have hi : ServerIdsOk sampleDb := ⟨by decide, by decide⟩
  ⟨hr, hi, runCalls_refsOk "kcloud" hr hi _⟩

/-! ## 8. The row of a `create_pod` that timed out -/

/-- `delete_pod` keeps every row whose `server_name` is not the pod's name. -/
theorem deletePodRecord_keeps {db db' : Db} {n : String} {s : ServerRow} (hok : ServerIdsOk db)
    (hs : s ∈ db.servers) (hn : s.serverName ≠ n) (h : deletePodRecord db n = some db') :
    s ∈ db'.servers := by
  rcases deletePodRecord_eq_some h with rfl | ⟨s', hs', hname, -, rfl⟩
  · exact hs
  · refine List.mem_filter.2 ⟨hs, decide_eq_true fun hid => hn ?_⟩
    rw [hok.eq_of_id_eq hs hs' hid, hname]

/-- The cleanup of `create_pod` keeps every row whose `server_name` is not the pod's name. -/
theorem createPodCleanup_keeps {db : Db} {podName : String} {s : ServerRow} (hok : ServerIdsOk db)
    (hs : s ∈ db.servers) (hn : s.serverName ≠ podName) (pvc : PvcRow) (b : Bool)
    (bound : Except String (Option String)) (e : RouteError) :
    s ∈ (createPodCleanup db podName pvc b bound e).1.servers := by
  obtain ⟨db₃, hd, h⟩ := createPodCleanup_cases db podName pvc b bound e
  have hs₃ : s ∈ db₃.servers := by
    rcases hd with hd | rfl
    exacts [deletePodRecord_keeps hok hs hn hd, hs]
  rcases h with h | h <;> rw [h]
  exacts [hs₃, by rwa [servers_deletePvcRecord]]

/-- The cleanup raises what it was given, unless `delete_pvc` raised first. -/
theorem createPodCleanup_snd (db : Db) (podName : String) (pvc : PvcRow) (b : Bool)
    (bound : Except String (Option String)) (e : RouteError) :
    (createPodCleanup db podName pvc b bound e).2 = .error e ∨
      (createPodCleanup db podName pvc b bound e).2 = .error (.uncaught "UnboundLocalError") := by
  unfold createPodCleanup
  cases b <;> cases bound <;> cases (deletePodRecord db podName).isSome <;> simp [deletePvc]

/-- `create_pod` on a pod that gets no IP: its row is committed, then the cleanup runs. -/
theorem createPod_of_noIp {ns : String} {db db₁ : Db} {u : ℕ} {req : PodCreateRequest} {k : PodK8s}
    {p : PvcRow} {b : Bool} (hv : createPodVolume ns db u req k = .ok (db₁, p, b))
    (hgpu : req.gpu = "None" ∨ req.gpu ∈ gpuChoices) (hpod : k.createPod = .ok ())
    {ip : Option String} (hip : k.podIp = .ok ip) (hnone : ip.getD "" = "") :
    createPod ns db u req k = createPodCleanup { db₁ with
        servers := db₁.servers ++ [podRecord db₁ u req k.hex], serverSeq := db₁.serverSeq + 1 }
      (createPodName req k.hex) p b k.cleanupBoundPv timeoutError := by
  have hg : ¬ (req.gpu ≠ "None" ∧ req.gpu ∉ gpuChoices) := fun ⟨h₁, h₂⟩ => hgpu.elim h₁ h₂
  simp only [createPod, hv, hg, hpod, hip, hnone, if_false, if_true]
  rfl

/-- A call that does not name the row `s`, tagged `LEGEND`, keeps it as it is. -/
theorem step_keeps_row {ns : String} {db : Db} {s : ServerRow} (hok : ServerIdsOk db)
    (hs : s ∈ db.servers) (hlegend : s.tags = some "LEGEND") :
    ∀ c : Call, ¬ c.Removes s → s ∈ (c.step L ns db).servers
  | .createPod u req k, hc => by
    dsimp only [Call.step]
    rcases createPod_cases ns db u req k with h | ⟨db₁, p, b, hv, h⟩
    · rw [h]; exact hs
    obtain ⟨hs₁, hseq₁⟩ := createPodVolume_servers hv
    have hs₂ : s ∈ db₁.servers ++ [podRecord db₁ u req k.hex] := List.mem_append_left _ (hs₁ ▸ hs)
    rcases h with h | h | ⟨db₃, hd, h⟩ | ⟨ip, h⟩
    · rw [h, hs₁]; exact hs
    · rw [h]; exact hs₂
    · have hs₃ : s ∈ db₃.servers := by
        rcases hd with hd | rfl
        exacts [deletePodRecord_keeps (serverIdsOk_podRow hok hv) hs₂ (Ne.symm hc) hd, hs₂]
      rcases h with h | h <;> rw [h]
      exacts [hs₃, by rwa [servers_deletePvcRecord]]
    · -- the row marked `Running` is the new one, whose id no older row has
      have hid : s.id ≠ (podRecord db₁ u req k.hex).id := (hok.id_lt s hs).ne.trans_eq hseq₁.symm
      rw [h]
      exact List.mem_map.2 ⟨s, hs₂, if_neg hid⟩
  | .deleteServer u name, hc => by
    dsimp only [Call.step]
    split
    · rename_i db' h
      unfold deleteServer at h
      split at h
      · cases h
      · rename_i s' hs'
        cases h
        obtain ⟨hname, huser⟩ : s'.podName = name ∧ s'.userId = u := by simpa using List.find?_some hs'
        refine List.mem_filter.2 ⟨hs, decide_eq_true fun hid => hc ?_⟩
        rw [hok.eq_of_id_eq hs (List.mem_of_find?_eq_some hs') hid]
        exact ⟨huser.symm, hname.symm⟩
    · exact hs
  | .deletePvc u name pv bound, _ => by
    dsimp only [Call.step]
    split
    · rename_i h; rw [(deletePvcEndpoint_servers h).1]; exact hs
    · exact hs
  | .sync t, _ => by
    have h : s ∈ legendRows db := List.mem_filter.2 ⟨hs, by simp [hlegend]⟩
    rw [← scheduledSyncGpuFlavors_legend db t] at h
    exact (List.mem_filter.1 h).1

/-- A row tagged `LEGEND` stays as it is over every run of calls none of which names it. -/
theorem runCalls_keeps_row {ns : String} {db : Db} {s : ServerRow} (hok : ServerIdsOk db)
    (hs : s ∈ db.servers) (hlegend : s.tags = some "LEGEND") (calls : List Call)
    (hcalls : ∀ c ∈ calls, ¬ c.Removes s) : s ∈ (runCalls L ns db calls).servers := by
  induction calls generalizing db with
  | nil => exact hs
  | cons c calls ih =>
    exact ih (step_serverIdsOk hok c) (step_keeps_row hok hs hlegend c (hcalls c (.head _)))
      fun c' hc' => hcalls c' (.tail _ hc')

/-- **A `create_pod` that times out leaves its row behind.**  When the pod gets no IP, the route
fails, but `delete_pod` looks for a row named after the pod, and the row is named after the
request: the row, still `Creating`, is in the user's `my-server` list after every later run of
requests and of the job that does not delete it, that is, every run with no `delete_server` of
its pod by its owner and no `create_pod` whose pod is named as the row is. -/
theorem createPod_timeout_keeps_row {ns : String} {db db₁ : Db} {u : ℕ} {req : PodCreateRequest}
    {k : PodK8s} {p : PvcRow} {b : Bool} (hok : ServerIdsOk db)
    (hv : createPodVolume ns db u req k = .ok (db₁, p, b))
    (hgpu : req.gpu = "None" ∨ req.gpu ∈ gpuChoices) (hpod : k.createPod = .ok ())
    {ip : Option String} (hip : k.podIp = .ok ip) (hnone : ip.getD "" = "")
    (calls : List Call) (hcalls : ∀ c ∈ calls, ¬ c.Removes (podRecord db₁ u req k.hex)) :
    ((createPod ns db u req k).2 = .error timeoutError ∨
        (createPod ns db u req k).2 = .error (.uncaught "UnboundLocalError")) ∧
      podRecord db₁ u req k.hex ∈ getMyServers (runCalls L ns (createPod ns db u req k).1 calls) u := by
  have hok' : ServerIdsOk (createPod ns db u req k).1 := createPod_serverIdsOk hok u req k
  rw [createPod_of_noIp hv hgpu hpod hip hnone] at hok' ⊢
  refine ⟨createPodCleanup_snd .., List.mem_filter.2 ⟨runCalls_keeps_row hok' ?_ rfl calls hcalls,
    by simp [podRecord]⟩⟩
  exact createPodCleanup_keeps (serverIdsOk_podRow hok hv)
    (List.mem_append_right _ (List.mem_singleton_self _)) (name_ne_createPodName req k.hex) ..

/-- The claim `create_pod` makes for `sampleRequest`. -/
def sampleClaim : PvcRow :=
  ⟨1, 5, "ailabserver-claim-my-server-a1b2c3", some "pv-1",
    some "/nfsvolume/kcloud-ailabserver-claim-my-server-a1b2c3-pv-1"⟩

/-- The pod `create_pod` makes for `sampleRequest` gets no IP: the row it leaves, still
`Creating`, is in `js.lee`'s list after a run of the job and another user's `delete_server`. -/
theorem createPod_timeout_keeps_row_sampleDb :
    ServerIdsOk sampleDb ∧
      createPodVolume "kcloud" sampleDb 5 sampleRequest timeoutK8s =
        .ok ({ sampleDb with pvcs := [sampleClaim], pvcSeq := 2 }, sampleClaim, false) ∧
      (sampleRequest.gpu = "None" ∨ sampleRequest.gpu ∈ gpuChoices) ∧
      timeoutK8s.createPod = .ok () ∧ timeoutK8s.podIp = .ok none ∧
      (none : Option String).getD "" = "" ∧
      (∀ c ∈ laterCalls, ¬ c.Removes
        (podRecord { sampleDb with pvcs := [sampleClaim], pvcSeq := 2 } 5 sampleRequest timeoutK8s.hex)) ∧
      (((createPod "kcloud" sampleDb 5 sampleRequest timeoutK8s).2 = .error timeoutError ∨
          (createPod "kcloud" sampleDb 5 sampleRequest timeoutK8s).2 =
            .error (.uncaught "UnboundLocalError")) ∧
        podRecord { sampleDb with pvcs := [sampleClaim], pvcSeq := 2 } 5 sampleRequest timeoutK8s.hex ∈
          getMyServers (runCalls asciiLowering "kcloud" (createPod "kcloud" sampleDb 5 sampleRequest timeoutK8s).1
            laterCalls) 5) :=
  have hi : ServerIdsOk sampleDb := ⟨by decide, by decide⟩
  have hv : createPodVolume "kcloud" sampleDb 5 sampleRequest timeoutK8s =
      .ok ({ sampleDb with pvcs := [sampleClaim], pvcSeq := 2 }, sampleClaim, false) := rfl
  have hgpu : sampleRequest.gpu = "None" ∨ sampleRequest.gpu ∈ gpuChoices := .inl rfl
  have hcalls : ∀ c ∈ laterCalls, ¬ c.Removes
      (podRecord { sampleDb with pvcs := [sampleClaim], pvcSeq := 2 } 5 sampleRequest timeoutK8s.hex) := by
    simp [laterCalls, Call.Removes, podRecord]
  ⟨hi, hv, hgpu, rfl, rfl, rfl, hcalls,
    createPod_timeout_keeps_row hi hv hgpu rfl rfl rfl laterCalls hcalls⟩

/-! ## 9. The claim a request names -/

/-- A claim of another user, `7`. -/
def teamClaim : PvcRow := ⟨0, 7, "team-data", some "pv-0", some "/nfsvolume/kcloud-team-data-pv-0"⟩

/-- A request by `js.lee` naming that claim by id and name. -/
def borrowRequest : PodCreateRequest := ⟨"1", "1Gi", "None", "borrow", false, some 0, some "team-data"⟩

/-- Kubernetes creating the pod, which gets an IP. -/
def runningK8s : PodK8s := ⟨"d4e5f6", .ok (), .ok none, .ok (), .ok (some "10.0.0.9"), .ok none⟩

end OpenKCloud.GpuSync
