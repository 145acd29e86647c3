import OpenKCloud.Except
import OpenKCloud.Weigher.Basic
import OpenKCloud.Mlperf.Logs
import Mathlib.Data.List.DropRight
/-
# The GPU inventory: the `gpu_flavor` table and `sync_flavors_to_db`

The dashboard backend (`AI_SW_IDE/backend`) keeps its picture of the cluster's GPUs in a
database, which `scheduled_sync_gpu_flavors` (`app/main.py`) refreshes every `GPU_FETCH`
seconds from one Prometheus series, `DCGM_FI_DEV_MIG_MODE` (`app/db/featch_gpu.py`).
`sync_flavors_to_db` rewrites the `gpu_flavor` table: one row per GPU or MIG instance, keyed by
`normalize_key(worker_node, gpu_id, mig_id, gpu_name)`, with `available` set to 1 where a pod
uses it; it then deletes the rows whose key Prometheus no longer reports.

The database is the tables as lists of rows, with the columns the syncs read or write, and
each table's id sequence.  A row's type has the table's `NOT NULL` columns as plain values, so
a row with a `NULL` there cannot be built: writing one is the `IntegrityError` it is.  The
session is SQLAlchemy's default one: it flushes before each query (so a query sees the rows
added before it), and a sync that raises closes its session without a commit, so the database
keeps its rows.  `app/db/session.py` is not in the repository; `.first()` without an
`ORDER BY` is taken in table order, which does not matter where one row matches, and every
sync keeps the stored keys distinct.  `str.lower()` is a `Lowering`: the syncs are modelled for
every lowering that is idempotent and commutes with `str.strip()`, as Python's does, and the
sample runs use `asciiLowering`, which is Python's on their ASCII names.

* `syncFlavorsToDb_fails_of_nonMig`: `gpu_flavor.mig_id` is `NOT NULL`, and the sync writes
  `mig_id=None` for every GPU that is not a MIG instance, so ONE such GPU in the answer makes
  the whole sync raise;
* `normalizeKey_idem`: `normalize_key` is idempotent, so the rows the sync writes are found
  again, under the same key, by the next sync;
* `syncFlavorsToDb_spec`: from a table of normalized, distinct keys, a committed sync leaves
  a table of normalized, distinct keys that holds, for each key, the value of the last entry
  with that key of the dictionary `fetch_gpu_status_from_prometheus` builds (which keeps each raw
  key where its first series put it, with the value of its last), and no other row;
* `syncFlavorsToDb_ids`: a row whose stored key is not normalized, as `init_flavors_from_csv`
  writes one from a file, is left as it is by a sync that reports its GPU, while
  `syncFlavorsToDb_stored` puts a row under the normalized key of every GPU the answer reports.
-/

namespace OpenKCloud.GpuSync

/-! ## 1. Prometheus series, and the Python it is read with -/

/-- What makes a sync raise. -/
inductive SyncError where
  /-- `query_prometheus`: the HTTP request failed or was answered with another status than 200. -/
  | prometheus
  /-- `int()` of a label that is not an integer. -/
  | valueError
  /-- `int(None)`. -/
  | typeError
  /-- `csv.DictReader`'s row lacks a column the code indexes. -/
  | keyError (key : String)
  /-- `IntegrityError`: `None` written to a `NOT NULL` column. -/
  | notNull (column : String)
  /-- `IntegrityError`: a row deleted while a foreign key still points at it. -/
  | foreignKey (column : String)
  deriving DecidableEq, Repr

/-- A series' labels, `item["metric"]`: Prometheus gives every label value as a string. -/
abbrev Metric := Dict String

/-- `bool(metric.get(k))`: the label is there and not empty. -/
def labelSet (m : Metric) (k : String) : Bool := m.getD k "" ≠ ""

/-- `s.removeprefix(p)`. -/
def removeprefix (s p : String) : String :=
  if p.data.isPrefixOf s.data then ⟨s.data.drop p.length⟩ else s

/-- `s.strip()`. -/
def strip (s : String) : String := ⟨Mlperf.pyStrip s.data⟩

/-- `s.lower()`: Python's lowering of text, with the two facts of it `normalize_key` relies on.
Its Unicode table (the full case mappings, and the final-sigma rule) is left open, so what is
proved of the syncs holds for every lowering with these facts; `str.lower()` is one, and
`asciiLowering` is the one it is on ASCII text. -/
structure Lowering where
  /-- `s.lower()`. -/
  lower : String → String
  /-- Lowering twice lowers once. -/
  lower_lower : ∀ s, lower (lower s) = lower s
  /-- Lowering never makes or unmakes whitespace, so it commutes with `str.strip()`. -/
  strip_lower : ∀ s, strip (lower s) = lower (strip s)

variable {L : Lowering}

/-- `int(s)` of a label. -/
def parseInt (s : String) : Except SyncError ℤ :=
  match Weigher.pyIntOfStr s with
  | some n => .ok n
  | none => .error .valueError

/-- `int(metric.get(k, 0))`. -/
def intLabel (m : Metric) (k : String) : Except SyncError ℤ :=
  match m.get? k with
  | some s => parseInt s
  | none => .ok 0

/-- A key of `fetch_gpu_status_from_prometheus`'s dictionary,
`(worker_node, gpu_id, mig_id, gpu_name)`. -/
structure GpuKey where
  workerNode : Option String
  gpuId : ℤ
  migId : Option ℤ
  gpuName : String
  deriving DecidableEq, Repr

/-- A key as `normalize_key` returns it. -/
structure NormKey where
  workerNode : String
  gpuId : ℤ
  migId : Option ℤ
  gpuName : String
  deriving DecidableEq, Repr

/-- `str(x).strip().lower() if x else ""`. -/
def normText (L : Lowering) : Option String → String
  | some s => if s = "" then "" else L.lower (strip s)
  | none => ""

/-- `normalize_key(worker_node, gpu_id, mig_id, gpu_name)`.  Wherever the code calls it
`gpu_id` is an `int`, which `int(gpu_id) if gpu_id is not None else -1` keeps. -/
def normalizeKey (L : Lowering) (k : GpuKey) : NormKey :=
  ⟨normText L k.workerNode, k.gpuId, k.migId, normText L (some k.gpuName)⟩

/-- `d[k] = v`, for a dictionary with tuple keys: in place for a bound key, appended otherwise. -/
def assign {κ α : Type} [DecidableEq κ] (d : List (κ × α)) (k : κ) (v : α) : List (κ × α) :=
  if d.any (fun e => e.1 = k) then d.map (fun e => if e.1 = k then (k, v) else e)
  else d ++ [(k, v)]

/-- One series of `fetch_gpu_status_from_prometheus`: its key, or `none` where the loop
`continue`s.  `int(metric.get("GPU_I_ID", None))` raises `TypeError` without the label. -/
def fetchKey (m : Metric) : Except SyncError (Option GpuKey) := do
  let gpuId ← intLabel m "gpu"
  match m.get? "GPU_I_PROFILE" with
  | some profile =>
    let migId ← match m.get? "GPU_I_ID" with
      | some s => parseInt s
      | none => .error .typeError
    pure (some ⟨m.get? "Hostname", gpuId, some migId, profile⟩)
  | none =>
    match m.get? "modelName" with
    | some model => pure (some ⟨m.get? "Hostname", gpuId, none, strip <| removeprefix model "NVIDIA "⟩)
    | none => pure none

/-- One series of `fetch_gpu_status_from_prometheus`'s loop: `flavors[key] = 1 if
metric.get("exported_pod") else 0`. -/
def fetchStep (flavors : List (GpuKey × ℤ)) (m : Metric) : Except SyncError (List (GpuKey × ℤ)) := do
  match ← fetchKey m with
  | some k => pure (assign flavors k (if labelSet m "exported_pod" then 1 else 0))
  | none => pure flavors

/-- `fetch_gpu_status_from_prometheus()`: each GPU or MIG instance the answer reports, with 1
where a pod uses it. -/
def fetchGpuStatusFromPrometheus (data : List Metric) : Except SyncError (List (GpuKey × ℤ)) :=
  data.foldlM fetchStep []

/-! ## 2. The tables -/

/-- A row of `gpu_flavor`.  Every column is `NOT NULL`. -/
structure FlavorRow where
  id : ℕ
  gpuName : String
  available : ℤ
  workerNode : String
  gpuId : ℤ
  migId : ℤ
  deriving DecidableEq, Repr

/-- The columns a sync's query compares with a normalized key. -/
def FlavorRow.stored (r : FlavorRow) : NormKey := ⟨r.workerNode, r.gpuId, some r.migId, r.gpuName⟩

/-- `normalize_key(flavor.worker_node, flavor.gpu_id, flavor.mig_id, flavor.gpu_name)`. -/
def FlavorRow.normKey (L : Lowering) (r : FlavorRow) : NormKey :=
  normalizeKey L ⟨some r.workerNode, r.gpuId, some r.migId, r.gpuName⟩

/-- A row of `servers` (`PodCreation`): the columns the pod sync reads or writes. -/
structure ServerRow where
  id : ℕ
  userId : ℕ
  serverName : String
  podName : String
  cpu : String
  memory : String
  gpu : String
  internalIp : Option String
  status : String
  tags : Option String
  deriving DecidableEq, Repr

/-- A row of `users`: the columns the pod sync reads. -/
structure UserRow where
  id : ℕ
  name : String
  deriving DecidableEq, Repr

/-- A row of `server_gpu_mapping`: a server and a `gpu_flavor` row, both foreign keys. -/
structure MappingRow where
  id : ℕ
  serverId : ℕ
  gpuId : ℕ
  deriving DecidableEq, Repr

/-- A row of `pvcs`: the columns the routes read or write (`created_at` is left out). -/
structure PvcRow where
  id : ℕ
  userId : ℕ
  pvcName : String
  pv : Option String
  path : Option String
  deriving DecidableEq, Repr

/-- A row of `pvc_server_association`: a server and a claim, both foreign keys. -/
structure AssocRow where
  serverId : ℕ
  pvcId : ℕ
  deriving DecidableEq, Repr

/-- The tables the syncs and the routes touch, and the next value of each table's id
sequence. -/
structure Db where
  flavors : List FlavorRow
  servers : List ServerRow
  users : List UserRow
  mappings : List MappingRow
  flavorSeq : ℕ
  serverSeq : ℕ
  mappingSeq : ℕ
  pvcs : List PvcRow
  assocs : List AssocRow
  pvcSeq : ℕ
  deriving DecidableEq, Repr

/-! ## 3. `sync_flavors_to_db` -/

/-- One entry of `sync_flavors_to_db`'s upsert loop: the query for the normalized key, then
`flavor.available = available` or `db.add(Flavor(...))`.  A row added with `mig_id=None`
fails the next flush, which raises as the add does here. -/
def upsertFlavor (L : Lowering) (db : Db) (e : GpuKey × ℤ) : Except SyncError Db :=
  let k := normalizeKey L e.1
  match db.flavors.find? (·.stored = k) with
  | some f =>
    .ok { db with flavors := db.flavors.map fun r => if r.id = f.id then { r with available := e.2 } else r }
  | none =>
    match k.migId with
    | some m =>
      .ok { db with flavors := db.flavors ++ [⟨db.flavorSeq, k.gpuName, e.2, k.workerNode, k.gpuId, m⟩],
                    flavorSeq := db.flavorSeq + 1 }
    | none => .error (.notNull "gpu_flavor.mig_id")

/-- The rows of `db_flavors` that `sync_flavors_to_db` deletes: those whose normalized key is
not among `prometheus_keys`. -/
def deletedRows (L : Lowering) (db : Db) (flavors : List (GpuKey × ℤ)) : List FlavorRow :=
  db.flavors.filter fun f => f.normKey L ∉ flavors.map fun e => normalizeKey L e.1

/-- `sync_flavors_to_db()`: the database its commit leaves, or what it raised.  The rows it
deletes are those of the first query, `db_flavors`, whose normalized key the answer does not
hold; the commit fails where a mapping still points at one of them. -/
def syncFlavorsToDb (L : Lowering) (db : Db) (answer : Except SyncError (List Metric)) : Except SyncError Db := do
  let prometheusFlavors ← fetchGpuStatusFromPrometheus (← answer)
  let db' ← prometheusFlavors.foldlM (upsertFlavor L) db
  let deleted := deletedRows L db prometheusFlavors
  if db'.mappings.any fun m => deleted.any (·.id = m.gpuId) then
    .error (.foreignKey "server_gpu_mapping.gpu_id")
  else
    pure { db' with flavors := db'.flavors.filter fun r => !deleted.any (·.id = r.id) }

/-! ## 4. `normalize_key` is idempotent

`str.strip()` and `str.lower()` commute, since lowering never makes or unmakes whitespace, and
each is idempotent; so normalizing a normalized key changes nothing.  On ASCII text lowering a
letter maps `A`..`Z` to `a`..`z`, which gives `asciiLowering` both facts. -/

section Normalize

open Mlperf (pyWhitespace pyStrip)

theorem pyStrip_eq (l : List Char) :
    pyStrip l = List.rdropWhile (· ∈ pyWhitespace) (List.dropWhile (· ∈ pyWhitespace) l) := rfl

theorem toNat_of_mem_pyWhitespace : ∀ d ∈ pyWhitespace, d.toNat < 65 ∨ 122 < d.toNat := by
  decide

theorem toNat_toLower {c : Char} (h : 65 ≤ c.toNat ∧ c.toNat ≤ 90) :
    c.toLower.toNat = c.toNat + 32 := by
  have hv : (c.toNat + 32).isValidChar := Or.inl (by omega)
  simp only [Char.toLower, ge_iff_le, h, and_self, if_true, Char.ofNat, Char.ofNatAux]
  rw [dif_pos hv]
  rfl

theorem toLower_of_not_upper {c : Char} (h : ¬(65 ≤ c.toNat ∧ c.toNat ≤ 90)) : c.toLower = c := by
  simp only [Char.toLower, ge_iff_le, h, if_false]

theorem toLower_toLower (c : Char) : c.toLower.toLower = c.toLower := by
  by_cases h : 65 ≤ c.toNat ∧ c.toNat ≤ 90
  · exact toLower_of_not_upper (by rw [toNat_toLower h]; omega)
  · rw [toLower_of_not_upper h, toLower_of_not_upper h]

/-- Lowering a letter never makes or unmakes whitespace. -/
theorem toLower_mem_pyWhitespace (c : Char) : c.toLower ∈ pyWhitespace ↔ c ∈ pyWhitespace := by
  by_cases h : 65 ≤ c.toNat ∧ c.toNat ≤ 90
  · have h₁ := toNat_toLower h
    constructor <;> intro hm <;> have := toNat_of_mem_pyWhitespace _ hm <;> omega
  · rw [toLower_of_not_upper h]

theorem pyStrip_map_toLower (l : List Char) :
    pyStrip (l.map Char.toLower) = (pyStrip l).map Char.toLower := by
  have hp : ((fun c => decide (c ∈ pyWhitespace)) ∘ Char.toLower) = fun c => decide (c ∈ pyWhitespace) :=
    funext fun c => by simp only [Function.comp, toLower_mem_pyWhitespace]
  simp only [pyStrip_eq, List.rdropWhile, List.dropWhile_map, hp, ← List.map_reverse]

theorem pyStrip_pyStrip (l : List Char) : pyStrip (pyStrip l) = pyStrip l := by
  have hd : List.dropWhile (· ∈ pyWhitespace) (pyStrip l) = pyStrip l := by
    refine List.dropWhile_eq_self_iff.2 fun hl => ?_
    have hpre : pyStrip l <+: List.dropWhile (· ∈ pyWhitespace) l := List.rdropWhile_prefix _ _
    have := List.dropWhile_get_zero_not (fun c => decide (c ∈ pyWhitespace)) l
      (lt_of_lt_of_le hl hpre.length_le)
    rwa [List.get_eq_getElem, ← hpre.getElem hl] at this
  rw [pyStrip_eq (pyStrip l), hd]
  exact List.rdropWhile_idempotent _ _

/-- `str.lower()` on ASCII text: it lowers the capitals `A` to `Z` and keeps every other
character.  The sample runs are of ASCII names, where it is Python's. -/
def asciiLowering : Lowering where
  lower s := ⟨s.data.map Char.toLower⟩
  lower_lower s := by
    show String.mk ((s.data.map Char.toLower).map Char.toLower) = _
    simp only [List.map_map, Function.comp_def, toLower_toLower]
  strip_lower s := congrArg String.mk (pyStrip_map_toLower s.data)

theorem strip_strip (s : String) : strip (strip s) = strip s := congrArg String.mk (pyStrip_pyStrip s.data)

theorem normText_normText (x : Option String) : normText L (some (normText L x)) = normText L x := by
  rcases x with _ | s
  · rfl
  · by_cases hs : s = ""
    · simp only [normText, hs, if_true]
    · rw [show normText L (some s) = L.lower (strip s) from if_neg hs]
      simp only [normText]
      split_ifs with ht
      · exact ht.symm
      · rw [L.strip_lower, strip_strip, L.lower_lower]

/-- **`normalize_key` is idempotent.** -/
theorem normalizeKey_idem (g : GpuKey) :
    normalizeKey L ⟨some (normalizeKey L g).workerNode, (normalizeKey L g).gpuId, (normalizeKey L g).migId,
      (normalizeKey L g).gpuName⟩ = normalizeKey L g := by
  simp only [normalizeKey, normText_normText]

end Normalize

/-! ## 5. A GPU that is not a MIG instance

`fetch_gpu_status_from_prometheus` gives such a GPU `mig_id=None`.  No row of `gpu_flavor`
has a `NULL` `mig_id`, so the upsert loop's query (`mig_id IS NULL`) finds none and adds one
with `mig_id=None`, which the database refuses. -/

@[simp] theorem migId_normalizeKey (g : GpuKey) : (normalizeKey L g).migId = g.migId := rfl

/-- The keys of a dictionary after `d[k] = v`. -/
theorem mem_keys_assign {κ α : Type} [DecidableEq κ] {d : List (κ × α)} {k k' : κ} {v : α} :
    k' ∈ (assign d k v).map Prod.fst ↔ k' = k ∨ k' ∈ d.map Prod.fst := by
  unfold assign
  split
  · rename_i h
    have hk : k ∈ d.map Prod.fst := by
      obtain ⟨e, he, hek⟩ := List.any_eq_true.1 h
      exact List.mem_map.2 ⟨e, he, of_decide_eq_true hek⟩
    have hkeys : (d.map fun e => if e.1 = k then (k, v) else e).map Prod.fst = d.map Prod.fst := by
      rw [List.map_map]
      exact List.map_congr_left fun e _ => by dsimp only [Function.comp]; split <;> simp_all
    rw [hkeys]
    exact ⟨Or.inr, by rintro (rfl | h); exacts [hk, h]⟩
  · simp [or_comm]

/-- What one series does to the dictionary: its key is read without raising, the keys
already there stay, and the series' own key is added. -/
theorem fetchStep_ok {acc acc' : List (GpuKey × ℤ)} {m : Metric} (h : fetchStep acc m = .ok acc') :
    ∃ r, fetchKey m = .ok r ∧ (∀ k ∈ acc.map Prod.fst, k ∈ acc'.map Prod.fst) ∧
      ∀ k, r = some k → k ∈ acc'.map Prod.fst := by
  unfold fetchStep at h
  cases hk : fetchKey m with
  | error e => rw [hk] at h; cases h
  | ok r =>
    rw [hk] at h
    refine ⟨r, rfl, ?_⟩
    cases r with
    | none => cases h; exact ⟨fun k hk => hk, fun k hk => by cases hk⟩
    | some k =>
      cases h
      exact ⟨fun k' hk' => mem_keys_assign.2 (.inr hk'), fun k' hk' => mem_keys_assign.2 (.inl (Option.some_inj.1 hk').symm)⟩

theorem foldlM_fetchStep_key {data : List Metric} {acc flavors : List (GpuKey × ℤ)}
    (h : data.foldlM fetchStep acc = .ok flavors) :
    (∀ k ∈ acc.map Prod.fst, k ∈ flavors.map Prod.fst) ∧
      ∀ m ∈ data, ∃ r, fetchKey m = .ok r ∧ ∀ k, r = some k → k ∈ flavors.map Prod.fst := by
  induction data generalizing acc with
  | nil => cases h; exact ⟨fun k hk => hk, fun m hm => by cases hm⟩
  | cons m₀ data ih =>
    rw [List.foldlM_cons] at h
    cases hs : fetchStep acc m₀ with
    | error e => rw [hs] at h; cases h
    | ok acc' =>
      rw [hs] at h
      obtain ⟨hacc, hdata⟩ := ih h
      obtain ⟨r, hr, hkeep, hnew⟩ := fetchStep_ok hs
      refine ⟨fun k hk => hacc k (hkeep k hk), fun m hm => ?_⟩
      rcases List.mem_cons.1 hm with rfl | hm
      · exact ⟨r, hr, fun k hk => hacc k (hnew k hk)⟩
      · exact hdata m hm

/-- Every series of an answer `fetch_gpu_status_from_prometheus` reads has its key read
without raising, and that key is in the dictionary it returns. -/
theorem fetchGpuStatusFromPrometheus_key {data : List Metric} {flavors : List (GpuKey × ℤ)}
    (h : fetchGpuStatusFromPrometheus data = .ok flavors) {m : Metric} (hm : m ∈ data) :
    ∃ r, fetchKey m = .ok r ∧ ∀ k, r = some k → k ∈ flavors.map Prod.fst :=
  (foldlM_fetchStep_key h).2 m hm

/-- A series without `GPU_I_PROFILE` but with `modelName` is read with `mig_id=None`. -/
theorem fetchKey_nonMig {m : Metric} (hp : m.get? "GPU_I_PROFILE" = none)
    (hmodel : (m.get? "modelName").isSome) {r : Option GpuKey} (h : fetchKey m = .ok r) :
    ∃ k, r = some k ∧ k.migId = none := by
  obtain ⟨model, hmodel⟩ := Option.isSome_iff_exists.1 hmodel
  unfold fetchKey at h
  cases hg : intLabel m "gpu" with
  | error e => rw [hg] at h; cases h
  | ok g => rw [hg] at h; simp only [hp, hmodel] at h; cases h; exact ⟨_, rfl, rfl⟩

/-- The upsert of a key with `mig_id=None` raises, whatever the table holds. -/
theorem upsertFlavor_nonMig (db : Db) {e : GpuKey × ℤ} (he : e.1.migId = none) :
    upsertFlavor L db e = .error (.notNull "gpu_flavor.mig_id") := by
  have hfind : db.flavors.find? (·.stored = normalizeKey L e.1) = none :=
    List.find?_eq_none.2 fun r _ => by simp [FlavorRow.stored, normalizeKey, he]
  simp only [upsertFlavor, hfind, migId_normalizeKey, he]

theorem foldlM_upsertFlavor_nonMig {l : List (GpuKey × ℤ)} {e : GpuKey × ℤ} (he : e ∈ l)
    (hm : e.1.migId = none) : ∀ db db', l.foldlM (upsertFlavor L) db ≠ .ok db' := by
  induction l with
  | nil => cases he
  | cons x l ih =>
    intro db db' h
    rw [List.foldlM_cons] at h
    cases hx : upsertFlavor L db x with
    | error => rw [hx] at h; cases h
    | ok db₁ =>
      rcases List.mem_cons.1 he with rfl | he
      · rw [upsertFlavor_nonMig db hm] at hx; cases hx
      · rw [hx] at h; exact ih he db₁ db' h

/-- What a committed `sync_flavors_to_db` did: it read the answer and its dictionary, ran the
upsert loop, found no mapping pointing at a row it deletes, and deleted them. -/
theorem syncFlavorsToDb_eq_ok {db db' : Db} {answer : Except SyncError (List Metric)}
    (h : syncFlavorsToDb L db answer = .ok db') :
    ∃ data flavors db₁, answer = .ok data ∧ fetchGpuStatusFromPrometheus data = .ok flavors ∧
      flavors.foldlM (upsertFlavor L) db = .ok db₁ ∧
      (∀ m ∈ db₁.mappings, ∀ f ∈ deletedRows L db flavors, f.id ≠ m.gpuId) ∧
      db' = { db₁ with flavors := db₁.flavors.filter fun r => !(deletedRows L db flavors).any (·.id = r.id) } := by
  rcases answer with _ | data
  · cases h
  cases hf : fetchGpuStatusFromPrometheus data with
  | error => simp only [syncFlavorsToDb, bind, Except.bind, hf] at h; cases h
  | ok flavors =>
    cases hd : flavors.foldlM (upsertFlavor L) db with
    | error => simp only [syncFlavorsToDb, bind, Except.bind, hf, hd] at h; cases h
    | ok db₁ =>
      simp only [syncFlavorsToDb, bind, Except.bind, hf, hd] at h
      split at h
      · cases h
      · rename_i hfk
        refine ⟨data, flavors, db₁, rfl, hf, hd, fun m hm f hf hid => hfk ?_, (Except.ok.inj h).symm⟩
        exact List.any_eq_true.2 ⟨m, hm, List.any_eq_true.2 ⟨f, hf, by simpa using hid⟩⟩

/-- `sync_flavors_to_db` writes `gpu_flavor` only. -/
theorem upsertFlavor_frame {db db' : Db} {e : GpuKey × ℤ} (h : upsertFlavor L db e = .ok db') :
    db' = { db with flavors := db'.flavors, flavorSeq := db'.flavorSeq } := by
  dsimp only [upsertFlavor] at h
  split at h
  · cases h; rfl
  · split at h
    · cases h; rfl
    · cases h

theorem foldlM_upsertFlavor_frame {l : List (GpuKey × ℤ)} {db db' : Db}
    (h : l.foldlM (upsertFlavor L) db = .ok db') :
    db' = { db with flavors := db'.flavors, flavorSeq := db'.flavorSeq } := by
  induction l generalizing db with
  | nil => cases h; rfl
  | cons e l ih =>
    rw [List.foldlM_cons] at h
    cases hs : upsertFlavor L db e with
    | error => rw [hs] at h; cases h
    | ok db₁ => rw [hs] at h; rw [ih h, upsertFlavor_frame hs]

theorem syncFlavorsToDb_frame {db db' : Db} {answer : Except SyncError (List Metric)}
    (h : syncFlavorsToDb L db answer = .ok db') :
    db' = { db with flavors := db'.flavors, flavorSeq := db'.flavorSeq } := by
  obtain ⟨data, flavors, db₁, -, -, hd, -, rfl⟩ := syncFlavorsToDb_eq_ok h
  rw [foldlM_upsertFlavor_frame hd]

/-- The upsert loop keeps every row, under its id and its key. -/
theorem upsertFlavor_keep {db db' : Db} {e : GpuKey × ℤ} (h : upsertFlavor L db e = .ok db') :
    ∀ d ∈ db.flavors, ∃ r ∈ db'.flavors, r.id = d.id ∧ r.stored = d.stored := by
  dsimp only [upsertFlavor] at h
  split at h
  · cases h
    exact fun d hd => ⟨_, List.mem_map_of_mem _ hd, by split <;> exact ⟨rfl, rfl⟩⟩
  · split at h
    · cases h; exact fun d hd => ⟨d, List.mem_append_left _ hd, rfl, rfl⟩
    · cases h

theorem foldlM_upsertFlavor_keep {l : List (GpuKey × ℤ)} {db db' : Db}
    (h : l.foldlM (upsertFlavor L) db = .ok db') :
    ∀ d ∈ db.flavors, ∃ r ∈ db'.flavors, r.id = d.id ∧ r.stored = d.stored := by
  intro d hd
  exact foldlM_invariant (P := fun b => ∃ r ∈ b.flavors, r.id = d.id ∧ r.stored = d.stored)
    (fun _ _ _ _ ⟨r, hr, hid, hst⟩ hs =>
      let ⟨r', hr', hid', hst'⟩ := upsertFlavor_keep hs r hr; ⟨r', hr', hid'.trans hid, hst'.trans hst⟩)
    ⟨d, hd, rfl, rfl⟩ h

/-- After the upsert of an entry, a row is stored under the entry's key: the one the query
found, updated, or the one added. -/
theorem upsertFlavor_stored {db db' : Db} {e : GpuKey × ℤ} (h : upsertFlavor L db e = .ok db') :
    ∃ r ∈ db'.flavors, r.stored = normalizeKey L e.1 := by
  dsimp only [upsertFlavor] at h
  split at h
  · rename_i f hf
    cases h
    refine ⟨_, List.mem_map_of_mem _ (List.mem_of_find?_eq_some hf), ?_⟩
    have hfk : f.stored = normalizeKey L e.1 := by simpa using List.find?_some hf
    split <;> exact hfk
  · split at h
    · rename_i m hm
      cases h
      exact ⟨_, List.mem_append_right _ (List.mem_singleton_self _), by simp only [FlavorRow.stored, ← hm]⟩
    · cases h

/-- After the upsert loop, a row is stored under the key of each of its entries. -/
theorem foldlM_upsertFlavor_stored {l : List (GpuKey × ℤ)} {db db' : Db}
    (h : l.foldlM (upsertFlavor L) db = .ok db') : ∀ e ∈ l, ∃ r ∈ db'.flavors, r.stored = normalizeKey L e.1 := by
  induction l generalizing db with
  | nil => intro e he; cases he
  | cons x l ih =>
    rw [List.foldlM_cons] at h
    cases hs : upsertFlavor L db x with
    | error => rw [hs] at h; cases h
    | ok db₁ =>
      rw [hs] at h
      rintro e (_ | ⟨_, he⟩)
      · obtain ⟨r, hr, hst⟩ := upsertFlavor_stored hs
        obtain ⟨r', hr', -, hst'⟩ := foldlM_upsertFlavor_keep h r hr
        exact ⟨r', hr', hst'.trans hst⟩
      · exact ih h e he

/-- **One GPU that is not a MIG instance makes `sync_flavors_to_db` raise.**  Whatever the
table holds, an answer with a series that has `modelName` and no `GPU_I_PROFILE` never
commits. -/
theorem syncFlavorsToDb_fails_of_nonMig (db : Db) {data : List Metric} {m : Metric} (hm : m ∈ data)
    (hp : m.get? "GPU_I_PROFILE" = none) (hmodel : (m.get? "modelName").isSome) :
    ∀ db', syncFlavorsToDb L db (.ok data) ≠ .ok db' := by
  intro db' h
  obtain ⟨_, flavors, db₁, hdata, hf, hd, -⟩ := syncFlavorsToDb_eq_ok h
  cases hdata
  obtain ⟨r, hr, hmem⟩ := fetchGpuStatusFromPrometheus_key hf hm
  obtain ⟨k, rfl, hk⟩ := fetchKey_nonMig hp hmodel hr
  obtain ⟨e, he, rfl⟩ := List.mem_map.1 (hmem k rfl)
  exact foldlM_upsertFlavor_nonMig he hk db db₁ hd

/-! ## 6. What a committed `sync_flavors_to_db` leaves

From a table whose stored keys are normalized and distinct, the upsert loop keeps them so: it
updates the row of a key it finds, and adds a row, with a fresh id, for a key it does not.
The deletions then remove exactly the old rows whose key the answer no longer holds; a row
added by the loop has a key of the answer, and an id no old row has. -/

/-- `gpu_flavor.available` of the row with the normalized key `k`, as `.first()` finds it. -/
def Db.availableOf (db : Db) (k : NormKey) : Option ℤ :=
  (db.flavors.find? (·.stored = k)).map (·.available)

/-- The value the upsert loop leaves for the key `k`: that of the last entry of the dictionary
whose key normalizes to `k`.  `d[k] = v` keeps a raw key where it was first put, so that entry
is the raw key whose first series comes last, with the value of its own last series. -/
def lastValue (L : Lowering) (flavors : List (GpuKey × ℤ)) (k : NormKey) : Option ℤ :=
  ((flavors.filter fun e => normalizeKey L e.1 = k).getLast?).map (·.2)

/-- The ids of `gpu_flavor`: below the sequence, and distinct (the primary key). -/
structure IdsOk (db : Db) : Prop where
  id_lt : ∀ r ∈ db.flavors, r.id < db.flavorSeq
  ids_nodup : (db.flavors.map FlavorRow.id).Nodup

/-- The table a sync keeps: its ids, and stored keys normalized and distinct. -/
structure FlavorsOk (L : Lowering) (db : Db) extends IdsOk db : Prop where
  keys_nodup : (db.flavors.map FlavorRow.stored).Nodup
  normal : ∀ r ∈ db.flavors, r.normKey L = r.stored

theorem lastValue_cons (e : GpuKey × ℤ) (l : List (GpuKey × ℤ)) (k : NormKey) :
    lastValue L (e :: l) k = (lastValue L l k).or (if normalizeKey L e.1 = k then some e.2 else none) := by
  unfold lastValue
  by_cases h : normalizeKey L e.1 = k
  · rw [List.filter_cons_of_pos (by simpa using h), List.getLast?_cons, if_pos h]
    cases (l.filter fun e => normalizeKey L e.1 = k).getLast? <;> rfl
  · rw [List.filter_cons_of_neg (by simpa using h), if_neg h, Option.or_none]

theorem lastValue_isSome {l : List (GpuKey × ℤ)} {k : NormKey} :
    (lastValue L l k).isSome ↔ k ∈ l.map fun e => normalizeKey L e.1 := by
  simp only [lastValue, Option.isSome_map', List.getLast?_isSome, ne_eq, List.filter_eq_nil_iff,
    decide_eq_true_eq, not_forall, not_not, List.mem_map, exists_prop]

theorem find?_congr_mem {α : Type} {p q : α → Bool} {l : List α} (h : ∀ x ∈ l, p x = q x) :
    l.find? p = l.find? q := by
  induction l with
  | nil => rfl
  | cons x l ih =>
    simp only [List.find?_cons, h x (List.mem_cons_self x l),
      ih fun y hy => h y (List.mem_cons_of_mem x hy)]

/-- The row with a given id, of a table whose ids are distinct. -/
theorem eq_of_id_eq {l : List FlavorRow} (h : (l.map FlavorRow.id).Nodup) {r f : FlavorRow}
    (hr : r ∈ l) (hf : f ∈ l) (hid : r.id = f.id) : r = f :=
  List.inj_on_of_nodup_map h hr hf hid

/-- A row whose stored key is a normalized key is normalized: `normalize_key` is idempotent. -/
theorem normKey_of_stored {r : FlavorRow} {g : GpuKey} (h : r.stored = normalizeKey L g) :
    r.normKey L = r.stored := by
  have hraw : (⟨some r.workerNode, r.gpuId, some r.migId, r.gpuName⟩ : GpuKey) =
      ⟨some (normalizeKey L g).workerNode, (normalizeKey L g).gpuId, (normalizeKey L g).migId,
        (normalizeKey L g).gpuName⟩ := by
    rw [← h]; rfl
  rw [FlavorRow.normKey, hraw, normalizeKey_idem, h]

/-- **The upsert step, on ids.**  It keeps the ids well formed, and leaves as it is every row
whose stored key is not normalized: its query asks for a normalized key. -/
theorem upsertFlavor_ids {db db' : Db} {e : GpuKey × ℤ} (hok : IdsOk db)
    (h : upsertFlavor L db e = .ok db') :
    IdsOk db' ∧ ∀ r ∈ db.flavors, r.normKey L ≠ r.stored → r ∈ db'.flavors := by
  dsimp only [upsertFlavor] at h
  split at h
  · rename_i f hf
    cases h
    have hfk : f.stored = normalizeKey L e.1 := by simpa using List.find?_some hf
    set upd : FlavorRow → FlavorRow := fun r => if r.id = f.id then { r with available := e.2 } else r
    have hids : (db.flavors.map upd).map FlavorRow.id = db.flavors.map FlavorRow.id := by
      rw [List.map_map]; exact List.map_congr_left fun r _ => by simp only [upd, Function.comp]; split <;> rfl
    refine ⟨⟨?_, hids ▸ hok.ids_nodup⟩, fun r hr hstale => List.mem_map.2 ⟨r, hr, ?_⟩⟩
    · simp only [List.mem_map]; rintro _ ⟨r, hr, rfl⟩
      simp only [upd]; split <;> exact hok.id_lt r hr
    · have hrf : r.id ≠ f.id := fun hid => hstale <| by
        rw [eq_of_id_eq hok.ids_nodup hr (List.mem_of_find?_eq_some hf) hid]; exact normKey_of_stored hfk
      simp only [upd, if_neg hrf]
  · split at h
    · cases h
      refine ⟨⟨?_, ?_⟩, fun r hr _ => List.mem_append_left _ hr⟩
      · simp only [List.mem_append, List.mem_singleton]
        rintro r (hr | rfl)
        · exact Nat.lt_succ_of_lt (hok.id_lt r hr)
        · exact Nat.lt_succ_self _
      · rw [List.map_append, List.nodup_append]
        exact ⟨hok.ids_nodup, List.nodup_singleton _, List.disjoint_singleton.2 fun hmem => by
          obtain ⟨r, hr, hid⟩ := List.mem_map.1 hmem
          exact absurd (hok.id_lt r hr) (by simp [hid])⟩
    · cases h

/-- **The upsert step.**  It keeps the table well formed, sets the value of the entry's key,
and every row it leaves is an old one, with its id and key, or the one it added. -/
theorem upsertFlavor_spec {db db' : Db} {e : GpuKey × ℤ} (hok : FlavorsOk L db)
    (h : upsertFlavor L db e = .ok db') :
    FlavorsOk L db' ∧
      (∀ k, db'.availableOf k = if normalizeKey L e.1 = k then some e.2 else db.availableOf k) ∧
      (∀ r ∈ db'.flavors, (∃ d ∈ db.flavors, d.id = r.id ∧ d.stored = r.stored) ∨
        (db.flavorSeq ≤ r.id ∧ r.stored = normalizeKey L e.1)) ∧ db.flavorSeq ≤ db'.flavorSeq := by
  have hids' := (upsertFlavor_ids hok.toIdsOk h).1
  dsimp only [upsertFlavor] at h
  split at h
  · -- a row has the key: its `available` is set
    rename_i f hf
    cases h
    have hfk : f.stored = normalizeKey L e.1 := by simpa using List.find?_some hf
    set upd : FlavorRow → FlavorRow := fun r => if r.id = f.id then { r with available := e.2 } else r
    have hid : ∀ r, (upd r).id = r.id := fun r => by simp only [upd]; split <;> rfl
    have hst : ∀ r, (upd r).stored = r.stored := fun r => by simp only [upd]; split <;> rfl
    have hnk : ∀ r, (upd r).normKey L = r.normKey L := fun r => by simp only [upd]; split <;> rfl
    have hkeys : (db.flavors.map upd).map FlavorRow.stored = db.flavors.map FlavorRow.stored := by
      rw [List.map_map]; exact List.map_congr_left fun r _ => hst r
    refine ⟨⟨hids', hkeys ▸ hok.keys_nodup, ?_⟩, fun k => ?_, ?_, le_rfl⟩
    · simp only [List.mem_map]; rintro _ ⟨r, hr, rfl⟩; rw [hnk, hst]; exact hok.normal r hr
    · have hp : ((fun r : FlavorRow => decide (r.stored = k)) ∘ upd) = fun r => decide (r.stored = k) :=
        funext fun r => by simp only [Function.comp, hst]
      simp only [Db.availableOf, List.find?_map, hp, Option.map_map]
      split_ifs with hk
      · rw [← hk, hf]; simp [upd]
      · cases hr : db.flavors.find? (·.stored = k) with
        | none => rfl
        | some r =>
          have hne : r.id ≠ f.id := fun hrf => hk <| by
            rw [← hfk, ← eq_of_id_eq hok.ids_nodup (List.mem_of_find?_eq_some hr)
              (List.mem_of_find?_eq_some hf) hrf]
            simpa using List.find?_some hr
          simp [upd, hne]
    · simp only [List.mem_map]; rintro _ ⟨r, hr, rfl⟩; exact .inl ⟨r, hr, (hid r).symm, (hst r).symm⟩
  · -- no row has the key: one is added, unless its `mig_id` is `None`
    rename_i hf
    split at h
    · rename_i m hm
      cases h
      set new : FlavorRow := ⟨db.flavorSeq, (normalizeKey L e.1).gpuName, e.2, (normalizeKey L e.1).workerNode,
        (normalizeKey L e.1).gpuId, m⟩
      have hnew : new.stored = normalizeKey L e.1 := by
        simp only [new, FlavorRow.stored, ← hm]
      have hnone : ∀ r ∈ db.flavors, r.stored ≠ normalizeKey L e.1 := fun r hr hk =>
        by simpa [hk] using List.find?_eq_none.1 hf r hr
      refine ⟨⟨hids', ?_, ?_⟩, fun k => ?_, ?_, Nat.le_succ _⟩
      · rw [List.map_append, List.nodup_append]
        exact ⟨hok.keys_nodup, List.nodup_singleton _, List.disjoint_singleton.2 fun hmem => by
          obtain ⟨r, hr, hk⟩ := List.mem_map.1 hmem
          exact hnone r hr (hk.trans hnew)⟩
      · simp only [List.mem_append, List.mem_singleton]
        rintro r (hr | rfl)
        · exact hok.normal r hr
        · exact normKey_of_stored hnew
      · simp only [Db.availableOf, List.find?_append]
        split_ifs with hk
        · subst hk
          rw [hf]; simp [hnew]
        · cases db.flavors.find? (·.stored = k) with
          | some r => rfl
          | none => simp [hnew, hk]
      · simp only [List.mem_append, List.mem_singleton]
        rintro r (hr | rfl)
        · exact .inl ⟨r, hr, rfl, rfl⟩
        · exact .inr ⟨le_rfl, hnew⟩
    · cases h

/-- **The upsert loop.**  Over the whole answer it keeps the table well formed, each key ends
with the value of its last entry, and every row it leaves is an old one or an added one with
a key of the answer. -/
theorem foldlM_upsertFlavor_spec {l : List (GpuKey × ℤ)} {db db' : Db} (hok : FlavorsOk L db)
    (h : l.foldlM (upsertFlavor L) db = .ok db') :
    FlavorsOk L db' ∧ (∀ k, db'.availableOf k = (lastValue L l k).or (db.availableOf k)) ∧
      (∀ r ∈ db'.flavors, (∃ d ∈ db.flavors, d.id = r.id ∧ d.stored = r.stored) ∨
        (db.flavorSeq ≤ r.id ∧ r.stored ∈ l.map fun e => normalizeKey L e.1)) := by
  induction l generalizing db with
  | nil =>
    cases h
    exact ⟨hok, fun k => by simp [lastValue], fun r hr => .inl ⟨r, hr, rfl, rfl⟩⟩
  | cons e l ih =>
    rw [List.foldlM_cons] at h
    cases hs : upsertFlavor L db e with
    | error => rw [hs] at h; cases h
    | ok db₁ =>
      rw [hs] at h
      obtain ⟨hok₁, hav₁, horig₁, hseq₁⟩ := upsertFlavor_spec hok hs
      obtain ⟨hok', hav', horig'⟩ := ih hok₁ h
      refine ⟨hok', fun k => ?_, fun r hr => ?_⟩
      · rw [hav', hav₁, lastValue_cons]
        split_ifs <;> cases lastValue L l k <;> rfl
      · rcases horig' r hr with ⟨d₁, hd₁, hid, hst⟩ | ⟨hle, hmem⟩
        · rcases horig₁ d₁ hd₁ with ⟨d, hd, hid', hst'⟩ | ⟨hle', hk⟩
          · exact .inl ⟨d, hd, hid'.trans hid, hst'.trans hst⟩
          · exact .inr ⟨hid ▸ hle', List.mem_cons.2 (.inl (hst.symm.trans hk))⟩
        · exact .inr ⟨hseq₁.trans hle, List.mem_cons_of_mem _ hmem⟩

/-- **The deletions.**  After the upsert loop, removing the old rows whose normalized key is
not among the answer's keys `P` removes exactly the rows whose key is not in `P`. -/
theorem find?_deleted {db db₁ : Db} {P : List NormKey} (hok : FlavorsOk L db)
    (horig : ∀ r ∈ db₁.flavors, (∃ d ∈ db.flavors, d.id = r.id ∧ d.stored = r.stored) ∨
      (db.flavorSeq ≤ r.id ∧ r.stored ∈ P)) (k : NormKey) :
    (db₁.flavors.filter fun r => !(db.flavors.filter fun f => f.normKey L ∉ P).any (·.id = r.id)).find?
        (·.stored = k) = if k ∈ P then db₁.flavors.find? (·.stored = k) else none := by
  rw [List.find?_filter]
  -- on a row with key `k`, the filter keeps it exactly when `k ∈ P`
  have hkeep : ∀ r ∈ db₁.flavors, r.stored = k →
      ((!(db.flavors.filter fun f => f.normKey L ∉ P).any (·.id = r.id)) = true ↔ k ∈ P) := by
    intro r hr hk
    simp only [Bool.not_eq_true', List.any_eq_false, List.mem_filter, decide_eq_true_eq, and_imp]
    constructor
    · intro hnot
      rcases horig r hr with ⟨d, hd, hid, hst⟩ | ⟨-, hmem⟩
      · by_contra hkP
        exact hnot d hd (by rw [hok.normal d hd, hst, hk]; exact hkP) hid
      · exact hk ▸ hmem
    · intro hkP f hf hfP hid
      rcases horig r hr with ⟨d, hd, hid', hst⟩ | ⟨hle, -⟩
      · have : d = f := eq_of_id_eq hok.ids_nodup hd hf (hid'.trans hid.symm)
        subst this
        exact hfP (by rw [hok.normal d hd, hst, hk]; exact hkP)
      · exact absurd (hok.id_lt f hf) (by omega)
  split_ifs with hkP
  · exact find?_congr_mem fun r hr => by
      by_cases hk : r.stored = k
      · simp only [(hkeep r hr hk).2 hkP, hk, decide_True, and_self]
      · simp [hk]
  · exact List.find?_eq_none.2 fun r hr h => by
      simp only [decide_eq_true_eq] at h
      exact hkP ((hkeep r hr h.2).1 h.1)

theorem foldlM_upsertFlavor_ids {l : List (GpuKey × ℤ)} {db db' : Db} (hok : IdsOk db)
    (h : l.foldlM (upsertFlavor L) db = .ok db') :
    IdsOk db' ∧ ∀ r ∈ db.flavors, r.normKey L ≠ r.stored → r ∈ db'.flavors :=
  foldlM_invariant (P := fun b => IdsOk b ∧ ∀ r ∈ db.flavors, r.normKey L ≠ r.stored → r ∈ b.flavors)
    (fun _ _ _ _ hb hs => ⟨(upsertFlavor_ids hb.1 hs).1,
      fun r hr hst => (upsertFlavor_ids hb.1 hs).2 r (hb.2 r hr hst) hst⟩)
    ⟨hok, fun _ hr _ => hr⟩ h

/-- **A row whose key is not normalized stays as it is.**  A committed `sync_flavors_to_db`
keeps the ids well formed; a row whose stored key is not normalized is one its query never
finds, so the sync leaves it, `available` included, wherever the answer reports its GPU. -/
theorem syncFlavorsToDb_ids {db db' : Db} {answer : Except SyncError (List Metric)}
    (hok : IdsOk db) (h : syncFlavorsToDb L db answer = .ok db') :
    IdsOk db' ∧ ∃ data flavors, answer = .ok data ∧ fetchGpuStatusFromPrometheus data = .ok flavors ∧
      ∀ r ∈ db.flavors, r.normKey L ≠ r.stored →
        r.normKey L ∈ flavors.map (fun e => normalizeKey L e.1) → r ∈ db'.flavors := by
  obtain ⟨data, flavors, db₁, hdata, hf, hd, -, rfl⟩ := syncFlavorsToDb_eq_ok h
  obtain ⟨hok₁, hkeep⟩ := foldlM_upsertFlavor_ids hok hd
  have hsl := List.filter_sublist (p := fun r => !(deletedRows L db flavors).any (·.id = r.id)) db₁.flavors
  refine ⟨⟨fun r hr => hok₁.id_lt r (hsl.subset hr), (hsl.map _).nodup hok₁.ids_nodup⟩,
    data, flavors, hdata, hf, fun r hr hst hmem => List.mem_filter.2 ⟨hkeep r hr hst, ?_⟩⟩
  simp only [Bool.not_eq_true', List.any_eq_false, decide_eq_true_eq, deletedRows, List.mem_filter]
  rintro d ⟨hd, hdP⟩ hid
  rw [eq_of_id_eq hok.ids_nodup hd hr hid] at hdP
  exact hdP hmem

/-- **A committed sync stores every key of its answer.**  From a table with well-formed ids,
a committed `sync_flavors_to_db` leaves a row stored under the normalized key of each entry of
the answer's dictionary: the upsert loop finds or adds one, and the deletions spare it, since
an old row stored under a normalized key normalizes to it. -/
theorem syncFlavorsToDb_stored {db db' : Db} {answer : Except SyncError (List Metric)}
    (hok : IdsOk db) (h : syncFlavorsToDb L db answer = .ok db') :
    ∃ data flavors, answer = .ok data ∧ fetchGpuStatusFromPrometheus data = .ok flavors ∧
      ∀ e ∈ flavors, ∃ f ∈ db'.flavors, f.stored = normalizeKey L e.1 := by
  obtain ⟨data, flavors, db₁, hdata, hf, hd, -, rfl⟩ := syncFlavorsToDb_eq_ok h
  have hids₁ := (foldlM_upsertFlavor_ids hok hd).1
  refine ⟨data, flavors, hdata, hf, fun e he => ?_⟩
  obtain ⟨f, hf₁, hfst⟩ := foldlM_upsertFlavor_stored hd e he
  refine ⟨f, List.mem_filter.2 ⟨hf₁, ?_⟩, hfst⟩
  simp only [Bool.not_eq_true', List.any_eq_false, decide_eq_true_eq, deletedRows, List.mem_filter]
  rintro d ⟨hd₀, hdP⟩ hid
  obtain ⟨r, hr, hrid, hrst⟩ := foldlM_upsertFlavor_keep hd d hd₀
  have hrf : r = f := eq_of_id_eq hids₁.ids_nodup hr hf₁ (hrid.trans hid)
  have hdst : d.stored = normalizeKey L e.1 := hrst.symm.trans (hrf ▸ hfst)
  exact hdP (normKey_of_stored hdst ▸ hdst ▸ List.mem_map_of_mem _ he)

/-- **What a committed `sync_flavors_to_db` leaves.**  From a table of normalized, distinct
keys, the table it commits is again one, and it holds, for every normalized key, the value
of the dictionary's last entry with that key, and nothing for a key the answer does not hold. -/
theorem syncFlavorsToDb_spec {db db' : Db} {answer : Except SyncError (List Metric)}
    (hok : FlavorsOk L db) (h : syncFlavorsToDb L db answer = .ok db') :
    FlavorsOk L db' ∧ ∃ data flavors, answer = .ok data ∧
      fetchGpuStatusFromPrometheus data = .ok flavors ∧ ∀ k, db'.availableOf k = lastValue L flavors k := by
  have hids := (syncFlavorsToDb_ids hok.toIdsOk h).1
  obtain ⟨data, flavors, db₁, hdata, hf, hd, -, rfl⟩ := syncFlavorsToDb_eq_ok h
  obtain ⟨hok₁, hav₁, horig₁⟩ := foldlM_upsertFlavor_spec hok hd
  have hsl := List.filter_sublist (p := fun r => !(deletedRows L db flavors).any (·.id = r.id)) db₁.flavors
  refine ⟨⟨hids, (hsl.map _).nodup hok₁.keys_nodup, fun r hr => hok₁.normal r (hsl.subset hr)⟩,
    data, flavors, hdata, hf, fun k => ?_⟩
  have hdel := find?_deleted hok horig₁ k
  simp only [Db.availableOf, deletedRows] at hdel ⊢
  rw [hdel]
  split_ifs with hkP
  · rw [← Db.availableOf, hav₁]
    obtain ⟨v, hv⟩ := Option.isSome_iff_exists.1 (lastValue_isSome.2 hkP)
    rw [hv]; rfl
  · rw [Option.map_none', eq_comm, ← Option.not_isSome_iff_eq_none]
    exact fun hs => hkP (lastValue_isSome.1 hs)

/-- **No mapping loses its GPU.**  A committed `sync_flavors_to_db` deletes no row a mapping
points at (the commit would fail), so every mapping that pointed at a `gpu_flavor` row still
does. -/
theorem syncFlavorsToDb_refs {db db' : Db} {answer : Except SyncError (List Metric)}
    (h : syncFlavorsToDb L db answer = .ok db')
    (hrefs : ∀ m ∈ db.mappings, ∃ f ∈ db.flavors, f.id = m.gpuId) :
    ∀ m ∈ db'.mappings, ∃ f ∈ db'.flavors, f.id = m.gpuId := by
  obtain ⟨data, flavors, db₁, -, -, hd, hfk, rfl⟩ := syncFlavorsToDb_eq_ok h
  have hkeep := foldlM_upsertFlavor_keep hd
  have hmap : db₁.mappings = db.mappings := by rw [foldlM_upsertFlavor_frame hd]
  intro m hm
  obtain ⟨f, hf, hfm⟩ := hrefs m (hmap ▸ hm)
  obtain ⟨r, hr, hid, -⟩ := hkeep f hf
  refine ⟨r, List.mem_filter.2 ⟨hr, ?_⟩, hid.trans hfm⟩
  simp only [Bool.not_eq_true', List.any_eq_false, decide_eq_true_eq]
  exact fun d hd hdr => hfk m hm d hd (hdr.trans (hid.trans hfm))

/-! ## 7. The other writer: `init_flavors_from_csv`

`init_flavors_from_csv` (`app/db/init_database.py`) fills an empty `gpu_flavor` table from a
CSV file, with `gpu_name` as the file writes it.  A name `normalize_key` changes (`1G.10GB`)
gives a row whose stored key is not normalized: `syncFlavorsToDb_ids` says what the sync does
to it. -/

/-- A line of `csv.DictReader`: a value for each column of the header, `None` for the columns
the line is short of. -/
abbrev CsvRow := Dict (Option String)

/-- `row[k]`. -/
def csvItem (row : CsvRow) (k : String) : Except SyncError (Option String) :=
  match row.get? k with
  | some v => .ok v
  | none => .error (.keyError k)

/-- `row.get(k) or d`, for a string `d`. -/
def csvGetOr (row : CsvRow) (k d : String) : String :=
  match row.get? k with
  | some (some v) => if v = "" then d else v
  | _ => d

/-- `int(row.get(k) or 0)`. -/
def csvIntOrZero (row : CsvRow) (k : String) : Except SyncError ℤ :=
  match row.get? k with
  | some (some v) => if v = "" then .ok 0 else parseInt v
  | _ => .ok 0

/-- `int(v)` of a field: `int(None)` raises `TypeError`. -/
def fieldInt : Option String → Except SyncError ℤ
  | some s => parseInt s
  | none => .error .typeError

/-- The columns of one `Flavor(...)` before the flush: `gpu_name` may be `None`. -/
structure CsvFlavor where
  gpuName : Option String
  available : ℤ
  workerNode : String
  gpuId : ℤ
  migId : ℤ
  deriving DecidableEq, Repr

/-- One line's `Flavor(...)`, its arguments evaluated in order. -/
def csvFlavor (row : CsvRow) : Except SyncError CsvFlavor := do
  let gpuName ← csvItem row "gpu_name"
  let available ← fieldInt (← csvItem row "available")
  let workerNode := strip (csvGetOr row "worker_node" "")
  let gpuId ← csvIntOrZero row "gpu_id"
  let migId ← csvIntOrZero row "mig_id"
  pure ⟨gpuName, available, workerNode, gpuId, migId⟩

/-- `db.add_all(flavors)`, flushed: the rows with the next ids; a `None` name is refused. -/
def addAll (seq : ℕ) : List CsvFlavor → Except SyncError (List FlavorRow)
  | [] => .ok []
  | f :: fs =>
    match f.gpuName with
    | some name => do
      let rows ← addAll (seq + 1) fs
      pure (⟨seq, name, f.available, f.workerNode, f.gpuId, f.migId⟩ :: rows)
    | none => .error (.notNull "gpu_flavor.gpu_name")

/-- `init_flavors_from_csv(csv_path)`, of the file's lines: on an empty table
(`db.query(Flavor).count() == 0`) one row per line, committed together; otherwise nothing. -/
def initFlavorsFromCsv (db : Db) (rows : List CsvRow) : Except SyncError Db :=
  if db.flavors.length = 0 then do
    let flavors ← addAll db.flavorSeq (← rows.mapM csvFlavor)
    pure { db with flavors := flavors, flavorSeq := db.flavorSeq + flavors.length }
  else pure db

theorem addAll_ids {seq : ℕ} {fs : List CsvFlavor} {rows : List FlavorRow}
    (h : addAll seq fs = .ok rows) : rows.map FlavorRow.id = List.range' seq rows.length := by
  induction fs generalizing seq rows with
  | nil => cases h; rfl
  | cons f fs ih =>
    unfold addAll at h
    split at h
    · obtain ⟨rows', hr, h⟩ := exists_of_bind_eq_ok h
      cases h
      simp [ih hr, List.range'_succ]
    · cases h

/-- `init_flavors_from_csv` keeps the ids well formed: the rows it adds take the next ids. -/
theorem initFlavorsFromCsv_idsOk {db db' : Db} {rows : List CsvRow} (hok : IdsOk db)
    (h : initFlavorsFromCsv db rows = .ok db') : IdsOk db' := by
  unfold initFlavorsFromCsv at h
  split at h
  · obtain ⟨fs, -, h⟩ := exists_of_bind_eq_ok h
    obtain ⟨rs, hrs, h⟩ := exists_of_bind_eq_ok h
    cases h
    have hids := addAll_ids hrs
    refine ⟨fun r hr => ?_, hids ▸ List.nodup_range' _ _⟩
    have := List.mem_range'_1.1 (hids ▸ List.mem_map_of_mem FlavorRow.id hr)
    simp only; omega
  · cases h; exact hok

/-- A flavor file of one line, `1G.10GB,0,node1,0,3`: a MIG instance under the name the card
prints. -/
def sampleCsv : List CsvRow :=
  [[("gpu_name", some "1G.10GB"), ("available", some "0"), ("worker_node", some "node1"),
    ("gpu_id", some "0"), ("mig_id", some "3")]]

/-- The row `init_flavors_from_csv` writes from `sampleCsv`. -/
def csvRow : FlavorRow := ⟨1, "1G.10GB", 0, "node1", 0, 3⟩

/-- The database `init_flavors_from_csv` leaves from `sampleCsv`, on an empty one. -/
def csvDb : Db := ⟨[csvRow], [], [], [], 2, 1, 1, [], [], 1⟩

example : initFlavorsFromCsv ⟨[], [], [], [], 1, 1, 1, [], [], 1⟩ sampleCsv = .ok csvDb := rfl

end OpenKCloud.GpuSync
