import OpenKCloud.Dict
import Mathlib.Data.NNRat.Order
import Mathlib.Data.Rat.Floor
import Mathlib.Order.WithBot
import Mathlib.Algebra.Order.BigOperators.Group.List
import Mathlib.Algebra.Order.Ring.Rat
/-
# The data the accelerator weigher reads

`nova/scheduler/weights/accelerator.py` scores one host for one request.  It reads three
things: the request's groups (`RequestSpec.requested_resources`), the host's provider tree
from Placement, and one usage record per provider (`GET /resource_providers/{uuid}/usages`).
This file fixes the shape of each, as the weigher sees it after JSON decoding.

* Python dictionaries are `OpenKCloud.Dict`s, read through `Dict.get?`: only the
  dictionaries the weigher ITERATES (a request group's `resources`) carry the fact that
  their keys are distinct (`RequestGroup.nodup`).
* A request amount is any JSON-ish value (`PyValue`); `pyInt` is Python's `int()` on it,
  `none` where `int()` raises `ValueError` or `TypeError`.
* Numbers are exact (`ℚ`).  A usage is a `ℚ≥0`: Placement never reports a negative one.
* `nova.compute.provider_tree` is not part of this repository; `ProviderTree` models the two
  queries the weigher makes of it, from the spec (§3, §4.1).

The score is a `WithBot ℚ`: `UNMET_FLOOR = float("-inf")` is `⊥`.
-/

namespace OpenKCloud.Weigher

/-! ## 1. Python values and `int()` -/

/-- A request amount as `RequestGroup.resources` may hold it.  Floats are finite. -/
inductive PyValue where
  | int (n : ℤ)
  | float (q : ℚ)
  | bool (b : Bool)
  | str (s : String)
  | none
  deriving DecidableEq

/-- The characters `str.strip()` removes; ASCII only. -/
def isPySpace (c : Char) : Bool :=
  c = ' ' || c = '\t' || c = '\n' || c = '\r' || c = '\x0b' || c = '\x0c'

/-- `int(s)` on a string: surrounding whitespace, an optional sign, then decimal digits with
single underscores between them.  ASCII digits only. -/
def pyIntOfStr (s : String) : Option ℤ :=
  let t := ((s.data.dropWhile isPySpace).reverse.dropWhile isPySpace).reverse
  let (sign, body) : ℤ × List Char :=
    match t with
    | '-' :: b => (-1, b)
    | '+' :: b => (1, b)
    | b => (1, b)
  let chunks := body.splitOn '_'
  if chunks.all (fun c => !c.isEmpty && c.all Char.isDigit) then
    some (sign * (chunks.flatten.foldl (fun n c => 10 * n + (c.toNat - '0'.toNat)) 0 : ℕ))
  else none

/-- Python's `int(v)`; `none` where it raises `ValueError` or `TypeError`.  A float is
truncated toward zero. -/
def pyInt : PyValue → Option ℤ
  | .int n => some n
  | .float q => some (if 0 ≤ q then ⌊q⌋ else ⌈q⌉)
  | .bool b => some (if b then 1 else 0)
  | .str s => pyIntOfStr s
  | .none => none

/-! ## 2. Configuration and constants -/

/-- `[accelerator_weigher] policy`; oslo.config admits only these two choices. -/
inductive Policy where
  | sumFit
  | productFit
  deriving DecidableEq

/-- `EPS = 1e-6`. -/
def eps : ℚ := 1 / 1000000

/-- `UNMET_FLOOR = float("-inf")`. -/
def unmetFloor : WithBot ℚ := ⊥

theorem eps_pos : 0 < eps := by norm_num [eps]

/-! ## 3. The provider tree -/

/-- One resource provider as `ProviderTree.data(uuid)` returns it.  `inventory` maps a
resource class to its inventory record (`{"total": .., "reserved": .., ..}`). -/
structure ProviderData where
  uuid : String
  inventory : Dict (Dict ℚ)
  traits : List String

/-- Modelled from the spec: `nova.compute.provider_tree.ProviderTree`, a snapshot of one
host's provider hierarchy, "keyed by id" (§3): no two providers share a uuid. -/
structure ProviderTree where
  providers : List ProviderData
  nodup : (providers.map ProviderData.uuid).Nodup

namespace ProviderTree

/-- Modelled from the spec: `ptree.data(uuid)`, `none` where it raises `ValueError`. -/
def data (t : ProviderTree) (u : String) : Option ProviderData :=
  t.providers.find? (fun p => p.uuid = u)

/-- Modelled from the spec: `ptree.get_provider_uuids_in_tree(root)`, every provider of the
tree; `none` (a `ValueError`) when `root` is not one of them. -/
def getProviderUuidsInTree (t : ProviderTree) (root : String) : Option (List String) :=
  if root ∈ t.providers.map ProviderData.uuid then some (t.providers.map ProviderData.uuid)
  else none

theorem data_eq_some {t : ProviderTree} {u : String} {p : ProviderData} (h : t.data u = some p) :
    p ∈ t.providers ∧ p.uuid = u := by
  have := List.find?_some h
  exact ⟨List.mem_of_find?_eq_some h, by simpa using this⟩

theorem data_of_mem {t : ProviderTree} {p : ProviderData} (hp : p ∈ t.providers) :
    t.data p.uuid = some p := by
  obtain ⟨t₁, nodup⟩ := t
  unfold data
  induction t₁ with
  | nil => simp at hp
  | cons q qs ih =>
    simp only [List.map_cons, List.nodup_cons, List.mem_map] at nodup
    rcases List.mem_cons.1 hp with rfl | hp
    · simp
    · have hne : q.uuid ≠ p.uuid := fun h => nodup.1 ⟨p, hp, h.symm⟩
      simpa [hne] using ih nodup.2 hp

end ProviderTree

/-- `usages_dict`: provider uuid ↦ (resource class ↦ units in use). -/
abbrev Usages := Dict (Dict ℚ≥0)

/-! ## 4. The request -/

/-- One `RequestGroup`: its `resources` dict (absent or `None` read as `{}`) and its
`required_traits` (absent or `None` read as the empty set). -/
structure RequestGroup where
  resources : Dict PyValue
  requiredTraits : List String
  nodup : resources.keys.Nodup

/-- The `RequestSpec`; `requested_resources` absent or `None` is read as `[]`. -/
structure RequestSpec where
  requestedResources : List RequestGroup

/-- One group `_extract_accel_groups` returns: `(accel_resources, req_traits)`. -/
structure AccelGroup where
  resources : Dict ℤ
  requiredTraits : List String
  deriving DecidableEq

/-! ## 5. Placement, as the weigher calls it -/

/-- The scheduler's view of a host: `host` and `hypervisor_hostname`. -/
structure HostState where
  host : Option String
  hypervisorHostname : Option String

/-- `GET /resource_providers?name=..`: the status, and the `uuid` field of each provider in
`resource_providers` (a missing list read as `[]`). -/
structure RpLookupResponse where
  statusCode : ℕ
  resourceProviders : List (Option String)

/-- `GET /resource_providers/{uuid}/usages`: the status and the decoded `usages` field. -/
structure UsageResponse where
  statusCode : ℕ
  usages : Dict ℚ≥0

/-- The three calls the weigher makes through `SchedulerReportClient`.
`getProviderTreeAndEnsureRoot` is `none` where the call raises. -/
structure PlacementClient where
  getRpByName : String → RpLookupResponse
  getProviderTreeAndEnsureRoot : String → Option ProviderTree
  getUsages : String → UsageResponse

/-! ## 6. A host from the spec's scenarios

Scenario 1 and 4 of §8 on one host: `rp1` holds 4 `AICHIP` with 1 in use and the trait
`CUSTOM_FURIOSA_0000`; `rp2` holds 1 `FPGA`.  The request asks 2 `AICHIP` with that trait
(slack `1`) and 4 `FPGA` (slack `-3`). -/

/-- The scenario's provider tree, rooted at `cn1`. -/
def scenarioTree : ProviderTree :=
  ⟨[⟨"cn1", [], []⟩,
    ⟨"rp1", [("AICHIP", [("total", 4), ("reserved", 0)])], ["CUSTOM_FURIOSA_0000"]⟩,
    ⟨"rp2", [("FPGA", [("total", 1), ("reserved", 0)])], []⟩], by decide⟩

/-- Placement, answering every call. -/
def scenarioClient : PlacementClient where
  getRpByName _ := ⟨200, [some "cn1"]⟩
  getProviderTreeAndEnsureRoot _ := some scenarioTree
  getUsages u := if u = "rp1" then ⟨200, [("AICHIP", 1)]⟩ else ⟨200, []⟩

/-- The host, whose hypervisor is named after its root provider. -/
def scenarioHost : HostState := ⟨some "compute1", some "cn1"⟩

/-- A satisfiable group and an unsatisfiable one. -/
def scenarioRequest : RequestSpec :=
  ⟨[⟨[("AICHIP", .int 2)], ["CUSTOM_FURIOSA_0000"], by decide⟩, ⟨[("FPGA", .int 4)], [], by decide⟩]⟩

/-- The usages `_get_provider_tree_and_usages` collects for the scenario. -/
def scenarioUsages : Usages := [("rp1", [("AICHIP", 1)]), ("rp2", [])]

end OpenKCloud.Weigher
