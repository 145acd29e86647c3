import OpenKCloud.Weigher.Extract
import OpenKCloud.Weigher.GroupFit
/-
# The host score: `AcceleratorWeigher._weigh_object`

`_weigh_object` looks the host's root provider up by name, extracts the accelerator groups
of the request, fetches the provider tree and one usage record per provider, and then
scores every group.  It answers `0` when the lookup fails, when no group is left, or when
the tree cannot be fetched; `UNMET_FLOOR` when some group's slack is `UNMET_FLOOR`; and
otherwise, under `sum-fit`, the sum of the positive group slacks, under `product-fit`, the
sum of the group products.

* `weighObject_eq`: once the lookup and the fetch succeed, the score is `weighGroups` on
  the fetched snapshot;
* `weighGroups_sumFit`, `weighGroups_productFit`: on groups with at least one class each
  (which is all `_extract_accel_groups` returns) the `UNMET_FLOOR` test never fires, and
  each policy's score is a sum over groups of a closed form in `totalFree`.

The `UNMET_FLOOR` test looks only at the SLACKS.  Under `product-fit` a group with a negative
slack has product `0` and simply adds nothing: the host is scored on its other groups.
-/

namespace OpenKCloud.Weigher

/-! ## 1. The Placement calls -/

/-- `_lookup_root_rp_uuid(client, host_state, stats)`. -/
def lookupRootRpUuid (getRpByName : String → RpLookupResponse) (h : HostState) : Option String :=
  let name := match h.hypervisorHostname with
    | some n => if n = "" then h.host else some n
    | none => h.host
  match name with
  | none => none
  | some n =>
    if n = "" then none
    else
      let resp := getRpByName n
      if resp.statusCode ≠ 200 then none
      else
        match resp.resourceProviders with
        | [] => none
        | u :: _ => u

/-- One turn of the usage loop of `_get_provider_tree_and_usages`. -/
def usagesStep (getUsages : String → UsageResponse) (root : String) (d : Usages) (u : String) :
    Usages :=
  if u = root then d
  else
    let r := getUsages u
    if r.statusCode = 200 then d.set u r.usages else d

/-- `_get_provider_tree_and_usages(client, root_uuid, stats)`; `none` for `(None, {})`. -/
def getProviderTreeAndUsages (c : PlacementClient) (root : String) :
    Option (ProviderTree × Usages) :=
  match c.getProviderTreeAndEnsureRoot root with
  | none => none
  | some t =>
    match t.getProviderUuidsInTree root with
    | none => none
    | some uuids => some (t, uuids.foldl (usagesStep c.getUsages root) [])

/-! ## 2. Scoring -/

/-- The scoring part of `_weigh_object`, on the fetched tree and usages (lines 405-444). -/
def weighGroups (policy : Policy) (t : ProviderTree) (root : String) (usages : Usages)
    (groups : List AccelGroup) : WithBot ℚ :=
  let groupSlacks := groups.map fun g => groupSlack t root g.resources g.requiredTraits usages
  let groupProducts := groups.map fun g => groupProduct t root g.resources g.requiredTraits usages
  if groupSlacks.any (· = unmetFloor) then unmetFloor
  else
    match policy with
    | .sumFit => (groupSlacks.filter (0 < ·)).sum
    | .productFit => ((groupProducts.sum : ℚ) : WithBot ℚ)

/-- `AcceleratorWeigher._weigh_object(host_state, weight_properties)`, before the weigher's
multiplier. -/
def weighObject (policy : Policy) (rcMatch : String → Bool) (c : PlacementClient) (h : HostState)
    (req : RequestSpec) : WithBot ℚ :=
  match lookupRootRpUuid c.getRpByName h with
  | none => 0
  | some root =>
    if root = "" then 0
    else
      let groups := extractAccelGroups rcMatch req
      if groups.isEmpty then 0
      else
        match getProviderTreeAndUsages c root with
        | none => 0
        | some (t, usages) => weighGroups policy t root usages groups

/-! ## 3. From the code to closed forms -/

theorem root_mem_of_fetch {c : PlacementClient} {root : String} {t : ProviderTree} {usages : Usages}
    (h : getProviderTreeAndUsages c root = some (t, usages)) :
    root ∈ t.providers.map ProviderData.uuid := by
  unfold getProviderTreeAndUsages at h
  cases ht : c.getProviderTreeAndEnsureRoot root with
  | none => simp [ht] at h
  | some t₀ =>
    by_cases hm : root ∈ t₀.providers.map ProviderData.uuid
    · simp only [ht, ProviderTree.getProviderUuidsInTree, hm, if_true, Option.some.injEq,
        Prod.mk.injEq] at h
      exact h.1 ▸ hm
    · simp [ht, ProviderTree.getProviderUuidsInTree, hm] at h

/-- **Once the lookup and the fetch succeed**, the score is `weighGroups` on the snapshot. -/
theorem weighObject_eq {policy : Policy} {rcMatch : String → Bool} {c : PlacementClient}
    {h : HostState} {req : RequestSpec} {root : String} {t : ProviderTree} {usages : Usages}
    (hroot : lookupRootRpUuid c.getRpByName h = some root) (hne : root ≠ "")
    (hfetch : getProviderTreeAndUsages c root = some (t, usages)) :
    weighObject policy rcMatch c h req =
      if extractAccelGroups rcMatch req = [] then 0
      else weighGroups policy t root usages (extractAccelGroups rcMatch req) := by
  simp only [weighObject, hroot, hne, if_false, hfetch, List.isEmpty_iff]

theorem groupSlack_of_ne_nil {t : ProviderTree} {root : String} {res : Dict ℤ}
    {req : List String} {usages : Usages} (h : res ≠ []) :
    groupSlack t root res req usages = (((res.map (slack t root req usages)).sum : ℚ) : WithBot ℚ) := by
  simp [groupSlack, h]

theorem sum_filter_pos_coe (xs : List ℚ) :
    ((xs.map ((↑) : ℚ → WithBot ℚ)).filter (0 < ·)).sum = (((xs.map (max 0)).sum : ℚ) : WithBot ℚ) := by
  induction xs with
  | nil => simp
  | cons x xs ih =>
    by_cases hx : 0 < x
    · simp [List.filter_cons, hx, ih, max_eq_right hx.le]
    · simp [List.filter_cons, hx, ih, max_eq_left (not_lt.1 hx)]

section Groups

variable (t : ProviderTree) (root : String) (usages : Usages)

/-- The slacks of one group, as `totalFree` gives them. -/
theorem slack_eq (hroot : root ∈ t.providers.map ProviderData.uuid) (req : List String) :
    slack t root req usages = fun e => totalFree t root e.1 req usages - e.2 := by
  funext e
  rw [slack, sumFreeForRcWithTraits_eq_totalFree hroot]

theorem any_groupSlack_eq_unmet {groups : List AccelGroup} (hg : ∀ g ∈ groups, g.resources ≠ []) :
    (groups.map fun g => groupSlack t root g.resources g.requiredTraits usages).any
      (· = unmetFloor) = false := by
  simp only [List.any_eq_false, List.mem_map]
  rintro _ ⟨g, hmem, rfl⟩
  rw [groupSlack_of_ne_nil (hg g hmem)]
  simp [unmetFloor]

/-- **`sum-fit` on non-empty groups**: the sum over groups of the positive part of the group's
total slack. -/
theorem weighGroups_sumFit (hroot : root ∈ t.providers.map ProviderData.uuid)
    {groups : List AccelGroup} (hg : ∀ g ∈ groups, g.resources ≠ []) :
    weighGroups .sumFit t root usages groups =
      (((groups.map fun g => max 0 ((g.resources.map fun e =>
          totalFree t root e.1 g.requiredTraits usages - e.2).sum)).sum : ℚ) : WithBot ℚ) := by
  simp only [weighGroups, any_groupSlack_eq_unmet t root usages hg, Bool.false_eq_true, if_false]
  have hmap : (groups.map fun g => groupSlack t root g.resources g.requiredTraits usages) =
      (groups.map fun g => (g.resources.map fun e =>
        totalFree t root e.1 g.requiredTraits usages - e.2).sum).map ((↑) : ℚ → WithBot ℚ) := by
    rw [List.map_map]
    exact List.map_congr_left fun g hmem => by
      rw [groupSlack_of_ne_nil (hg g hmem)]
      simp only [Function.comp, slack_eq t root usages hroot]
  rw [hmap, sum_filter_pos_coe, List.map_map]
  rfl

/-- **`product-fit` on non-empty groups**: the sum over groups of `productOf` of the group's
slacks; a group with a negative slack adds `0`. -/
theorem weighGroups_productFit (hroot : root ∈ t.providers.map ProviderData.uuid)
    {groups : List AccelGroup} (hg : ∀ g ∈ groups, g.resources ≠ []) :
    weighGroups .productFit t root usages groups =
      (((groups.map fun g => productOf (g.resources.map fun e =>
          totalFree t root e.1 g.requiredTraits usages - e.2)).sum : ℚ) : WithBot ℚ) := by
  simp only [weighGroups, any_groupSlack_eq_unmet t root usages hg, Bool.false_eq_true, if_false,
    groupProduct_eq, slack_eq t root usages hroot]

end Groups

theorem productOf_map {α : Type} (l : List α) (f : α → ℚ) :
    productOf (l.map f) = if ∃ e ∈ l, f e < 0 then 0 else (l.map fun e => f e + eps).prod := by
  simp [productOf, List.map_map, Function.comp_def]

/-! ## 4. The scenario host, evaluated -/

theorem lookupRootRpUuid_scenario :
    lookupRootRpUuid scenarioClient.getRpByName scenarioHost = some "cn1" := by
  decide

theorem getProviderTreeAndUsages_scenario :
    getProviderTreeAndUsages scenarioClient "cn1" = some (scenarioTree, scenarioUsages) :=
  rfl

theorem extractAccelGroups_scenario : extractAccelGroups rcPatternDefault scenarioRequest =
    [⟨[("AICHIP", 2)], ["CUSTOM_FURIOSA_0000"]⟩, ⟨[("FPGA", 4)], []⟩] := by
  decide

theorem totalFree_scenario_aichip :
    totalFree scenarioTree "cn1" "AICHIP" ["CUSTOM_FURIOSA_0000"] scenarioUsages = 3 := by
  simp [totalFree, Qualifies, freeUnits, scenarioTree, scenarioUsages, Dict.getD, Dict.get?_cons,
    Dict.keys]
  norm_num

theorem totalFree_scenario_fpga : totalFree scenarioTree "cn1" "FPGA" [] scenarioUsages = 1 := by
  simp [totalFree, Qualifies, freeUnits, scenarioTree, scenarioUsages, Dict.getD, Dict.get?_cons,
    Dict.keys]

/-- The scenario request, on any client that finds `cn1` and fetches the scenario tree. -/
theorem weighObject_scenario {policy : Policy} {c : PlacementClient} {usages : Usages}
    (hl : lookupRootRpUuid c.getRpByName scenarioHost = some "cn1")
    (hf : getProviderTreeAndUsages c "cn1" = some (scenarioTree, usages)) :
    weighObject policy rcPatternDefault c scenarioHost scenarioRequest =
      weighGroups policy scenarioTree "cn1" usages
        [⟨[("AICHIP", 2)], ["CUSTOM_FURIOSA_0000"]⟩, ⟨[("FPGA", 4)], []⟩] := by
  rw [weighObject_eq hl (by decide) hf, if_neg (by decide), extractAccelGroups_scenario]

/-! ## 5. The two policies -/

section Score

variable {rcMatch : String → Bool} {c : PlacementClient} {h : HostState} {req : RequestSpec}
  {root : String} {t : ProviderTree} {usages : Usages}

/-- **The `sum-fit` score.**  Once the root lookup and the tree fetch succeed, the score is the
sum over the extracted groups of the positive part of the group's total slack, each class's
free capacity being the spec's `total_free`.  So it is non-negative, never `UNMET_FLOOR`, and
the order of the request's groups does not matter. -/
theorem weighObject_sumFit_score (hroot : lookupRootRpUuid c.getRpByName h = some root)
    (hne : root ≠ "") (hfetch : getProviderTreeAndUsages c root = some (t, usages)) :
    weighObject .sumFit rcMatch c h req =
        (((extractAccelGroups rcMatch req).map fun g => max 0 ((g.resources.map fun e =>
          totalFree t root e.1 g.requiredTraits usages - e.2).sum)).sum : ℚ) ∧
      0 ≤ weighObject .sumFit rcMatch c h req ∧
      weighObject .sumFit rcMatch c h req ≠ unmetFloor ∧
      ∀ req' : RequestSpec, req'.requestedResources.Perm req.requestedResources →
        weighObject .sumFit rcMatch c h req' = weighObject .sumFit rcMatch c h req := by
  have hscore : ∀ r : RequestSpec, weighObject .sumFit rcMatch c h r =
      (((extractAccelGroups rcMatch r).map fun g => max 0 ((g.resources.map fun e =>
        totalFree t root e.1 g.requiredTraits usages - e.2).sum)).sum : ℚ) := fun r => by
    rw [weighObject_eq hroot hne hfetch]
    split_ifs with he
    · simp [he]
    · exact weighGroups_sumFit t root usages (root_mem_of_fetch hfetch)
        fun g hg => resources_ne_nil_of_mem_extractAccelGroups rcMatch hg
  refine ⟨hscore req, ?_, ?_, fun req' hp => ?_⟩
  · rw [hscore req, WithBot.coe_nonneg]
    exact List.sum_nonneg fun x hx => by
      obtain ⟨g, -, rfl⟩ := List.mem_map.1 hx
      exact le_max_left _ _
  · rw [hscore req]; exact WithBot.coe_ne_bot
  · rw [hscore req', hscore req, ((extractAccelGroups_perm rcMatch hp).map _).sum_eq]

theorem weighObject_sumFit_score_scenario :
    lookupRootRpUuid scenarioClient.getRpByName scenarioHost = some "cn1" ∧ "cn1" ≠ "" ∧
      getProviderTreeAndUsages scenarioClient "cn1" = some (scenarioTree, scenarioUsages) ∧
      (weighObject .sumFit rcPatternDefault scenarioClient scenarioHost scenarioRequest =
          (((extractAccelGroups rcPatternDefault scenarioRequest).map fun g =>
            max 0 ((g.resources.map fun e =>
              totalFree scenarioTree "cn1" e.1 g.requiredTraits scenarioUsages - e.2).sum)).sum : ℚ) ∧
        0 ≤ weighObject .sumFit rcPatternDefault scenarioClient scenarioHost scenarioRequest ∧
        weighObject .sumFit rcPatternDefault scenarioClient scenarioHost scenarioRequest ≠ unmetFloor ∧
        ∀ req' : RequestSpec, req'.requestedResources.Perm scenarioRequest.requestedResources →
          weighObject .sumFit rcPatternDefault scenarioClient scenarioHost req' =
            weighObject .sumFit rcPatternDefault scenarioClient scenarioHost scenarioRequest) :=
  ⟨by decide, by decide, rfl, weighObject_sumFit_score (by decide) (by decide) rfl⟩

/-- **The `product-fit` score.**  Once the root lookup and the tree fetch succeed, the score is
the sum over the extracted groups of `0` when some class of the group has a negative slack and
of the product of `slack + EPS` otherwise.  It is never `UNMET_FLOOR`: a group that cannot be
met adds nothing, and the host is scored on its other groups. -/
theorem weighObject_productFit_score (hroot : lookupRootRpUuid c.getRpByName h = some root)
    (hne : root ≠ "") (hfetch : getProviderTreeAndUsages c root = some (t, usages)) :
    weighObject .productFit rcMatch c h req =
        (((extractAccelGroups rcMatch req).map fun g =>
          if ∃ e ∈ g.resources, totalFree t root e.1 g.requiredTraits usages - e.2 < 0 then 0
          else (g.resources.map fun e =>
            totalFree t root e.1 g.requiredTraits usages - e.2 + eps).prod).sum : ℚ) ∧
      weighObject .productFit rcMatch c h req ≠ unmetFloor := by
  have hscore : weighObject .productFit rcMatch c h req =
      (((extractAccelGroups rcMatch req).map fun g =>
        if ∃ e ∈ g.resources, totalFree t root e.1 g.requiredTraits usages - e.2 < 0 then 0
        else (g.resources.map fun e =>
          totalFree t root e.1 g.requiredTraits usages - e.2 + eps).prod).sum : ℚ) := by
    rw [weighObject_eq hroot hne hfetch]
    split_ifs with he
    · simp [he]
    · rw [weighGroups_productFit t root usages (root_mem_of_fetch hfetch)
        fun g hg => resources_ne_nil_of_mem_extractAccelGroups rcMatch hg]
      simp only [productOf_map]
  exact ⟨hscore, by rw [hscore]; exact WithBot.coe_ne_bot⟩

theorem weighObject_productFit_score_scenario :
    lookupRootRpUuid scenarioClient.getRpByName scenarioHost = some "cn1" ∧ "cn1" ≠ "" ∧
      getProviderTreeAndUsages scenarioClient "cn1" = some (scenarioTree, scenarioUsages) ∧
      (weighObject .productFit rcPatternDefault scenarioClient scenarioHost scenarioRequest =
          (((extractAccelGroups rcPatternDefault scenarioRequest).map fun g =>
            if ∃ e ∈ g.resources,
                totalFree scenarioTree "cn1" e.1 g.requiredTraits scenarioUsages - e.2 < 0 then 0
            else (g.resources.map fun e =>
              totalFree scenarioTree "cn1" e.1 g.requiredTraits scenarioUsages - e.2 + eps).prod).sum
            : ℚ) ∧
        weighObject .productFit rcPatternDefault scenarioClient scenarioHost scenarioRequest ≠
          unmetFloor) :=
  ⟨by decide, by decide, rfl, weighObject_productFit_score (by decide) (by decide) rfl⟩

/-- Scenario 4 of the spec: one group is met (slack `1`), one is not (slack `-3`).  The
`product-fit` score is the met group's product, not `UNMET_FLOOR`. -/
theorem weighObject_productFit_scores_unmet_group_as_absent :
    weighObject .productFit rcPatternDefault scenarioClient scenarioHost scenarioRequest =
      ((1 + eps : ℚ) : WithBot ℚ) := by
  rw [weighObject_scenario lookupRootRpUuid_scenario getProviderTreeAndUsages_scenario,
    weighGroups_productFit _ _ _ (by decide) (by decide)]
  simp [totalFree_scenario_aichip, totalFree_scenario_fpga, productOf]
  norm_num

end Score

end OpenKCloud.Weigher
