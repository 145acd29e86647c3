import OpenKCloud.Weigher.Weigh
/-
# How the host score moves with capacity and with demand

Once the root lookup and the tree fetch succeed, `_weigh_object` depends on the snapshot
only through the list of every extracted group's slacks (`weighObject_eq_hostScore`), and
both policies are monotone in that list (`hostScore_mono`), also when the classes of a
group are reordered.  Three comparisons between two runs follow.

* `weighObject_mono_capacity`: more capacity (`Dominates`) never lowers the score;
* `weighObject_antitone_demand`: asking more (`AsksAtLeast`) never raises it;
* `weighObject_le_failUsages`: a failed usage fetch never LOWERS it.  The failed provider is
  left out of `usages_dict`, its usage is read as `0`, and its free units can only grow
  (`weighObject_failed_usage_raises_score` is a host where the score strictly grows).
-/

namespace OpenKCloud.Weigher

/-! ## 1. The score as a function of the group slacks -/

/-- The slacks of one group's classes, in the group's order. -/
def groupSlacks (t : ProviderTree) (root : String) (usages : Usages) (g : AccelGroup) : List ℚ :=
  g.resources.map fun e => totalFree t root e.1 g.requiredTraits usages - e.2

/-- The score of each policy, given every group's slacks. -/
def hostScore : Policy → List (List ℚ) → ℚ
  | .sumFit, ss => (ss.map fun s => max 0 s.sum).sum
  | .productFit, ss => (ss.map productOf).sum

theorem weighGroups_eq_hostScore (policy : Policy) {t : ProviderTree} {root : String}
    {usages : Usages} (hroot : root ∈ t.providers.map ProviderData.uuid) {groups : List AccelGroup}
    (hg : ∀ g ∈ groups, g.resources ≠ []) :
    weighGroups policy t root usages groups =
      ((hostScore policy (groups.map (groupSlacks t root usages)) : ℚ) : WithBot ℚ) := by
  cases policy
  · rw [weighGroups_sumFit t root usages hroot hg]; simp only [hostScore, List.map_map]; rfl
  · rw [weighGroups_productFit t root usages hroot hg]; simp only [hostScore, List.map_map]; rfl

/-- **`_weigh_object` through `hostScore`**, on every path of the code. -/
theorem weighObject_eq_hostScore (policy : Policy) (rcMatch : String → Bool) (c : PlacementClient)
    (h : HostState) (req : RequestSpec) :
    weighObject policy rcMatch c h req =
      match lookupRootRpUuid c.getRpByName h with
      | none => 0
      | some root =>
        if root = "" then 0
        else
          match getProviderTreeAndUsages c root with
          | none => 0
          | some (t, usages) => ((hostScore policy
              ((extractAccelGroups rcMatch req).map (groupSlacks t root usages)) : ℚ) : WithBot ℚ) := by
  unfold weighObject
  cases lookupRootRpUuid c.getRpByName h with
  | none => rfl
  | some root =>
    dsimp only
    split_ifs with hr he
    · rfl
    · rw [List.isEmpty_iff] at he
      cases getProviderTreeAndUsages c root with
      | none => rfl
      | some snap => cases policy <;> simp [he, hostScore]
    · cases hf : getProviderTreeAndUsages c root with
      | none => rfl
      | some snap =>
        obtain ⟨t, usages⟩ := snap
        exact weighGroups_eq_hostScore policy (root_mem_of_fetch hf)
          fun g hg => resources_ne_nil_of_mem_extractAccelGroups rcMatch hg

/-! ## 2. Monotonicity in the slacks -/

/-- `s`, reordered, lies pointwise below `s'`. -/
def SlackLe (s s' : List ℚ) : Prop := ∃ m, m.Perm s ∧ List.Forall₂ (· ≤ ·) m s'

theorem slackLe_of_forall₂ {s s' : List ℚ} (h : List.Forall₂ (· ≤ ·) s s') : SlackLe s s' :=
  ⟨s, List.Perm.refl s, h⟩

/-- **Both policies are monotone in every group's slacks.** -/
theorem hostScore_mono (policy : Policy) {ss ss' : List (List ℚ)} (h : List.Forall₂ SlackLe ss ss') :
    hostScore policy ss ≤ hostScore policy ss' := by
  cases policy
  · refine List.Forall₂.sum_le_sum (List.forall₂_map_left_iff.2 (List.forall₂_map_right_iff.2
      (h.imp ?_)))
    rintro s s' ⟨m, hm, hle⟩
    rw [← hm.sum_eq]
    exact max_le_max le_rfl hle.sum_le_sum
  · refine List.Forall₂.sum_le_sum (List.forall₂_map_left_iff.2 (List.forall₂_map_right_iff.2
      (h.imp ?_)))
    rintro s s' ⟨m, hm, hle⟩
    rw [← productOf_perm hm]
    exact productOf_mono hle

/-! ## 3. Capacity -/

section Capacity

variable {root : String} {t t' : ProviderTree} {usages usages' : Usages}

theorem totalFree_le_of_dominates (hroot : root ∈ t.providers.map ProviderData.uuid)
    (hroot' : root ∈ t'.providers.map ProviderData.uuid) (hdom : Dominates root t usages t' usages')
    (rc : String) (req : List String) :
    totalFree t root rc req usages ≤ totalFree t' root rc req usages' := by
  rw [← sumFreeForRcWithTraits_eq_totalFree hroot, ← sumFreeForRcWithTraits_eq_totalFree hroot']
  exact sumFreeForRcWithTraits_mono hroot hroot' hdom

theorem hostScore_le_of_dominates (policy : Policy) (hroot : root ∈ t.providers.map ProviderData.uuid)
    (hroot' : root ∈ t'.providers.map ProviderData.uuid) (hdom : Dominates root t usages t' usages')
    (groups : List AccelGroup) :
    hostScore policy (groups.map (groupSlacks t root usages)) ≤
      hostScore policy (groups.map (groupSlacks t' root usages')) := by
  refine hostScore_mono policy (List.forall₂_map_left_iff.2 (List.forall₂_map_right_iff.2
    (List.forall₂_same.2 fun g _ => slackLe_of_forall₂ ?_)))
  refine List.forall₂_map_left_iff.2 (List.forall₂_map_right_iff.2 (List.forall₂_same.2 fun e _ => ?_))
  linarith [totalFree_le_of_dominates hroot hroot' hdom e.1 g.requiredTraits]

/-- **More capacity never lowers the score.**  Two runs find the same root; every non-root
provider of the first tree is in the second, with at least its traits and, for every class
it holds, an inventory entry with at least its free units. -/
theorem weighObject_mono_capacity {policy : Policy} {rcMatch : String → Bool}
    {c c' : PlacementClient} {h h' : HostState} {req : RequestSpec}
    (hl : lookupRootRpUuid c.getRpByName h = some root)
    (hl' : lookupRootRpUuid c'.getRpByName h' = some root)
    (hfetch : getProviderTreeAndUsages c root = some (t, usages))
    (hfetch' : getProviderTreeAndUsages c' root = some (t', usages'))
    (hdom : Dominates root t usages t' usages') :
    weighObject policy rcMatch c h req ≤ weighObject policy rcMatch c' h' req := by
  rw [weighObject_eq_hostScore, weighObject_eq_hostScore, hl, hl']
  dsimp only
  split_ifs
  · exact le_rfl
  rw [hfetch, hfetch', WithBot.coe_le_coe]
  exact hostScore_le_of_dominates policy (root_mem_of_fetch hfetch) (root_mem_of_fetch hfetch') hdom _

end Capacity

/-- Every snapshot dominates itself. -/
theorem Dominates.refl (root : String) (t : ProviderTree) (usages : Usages) :
    Dominates root t usages t usages :=
  fun p hp _ => ⟨p, hp, rfl, fun _ hx => hx, fun _ hrc => ⟨hrc, le_rfl⟩⟩

/-- The scenario's tree with `rp2` holding 5 `FPGA` instead of 1. -/
def scenarioTreeFpga5 : ProviderTree :=
  ⟨[⟨"cn1", [], []⟩,
    ⟨"rp1", [("AICHIP", [("total", 4), ("reserved", 0)])], ["CUSTOM_FURIOSA_0000"]⟩,
    ⟨"rp2", [("FPGA", [("total", 5), ("reserved", 0)])], []⟩], by decide⟩

/-- Placement answering with that tree. -/
def scenarioClientFpga5 : PlacementClient :=
  { scenarioClient with getProviderTreeAndEnsureRoot := fun _ => some scenarioTreeFpga5 }

theorem scenarioTree_dominates :
    Dominates "cn1" scenarioTree scenarioUsages scenarioTreeFpga5 scenarioUsages := by
  intro p hp hroot
  simp only [scenarioTree, List.mem_cons, List.mem_singleton, List.not_mem_nil, or_false] at hp
  rcases hp with rfl | rfl | rfl
  · exact absurd rfl hroot
  · exact ⟨_, by simp [scenarioTreeFpga5], rfl, fun _ h => h, by simp [Dict.keys]⟩
  · refine ⟨⟨"rp2", [("FPGA", [("total", 5), ("reserved", 0)])], []⟩, by simp [scenarioTreeFpga5],
      rfl, fun _ h => h, ?_⟩
    simp [Dict.keys, freeUnits, Dict.getD, Dict.get?_cons, scenarioUsages]

theorem weighObject_mono_capacity_scenario :
    lookupRootRpUuid scenarioClient.getRpByName scenarioHost = some "cn1" ∧
      lookupRootRpUuid scenarioClientFpga5.getRpByName scenarioHost = some "cn1" ∧
      getProviderTreeAndUsages scenarioClient "cn1" = some (scenarioTree, scenarioUsages) ∧
      getProviderTreeAndUsages scenarioClientFpga5 "cn1" = some (scenarioTreeFpga5, scenarioUsages) ∧
      Dominates "cn1" scenarioTree scenarioUsages scenarioTreeFpga5 scenarioUsages ∧
      weighObject .productFit rcPatternDefault scenarioClient scenarioHost scenarioRequest ≤
        weighObject .productFit rcPatternDefault scenarioClientFpga5 scenarioHost scenarioRequest :=
  ⟨lookupRootRpUuid_scenario, lookupRootRpUuid_scenario, getProviderTreeAndUsages_scenario,
    rfl, scenarioTree_dominates,
    weighObject_mono_capacity lookupRootRpUuid_scenario lookupRootRpUuid_scenario
      getProviderTreeAndUsages_scenario rfl scenarioTree_dominates⟩

/-! ## 4. Demand -/

/-- `g'` asks at least what `g` asks: at least its traits, and its classes, reordered, are
`g`'s classes with amounts no smaller. -/
def AsksAtLeast (g g' : AccelGroup) : Prop :=
  (∀ x ∈ g.requiredTraits, x ∈ g'.requiredTraits) ∧
    ∃ l, l.Perm g'.resources ∧ List.Forall₂ (fun e e' => e.1 = e'.1 ∧ e.2 ≤ e'.2) g.resources l

theorem AsksAtLeast.refl (g : AccelGroup) : AsksAtLeast g g :=
  ⟨fun _ hx => hx, g.resources, List.Perm.refl _, List.forall₂_same.2 fun _ _ => ⟨rfl, le_rfl⟩⟩

theorem totalFree_antitone_req (t : ProviderTree) (root rc : String) {req req' : List String}
    (usages : Usages) (hreq : ∀ x ∈ req, x ∈ req') :
    totalFree t root rc req' usages ≤ totalFree t root rc req usages := by
  rw [totalFree_eq_sum_contribution, totalFree_eq_sum_contribution]
  exact sum_contribution_le_of_subset_req hreq t.providers

theorem slackLe_of_asksAtLeast (t : ProviderTree) (root : String) (usages : Usages)
    {g g' : AccelGroup} (h : AsksAtLeast g g') :
    SlackLe (groupSlacks t root usages g') (groupSlacks t root usages g) := by
  obtain ⟨htr, l, hl, hle⟩ := h
  refine ⟨l.map fun e => totalFree t root e.1 g'.requiredTraits usages - e.2, ?_, ?_⟩
  · exact hl.map _
  rw [groupSlacks, List.forall₂_map_left_iff, List.forall₂_map_right_iff]
  refine (@List.Forall₂.flip _ _ (fun e' e => e.1 = e'.1 ∧ e.2 ≤ e'.2) _ _ hle).imp ?_
  rintro e' e ⟨hrc, ha⟩
  have hF := totalFree_antitone_req t root e'.1 usages htr
  have hA : (e.2 : ℚ) ≤ e'.2 := by exact_mod_cast ha
  rw [hrc]
  linarith

/-- **Asking more never raises the score.**  Two requests whose extracted groups pair up, the
second's group asking at least what the first's asks, score the second no higher. -/
theorem weighObject_antitone_demand {policy : Policy} {rcMatch : String → Bool}
    {c : PlacementClient} {h : HostState} {req req' : RequestSpec}
    (hdem : List.Forall₂ AsksAtLeast (extractAccelGroups rcMatch req)
      (extractAccelGroups rcMatch req')) :
    weighObject policy rcMatch c h req' ≤ weighObject policy rcMatch c h req := by
  rw [weighObject_eq_hostScore, weighObject_eq_hostScore]
  cases lookupRootRpUuid c.getRpByName h with
  | none => exact le_rfl
  | some root =>
    dsimp only
    split_ifs
    · exact le_rfl
    cases getProviderTreeAndUsages c root with
    | none => exact le_rfl
    | some snap =>
      obtain ⟨t, usages⟩ := snap
      rw [WithBot.coe_le_coe]
      exact hostScore_mono policy (List.forall₂_map_left_iff.2 (List.forall₂_map_right_iff.2
        ((@List.Forall₂.flip _ _ (fun g' g => AsksAtLeast g g') _ _ hdem).imp
          fun _ _ hg => slackLe_of_asksAtLeast t root usages hg)))

/-- The scenario's request asking 3 `AICHIP` instead of 2. -/
def scenarioRequestMore : RequestSpec :=
  ⟨[⟨[("AICHIP", .int 3)], ["CUSTOM_FURIOSA_0000"], by decide⟩, ⟨[("FPGA", .int 4)], [], by decide⟩]⟩

theorem scenarioRequestMore_asksMore :
    List.Forall₂ AsksAtLeast (extractAccelGroups rcPatternDefault scenarioRequest)
      (extractAccelGroups rcPatternDefault scenarioRequestMore) := by
  rw [extractAccelGroups_scenario, show extractAccelGroups rcPatternDefault scenarioRequestMore =
    [⟨[("AICHIP", 3)], ["CUSTOM_FURIOSA_0000"]⟩, ⟨[("FPGA", 4)], []⟩] by decide]
  refine .cons ⟨fun _ h => h, _, List.Perm.refl _, ?_⟩ (.cons (AsksAtLeast.refl _) .nil)
  exact .cons ⟨rfl, by decide⟩ .nil

theorem weighObject_antitone_demand_scenario :
    List.Forall₂ AsksAtLeast (extractAccelGroups rcPatternDefault scenarioRequest)
        (extractAccelGroups rcPatternDefault scenarioRequestMore) ∧
      weighObject .sumFit rcPatternDefault scenarioClient scenarioHost scenarioRequestMore ≤
        weighObject .sumFit rcPatternDefault scenarioClient scenarioHost scenarioRequest :=
  ⟨scenarioRequestMore_asksMore, weighObject_antitone_demand scenarioRequestMore_asksMore⟩

/-! ## 5. Failed usage fetches -/

/-- Placement as `c`, except that the usage fetch of every provider in `S` answers `fail u`. -/
def failUsages (c : PlacementClient) (S : String → Bool) (fail : String → UsageResponse) :
    PlacementClient :=
  { c with getUsages := fun u => if S u then fail u else c.getUsages u }

theorem get?_foldl_usagesStep (g : String → UsageResponse) (root : String) (uuids : List String)
    (d : Usages) (u : String) :
    (uuids.foldl (usagesStep g root) d).get? u =
      if u ∈ uuids ∧ u ≠ root ∧ (g u).statusCode = 200 then some (g u).usages else d.get? u := by
  induction uuids generalizing d with
  | nil => simp
  | cons v vs ih =>
    rw [List.foldl_cons, ih]
    by_cases hv : v = root
    · subst hv
      by_cases hu : u = v <;> simp [usagesStep, hu]
    · by_cases hs : (g v).statusCode = 200 <;> by_cases hu : u = v <;>
        simp_all [usagesStep]

/-- A failed fetch drops the provider from `usages_dict`; nothing else changes. -/
theorem fetch_failUsages {c : PlacementClient} {root : String} {t : ProviderTree} {usages : Usages}
    (S : String → Bool) {fail : String → UsageResponse} (hfail : ∀ u, (fail u).statusCode ≠ 200)
    (hfetch : getProviderTreeAndUsages c root = some (t, usages)) :
    ∃ usages', getProviderTreeAndUsages (failUsages c S fail) root = some (t, usages') ∧
      ∀ u rc, (usages'.getD u []).getD rc 0 ≤ (usages.getD u []).getD rc 0 := by
  unfold getProviderTreeAndUsages at hfetch ⊢
  simp only [failUsages]
  cases ht : c.getProviderTreeAndEnsureRoot root with
  | none => simp [ht] at hfetch
  | some t₀ =>
    simp only [ht] at hfetch ⊢
    cases hu : t₀.getProviderUuidsInTree root with
    | none => simp [hu] at hfetch
    | some uuids =>
      simp only [hu, Option.some.injEq, Prod.mk.injEq] at hfetch ⊢
      obtain ⟨rfl, rfl⟩ := hfetch
      refine ⟨_, ⟨rfl, rfl⟩, fun u rc => ?_⟩
      simp only [Dict.getD, get?_foldl_usagesStep]
      by_cases hS : S u
      · simp [hS, hfail u]
      · simp [hS]

theorem fetch_failUsages_none {c : PlacementClient} {root : String} (S : String → Bool)
    {fail : String → UsageResponse} (hfetch : getProviderTreeAndUsages c root = none) :
    getProviderTreeAndUsages (failUsages c S fail) root = none := by
  unfold getProviderTreeAndUsages at hfetch ⊢
  simp only [failUsages]
  cases ht : c.getProviderTreeAndEnsureRoot root with
  | none => rfl
  | some t₀ => cases hu : t₀.getProviderUuidsInTree root <;> simp_all

theorem Dominates.of_usages_le (root : String) (t : ProviderTree) {usages usages' : Usages}
    (h : ∀ u rc, (usages'.getD u []).getD rc 0 ≤ (usages.getD u []).getD rc 0) :
    Dominates root t usages t usages' := by
  refine fun p hp _ => ⟨p, hp, rfl, fun _ hx => hx, fun rc hrc => ⟨hrc, ?_⟩⟩
  have : ((usages'.getD p.uuid []).getD rc 0 : ℚ) ≤ (usages.getD p.uuid []).getD rc 0 := by
    exact_mod_cast h p.uuid rc
  exact max_le_max le_rfl (by linarith)

/-- **A failed usage fetch never lowers the score.**  For every set `S` of providers whose
`GET /resource_providers/{uuid}/usages` answers a status other than `200`, the score is at
least the score with those fetches answered. -/
theorem weighObject_le_failUsages {policy : Policy} {rcMatch : String → Bool} {c : PlacementClient}
    {h : HostState} {req : RequestSpec} (S : String → Bool) {fail : String → UsageResponse}
    (hfail : ∀ u, (fail u).statusCode ≠ 200) :
    weighObject policy rcMatch c h req ≤ weighObject policy rcMatch (failUsages c S fail) h req := by
  rw [weighObject_eq_hostScore, weighObject_eq_hostScore]
  change _ ≤ match lookupRootRpUuid c.getRpByName h with | none => _ | some root => _
  cases lookupRootRpUuid c.getRpByName h with
  | none => exact le_rfl
  | some root =>
    dsimp only
    split_ifs
    · exact le_rfl
    cases hf : getProviderTreeAndUsages c root with
    | none => rw [fetch_failUsages_none S hf]
    | some snap =>
      obtain ⟨t, usages⟩ := snap
      obtain ⟨usages', hf', hle⟩ := fetch_failUsages S hfail hf
      rw [hf', WithBot.coe_le_coe]
      exact hostScore_le_of_dominates policy (root_mem_of_fetch hf) (root_mem_of_fetch hf)
        (Dominates.of_usages_le root t hle) _

theorem weighObject_le_failUsages_scenario :
    (∀ u : String, ((fun _ => (⟨503, []⟩ : UsageResponse)) u).statusCode ≠ 200) ∧
      weighObject .sumFit rcPatternDefault scenarioClient scenarioHost scenarioRequest ≤
        weighObject .sumFit rcPatternDefault
          (failUsages scenarioClient (· = "rp1") fun _ => ⟨503, []⟩) scenarioHost scenarioRequest :=
  ⟨fun _ => (by decide : (503 : ℕ) ≠ 200),
    weighObject_le_failUsages _ fun _ => (by decide : (503 : ℕ) ≠ 200)⟩

theorem totalFree_failed_aichip :
    totalFree scenarioTree "cn1" "AICHIP" ["CUSTOM_FURIOSA_0000"] [("rp2", [])] = 4 := by
  simp [totalFree, Qualifies, freeUnits, scenarioTree, Dict.getD, Dict.get?_cons, Dict.keys]

theorem totalFree_failed_fpga : totalFree scenarioTree "cn1" "FPGA" [] [("rp2", [])] = 1 := by
  simp [totalFree, Qualifies, freeUnits, scenarioTree, Dict.getD, Dict.get?_cons, Dict.keys]

/-- The scenario host scores `1` under `sum-fit`; with the usage fetch of `rp1` failing, its
one `AICHIP` in use is forgotten and the host scores `2`. -/
theorem weighObject_failed_usage_raises_score :
    weighObject .sumFit rcPatternDefault scenarioClient scenarioHost scenarioRequest =
        ((1 : ℚ) : WithBot ℚ) ∧
      weighObject .sumFit rcPatternDefault
        (failUsages scenarioClient (· = "rp1") fun _ => ⟨503, []⟩) scenarioHost scenarioRequest =
        ((2 : ℚ) : WithBot ℚ) := by
  have hfail : getProviderTreeAndUsages (failUsages scenarioClient (· = "rp1") fun _ => ⟨503, []⟩)
      "cn1" = some (scenarioTree, [("rp2", [])]) := rfl
  have hlookup : lookupRootRpUuid (failUsages scenarioClient (· = "rp1") fun _ => ⟨503, []⟩).getRpByName
      scenarioHost = some "cn1" := lookupRootRpUuid_scenario
  constructor
  · rw [weighObject_scenario lookupRootRpUuid_scenario getProviderTreeAndUsages_scenario,
      weighGroups_sumFit _ _ _ (by decide) (by decide)]
    simp only [List.map_cons, List.map_nil, List.sum_cons, List.sum_nil,
      totalFree_scenario_aichip, totalFree_scenario_fpga]
    norm_num
  · rw [weighObject_scenario hlookup hfail, weighGroups_sumFit _ _ _ (by decide) (by decide)]
    simp only [List.map_cons, List.map_nil, List.sum_cons, List.sum_nil,
      totalFree_failed_aichip, totalFree_failed_fpga]
    norm_num

end OpenKCloud.Weigher
