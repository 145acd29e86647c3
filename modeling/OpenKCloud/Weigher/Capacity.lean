import OpenKCloud.Weigher.Basic
/-
# The capacity resolver: `_sum_free_for_rc_with_traits`

For a resource class `rc` and a set of required traits `R`, the resolver walks every
provider of the host's tree and adds up the free units of those that hold `rc` and carry
every trait of `R`.  The loop skips the root, a provider without an `rc` inventory entry and
a provider missing a trait; it clamps each provider's free units at `0`.

Against it stands the spec's `total_free` (§4.3), written as a filtered sum
(`totalFree`, over `freeUnits`, the spec's `free_units` of §4.1).

* `getFreeForRcFromTree_eq`: on a provider of the tree that holds `rc`, the per-provider
  computation is `freeUnits`.  An inventory record that is present but EMPTY is a case of
  its own in the code (`if not inventory`); it agrees because a usage is never negative.
* `sumFreeStep_eq`: one turn of the loop adds the provider's `contribution`;
* `sumFreeForRcWithTraits_eq_totalFree`: the loop computes `totalFree`;
* `sumFreeForRcWithTraits_spec`: the loop's sum is non-negative, does not depend on the
  order of the providers, does not see a provider missing a required trait, and does not
  grow when more traits are required.
* `sumFreeForRcWithTraits_mono`: more capacity, in the sense of `Dominates`, never lowers it.
-/

namespace OpenKCloud.Weigher

/-! ## 1. The code -/

/-- `_get_free_for_rc_from_tree(ptree, rp_uuid, rc_name, usages_dict, stats)`. -/
def getFreeForRcFromTree (t : ProviderTree) (u rc : String) (usages : Usages) : ℚ :=
  match t.data u with
  | none => 0
  | some p =>
    match p.inventory.get? rc with
    | none => 0
    | some inv =>
      if inv.isEmpty then 0
      else
        let total := inv.getD "total" 0
        let reserved := inv.getD "reserved" 0
        let used : ℚ := (usages.getD u []).getD rc 0
        let free := total - reserved - used
        if free > 0 then free else 0

/-- One turn of the loop of `_sum_free_for_rc_with_traits` over `provider_uuids`. -/
def sumFreeStep (t : ProviderTree) (root rc : String) (req : List String) (usages : Usages)
    (acc : ℚ) (u : String) : ℚ :=
  if u = root then acc
  else
    match t.data u with
    | none => acc
    | some p =>
      if (p.inventory.get? rc).isNone then acc
      else if !req.isEmpty && !decide (∀ x ∈ req, x ∈ p.traits) then acc
      else
        let free := getFreeForRcFromTree t u rc usages
        if free > 0 then acc + free else acc

/-- `_sum_free_for_rc_with_traits(ptree, root_uuid, rc_name, required_traits, usages_dict,
stats)`. -/
def sumFreeForRcWithTraits (t : ProviderTree) (root rc : String) (req : List String)
    (usages : Usages) : ℚ :=
  match t.getProviderUuidsInTree root with
  | none => 0
  | some uuids => uuids.foldl (sumFreeStep t root rc req usages) 0

/-! ## 2. The spec's resolver -/

/-- The spec's `free_units(provider, rc)` (§4.1): `max(total - reserved - used, 0)`, a missing
field or usage read as `0`. -/
def freeUnits (p : ProviderData) (rc : String) (usages : Usages) : ℚ :=
  let inv := (p.inventory.get? rc).getD []
  max 0 (inv.getD "total" 0 - inv.getD "reserved" 0 - ((usages.getD p.uuid []).getD rc 0 : ℚ))

/-- A provider the resolver counts: not the root, holding `rc`, carrying every trait of `req`. -/
def Qualifies (root rc : String) (req : List String) (p : ProviderData) : Prop :=
  p.uuid ≠ root ∧ rc ∈ Dict.keys p.inventory ∧ ∀ x ∈ req, x ∈ p.traits

instance (root rc : String) (req : List String) : DecidablePred (Qualifies root rc req) :=
  fun _ => inferInstanceAs (Decidable (_ ∧ _ ∧ _))

/-- The spec's `total_free(tree, rc, required_traits)` (§4.3). -/
def totalFree (t : ProviderTree) (root rc : String) (req : List String) (usages : Usages) : ℚ :=
  ((t.providers.filter (Qualifies root rc req ·)).map (freeUnits · rc usages)).sum

/-- What one provider adds to `totalFree`. -/
def contribution (root rc : String) (req : List String) (usages : Usages) (p : ProviderData) : ℚ :=
  if Qualifies root rc req p then freeUnits p rc usages else 0

theorem freeUnits_nonneg (p : ProviderData) (rc : String) (usages : Usages) :
    0 ≤ freeUnits p rc usages :=
  le_max_left _ _

theorem contribution_nonneg (root rc : String) (req : List String) (usages : Usages)
    (p : ProviderData) : 0 ≤ contribution root rc req usages p := by
  unfold contribution; split
  · exact freeUnits_nonneg p rc usages
  · exact le_rfl

theorem totalFree_eq_sum_contribution (t : ProviderTree) (root rc : String) (req : List String)
    (usages : Usages) :
    totalFree t root rc req usages = (t.providers.map (contribution root rc req usages)).sum := by
  unfold totalFree contribution
  induction t.providers with
  | nil => rfl
  | cons p ps ih => by_cases h : Qualifies root rc req p <;> simp [List.filter_cons, h, ih]

/-! ## 3. The loop computes the spec -/

section Loop

variable {t : ProviderTree} {root rc : String} {req : List String} {usages : Usages}

theorem getFreeForRcFromTree_eq {p : ProviderData} (hp : p ∈ t.providers) :
    getFreeForRcFromTree t p.uuid rc usages = freeUnits p rc usages := by
  have hused : (0 : ℚ) ≤ ((usages.getD p.uuid []).getD rc 0 : ℚ≥0) := NNRat.cast_nonneg _
  simp only [getFreeForRcFromTree, ProviderTree.data_of_mem hp, freeUnits]
  cases hinv : p.inventory.get? rc with
  | none => simp
  | some inv =>
    by_cases he : inv.isEmpty
    · simp only [List.isEmpty_iff] at he
      subst he
      simp [hused]
    · dsimp only [Option.getD_some]
      rw [if_neg he]
      show (if _ > 0 then _ else 0) = max 0 _
      split_ifs with h
      · exact (max_eq_right h.le).symm
      · exact (max_eq_left (not_lt.1 h)).symm

/-- **One turn of the loop** adds the provider's contribution. -/
theorem sumFreeStep_eq {p : ProviderData} (hp : p ∈ t.providers) (acc : ℚ) :
    sumFreeStep t root rc req usages acc p.uuid = acc + contribution root rc req usages p := by
  have hfree : getFreeForRcFromTree t p.uuid rc usages = freeUnits p rc usages :=
    getFreeForRcFromTree_eq hp
  have hnn := freeUnits_nonneg p rc usages
  unfold sumFreeStep
  by_cases hq : Qualifies root rc req p
  · have ⟨hroot, hrc, htr⟩ := hq
    rw [contribution, if_pos hq, if_neg hroot, ProviderTree.data_of_mem hp]
    obtain ⟨inv, hinv⟩ := Option.isSome_iff_exists.1 (Dict.get?_isSome_iff.2 hrc)
    simp only [hinv, Option.isNone_some, decide_eq_true htr, Bool.not_true, Bool.and_false,
      Bool.false_eq_true, if_false, hfree]
    split_ifs with h
    · rfl
    · rw [le_antisymm (not_lt.1 h) hnn, add_zero]
  · rw [contribution, if_neg hq, add_zero]
    by_cases hroot : p.uuid = root
    · rw [if_pos hroot]
    rw [if_neg hroot, ProviderTree.data_of_mem hp]
    dsimp only
    cases hinv : p.inventory.get? rc with
    | none => rfl
    | some inv =>
      have htr : ¬ ∀ x ∈ req, x ∈ p.traits := fun htr =>
        hq ⟨hroot, Dict.get?_isSome_iff.1 (by simp [hinv]), htr⟩
      have hne : req ≠ [] := fun h => htr (by simp [h])
      simp [htr, hne]

theorem foldl_add_eq_sum (c : ProviderData → ℚ) (l : List ProviderData) (a : ℚ) :
    l.foldl (fun acc p => acc + c p) a = a + (l.map c).sum := by
  induction l generalizing a with
  | nil => simp
  | cons p l ih => simp [ih, add_assoc]

/-- **The loop computes the spec's `total_free`.** -/
theorem sumFreeForRcWithTraits_eq_totalFree (hroot : root ∈ t.providers.map ProviderData.uuid) :
    sumFreeForRcWithTraits t root rc req usages = totalFree t root rc req usages := by
  simp only [sumFreeForRcWithTraits, ProviderTree.getProviderUuidsInTree, hroot, if_true,
    List.foldl_map, totalFree_eq_sum_contribution]
  rw [List.foldl_ext _ (fun acc p => acc + contribution root rc req usages p) 0
    (fun acc p hp => sumFreeStep_eq hp acc), foldl_add_eq_sum, zero_add]

/-! ## 4. What follows from the closed form -/

theorem sum_contribution_le_of_subset_req {req' : List String} (hreq : ∀ x ∈ req, x ∈ req')
    (l : List ProviderData) :
    (l.map (contribution root rc req' usages)).sum ≤ (l.map (contribution root rc req usages)).sum := by
  refine List.sum_le_sum fun p _ => ?_
  unfold contribution
  by_cases h' : Qualifies root rc req' p
  · rw [if_pos h', if_pos ⟨h'.1, h'.2.1, fun x hx => h'.2.2 x (hreq x hx)⟩]
  · rw [if_neg h']; exact contribution_nonneg root rc req usages p

theorem mem_uuids_of_perm {t' : ProviderTree} {l : List ProviderData} (h : t'.providers.Perm l)
    (hroot : root ∈ l.map ProviderData.uuid) : root ∈ t'.providers.map ProviderData.uuid :=
  (h.map _).mem_iff.2 hroot

/-- **The resolver, as the spec states it.**  The loop computes `totalFree`; its value is
non-negative; reordering the providers does not change it; a provider missing one required
trait adds nothing; and requiring more traits never raises it. -/
theorem sumFreeForRcWithTraits_spec (t : ProviderTree) (root rc : String) (req : List String)
    (usages : Usages) (hroot : root ∈ t.providers.map ProviderData.uuid) :
    sumFreeForRcWithTraits t root rc req usages = totalFree t root rc req usages ∧
      0 ≤ sumFreeForRcWithTraits t root rc req usages ∧
      (∀ t' : ProviderTree, t'.providers.Perm t.providers →
        sumFreeForRcWithTraits t' root rc req usages = sumFreeForRcWithTraits t root rc req usages) ∧
      (∀ (t' : ProviderTree) (p : ProviderData), t'.providers.Perm (p :: t.providers) →
        (∃ x ∈ req, x ∉ p.traits) →
        sumFreeForRcWithTraits t' root rc req usages = sumFreeForRcWithTraits t root rc req usages) ∧
      (∀ req' : List String, (∀ x ∈ req, x ∈ req') →
        sumFreeForRcWithTraits t root rc req' usages ≤ sumFreeForRcWithTraits t root rc req usages) := by
  have hsum : ∀ t' : ProviderTree, root ∈ t'.providers.map ProviderData.uuid → ∀ req' : List String,
      sumFreeForRcWithTraits t' root rc req' usages =
        (t'.providers.map (contribution root rc req' usages)).sum := fun t' h req' => by
    rw [sumFreeForRcWithTraits_eq_totalFree h, totalFree_eq_sum_contribution]
  refine ⟨sumFreeForRcWithTraits_eq_totalFree hroot, ?_, fun t' h => ?_, fun t' p h hp => ?_,
    fun req' hreq => ?_⟩
  · rw [hsum t hroot]
    exact List.sum_nonneg fun x hx => by
      obtain ⟨p, -, rfl⟩ := List.mem_map.1 hx
      exact contribution_nonneg root rc req usages p
  · rw [hsum t hroot, hsum t' (mem_uuids_of_perm h hroot)]
    exact (h.map _).sum_eq
  · have h0 : contribution root rc req usages p = 0 := by
      obtain ⟨x, hx, hn⟩ := hp
      exact if_neg fun hq => hn (hq.2.2 x hx)
    rw [hsum t hroot, hsum t' (mem_uuids_of_perm h (List.mem_cons_of_mem _ hroot)),
      (h.map _).sum_eq]
    simp [h0]
  · rw [hsum t hroot, hsum t hroot]
    exact sum_contribution_le_of_subset_req hreq t.providers

theorem sumFreeForRcWithTraits_spec_scenario :
    "cn1" ∈ scenarioTree.providers.map ProviderData.uuid ∧
      (sumFreeForRcWithTraits scenarioTree "cn1" "AICHIP" ["CUSTOM_FURIOSA_0000"] scenarioUsages =
          totalFree scenarioTree "cn1" "AICHIP" ["CUSTOM_FURIOSA_0000"] scenarioUsages ∧
        0 ≤ sumFreeForRcWithTraits scenarioTree "cn1" "AICHIP" ["CUSTOM_FURIOSA_0000"] scenarioUsages ∧
        (∀ t' : ProviderTree, t'.providers.Perm scenarioTree.providers →
          sumFreeForRcWithTraits t' "cn1" "AICHIP" ["CUSTOM_FURIOSA_0000"] scenarioUsages =
            sumFreeForRcWithTraits scenarioTree "cn1" "AICHIP" ["CUSTOM_FURIOSA_0000"] scenarioUsages) ∧
        (∀ (t' : ProviderTree) (p : ProviderData), t'.providers.Perm (p :: scenarioTree.providers) →
          (∃ x ∈ ["CUSTOM_FURIOSA_0000"], x ∉ p.traits) →
          sumFreeForRcWithTraits t' "cn1" "AICHIP" ["CUSTOM_FURIOSA_0000"] scenarioUsages =
            sumFreeForRcWithTraits scenarioTree "cn1" "AICHIP" ["CUSTOM_FURIOSA_0000"] scenarioUsages) ∧
        (∀ req' : List String, (∀ x ∈ ["CUSTOM_FURIOSA_0000"], x ∈ req') →
          sumFreeForRcWithTraits scenarioTree "cn1" "AICHIP" req' scenarioUsages ≤
            sumFreeForRcWithTraits scenarioTree "cn1" "AICHIP" ["CUSTOM_FURIOSA_0000"] scenarioUsages)) :=
  ⟨by decide, sumFreeForRcWithTraits_spec _ _ _ _ _ (by decide)⟩

/-! ## 5. More capacity never lowers the sum -/

/-- `(t', usages')` has at least the capacity of `(t, usages)` below `root`: every non-root
provider of `t` is in `t'` under its uuid, with at least its traits, and with an inventory
entry for each class it holds whose free units are no smaller. -/
def Dominates (root : String) (t : ProviderTree) (usages : Usages) (t' : ProviderTree)
    (usages' : Usages) : Prop :=
  ∀ p ∈ t.providers, p.uuid ≠ root → ∃ p' ∈ t'.providers, p'.uuid = p.uuid ∧
    (∀ x ∈ p.traits, x ∈ p'.traits) ∧
    ∀ rc ∈ Dict.keys p.inventory, rc ∈ Dict.keys p'.inventory ∧ freeUnits p rc usages ≤ freeUnits p' rc usages'

/-- The contribution of the provider a tree holds under a uuid. -/
def contributionAt (t : ProviderTree) (root rc : String) (req : List String) (usages : Usages)
    (u : String) : ℚ :=
  match t.data u with
  | none => 0
  | some p => contribution root rc req usages p

theorem contributionAt_nonneg (t : ProviderTree) (root rc : String) (req : List String)
    (usages : Usages) (u : String) : 0 ≤ contributionAt t root rc req usages u := by
  unfold contributionAt; split
  · exact le_rfl
  · exact contribution_nonneg root rc req usages _

theorem sum_contribution_eq_sum_contributionAt (t : ProviderTree) :
    (t.providers.map (contribution root rc req usages)).sum =
      ((t.providers.map ProviderData.uuid).map (contributionAt t root rc req usages)).sum := by
  rw [List.map_map]
  congr 1
  exact List.map_congr_left fun p hp => by simp [contributionAt, ProviderTree.data_of_mem hp]

theorem contributionAt_le {t t' : ProviderTree} {usages' : Usages}
    (hdom : Dominates root t usages t' usages') {u : String} (hu : u ∈ t.providers.map ProviderData.uuid) :
    contributionAt t root rc req usages u ≤ contributionAt t' root rc req usages' u := by
  obtain ⟨p, hp, rfl⟩ := List.mem_map.1 hu
  simp only [contributionAt, ProviderTree.data_of_mem hp]
  by_cases hq : Qualifies root rc req p
  · obtain ⟨p', hp', hid, htr, hinv⟩ := hdom p hp hq.1
    obtain ⟨hrc', hle⟩ := hinv rc hq.2.1
    have hq' : Qualifies root rc req p' := ⟨hid ▸ hq.1, hrc', fun x hx => htr x (hq.2.2 x hx)⟩
    simp only [← hid, ProviderTree.data_of_mem hp', contribution, if_pos hq, if_pos hq']
    exact hle
  · rw [contribution, if_neg hq]
    exact contributionAt_nonneg t' root rc req usages' p.uuid

/-- A sum of non-negative terms over a duplicate-free list grows with the list. -/
theorem sum_map_le_of_subset {f : String → ℚ} {l l' : List String} (hl : l.Nodup) (hsub : l ⊆ l')
    (hf : ∀ u ∈ l', 0 ≤ f u) : (l.map f).sum ≤ (l'.map f).sum := by
  obtain ⟨l₀, hperm, hsl⟩ := List.subperm_of_subset hl hsub
  rw [← (hperm.map f).sum_eq]
  exact (hsl.map f).sum_le_sum fun x hx => by
    obtain ⟨u, hu, rfl⟩ := List.mem_map.1 hx
    exact hf u hu

/-- **Monotonicity of the resolver in capacity.** -/
theorem sumFreeForRcWithTraits_mono {t t' : ProviderTree} {usages' : Usages}
    (hroot : root ∈ t.providers.map ProviderData.uuid) (hroot' : root ∈ t'.providers.map ProviderData.uuid)
    (hdom : Dominates root t usages t' usages') :
    sumFreeForRcWithTraits t root rc req usages ≤ sumFreeForRcWithTraits t' root rc req usages' := by
  rw [sumFreeForRcWithTraits_eq_totalFree hroot, sumFreeForRcWithTraits_eq_totalFree hroot',
    totalFree_eq_sum_contribution, totalFree_eq_sum_contribution,
    sum_contribution_eq_sum_contributionAt, sum_contribution_eq_sum_contributionAt]
  have hsub : t.providers.map ProviderData.uuid ⊆ t'.providers.map ProviderData.uuid := by
    intro u hu
    by_cases hr : u = root
    · exact hr ▸ hroot'
    obtain ⟨p, hp, rfl⟩ := List.mem_map.1 hu
    obtain ⟨p', hp', hid, -⟩ := hdom p hp hr
    exact List.mem_map.2 ⟨p', hp', hid⟩
  calc ((t.providers.map ProviderData.uuid).map (contributionAt t root rc req usages)).sum
      ≤ ((t.providers.map ProviderData.uuid).map (contributionAt t' root rc req usages')).sum :=
        List.sum_le_sum fun u hu => contributionAt_le hdom hu
    _ ≤ ((t'.providers.map ProviderData.uuid).map (contributionAt t' root rc req usages')).sum :=
        sum_map_le_of_subset t.nodup hsub fun u _ => contributionAt_nonneg _ _ _ _ _ u

end Loop

end OpenKCloud.Weigher
