import OpenKCloud.Weigher.Capacity
/-
# Group fitness: `_group_slack` and `_group_product`

For each resource class of a group, `slack = free_total - amount`.  `_group_slack` sums the
slacks (and answers `UNMET_FLOOR` for a group with no class); `_group_product` multiplies
the `slack + EPS` and RETURNS `0` at the first negative slack.

Both depend on the tree only through the list of the group's slacks, so everything here is
said about that list:

* `groupProductLoop_eq`: the early-exit loop computes `productOf`, which is `0` when some
  slack is negative and the product of `slack + EPS` otherwise;
* `productOf_perm`, `productOf_mono`: that value depends neither on the order of the
  classes nor, downwards, on any slack: a larger slack never lowers it;
* `groupProduct_spec`: `_group_product` is `0` exactly when some class falls short, and
  otherwise at least `EPS ^ k` for a group of `k` classes, so never `0`.
-/

namespace OpenKCloud.Weigher

/-! ## 1. The code -/

/-- `slack = free_total - float(amount)` for one `(rc, amount)` of a group. -/
def slack (t : ProviderTree) (root : String) (req : List String) (usages : Usages)
    (e : String × ℤ) : ℚ :=
  sumFreeForRcWithTraits t root e.1 req usages - e.2

/-- `_group_slack(ptree, root_uuid, accel_resources, required_traits, usages_dict, stats)`. -/
def groupSlack (t : ProviderTree) (root : String) (res : Dict ℤ) (req : List String)
    (usages : Usages) : WithBot ℚ :=
  let slacks := res.map (slack t root req usages)
  if slacks.isEmpty then unmetFloor else ((slacks.sum : ℚ) : WithBot ℚ)

/-- The loop of `_group_product` from the running product `prod`: it returns `0` at the first
negative slack. -/
def groupProductLoop : List ℚ → ℚ → ℚ
  | [], prod => prod
  | s :: rest, prod => if s < 0 then 0 else groupProductLoop rest (prod * (s + eps))

/-- `_group_product(ptree, root_uuid, accel_resources, required_traits, usages_dict, stats)`. -/
def groupProduct (t : ProviderTree) (root : String) (res : Dict ℤ) (req : List String)
    (usages : Usages) : ℚ :=
  groupProductLoop (res.map (slack t root req usages)) 1

/-! ## 2. The product in closed form -/

/-- `0` when a slack is negative, else the product of `slack + EPS`. -/
def productOf (slacks : List ℚ) : ℚ :=
  if ∃ s ∈ slacks, s < 0 then 0 else (slacks.map (· + eps)).prod

theorem productOf_cons (x : ℚ) (xs : List ℚ) :
    productOf (x :: xs) = if x < 0 then 0 else (x + eps) * productOf xs := by
  by_cases hx : x < 0
  · simp [productOf, hx]
  · by_cases h : ∃ s ∈ xs, s < 0 <;> simp [productOf, hx, h]

/-- **The early-exit loop computes `productOf`.** -/
theorem groupProductLoop_eq (slacks : List ℚ) (prod : ℚ) :
    groupProductLoop slacks prod = prod * productOf slacks := by
  induction slacks generalizing prod with
  | nil => simp [groupProductLoop, productOf]
  | cons s rest ih =>
    rw [groupProductLoop, productOf_cons, ih]
    split_ifs <;> simp [mul_assoc]

theorem groupProduct_eq (t : ProviderTree) (root : String) (res : Dict ℤ) (req : List String)
    (usages : Usages) :
    groupProduct t root res req usages = productOf (res.map (slack t root req usages)) := by
  rw [groupProduct, groupProductLoop_eq, one_mul]

theorem productOf_nonneg (slacks : List ℚ) : 0 ≤ productOf slacks := by
  induction slacks with
  | nil => simp [productOf]
  | cons s rest ih =>
    rw [productOf_cons]
    split_ifs with hs
    · exact le_rfl
    · exact mul_nonneg (by linarith [eps_pos]) ih

theorem productOf_perm {xs ys : List ℚ} (h : xs.Perm ys) : productOf xs = productOf ys := by
  simp only [productOf, h.mem_iff, (h.map _).prod_eq]

/-- With no negative slack the product is at least `EPS ^ k`, for `k` slacks. -/
theorem eps_pow_le_productOf {slacks : List ℚ} (h : ∀ s ∈ slacks, 0 ≤ s) :
    eps ^ slacks.length ≤ productOf slacks := by
  induction slacks with
  | nil => simp [productOf]
  | cons s rest ih =>
    have hs := h s (List.mem_cons_self _ _)
    rw [productOf_cons, if_neg (not_lt.2 hs), List.length_cons, pow_succ']
    exact mul_le_mul (by linarith) (ih fun x hx => h x (List.mem_cons_of_mem _ hx))
      (pow_nonneg eps_pos.le _) (by linarith [eps_pos])

theorem productOf_eq_zero_iff (slacks : List ℚ) :
    productOf slacks = 0 ↔ ∃ s ∈ slacks, s < 0 := by
  by_cases h : ∃ s ∈ slacks, s < 0
  · simp [productOf, h]
  · have hpos : 0 < productOf slacks := (pow_pos eps_pos _).trans_le
      (eps_pow_le_productOf fun s hs => not_lt.1 fun hlt => h ⟨s, hs, hlt⟩)
    simp [h, hpos.ne']

/-- **The product is monotone in every slack.** -/
theorem productOf_mono {xs ys : List ℚ} (h : List.Forall₂ (· ≤ ·) xs ys) :
    productOf xs ≤ productOf ys := by
  induction h with
  | nil => exact le_rfl
  | @cons x y xs ys hxy _ ih =>
    rw [productOf_cons, productOf_cons]
    by_cases hy : y < 0
    · rw [if_pos (lt_of_le_of_lt hxy hy), if_pos hy]
    by_cases hx : x < 0
    · rw [if_pos hx, if_neg hy]
      exact mul_nonneg (by linarith [eps_pos]) (productOf_nonneg ys)
    rw [if_neg hx, if_neg hy]
    exact mul_le_mul (by linarith) ih (productOf_nonneg xs) (by linarith [eps_pos])

/-! ## 3. `_group_product` -/

/-- **`_group_product` is `0` exactly when a class falls short**, whatever the other slacks and
in whatever order the map is iterated; otherwise it is the product of `slack + EPS` over the
classes, at least `EPS ^ k > 0` for `k` classes. -/
theorem groupProduct_spec (t : ProviderTree) (root : String) (res : Dict ℤ) (req : List String)
    (usages : Usages) :
    (groupProduct t root res req usages = 0 ↔ ∃ e ∈ res, slack t root req usages e < 0) ∧
      (∀ res' : Dict ℤ, res'.Perm res →
        groupProduct t root res' req usages = groupProduct t root res req usages) ∧
      ((¬ ∃ e ∈ res, slack t root req usages e < 0) →
        groupProduct t root res req usages =
            (res.map fun e => slack t root req usages e + eps).prod ∧
          eps ^ res.length ≤ groupProduct t root res req usages ∧
          0 < groupProduct t root res req usages) := by
  have hmap : (∃ s ∈ res.map (slack t root req usages), s < 0) ↔
      ∃ e ∈ res, slack t root req usages e < 0 := by
    simp only [List.mem_map, exists_exists_and_eq_and]
  simp only [groupProduct_eq]
  refine ⟨(productOf_eq_zero_iff _).trans hmap, fun res' h => productOf_perm (h.map _),
    fun h => ?_⟩
  have hneg := mt hmap.1 h
  have hle := eps_pow_le_productOf fun s hs => not_lt.1 fun hlt => hneg ⟨s, hs, hlt⟩
  rw [List.length_map] at hle
  refine ⟨?_, hle, (pow_pos eps_pos _).trans_le hle⟩
  rw [productOf, if_neg hneg, List.map_map]
  rfl

end OpenKCloud.Weigher
