import OpenKCloud.Float
import Mathlib.Data.List.Sort
import Mathlib.Data.List.MinMax
import Mathlib.Data.Rat.Floor
import Mathlib.Algebra.Order.Ring.Rat
/-
# Latency percentiles of the MLPerf runner

`kcloud-mlperf/run.py` reports the latencies of a performance run through `percentile`:

    values_sorted = sorted(values); k = (len(values_sorted) - 1) * p
    f = math.floor(k); c = math.ceil(k)
    if f == c: return values_sorted[int(k)]
    return values_sorted[f] * (c - k) + values_sorted[c] * (k - f)

in Python floats (`Float.lean`): `(len - 1) * p` converts the `int` and rounds the product,
`c - k` and `k - f` convert `c` and `f` and round, and so do both products and the sum; the
literals `0.50` .. `0.99` are the floats nearest them.  An index is a Python index: negative ones
count from the end, and one out of range raises `IndexError` (`none`).

What the formula means is the exact interpolation `interp` between the order statistics at
`⌊k⌋` and `⌈k⌉`, which stays between them and is monotone in the rank.  The code computes it up
to four roundings, and these are enough to break the order of the runner's figures:

* `entry_floor_le_interp`, `interp_le_entry_ceil`, `interp_mono`: the exact interpolation;
* `rank_le_of_length_le`, `rank_le_of_mul_le`: the code's rank stays in `[0, n - 1]`, for every
  `p` in `[0, 1]` on lists shorter than `2 ^ 53`, and for the runner's four `p` on every list; so
  `percentile` reads the sorted list in range only and never raises (`latencyMs_isSome`);
* `percentile_of_rank_eq`: at an integer rank it is that order statistic;
* `percentile_near_interp`: otherwise it is the exact interpolation at its rank, to within
  `2 ^ -50` of the two order statistics it reads;
* `latencyMs_p95_gt_p99`: but not monotone in `p`: two latencies of `1.2105` give a `p95` above
  their `p99` and above both, printed `p95_ms=1.211` and `p99_ms=1.210`.
-/

namespace OpenKCloud.Mlperf

/-! ## 1. The code -/

/-- `l[i]` for an `int` index `i`, from the end when `i < 0`; `none` where it raises
`IndexError`. -/
def pyIndex (l : List ℚ) (i : ℤ) : Option ℚ :=
  if 0 ≤ i then l[i.toNat]? else if -(l.length : ℤ) ≤ i then l[(l.length + i).toNat]? else none

/-- `int(x)` on a float: truncation toward zero. -/
def pyIntOfFloat (x : ℚ) : ℤ := if 0 ≤ x then ⌊x⌋ else ⌈x⌉

/-- `percentile(values, p)`, in floats. -/
def percentile (values : List ℚ) (p : ℚ) : Option ℚ :=
  if values = [] then some 0 else
  let valuesSorted := values.insertionSort (· ≤ ·)
  let k := fl (fl ((valuesSorted.length : ℚ) - 1) * p)
  let f := ⌊k⌋
  let c := ⌈k⌉
  if f = c then pyIndex valuesSorted (pyIntOfFloat k) else do
    let d0 := fl ((← pyIndex valuesSorted f) * fl (fl c - k))
    let d1 := fl ((← pyIndex valuesSorted c) * fl (k - fl f))
    return fl (d0 + d1)

/-- The `"latency_ms"` entry of the outcome of `run_performance_server` and of
`run_performance_singlestream`; `write_performance_logs` writes the same four values, to three
decimals, as `p50_ms` .. `p99_ms`. -/
structure LatencyMs where
  p50 : ℚ
  p90 : ℚ
  p95 : ℚ
  p99 : ℚ

/-- `{"p50": percentile(latencies_ms, 0.50), ..., "p99": percentile(latencies_ms, 0.99)}`. -/
def latencyMs (latenciesMs : List ℚ) : Option LatencyMs := do
  return ⟨← percentile latenciesMs (fl 0.50), ← percentile latenciesMs (fl 0.90),
    ← percentile latenciesMs (fl 0.95), ← percentile latenciesMs (fl 0.99)⟩

/-! ## 2. Reading a sorted list -/

/-- `s[i]` at an index already known to be in range. -/
def entry (s : List ℚ) (i : ℤ) : ℚ := s.getD i.toNat 0

/-- The interpolation between the order statistics around rank `k`. -/
def interp (s : List ℚ) (k : ℚ) : ℚ := entry s ⌊k⌋ + (entry s ⌈k⌉ - entry s ⌊k⌋) * (k - ⌊k⌋)

section Sorted

variable {s : List ℚ}

theorem pyIndex_of_nonneg {i : ℤ} (hi : 0 ≤ i) (hin : i < s.length) :
    pyIndex s i = some (entry s i) := by
  rw [pyIndex, if_pos hi, entry, List.getD_eq_getElem?_getD,
    List.getElem?_eq_getElem (by omega), Option.getD_some]

theorem entry_mem {i : ℤ} (hi : 0 ≤ i) (hin : i < s.length) : entry s i ∈ s := by
  rw [entry, List.getD_eq_getElem _ _ (by omega)]
  exact List.getElem_mem _

theorem entry_mono (hs : s.Sorted (· ≤ ·)) {i j : ℤ} (hi : 0 ≤ i) (hij : i ≤ j)
    (hjn : j < s.length) : entry s i ≤ entry s j := by
  rw [entry, entry, List.getD_eq_getElem _ _ (by omega), List.getD_eq_getElem _ _ (by omega)]
  exact hs.rel_get_of_le (show (⟨i.toNat, by omega⟩ : Fin s.length) ≤ ⟨j.toNat, by omega⟩ by
    simp only [Fin.mk_le_mk]; omega)

/-- For a rank `0 ≤ k ≤ n - 1`, `⌊k⌋` and `⌈k⌉` are indices of a list of length `n`. -/
theorem floor_ceil_mem_range {k : ℚ} (hk0 : 0 ≤ k) (hkn : k ≤ (s.length : ℚ) - 1) :
    0 ≤ ⌊k⌋ ∧ ⌈k⌉ < s.length := by
  have : ⌈k⌉ ≤ (s.length : ℤ) - 1 := Int.ceil_le.2 (by push_cast; exact hkn)
  exact ⟨Int.floor_nonneg.2 hk0, by omega⟩

variable (hs : s.Sorted (· ≤ ·)) {k : ℚ} (hk0 : 0 ≤ k) (hkn : k ≤ (s.length : ℚ) - 1)
include hs hk0 hkn

theorem entry_floor_le_entry_ceil : entry s ⌊k⌋ ≤ entry s ⌈k⌉ :=
  entry_mono hs (floor_ceil_mem_range hk0 hkn).1 (Int.floor_le_ceil k)
    (floor_ceil_mem_range hk0 hkn).2

theorem entry_floor_le_interp : entry s ⌊k⌋ ≤ interp s k :=
  le_add_of_nonneg_right (mul_nonneg (sub_nonneg.2 (entry_floor_le_entry_ceil hs hk0 hkn))
    (sub_nonneg.2 (Int.floor_le k)))

theorem interp_le_entry_ceil : interp s k ≤ entry s ⌈k⌉ := by
  have hd := sub_nonneg.2 (entry_floor_le_entry_ceil hs hk0 hkn)
  have ht : k - ⌊k⌋ ≤ 1 := by linarith [Int.lt_floor_add_one k]
  rw [interp]
  linarith [mul_le_of_le_one_right hd ht]

/-- **The interpolation is monotone in the rank.**  Across an integer rank it climbs from the
order statistic below to the one above; between two integer ranks it is linear with a
non-negative slope. -/
theorem interp_mono {k' : ℚ} (hkk : k ≤ k') (hkn' : k' ≤ (s.length : ℚ) - 1) :
    interp s k ≤ interp s k' := by
  have hk0' := hk0.trans hkk
  rcases (Int.floor_mono hkk).lt_or_eq with hlt | heq
  · calc interp s k ≤ entry s ⌈k⌉ := interp_le_entry_ceil hs hk0 hkn
      _ ≤ entry s ⌊k'⌋ := by
          have := Int.ceil_le_floor_add_one k
          have := Int.floor_le_ceil k'
          exact entry_mono hs ((floor_ceil_mem_range hk0 hkn).1.trans (Int.floor_le_ceil k))
            (by omega) (by have := (floor_ceil_mem_range hk0' hkn').2; omega)
      _ ≤ interp s k' := entry_floor_le_interp hs hk0' hkn'
  · by_cases hint : (⌊k⌋ : ℚ) = k
    · calc interp s k = entry s ⌊k'⌋ := by rw [interp, hint, sub_self, mul_zero, add_zero, heq]
        _ ≤ interp s k' := entry_floor_le_interp hs hk0' hkn'
    · -- neither rank is an integer, so both lie between `⌊k⌋` and `⌊k⌋ + 1`
      have hlt : (⌊k⌋ : ℚ) < k := (Int.floor_le k).lt_of_ne hint
      have hc : ⌈k⌉ = ⌊k⌋ + 1 :=
        Int.ceil_eq_iff.2 ⟨by push_cast; linarith, by push_cast; linarith [Int.lt_floor_add_one k]⟩
      have hc' : ⌈k'⌉ = ⌊k⌋ + 1 := Int.ceil_eq_iff.2
        ⟨by push_cast; linarith, by rw [heq]; push_cast; linarith [Int.lt_floor_add_one k']⟩
      rw [interp, interp, hc, hc', ← heq]
      have hd := sub_nonneg.2 (entry_floor_le_entry_ceil hs hk0 hkn)
      rw [hc] at hd
      linarith [mul_le_mul_of_nonneg_left (sub_le_sub_right hkk (⌊k⌋ : ℚ)) hd]

end Sorted

/-! ## 3. The rank -/

/-- `(len(values_sorted) - 1) * p`, as the code computes it for `n` values. -/
def rank (n : ℕ) (p : ℚ) : ℚ := fl (fl ((n : ℚ) - 1) * p)

theorem length_sorted (xs : List ℚ) : (xs.insertionSort (· ≤ ·)).length = xs.length :=
  (List.perm_insertionSort _ xs).length_eq

theorem sorted_sorted (xs : List ℚ) : (xs.insertionSort (· ≤ ·)).Sorted (· ≤ ·) :=
  List.sorted_insertionSort _ xs

theorem sub_one_nonneg_of_one_le {n : ℕ} (hn : 1 ≤ n) : (0 : ℚ) ≤ n - 1 := by
  have : (1 : ℚ) ≤ n := by exact_mod_cast hn
  linarith

section Rank

variable {n : ℕ} (hn : 1 ≤ n) {p : ℚ} (hp0 : 0 ≤ p)
include hn hp0

theorem rank_nonneg : 0 ≤ rank n p :=
  fl_nonneg (mul_nonneg (fl_nonneg (sub_one_nonneg_of_one_le hn)) hp0)

/-- On fewer than `2 ^ 53 + 1` values the count converts exactly, and a `p` in `[0, 1]` keeps the
rank below `n - 1`. -/
theorem rank_le_of_length_le (hn' : n ≤ 2 ^ 53) (hp1 : p ≤ 1) : rank n p ≤ n - 1 := by
  have hcast : ((n : ℚ) - 1) = ((n - 1 : ℕ) : ℚ) := by push_cast [Nat.cast_sub hn]; ring
  have hN := sub_one_nonneg_of_one_le hn
  rw [rank, hcast, fl_natCast (by omega), ← hcast]
  rw [hcast] at hN ⊢
  exact fl_le_natCast (mul_nonneg hN hp0) (mul_le_of_le_one_right hN hp1) (by omega)

/-- On any number of values, a `p` that two roundings up cannot carry past `1` keeps the rank
below `n - 1`. -/
theorem rank_le_of_mul_le (hp : p * (1 + 1 / 2 ^ 53) ^ 2 ≤ 1) : rank n p ≤ n - 1 := by
  have hN := sub_one_nonneg_of_one_le hn
  have hu : (0 : ℚ) ≤ 1 + 1 / 2 ^ 53 := by norm_num
  calc rank n p ≤ fl ((n : ℚ) - 1) * p * (1 + 1 / 2 ^ 53) :=
        fl_le_mul_of_nonneg (mul_nonneg (fl_nonneg hN) hp0)
    _ ≤ ((n : ℚ) - 1) * (1 + 1 / 2 ^ 53) * p * (1 + 1 / 2 ^ 53) :=
        mul_le_mul_of_nonneg_right (mul_le_mul_of_nonneg_right (fl_le_mul_of_nonneg hN) hp0) hu
    _ = ((n : ℚ) - 1) * (p * (1 + 1 / 2 ^ 53) ^ 2) := by ring
    _ ≤ (n : ℚ) - 1 := mul_le_of_le_one_right hN hp

end Rank

/-- The runner's literals `0.50` .. `0.99` round to `p`s that keep the rank in range. -/
theorem fl_mul_le_one {q : ℚ} (hq0 : 0 ≤ q) (hq : q ≤ 0.99) :
    0 ≤ fl q ∧ fl q * (1 + 1 / 2 ^ 53) ^ 2 ≤ 1 := by
  refine ⟨fl_nonneg hq0, ?_⟩
  calc fl q * (1 + 1 / 2 ^ 53) ^ 2 ≤ q * (1 + 1 / 2 ^ 53) * (1 + 1 / 2 ^ 53) ^ 2 :=
        mul_le_mul_of_nonneg_right (fl_le_mul_of_nonneg hq0) (by norm_num)
    _ ≤ 0.99 * (1 + 1 / 2 ^ 53) * (1 + 1 / 2 ^ 53) ^ 2 :=
        mul_le_mul_of_nonneg_right (mul_le_mul_of_nonneg_right hq (by norm_num)) (by norm_num)
    _ ≤ 1 := by norm_num

/-! ## 4. What `percentile` reads -/

/-- The interpolation at rank `k` as the code rounds it. -/
def floatInterp (s : List ℚ) (k : ℚ) : ℚ :=
  if ⌊k⌋ = ⌈k⌉ then entry s ⌊k⌋
  else fl (fl (entry s ⌊k⌋ * fl (fl ⌈k⌉ - k)) + fl (entry s ⌈k⌉ * fl (k - fl ⌊k⌋)))

section Percentile

variable {xs : List ℚ}

/-- **With its rank in `[0, n - 1]`, `percentile` reads the sorted list in range** and returns
the interpolation as the code rounds it. -/
theorem percentile_eq_floatInterp (hxs : xs ≠ []) {p : ℚ} (hk0 : 0 ≤ rank xs.length p)
    (hkn : rank xs.length p ≤ xs.length - 1) :
    percentile xs p = some (floatInterp (xs.insertionSort (· ≤ ·)) (rank xs.length p)) := by
  simp only [percentile, if_neg hxs, length_sorted]
  rw [show fl (fl ((xs.length : ℚ) - 1) * p) = rank xs.length p from rfl]
  generalize rank xs.length p = k at *
  obtain ⟨hf, hc⟩ := floor_ceil_mem_range (s := xs.insertionSort (· ≤ ·)) hk0
    (by rwa [length_sorted])
  have hfc := Int.floor_le_ceil k
  unfold floatInterp
  split_ifs with h
  · rw [pyIntOfFloat, if_pos hk0, pyIndex_of_nonneg hf (by omega)]
  · rw [pyIndex_of_nonneg hf (by omega), pyIndex_of_nonneg (hf.trans hfc) hc]
    rfl

/-- With its rank in `[0, n - 1]`, `percentile` does not raise. -/
theorem percentile_isSome (p : ℚ) (hk0 : 0 ≤ rank xs.length p)
    (hkn : rank xs.length p ≤ xs.length - 1) : ∃ v, percentile xs p = some v := by
  by_cases hxs : xs = []
  · exact ⟨0, by simp [percentile, hxs]⟩
  · exact ⟨_, percentile_eq_floatInterp hxs hk0 hkn⟩

/-- At the float nearest a literal up to `0.99`, `percentile` does not raise, on any list. -/
theorem percentile_fl_isSome (hxs : xs ≠ []) {q : ℚ} (hq0 : 0 ≤ q) (hq : q ≤ 0.99) :
    ∃ v, percentile xs (fl q) = some v :=
  have hn : 1 ≤ xs.length := List.length_pos.2 hxs
  have hp := fl_mul_le_one hq0 hq
  percentile_isSome _ (rank_nonneg hn hp.1) (rank_le_of_mul_le hn hp.1 hp.2)

/-- **The runner's percentiles never raise**, whatever the latencies. -/
theorem latencyMs_isSome (latenciesMs : List ℚ) : ∃ r, latencyMs latenciesMs = some r := by
  by_cases h : latenciesMs = []
  · exact ⟨⟨0, 0, 0, 0⟩, by simp [h, latencyMs, percentile]⟩
  obtain ⟨a, ha⟩ := percentile_fl_isSome h (q := 0.50) (by norm_num) (by norm_num)
  obtain ⟨b, hb⟩ := percentile_fl_isSome h (q := 0.90) (by norm_num) (by norm_num)
  obtain ⟨c, hc⟩ := percentile_fl_isSome h (q := 0.95) (by norm_num) (by norm_num)
  obtain ⟨d, hd⟩ := percentile_fl_isSome h (q := 0.99) (by norm_num) (by norm_num)
  exact ⟨⟨a, b, c, d⟩, by simp only [latencyMs, ha, hb, hc, hd]; rfl⟩

/-- At an integer rank `i`, `percentile` is the `i`-th order statistic. -/
theorem percentile_of_rank_eq (hxs : xs ≠ []) (hlen : xs.length ≤ 2 ^ 53) {p : ℚ} (hp1 : p ≤ 1)
    {i : ℕ} (hi : ((xs.length : ℚ) - 1) * p = i) :
    percentile xs p = (xs.insertionSort (· ≤ ·))[i]? := by
  have hn : 1 ≤ xs.length := List.length_pos.2 hxs
  have hcast : ((xs.length : ℚ) - 1) = ((xs.length - 1 : ℕ) : ℚ) := by
    push_cast [Nat.cast_sub hn]; ring
  have hle : (i : ℚ) ≤ ((xs.length - 1 : ℕ) : ℚ) := by
    rw [← hi, hcast]
    exact mul_le_of_le_one_right (Nat.cast_nonneg _) hp1
  have hk : fl (fl ((xs.length : ℚ) - 1) * p) = i := by
    rw [hcast, fl_natCast (by omega), ← hcast, hi, fl_natCast]
    have : i ≤ xs.length - 1 := by exact_mod_cast hle
    omega
  have hf : ⌊(i : ℚ)⌋ = i := Int.floor_natCast i
  have hc : ⌈(i : ℚ)⌉ = i := Int.ceil_natCast i
  simp only [percentile, if_neg hxs, length_sorted, hk, hf, hc, if_true, pyIntOfFloat,
    Nat.cast_nonneg, pyIndex, Int.natCast_nonneg, Int.toNat_natCast]

end Percentile

/-! ## 5. Four roundings from the exact interpolation -/

/-- Rounding `a * fl t` for a weight `t` in `[0, 1]` errs from `a * t` by `3 |a| / 2 ^ 53` at
most. -/
theorem abs_fl_mul_fl_sub_le (a : ℚ) {t : ℚ} (ht0 : 0 ≤ t) (ht1 : t ≤ 1) :
    |fl (a * fl t) - a * t| ≤ 3 * |a| / 2 ^ 53 := by
  have h₁ := abs_fl_sub_le t
  rw [abs_of_nonneg ht0] at h₁
  have hft : |fl t| ≤ 2 := by
    have := abs_sub_abs_le_abs_sub (fl t) t
    rw [abs_of_nonneg ht0] at this
    have : t / 2 ^ 53 ≤ 1 := by rw [div_le_one (by norm_num)]; linarith
    linarith
  have h₂ := abs_fl_sub_le (a * fl t)
  rw [abs_mul] at h₂
  calc |fl (a * fl t) - a * t| = |(fl (a * fl t) - a * fl t) + a * (fl t - t)| := by
        rw [show fl (a * fl t) - a * t = (fl (a * fl t) - a * fl t) + a * (fl t - t) by ring]
    _ ≤ |fl (a * fl t) - a * fl t| + |a * (fl t - t)| := abs_add _ _
    _ ≤ |a| * |fl t| / 2 ^ 53 + |a| * (t / 2 ^ 53) := by
        rw [abs_mul]; exact add_le_add h₂ (mul_le_mul_of_nonneg_left h₁ (abs_nonneg a))
    _ ≤ |a| * 2 / 2 ^ 53 + |a| * (1 / 2 ^ 53) :=
        add_le_add (div_le_div_of_nonneg_right (mul_le_mul_of_nonneg_left hft (abs_nonneg a))
          (by norm_num)) (mul_le_mul_of_nonneg_left (div_le_div_of_nonneg_right ht1 (by norm_num))
          (abs_nonneg a))
    _ = 3 * |a| / 2 ^ 53 := by ring

/-- **The code's interpolation is the exact one up to `2 ^ -50`** of the two order statistics,
at a rank whose ceiling converts exactly. -/
theorem abs_floatInterp_sub_interp_le (s : List ℚ) {k : ℚ} (hk0 : 0 ≤ k) (hc : ⌈k⌉ < 2 ^ 53) :
    |floatInterp s k - interp s k| ≤ (|entry s ⌊k⌋| + |entry s ⌈k⌉|) / 2 ^ 50 := by
  have hf0 : 0 ≤ ⌊k⌋ := Int.floor_nonneg.2 hk0
  have hfc := Int.floor_le_ceil k
  unfold floatInterp
  split_ifs with h
  · -- an integer rank: the code reads the order statistic, as the interpolation does
    have hk : (⌊k⌋ : ℚ) = k := le_antisymm (Int.floor_le k) (h ▸ Int.le_ceil k)
    rw [interp, hk, sub_self, mul_zero, add_zero, sub_self, abs_zero]
    positivity
  have hc1 : ⌈k⌉ = ⌊k⌋ + 1 := by have := Int.ceil_le_floor_add_one k; omega
  rw [fl_intCast (by omega) hc, fl_intCast hf0 (by omega)]
  set a := entry s ⌊k⌋
  set b := entry s ⌈k⌉
  have ht0 : 0 ≤ (⌈k⌉ : ℚ) - k ∧ (⌈k⌉ : ℚ) - k ≤ 1 := by
    refine ⟨sub_nonneg.2 (Int.le_ceil k), ?_⟩
    rw [hc1]; push_cast; linarith [Int.floor_le k]
  have ht1 : 0 ≤ k - ⌊k⌋ ∧ k - ⌊k⌋ ≤ 1 := by
    refine ⟨sub_nonneg.2 (Int.floor_le k), ?_⟩
    linarith [Int.lt_floor_add_one k]
  have hinterp : interp s k = a * (⌈k⌉ - k) + b * (k - ⌊k⌋) := by
    have hc1' : (⌈k⌉ : ℚ) = ⌊k⌋ + 1 := by rw [hc1]; push_cast; ring
    rw [interp, hc1']; ring
  set S := fl (a * fl (⌈k⌉ - k)) + fl (b * fl (k - ⌊k⌋))
  have hF : |S - interp s k| ≤ 3 * (|a| + |b|) / 2 ^ 53 := by
    calc |S - interp s k|
        = |(fl (a * fl (⌈k⌉ - k)) - a * (⌈k⌉ - k)) + (fl (b * fl (k - ⌊k⌋)) - b * (k - ⌊k⌋))| := by
          rw [hinterp]; ring_nf
      _ ≤ 3 * |a| / 2 ^ 53 + 3 * |b| / 2 ^ 53 :=
          (abs_add _ _).trans (add_le_add (abs_fl_mul_fl_sub_le a ht0.1 ht0.2)
            (abs_fl_mul_fl_sub_le b ht1.1 ht1.2))
      _ = 3 * (|a| + |b|) / 2 ^ 53 := by ring
  have hex : |interp s k| ≤ |a| + |b| := by
    rw [hinterp]
    calc |a * (⌈k⌉ - k) + b * (k - ⌊k⌋)| ≤ |a| * (⌈k⌉ - k) + |b| * (k - ⌊k⌋) := by
          refine (abs_add _ _).trans ?_
          rw [abs_mul, abs_mul, abs_of_nonneg ht0.1, abs_of_nonneg ht1.1]
      _ ≤ |a| + |b| := add_le_add (mul_le_of_le_one_right (abs_nonneg a) ht0.2)
          (mul_le_of_le_one_right (abs_nonneg b) ht1.2)
  have hab := add_nonneg (abs_nonneg a) (abs_nonneg b)
  have hS : |S| ≤ 2 * (|a| + |b|) := by
    have := abs_sub_abs_le_abs_sub S (interp s k)
    linarith
  calc |fl S - interp s k| ≤ |fl S - S| + |S - interp s k| := abs_sub_le _ _ _
    _ ≤ |S| / 2 ^ 53 + 3 * (|a| + |b|) / 2 ^ 53 := add_le_add (abs_fl_sub_le S) hF
    _ ≤ (|a| + |b|) / 2 ^ 50 := by linarith

/-- **What `percentile` computes.**  For a non-empty list shorter than `2 ^ 53` and `0 ≤ p ≤ 1`,
`percentile` reads the sorted list `s` at the floor and the ceiling of its rank `k` only, both in
range, and returns the exact interpolation between those order statistics, up to `2 ^ -50` of
their size; the exact interpolation lies between them (`entry_floor_le_interp`,
`interp_le_entry_ceil`). -/
theorem percentile_near_interp {xs : List ℚ} (hxs : xs ≠ []) (hlen : xs.length ≤ 2 ^ 53) {p : ℚ}
    (hp0 : 0 ≤ p) (hp1 : p ≤ 1) :
    (0 ≤ ⌊rank xs.length p⌋ ∧ ⌈rank xs.length p⌉ < xs.length) ∧
      ∃ v, percentile xs p = some v ∧
        |v - interp (xs.insertionSort (· ≤ ·)) (rank xs.length p)| ≤
          (|entry (xs.insertionSort (· ≤ ·)) ⌊rank xs.length p⌋| +
            |entry (xs.insertionSort (· ≤ ·)) ⌈rank xs.length p⌉|) / 2 ^ 50 := by
  have hn : 1 ≤ xs.length := List.length_pos.2 hxs
  have hk0 := rank_nonneg hn hp0
  have hkn := rank_le_of_length_le hn hp0 hlen hp1
  obtain ⟨hf, hc⟩ := floor_ceil_mem_range (s := xs.insertionSort (· ≤ ·)) hk0
    (by rwa [length_sorted])
  rw [length_sorted] at hc
  exact ⟨⟨hf, hc⟩, _, percentile_eq_floatInterp hxs hk0 hkn,
    abs_floatInterp_sub_interp_le _ hk0 (by omega)⟩

/-! ## 6. Two equal latencies -/

theorem fl_point_95 : fl 0.95 = 8556839292003942 / 2 ^ 53 := by
  refine (fl_eq_of_round (e := -1) (m := 8556839292003942) ?_ ?_ ?_ ?_ ?_).trans ?_ <;> norm_num

theorem fl_point_99 : fl 0.99 = 8917127262193582 / 2 ^ 53 := by
  refine (fl_eq_of_round (e := -1) (m := 8917127262193582) ?_ ?_ ?_ ?_ ?_).trans ?_ <;> norm_num

theorem fl_latency : fl 1.2105 = 5451607348931985 / 2 ^ 52 := by
  refine (fl_eq_of_round (e := 0) (m := 5451607348931985) ?_ ?_ ?_ ?_ ?_).trans ?_ <;> norm_num

/-- On two values, `percentile` interpolates at the float `p` itself. -/
theorem percentile_pair {x p : ℚ} (hp : fl p = p) (hp0 : 0 < p) (hp1 : p < 1) :
    percentile [x, x] p = some (fl (fl (x * fl (1 - p)) + fl (x * p))) := by
  have hk : rank [x, x].length p = p := by norm_num [rank, hp]
  have hf : ⌊p⌋ = 0 := Int.floor_eq_zero_iff.2 ⟨hp0.le, hp1⟩
  have hc : ⌈p⌉ = 1 := Int.ceil_eq_iff.2 ⟨by norm_num; exact hp0, by norm_num; exact hp1.le⟩
  rw [percentile_eq_floatInterp (List.cons_ne_nil _ _) (by rw [hk]; exact hp0.le)
    (by rw [hk]; norm_num; exact hp1.le), hk]
  simp [floatInterp, hf, hc, entry, hp]

theorem percentile_latency_95 :
    percentile [fl 1.2105, fl 1.2105] (fl 0.95) = some (5451607348931986 / 2 ^ 52) := by
  have h₀ : 0 < fl 0.95 := by rw [fl_point_95]; norm_num
  have h₁ : fl 0.95 < 1 := by rw [fl_point_95]; norm_num
  rw [percentile_pair (fl_fl _) h₀ h₁, fl_latency, fl_point_95]
  have e₁ : fl (1 - 8556839292003942 / 2 ^ 53) = 7205759403792800 / 2 ^ 57 := by
    refine (fl_eq_of_round (e := -5) (m := 7205759403792800) ?_ ?_ ?_ ?_ ?_).trans ?_ <;> norm_num
  have e₂ : fl (5451607348931985 / 2 ^ 52 * (7205759403792800 / 2 ^ 57)) =
      8722571758291184 / 2 ^ 57 := by
    refine (fl_eq_of_round (e := -5) (m := 8722571758291184) ?_ ?_ ?_ ?_ ?_).trans ?_ <;> norm_num
  have e₃ : fl (5451607348931985 / 2 ^ 52 * (8556839292003942 / 2 ^ 53)) =
      5179026981485386 / 2 ^ 52 := by
    refine (fl_eq_of_round (e := 0) (m := 5179026981485386) ?_ ?_ ?_ ?_ ?_).trans ?_ <;> norm_num
  have e₄ : fl (8722571758291184 / 2 ^ 57 + 5179026981485386 / 2 ^ 52) =
      5451607348931986 / 2 ^ 52 := by
    -- the sum falls exactly halfway between two floats, and rounds to the even one, above
    refine (fl_eq_of_round (e := 0) (m := 5451607348931986) ?_ ?_ ?_ ?_ ?_).trans ?_ <;> norm_num
  rw [e₁, e₂, e₃, e₄]

theorem percentile_latency_99 :
    percentile [fl 1.2105, fl 1.2105] (fl 0.99) = some (5451607348931985 / 2 ^ 52) := by
  have h₀ : 0 < fl 0.99 := by rw [fl_point_99]; norm_num
  have h₁ : fl 0.99 < 1 := by rw [fl_point_99]; norm_num
  rw [percentile_pair (fl_fl _) h₀ h₁, fl_latency, fl_point_99]
  have e₁ : fl (1 - 8917127262193582 / 2 ^ 53) = 5764607523034240 / 2 ^ 59 := by
    refine (fl_eq_of_round (e := -7) (m := 5764607523034240) ?_ ?_ ?_ ?_ ?_).trans ?_ <;> norm_num
  have e₂ : fl (5451607348931985 / 2 ^ 52 * (5764607523034240 / 2 ^ 59)) =
      6978057406632947 / 2 ^ 59 := by
    refine (fl_eq_of_round (e := -7) (m := 6978057406632947) ?_ ?_ ?_ ?_ ?_).trans ?_ <;> norm_num
  have e₃ : fl (5451607348931985 / 2 ^ 52 * (8917127262193582 / 2 ^ 53)) =
      5397091275442665 / 2 ^ 52 := by
    refine (fl_eq_of_round (e := 0) (m := 5397091275442665) ?_ ?_ ?_ ?_ ?_).trans ?_ <;> norm_num
  have e₄ : fl (6978057406632947 / 2 ^ 59 + 5397091275442665 / 2 ^ 52) =
      5451607348931985 / 2 ^ 52 := by
    refine (fl_eq_of_round (e := 0) (m := 5451607348931985) ?_ ?_ ?_ ?_ ?_).trans ?_ <;> norm_num
  rw [e₁, e₂, e₃, e₄]

/-- **`p95` above `p99`.**  For two latencies of `1.2105` ms, the runner's `p99` is the
latency, but its `p95` rounds above it: the percentiles are out of order and `p95` exceeds the
largest latency, and they print as `1.211` and `1.210`. -/
theorem latencyMs_p95_gt_p99 :
    ∃ r, latencyMs [fl 1.2105, fl 1.2105] = some r ∧ r.p99 = fl 1.2105 ∧ fl 1.2105 < r.p95 ∧
      formatFixed 3 r.p95 = "1.211" ∧ formatFixed 3 r.p99 = "1.210" := by
  obtain ⟨a, ha⟩ := percentile_fl_isSome (List.cons_ne_nil (fl 1.2105) [fl 1.2105]) (q := 0.50)
    (by norm_num) (by norm_num)
  obtain ⟨b, hb⟩ := percentile_fl_isSome (List.cons_ne_nil (fl 1.2105) [fl 1.2105]) (q := 0.90)
    (by norm_num) (by norm_num)
  have h₉₅ : roundHalfEven (|(5451607348931986 / 2 ^ 52 : ℚ)| * 10 ^ 3) = 1211 := by
    rw [abs_of_pos (by norm_num)]
    refine roundHalfEven_eq ?_ ?_ ?_ ?_ <;> norm_num
  have h₉₉ : roundHalfEven (|(5451607348931985 / 2 ^ 52 : ℚ)| * 10 ^ 3) = 1210 := by
    rw [abs_of_pos (by norm_num)]
    refine roundHalfEven_eq ?_ ?_ ?_ ?_ <;> norm_num
  refine ⟨⟨a, b, 5451607348931986 / 2 ^ 52, 5451607348931985 / 2 ^ 52⟩,
    by simp only [latencyMs, ha, hb, percentile_latency_95, percentile_latency_99]; rfl,
    fl_latency.symm, by rw [fl_latency]; norm_num, ?_, ?_⟩
  · simp only [formatFixed, h₉₅, if_neg (show ¬(5451607348931986 / 2 ^ 52 : ℚ) < 0 by norm_num)]
    rfl
  · simp only [formatFixed, h₉₉, if_neg (show ¬(5451607348931985 / 2 ^ 52 : ℚ) < 0 by norm_num)]
    rfl

end OpenKCloud.Mlperf
