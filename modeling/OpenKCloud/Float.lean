import OpenKCloud.Format
import Mathlib.Data.Int.Log
/-
# Python's `float`

CPython's `float` is an IEEE 754 binary64 number.  Each of `+`, `-`, `*` and `/` returns its
exact result rounded to the nearest binary64 value, a tie going to the even significand, and an
`int` met in mixed arithmetic (`int * float`, `size_bytes /= 1024.0`) is converted to the
nearest binary64 value first.  `fl x` is that rounding of a rational: `53` significant bits, at
the exponent `Int.log 2 |x|`.  The exponent range is left out: overflow (from `2 ^ 1024`) and
the subnormals (below `2 ^ -1022`) are not modelled, and no figure the modelled code computes
(latencies, durations, token counts, file sizes) comes near either.

The MLPerf runner's percentiles and log figures (`Mlperf/Percentile.lean`, `Mlperf/Logs.lean`)
and the data observer's sizes (`DataObserver/Listing.lean`) are computed with `fl`.

* `fl_eq_of_mem_binade`: in the binade `[2 ^ e, 2 ^ (e + 1))`, `fl x` rounds `x * 2 ^ (52 - e)`
  to a whole number, which is how a concrete rounding is computed (`fl_eq_of_round`);
* `fl_natCast`: a natural number below `2 ^ 53` is a float; `fl_fl`: so is every `fl x`;
* `fl_mul_two_zpow`: scaling by a power of two commutes with rounding;
* `fl_nonneg`, `fl_le_natCast`, `two_pow_log_le_fl`: rounding keeps a value above the power of
  two below it and below a natural number under `2 ^ 53` above it, so that comparing the float
  of a natural number with one up to `2 ^ 53` compares the number (`natCast_le_fl_iff`);
* `abs_fl_sub_le`: the relative error of one rounding is at most `2 ^ -53`
  (`fl_le_mul_of_nonneg`).
-/

namespace OpenKCloud

/-- The binary64 value nearest `x`, ties to the even significand. -/
def fl (x : ℚ) : ℚ :=
  if x = 0 then 0 else
  let s : ℤ := 52 - Int.log 2 |x|
  (if x < 0 then -1 else 1) * (roundHalfEven (|x| * 2 ^ s) / 2 ^ s)

@[simp] theorem fl_zero : fl 0 = 0 := if_pos rfl

theorem fl_of_pos {x : ℚ} (hx : 0 < x) :
    fl x = roundHalfEven (x * 2 ^ (52 - Int.log 2 x)) / 2 ^ (52 - Int.log 2 x) := by
  simp [fl, hx.ne', hx.not_lt, abs_of_pos hx]

theorem fl_neg (x : ℚ) : fl (-x) = -fl x := by
  rcases lt_trichotomy x 0 with hx | rfl | hx
  · rw [fl_of_pos (neg_pos.2 hx)]
    simp [fl, hx.ne, hx, abs_of_neg hx]
  · simp
  · rw [fl_of_pos hx]
    simp [fl, hx.ne', hx, abs_of_pos hx]

/-- In the binade `[2 ^ e, 2 ^ (e + 1))` the exponent is `e`. -/
theorem log_eq_of_mem_binade {x : ℚ} {e : ℤ} (h₁ : (2 : ℚ) ^ e ≤ x) (h₂ : x < 2 ^ (e + 1)) :
    Int.log 2 x = e := by
  have hx : 0 < x := (zpow_pos two_pos e).trans_le h₁
  have a := (Int.zpow_le_iff_le_log (b := 2) (by norm_num) hx).1 (by exact_mod_cast h₁)
  have b := (Int.lt_zpow_iff_log_lt (b := 2) (by norm_num) hx).1 (by exact_mod_cast h₂)
  omega

theorem fl_eq_of_mem_binade {x : ℚ} {e : ℤ} (h₁ : (2 : ℚ) ^ e ≤ x) (h₂ : x < 2 ^ (e + 1)) :
    fl x = roundHalfEven (x * 2 ^ (52 - e)) / 2 ^ (52 - e) := by
  rw [fl_of_pos ((zpow_pos two_pos e).trans_le h₁), log_eq_of_mem_binade h₁ h₂]

/-- A concrete rounding: the binade, and the whole number its scaled value rounds to. -/
theorem fl_eq_of_round {x : ℚ} {e : ℤ} {m : ℕ} (h₁ : (2 : ℚ) ^ e ≤ x) (h₂ : x < 2 ^ (e + 1))
    (hm₁ : (m : ℚ) - 1 / 2 ≤ x * 2 ^ (52 - e)) (hm₂ : x * 2 ^ (52 - e) < m + 1 / 2)
    (htie : x * 2 ^ (52 - e) = m - 1 / 2 → m % 2 = 0) : fl x = m / 2 ^ (52 - e) := by
  have hx : 0 ≤ x * 2 ^ (52 - e) :=
    mul_nonneg ((zpow_pos two_pos e).le.trans h₁) (zpow_pos two_pos _).le
  rw [fl_eq_of_mem_binade h₁ h₂, roundHalfEven_eq hx hm₁ hm₂ htie]

/-- The value whose scaled significand is a whole number is a float. -/
theorem fl_eq_self {x : ℚ} (hx : 0 < x) {m : ℕ} (hm : x * 2 ^ (52 - Int.log 2 x) = m) :
    fl x = x := by
  rw [fl_of_pos hx, hm, roundHalfEven_natCast, ← hm, mul_div_assoc, div_self
    (zpow_pos two_pos _).ne', mul_one]

theorem fl_nonneg {x : ℚ} (hx : 0 ≤ x) : 0 ≤ fl x := by
  rcases hx.eq_or_lt with rfl | hx
  · rw [fl_zero]
  · rw [fl_of_pos hx]; exact div_nonneg (Nat.cast_nonneg _) (zpow_pos two_pos _).le

/-- **A natural number below `2 ^ 53` is a float.** -/
theorem fl_natCast {n : ℕ} (hn : n < 2 ^ 53) : fl n = n := by
  rcases Nat.eq_zero_or_pos n with rfl | hpos
  · simp
  have hle : Nat.log 2 n < 53 := Nat.log_lt_of_lt_pow hpos.ne' hn
  refine fl_eq_self (by exact_mod_cast hpos) (m := n * 2 ^ (52 - Nat.log 2 n)) ?_
  rw [Int.log_natCast, show (52 : ℤ) - Nat.log 2 n = ((52 - Nat.log 2 n : ℕ) : ℤ) by omega,
    zpow_natCast]
  push_cast; ring

theorem two_zpow_mul_two_zpow_sub (e : ℤ) : (2 : ℚ) ^ e * 2 ^ (52 - e) = 2 ^ 52 := by
  rw [← zpow_add₀ two_ne_zero, add_sub_cancel]; norm_num

/-- The binade of a positive value: `2 ^ log x ≤ x < 2 ^ (log x + 1)`. -/
theorem mem_binade_log {x : ℚ} (hx : 0 < x) :
    (2 : ℚ) ^ Int.log 2 x ≤ x ∧ x < 2 ^ (Int.log 2 x + 1) :=
  ⟨by exact_mod_cast Int.zpow_log_le_self (b := 2) (by norm_num) hx,
    by exact_mod_cast Int.lt_zpow_succ_log_self (b := 2) (by norm_num) x⟩

/-- So the value `fl` rounds, `x * 2 ^ (52 - log x)`, lies in `[2 ^ 52, 2 ^ 53)`. -/
theorem scaled_mem {x : ℚ} (hx : 0 < x) :
    (2 : ℚ) ^ 52 ≤ x * 2 ^ (52 - Int.log 2 x) ∧ x * 2 ^ (52 - Int.log 2 x) < 2 ^ 53 := by
  have hpow := zpow_pos (two_pos : (0 : ℚ) < 2) (52 - Int.log 2 x)
  obtain ⟨hlo, hhi⟩ := mem_binade_log hx
  refine ⟨two_zpow_mul_two_zpow_sub (Int.log 2 x) ▸ mul_le_mul_of_nonneg_right hlo hpow.le, ?_⟩
  calc x * 2 ^ (52 - Int.log 2 x) < 2 ^ (Int.log 2 x + 1) * 2 ^ (52 - Int.log 2 x) :=
        mul_lt_mul_of_pos_right hhi hpow
    _ = 2 ^ 53 := by
        rw [← zpow_add₀ two_ne_zero, show Int.log 2 x + 1 + (52 - Int.log 2 x) = 53 by ring]
        norm_num

/-- The scaled significand of `fl x` lies in `[2 ^ 52, 2 ^ 53]`. -/
theorem roundHalfEven_mem {x : ℚ} (hx : 0 < x) :
    2 ^ 52 ≤ roundHalfEven (x * 2 ^ (52 - Int.log 2 x)) ∧
      roundHalfEven (x * 2 ^ (52 - Int.log 2 x)) ≤ 2 ^ 53 := by
  obtain ⟨h₁, h₂⟩ := scaled_mem hx
  exact ⟨le_roundHalfEven_of_le (by exact_mod_cast h₁),
    roundHalfEven_le_of_le ((by norm_num : (0 : ℚ) ≤ 2 ^ 52).trans h₁) (by exact_mod_cast h₂.le)⟩

/-- A `53`-bit significand at any exponent is a float. -/
theorem fl_significand {m : ℕ} (h₁ : 2 ^ 52 ≤ m) (h₂ : m < 2 ^ 53) (e : ℤ) :
    fl (m / 2 ^ (52 - e)) = m / 2 ^ (52 - e) := by
  have hpow : (0 : ℚ) < 2 ^ (52 - e) := zpow_pos two_pos _
  have hm₁ : (2 : ℚ) ^ 52 ≤ m := by exact_mod_cast h₁
  have hm₂ : (m : ℚ) < 2 ^ 53 := by exact_mod_cast h₂
  have hb₁ : (2 : ℚ) ^ e ≤ m / 2 ^ (52 - e) := by
    rw [le_div_iff₀ hpow, two_zpow_mul_two_zpow_sub]; exact hm₁
  have hb₂ : (m : ℚ) / 2 ^ (52 - e) < 2 ^ (e + 1) := by
    rw [div_lt_iff₀ hpow, zpow_add_one₀ two_ne_zero, mul_right_comm, two_zpow_mul_two_zpow_sub]
    linarith
  rw [fl_eq_of_mem_binade hb₁ hb₂, div_mul_cancel₀ _ hpow.ne', roundHalfEven_natCast]

theorem fl_fl_of_pos {x : ℚ} (hx : 0 < x) : fl (fl x) = fl x := by
  obtain ⟨h₁, h₂⟩ := roundHalfEven_mem hx
  rw [fl_of_pos hx]
  rcases h₂.lt_or_eq with h₂ | h₂
  · exact fl_significand h₁ h₂ _
  · -- the significand rounded up to `2 ^ 53`: the value is `2 ^ 52` at the next exponent
    have h : ((2 ^ 53 : ℕ) : ℚ) / 2 ^ (52 - Int.log 2 x) =
        ((2 ^ 52 : ℕ) : ℚ) / 2 ^ (52 - (Int.log 2 x + 1)) := by
      rw [show (52 : ℤ) - Int.log 2 x = 52 - (Int.log 2 x + 1) + 1 by ring,
        zpow_add_one₀ two_ne_zero]
      rw [mul_comm, ← div_div]; norm_num
    rw [h₂, h]
    exact fl_significand le_rfl (by norm_num) _

/-- **Rounding a float changes nothing.** -/
theorem fl_fl (x : ℚ) : fl (fl x) = fl x := by
  rcases lt_trichotomy x 0 with hx | rfl | hx
  · rw [← neg_neg x, fl_neg (-x), fl_neg, fl_fl_of_pos (neg_pos.2 hx)]
  · simp
  · exact fl_fl_of_pos hx

theorem log_mul_two_zpow {x : ℚ} (hx : 0 < x) (k : ℤ) : Int.log 2 (x * 2 ^ k) = Int.log 2 x + k := by
  have hk : (0 : ℚ) < 2 ^ k := zpow_pos two_pos k
  obtain ⟨hlo, hhi⟩ := mem_binade_log hx
  refine log_eq_of_mem_binade ?_ ?_
  · rw [zpow_add₀ two_ne_zero]; exact mul_le_mul_of_nonneg_right hlo hk.le
  · rw [show Int.log 2 x + k + 1 = Int.log 2 x + 1 + k by ring, zpow_add₀ two_ne_zero]
    exact mul_lt_mul_of_pos_right hhi hk

theorem fl_mul_two_zpow_of_pos {x : ℚ} (hx : 0 < x) (k : ℤ) : fl (x * 2 ^ k) = fl x * 2 ^ k := by
  have hk : (0 : ℚ) < 2 ^ k := zpow_pos two_pos k
  rw [fl_of_pos (mul_pos hx hk), fl_of_pos hx, log_mul_two_zpow hx,
    show 52 - (Int.log 2 x + k) = 52 - Int.log 2 x - k by ring, zpow_sub₀ two_ne_zero, mul_assoc,
    mul_div_cancel₀ _ hk.ne']
  field_simp

/-- **Scaling by a power of two commutes with rounding.** -/
theorem fl_mul_two_zpow (x : ℚ) (k : ℤ) : fl (x * 2 ^ k) = fl x * 2 ^ k := by
  rcases lt_trichotomy x 0 with hx | rfl | hx
  · simpa only [neg_mul, fl_neg, neg_inj] using fl_mul_two_zpow_of_pos (neg_pos.2 hx) k
  · simp
  · exact fl_mul_two_zpow_of_pos hx k

/-- Rounding keeps a value in `[0, n]` for a natural number `n` below `2 ^ 53`. -/
theorem fl_le_natCast {x : ℚ} {n : ℕ} (hx : 0 ≤ x) (h : x ≤ n) (hn : n < 2 ^ 53) : fl x ≤ n := by
  rcases hx.eq_or_lt with rfl | hx
  · rw [fl_zero]; positivity
  have hpos : 0 < n := by exact_mod_cast hx.trans_le h
  have hlog : Int.log 2 x ≤ 52 := by
    have h₁ := Int.log_mono_right (b := 2) hx h
    rw [Int.log_natCast] at h₁
    have h₂ := Nat.log_lt_of_lt_pow hpos.ne' hn
    omega
  obtain ⟨j, hj⟩ : ∃ j : ℕ, 52 - Int.log 2 x = j := ⟨(52 - Int.log 2 x).toNat, by omega⟩
  rw [fl_of_pos hx, hj, zpow_natCast, div_le_iff₀ (by positivity)]
  have h₁ := roundHalfEven_le_of_le (q := x * 2 ^ j) (n := n * 2 ^ j) (by positivity)
    (by push_cast; exact mul_le_mul_of_nonneg_right h (by positivity))
  exact_mod_cast h₁

/-- Rounding never falls below the power of two under the value. -/
theorem two_pow_log_le_fl {x : ℚ} (hx : 0 < x) : (2 : ℚ) ^ Int.log 2 x ≤ fl x := by
  rw [fl_of_pos hx, le_div_iff₀ (zpow_pos two_pos _), two_zpow_mul_two_zpow_sub]
  exact_mod_cast (roundHalfEven_mem hx).1

/-- A whole number up to `2 ^ 53` is at most the float of `n` just when it is at most `n`: below
`2 ^ 53` the float is `n`, and above it rounding stays at `2 ^ 53` or over. -/
theorem natCast_le_fl_iff {t n : ℕ} (ht : t ≤ 2 ^ 53) : (t : ℚ) ≤ fl n ↔ t ≤ n := by
  rcases lt_or_le n (2 ^ 53) with hn | hn
  · rw [fl_natCast hn]; exact Nat.cast_le
  have hpos : (0 : ℚ) < n := by exact_mod_cast (Nat.two_pow_pos 53).trans_le hn
  have hlog : ((53 : ℕ) : ℤ) ≤ Int.log 2 (n : ℚ) := by
    rw [Int.log_natCast]; exact_mod_cast Nat.le_log_of_pow_le (by norm_num) hn
  have h53 : (2 : ℚ) ^ ((53 : ℕ) : ℤ) ≤ fl n :=
    (zpow_le_zpow_right₀ one_le_two hlog).trans (two_pow_log_le_fl hpos)
  rw [zpow_natCast] at h53
  exact iff_of_true ((Nat.cast_le.2 ht).trans (by exact_mod_cast h53)) (ht.trans hn)

theorem abs_fl_sub_le_of_pos {x : ℚ} (hx : 0 < x) : |fl x - x| ≤ x / 2 ^ 53 := by
  have hpow : (0 : ℚ) < 2 ^ (52 - Int.log 2 x) := zpow_pos two_pos _
  have h := abs_roundHalfEven_sub_le (mul_nonneg hx.le hpow.le)
  rw [fl_of_pos hx, show (roundHalfEven (x * 2 ^ (52 - Int.log 2 x)) : ℚ) / 2 ^ (52 - Int.log 2 x) - x =
      ((roundHalfEven (x * 2 ^ (52 - Int.log 2 x)) : ℚ) - x * 2 ^ (52 - Int.log 2 x)) /
        2 ^ (52 - Int.log 2 x) by rw [sub_div, mul_div_cancel_right₀ _ hpow.ne'],
    abs_div, abs_of_pos hpow, div_le_div_iff₀ hpow (by norm_num)]
  calc |(roundHalfEven (x * 2 ^ (52 - Int.log 2 x)) : ℚ) - x * 2 ^ (52 - Int.log 2 x)| * 2 ^ 53
      ≤ 1 / 2 * 2 ^ 53 := mul_le_mul_of_nonneg_right h (by norm_num)
    _ = 2 ^ 52 := by norm_num
    _ ≤ x * 2 ^ (52 - Int.log 2 x) := (scaled_mem hx).1

/-- **One rounding errs by `2 ^ -53` of the value at most.** -/
theorem abs_fl_sub_le (x : ℚ) : |fl x - x| ≤ |x| / 2 ^ 53 := by
  rcases lt_trichotomy x 0 with hx | rfl | hx
  · have h := abs_fl_sub_le_of_pos (neg_pos.2 hx)
    rw [fl_neg, show -fl x - -x = -(fl x - x) by ring, abs_neg] at h
    rwa [abs_of_neg hx]
  · simp
  · rw [abs_of_pos hx]; exact abs_fl_sub_le_of_pos hx

/-- So rounding a non-negative value raises it by a factor `1 + 2 ^ -53` at most. -/
theorem fl_le_mul_of_nonneg {x : ℚ} (hx : 0 ≤ x) : fl x ≤ x * (1 + 1 / 2 ^ 53) := by
  have h := (abs_le.1 (abs_fl_sub_le x)).2
  rw [abs_of_nonneg hx] at h
  linarith

/-- An integer in `[0, 2 ^ 53)` is a float. -/
theorem fl_intCast {i : ℤ} (h₀ : 0 ≤ i) (h : i < 2 ^ 53) : fl i = i := by
  have hi : ((i : ℤ) : ℚ) = ((i.toNat : ℕ) : ℚ) := by exact_mod_cast (Int.toNat_of_nonneg h₀).symm
  rw [hi, fl_natCast (by omega)]

@[simp] theorem fl_one : fl 1 = 1 := by exact_mod_cast fl_natCast (n := 1) (by norm_num)

end OpenKCloud
