import Mathlib.Data.Rat.Floor
/-
# Python's fixed-point formatting

`format(x, ".pf")` (and `f"{x:.pf}"`) prints `x` rounded to `p` places, half to even, with the
sign of `x` kept on a result that rounds to zero.  CPython rounds the exact binary value of the
float, so `formatFixed` takes that value: the callers pass the float the code computes (`fl`, in
`Float.lean`), not the real number it stands for.

The MLPerf runner prints its figures with it (`Mlperf/Logs.lean`), and the data observer its
sizes (`DataObserver/Listing.lean`).

* `roundHalfEven_eq`, `roundHalfEven_add_half`: a value within half of `n` rounds to `n`, a tie
  going to the even side;
* `abs_roundHalfEven_sub_le`: so rounding moves a value by a half at most, and never past a
  whole number on either side (`roundHalfEven_le_of_le`, `le_roundHalfEven_of_le`).
-/

namespace OpenKCloud

/-- Round half to even, of a non-negative rational. -/
def roundHalfEven (q : ℚ) : ℕ :=
  let n := ⌊q⌋.toNat
  if q - n < 1 / 2 then n else if 1 / 2 < q - n then n + 1 else if n % 2 = 0 then n else n + 1

/-- `f"{x:.{p}f}"`. -/
def formatFixed (p : ℕ) (x : ℚ) : String :=
  let n := roundHalfEven (|x| * 10 ^ p)
  let frac := toString (n % 10 ^ p)
  (if x < 0 then "-" else "") ++ toString (n / 10 ^ p) ++
    (if p = 0 then "" else "." ++ String.mk (List.replicate (p - frac.length) '0') ++ frac)

theorem toNat_floor_of_mem {q : ℚ} {n : ℕ} (h₁ : (n : ℚ) ≤ q) (h₂ : q < n + 1) :
    ⌊q⌋.toNat = n := by
  rw [Int.floor_eq_iff.2 ⟨by exact_mod_cast h₁, by exact_mod_cast h₂⟩, Int.toNat_natCast]

/-- **Rounding to the nearest.**  A value within half of `n` rounds to `n`; at `n - 1/2` it
does so when `n` is even. -/
theorem roundHalfEven_eq {q : ℚ} {n : ℕ} (hq : 0 ≤ q) (h₁ : (n : ℚ) - 1 / 2 ≤ q)
    (h₂ : q < n + 1 / 2) (htie : q = n - 1 / 2 → n % 2 = 0) : roundHalfEven q = n := by
  unfold roundHalfEven
  rcases lt_or_le q n with hlt | hle
  · -- below `n`: the floor is `n - 1`, and the fractional part is at least a half
    obtain ⟨m, rfl⟩ : ∃ m, n = m + 1 :=
      Nat.exists_eq_succ_of_ne_zero (by rintro rfl; simp at hlt; linarith)
    push_cast at h₁ hlt htie ⊢
    rw [toNat_floor_of_mem (by linarith) hlt]
    rw [if_neg (by linarith)]
    split_ifs with h₃ h₄
    · rfl
    · exact absurd (htie (by linarith)) (by omega)
    · rfl
  · rw [toNat_floor_of_mem hle (by linarith), if_pos (by linarith)]

/-- A tie above an even number rounds down to it. -/
theorem roundHalfEven_add_half {n : ℕ} (hn : n % 2 = 0) : roundHalfEven (n + 1 / 2) = n := by
  rw [roundHalfEven, toNat_floor_of_mem (n := n) (by linarith) (by linarith)]
  simp only [add_sub_cancel_left, lt_irrefl, if_false, hn, if_true]

/-- **Rounding moves a value by a half at most.** -/
theorem abs_roundHalfEven_sub_le {q : ℚ} (hq : 0 ≤ q) : |(roundHalfEven q : ℚ) - q| ≤ 1 / 2 := by
  -- `⌊q⌋` and `⌊q⌋ + 1` are both within a half of `q` where the fractional part picks them
  obtain ⟨h₁, h₂⟩ : (⌊q⌋.toNat : ℚ) ≤ q ∧ q < ⌊q⌋.toNat + 1 := by
    rw [show ((⌊q⌋.toNat : ℕ) : ℚ) = ⌊q⌋ by exact_mod_cast Int.toNat_of_nonneg (Int.floor_nonneg.2 hq)]
    exact ⟨Int.floor_le q, Int.lt_floor_add_one q⟩
  rw [abs_le]
  simp only [roundHalfEven]
  split_ifs <;> push_cast <;> constructor <;> linarith

/-- Rounding never passes a whole number above the value. -/
theorem roundHalfEven_le_of_le {q : ℚ} {n : ℕ} (hq : 0 ≤ q) (h : q ≤ n) : roundHalfEven q ≤ n := by
  have h₁ : (roundHalfEven q : ℚ) < n + 1 := by
    linarith [(abs_le.1 (abs_roundHalfEven_sub_le hq)).2]
  exact Nat.lt_succ_iff.1 (by exact_mod_cast h₁)

/-- Rounding never falls below a whole number under the value. -/
theorem le_roundHalfEven_of_le {q : ℚ} {n : ℕ} (h : (n : ℚ) ≤ q) : n ≤ roundHalfEven q := by
  have h₁ : (n : ℚ) < roundHalfEven q + 1 := by
    linarith [(abs_le.1 (abs_roundHalfEven_sub_le ((Nat.cast_nonneg n).trans h))).1]
  exact Nat.lt_succ_iff.1 (by exact_mod_cast h₁)

@[simp] theorem roundHalfEven_natCast (n : ℕ) : roundHalfEven n = n :=
  le_antisymm (roundHalfEven_le_of_le (Nat.cast_nonneg n) le_rfl) (le_roundHalfEven_of_le le_rfl)

end OpenKCloud
