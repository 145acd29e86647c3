import Mathlib.Data.List.Basic
/-
# Code that raises

A Python function that may raise is modelled in `Except`: `.error` is the exception it
raises, `.ok` what it returns.  Two facts every module that models such code uses:

* `exists_of_bind_eq_ok`: a computation that returned ran each of its steps to a value;
* `foldlM_invariant`: a loop that returned kept every property each of its steps keeps.
-/

namespace OpenKCloud

theorem exists_of_bind_eq_ok {ε α β : Type} {e : Except ε α} {f : α → Except ε β} {b : β}
    (h : (e >>= f) = .ok b) : ∃ a, e = .ok a ∧ f a = .ok b := by
  cases e with
  | error => cases h
  | ok a => exact ⟨a, rfl, h⟩

/-- A property every step of a loop that may raise keeps holds after the whole loop, when it
does not raise. -/
theorem foldlM_invariant {ε α β : Type} {f : β → α → Except ε β} {P : β → Prop} {l : List α}
    {b b' : β} (hstep : ∀ b a b', a ∈ l → P b → f b a = .ok b' → P b') (hb : P b)
    (h : l.foldlM f b = .ok b') : P b' := by
  induction l generalizing b with
  | nil => cases h; exact hb
  | cons a l ih =>
    rw [List.foldlM_cons] at h
    obtain ⟨b₁, ha, h⟩ := exists_of_bind_eq_ok h
    exact ih (fun b a b' hm => hstep b a b' (List.mem_cons_of_mem _ hm))
      (hstep b a b₁ (List.mem_cons_self _ _) hb ha) h

end OpenKCloud
