import Mathlib.Algebra.Order.BigOperators.Group.Finset
import Mathlib.Logic.Relation

/-!
# Threads, per-thread totals and the `u32` reader counter

Every lock of the library is modelled as a finite family of threads `τ → Thread` beside the lock's
own state. The lock's counters are compared with totals over the threads, and a step changes one
thread at a time, so the only fact about totals needed is how `Function.update` moves them.

The moderators count readers in a `u32`. Its `+= 1` and `-= 1` are `UInt32` addition and
subtraction, which wrap; the two lemmas at the end say when they agree with `ℕ`.
-/

namespace Libmutex

set_option autoImplicit false
set_option linter.unusedSectionVars false

section Totals
variable {τ α : Type} [Fintype τ]

theorem le_sum (g : τ → α) (f : α → ℕ) (t : τ) : f (g t) ≤ ∑ u, f (g u) :=
  Finset.single_le_sum (fun u _ => Nat.zero_le (f (g u))) (Finset.mem_univ t)

variable [DecidableEq τ]

/-- Replacing one thread moves a total by the difference at that thread. -/
theorem sum_update (g : τ → α) (f : α → ℕ) (t : τ) (a : α) :
    ∑ u, f (Function.update g t a u) + f (g t) = ∑ u, f (g u) + f a := by
  simp only [Function.apply_update (fun _ => f)]
  rw [Finset.sum_update_of_mem (Finset.mem_univ t),
    Finset.sum_eq_add_sum_diff_singleton (Finset.mem_univ t) (fun u => f (g u))]
  omega

/-- Two distinct threads together count at most the total. -/
theorem add_le_sum (g : τ → α) (f : α → ℕ) {t u : τ} (h : t ≠ u) :
    f (g t) + f (g u) ≤ ∑ v, f (g v) := by
  calc f (g t) + f (g u) = ∑ v ∈ {t, u}, f (g v) := by rw [Finset.sum_pair h]
    _ ≤ ∑ v, f (g v) := Finset.sum_le_sum_of_subset (Finset.subset_univ _)

end Totals

/-- An invariant of the start kept by every step holds all along a run. -/
theorem ReflTransGen.invariant {σ : Type} {r : σ → σ → Prop} {P : σ → Prop} {a b : σ}
    (h : Relation.ReflTransGen r a b) (ha : P a) (step : ∀ x y, r x y → P x → P y) : P b := by
  induction h with
  | refl => exact ha
  | tail _ hxy ih => exact step _ _ hxy ih

section Counter
variable {r : UInt32}

theorem toNat_lt_two_pow (r : UInt32) : r.toNat < 2 ^ 32 := r.val.isLt

theorem toNat_add_mod (x y : UInt32) : (x + y).toNat = (x.toNat + y.toNat) % 2 ^ 32 := rfl

theorem ext_toNat {x y : UInt32} (h : x.toNat = y.toNat) : x = y := UInt32.eq_of_val_eq (Fin.ext h)

theorem toNat_add_one (h : r.toNat + 1 < 2 ^ 32) : (r + 1).toNat = r.toNat + 1 := by
  show (r.toNat + 1) % 2 ^ 32 = _
  omega

theorem toNat_sub_one (h : 0 < r.toNat) : (r - 1).toNat = r.toNat - 1 := by
  have := toNat_lt_two_pow r
  show (2 ^ 32 - 1 + r.toNat) % 2 ^ 32 = _
  omega

theorem eq_zero_iff_toNat : r = 0 ↔ r.toNat = 0 := ⟨fun h => h ▸ rfl, fun h => ext_toNat h⟩

theorem eq_one_iff_toNat : r = 1 ↔ r.toNat = 1 := ⟨fun h => h ▸ rfl, fun h => ext_toNat h⟩

end Counter

end Libmutex
