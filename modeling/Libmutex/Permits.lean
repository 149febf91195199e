import Libmutex.Basic

/-!
# Permits: what a reader-writer lock is for

The abstract lock every lock of the library is compared with: the read and write permits each
thread holds, handed out, taken back or converted one step at a time, and exclusive throughout.
`RwLock` carries exclusivity as a field; it is also the contract of the `std::sync::RwLock` inside
`UrwLock`.
-/

namespace Libmutex

set_option autoImplicit false
set_option linter.unusedSectionVars false

/-- The read and write permits each thread holds. -/
@[ext] structure Permits (τ : Type) where
  reads : τ → ℕ
  writes : τ → ℕ

namespace Permits
variable {τ : Type} [Fintype τ] [DecidableEq τ] (p : Permits τ) (t : τ)

def empty : Permits τ := ⟨fun _ => 0, fun _ => 0⟩

def totalReads : ℕ := ∑ u, p.reads u

def totalWrites : ℕ := ∑ u, p.writes u

def addRead : Permits τ := { p with reads := Function.update p.reads t (p.reads t + 1) }

def removeRead : Permits τ := { p with reads := Function.update p.reads t (p.reads t - 1) }

def addWrite : Permits τ := { p with writes := Function.update p.writes t (p.writes t + 1) }

def removeWrite : Permits τ := { p with writes := Function.update p.writes t (p.writes t - 1) }

/-- `p` with `t`'s permits replaced by `r` read and `w` write permits. -/
def set (r w : ℕ) : Permits τ := ⟨Function.update p.reads t r, Function.update p.writes t w⟩

theorem set_self : p.set t (p.reads t) (p.writes t) = p := by ext u <;> simp [set]

theorem set_eq_self {r w : ℕ} (hr : r = p.reads t) (hw : w = p.writes t) : p.set t r w = p := by
  rw [hr, hw, set_self]

theorem set_addRead {r w : ℕ} : (p.set t r w).addRead t = p.set t (r + 1) w := by
  ext u <;> rcases eq_or_ne u t with rfl | h <;> simp [set, addRead, *]

theorem totalWrites_set_writes {r : ℕ} : (p.set t r (p.writes t)).totalWrites = p.totalWrites := by
  simp [set, totalWrites]

theorem addRead_eq_set : p.addRead t = p.set t (p.reads t + 1) (p.writes t) := by
  ext u <;> simp [addRead, set]

theorem removeRead_eq_set : p.removeRead t = p.set t (p.reads t - 1) (p.writes t) := by
  ext u <;> simp [removeRead, set]

theorem addWrite_eq_set : p.addWrite t = p.set t (p.reads t) (p.writes t + 1) := by
  ext u <;> simp [addWrite, set]

theorem removeWrite_eq_set : p.removeWrite t = p.set t (p.reads t) (p.writes t - 1) := by
  ext u <;> simp [removeWrite, set]

theorem sum_update_nat (g : τ → ℕ) (a : ℕ) :
    ∑ u, Function.update g t a u + g t = ∑ u, g u + a := sum_update g id t a

@[simp] theorem totalReads_empty : (empty : Permits τ).totalReads = 0 := by simp [empty, totalReads]

@[simp] theorem totalWrites_empty : (empty : Permits τ).totalWrites = 0 := by
  simp [empty, totalWrites]

@[simp] theorem totalReads_addRead : (p.addRead t).totalReads = p.totalReads + 1 := by
  have := sum_update_nat t p.reads (p.reads t + 1)
  simp only [totalReads, addRead] at *
  omega

@[simp] theorem totalReads_removeRead :
    (p.removeRead t).totalReads = p.totalReads - min 1 (p.reads t) := by
  have := sum_update_nat t p.reads (p.reads t - 1)
  have := le_sum p.reads id t
  simp only [totalReads, removeRead, id] at *
  omega

@[simp] theorem totalWrites_addWrite : (p.addWrite t).totalWrites = p.totalWrites + 1 := by
  have := sum_update_nat t p.writes (p.writes t + 1)
  simp only [totalWrites, addWrite] at *
  omega

@[simp] theorem totalWrites_removeWrite :
    (p.removeWrite t).totalWrites = p.totalWrites - min 1 (p.writes t) := by
  have := sum_update_nat t p.writes (p.writes t - 1)
  have := le_sum p.writes id t
  simp only [totalWrites, removeWrite, id] at *
  omega

@[simp] theorem totalWrites_addRead : (p.addRead t).totalWrites = p.totalWrites := rfl

@[simp] theorem totalWrites_removeRead : (p.removeRead t).totalWrites = p.totalWrites := rfl

@[simp] theorem totalReads_addWrite : (p.addWrite t).totalReads = p.totalReads := rfl

@[simp] theorem totalReads_removeWrite : (p.removeWrite t).totalReads = p.totalReads := rfl

theorem reads_le_totalReads : p.reads t ≤ p.totalReads := le_sum p.reads id t

theorem writes_le_totalWrites : p.writes t ≤ p.totalWrites := le_sum p.writes id t

theorem totalWrites_pos_iff : 0 < p.totalWrites ↔ ∃ u, 0 < p.writes u := by
  simp [totalWrites, Nat.pos_iff_ne_zero, Finset.sum_eq_zero_iff]

theorem totalReads_pos_iff : 0 < p.totalReads ↔ ∃ u, 0 < p.reads u := by
  simp [totalReads, Nat.pos_iff_ne_zero, Finset.sum_eq_zero_iff]

/-- What a reader-writer lock promises of the permits it has out. -/
structure Exclusive : Prop where
  writes_le_one : p.totalWrites ≤ 1
  disjoint : p.totalWrites = 0 ∨ p.totalReads = 0

theorem exclusive_empty : (empty : Permits τ).Exclusive := ⟨by simp, by simp⟩

/-- The operations of a reader-writer lock, each under the condition that allows it. -/
inductive Step : Permits τ → Permits τ → Prop
  | acquireRead {p : Permits τ} (t : τ) : p.totalWrites = 0 → Step p (p.addRead t)
  | releaseRead {p : Permits τ} (t : τ) : 0 < p.reads t → Step p (p.removeRead t)
  | acquireWrite {p : Permits τ} (t : τ) :
      p.totalWrites = 0 → p.totalReads = 0 → Step p (p.addWrite t)
  | releaseWrite {p : Permits τ} (t : τ) : 0 < p.writes t → Step p (p.removeWrite t)
  | upgrade {p : Permits τ} (t : τ) :
      0 < p.reads t → p.totalReads = 1 → Step p ((p.removeRead t).addWrite t)
  | downgrade {p : Permits τ} (t : τ) : 0 < p.writes t → Step p ((p.removeWrite t).addRead t)

variable {p} {q : Permits τ}

theorem Step.exclusive (h : Step p q) (hp : p.Exclusive) : q.Exclusive := by
  obtain ⟨hw, hd⟩ := hp
  cases h with
  | acquireRead t h => exact ⟨by simpa using hw, by simp [h]⟩
  | releaseRead t h => exact ⟨by simpa using hw, by simp; omega⟩
  | acquireWrite t h₁ h₂ => exact ⟨by simp [h₁], by simp [h₂]⟩
  | releaseWrite t h => exact ⟨by simp; omega, by simp; omega⟩
  | upgrade t h₁ h₂ =>
    have := p.reads_le_totalReads t
    exact ⟨by simp; omega, by simp; omega⟩
  | downgrade t h =>
    have := p.writes_le_totalWrites t
    exact ⟨by simp; omega, by simp; omega⟩

/-- Permits a lock can have out, starting from none. -/
def Reachable (p : Permits τ) : Prop := Relation.ReflTransGen Step empty p

theorem Reachable.exclusive (h : p.Reachable) : p.Exclusive :=
  ReflTransGen.invariant h exclusive_empty fun _ _ hs hx => hs.exclusive hx

/-- Under exclusivity a write permit belongs to one thread, which holds only that one. -/
theorem Exclusive.sole_writer (hp : p.Exclusive) {t u : τ} (ht : 0 < p.writes t)
    (hu : 0 < p.writes u) : t = u := by
  by_contra hne
  have := add_le_sum p.writes id hne
  have := hp.writes_le_one
  simp only [totalWrites, id] at *
  omega

end Permits

/-- A reader-writer lock: its permits, exclusive by construction. -/
@[ext] structure RwLock (τ : Type) [Fintype τ] where
  permits : Permits τ
  exclusive : permits.Exclusive

namespace RwLock
variable {τ : Type} [Fintype τ] [DecidableEq τ] (l : RwLock τ) (t : τ)

/-- `RwLock::new`. -/
def new : RwLock τ := ⟨Permits.empty, Permits.exclusive_empty⟩

/-- `RwLock::read` by `t`, by its contract: the lock with `t`'s read guard out, or `none` while `t`
is blocked. `std`'s panics, past its reader limit or on a read by a holder, are outside it. -/
def read : Option (RwLock τ) :=
  if h : l.permits.totalWrites = 0 then
    some ⟨l.permits.addRead t, (Permits.Step.acquireRead t h).exclusive l.exclusive⟩
  else none

/-- `RwLock::write` by `t`. -/
def write : Option (RwLock τ) :=
  if h : l.permits.totalWrites = 0 ∧ l.permits.totalReads = 0 then
    some ⟨l.permits.addWrite t, (Permits.Step.acquireWrite t h.1 h.2).exclusive l.exclusive⟩
  else none

/-- Dropping one of `t`'s `RwLockReadGuard`s. -/
def dropRead : RwLock τ :=
  if h : 0 < l.permits.reads t then
    ⟨l.permits.removeRead t, (Permits.Step.releaseRead t h).exclusive l.exclusive⟩
  else l

/-- Dropping `t`'s `RwLockWriteGuard`. -/
def dropWrite : RwLock τ :=
  if h : 0 < l.permits.writes t then
    ⟨l.permits.removeWrite t, (Permits.Step.releaseWrite t h).exclusive l.exclusive⟩
  else l

variable {l t} {l' : RwLock τ}

theorem read_eq_some : l.read t = some l' ↔
    l.permits.totalWrites = 0 ∧ l'.permits = l.permits.addRead t := by
  unfold read
  split
  · exact ⟨fun h => ⟨‹_›, by cases h; rfl⟩, fun h => congrArg some (RwLock.ext h.2.symm)⟩
  · simp [*]

theorem read_isSome_iff : (l.read t).isSome ↔ l.permits.totalWrites = 0 := by
  unfold read
  split <;> simp [*]

theorem read_eq_none : l.read t = none ↔ 0 < l.permits.totalWrites := by
  unfold read
  split <;> simp [*, Nat.pos_iff_ne_zero]

theorem write_eq_some : l.write t = some l' ↔
    l.permits.totalWrites = 0 ∧ l.permits.totalReads = 0 ∧ l'.permits = l.permits.addWrite t := by
  unfold write
  split
  · exact ⟨fun h => ⟨‹_ ∧ _›.1, ‹_ ∧ _›.2, by cases h; rfl⟩,
      fun h => congrArg some (RwLock.ext h.2.2.symm)⟩
  · simp only [reduceCtorEq, false_iff]
    tauto

theorem write_eq_none :
    l.write t = none ↔ 0 < l.permits.totalWrites ∨ 0 < l.permits.totalReads := by
  unfold write
  split <;> simp only [reduceCtorEq, true_iff, false_iff] <;> omega

theorem permits_dropRead (h : 0 < l.permits.reads t) :
    (l.dropRead t).permits = l.permits.removeRead t := by
  simp [dropRead, h]

theorem permits_dropWrite (h : 0 < l.permits.writes t) :
    (l.dropWrite t).permits = l.permits.removeWrite t := by
  simp [dropWrite, h]

end RwLock

end Libmutex
