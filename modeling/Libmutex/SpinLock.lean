import Libmutex.Permits

/-!
# The spin lock

`SpinLock` is an `AtomicBool` in front of the data; each `compare_exchange` and each `store` is one
atomic step, and a thread's live guards are counted beside its position in the code. Through the
guards alone the flag is set exactly when one guard is live, and the lock refines the write half of
`Permits`. The public `unlock` clears the flag under another thread's guard.
-/

namespace Libmutex

set_option autoImplicit false
set_option linter.unusedSectionVars false

namespace SpinLock

/-- `AtomicBool::compare_exchange(current, new)` on a cell holding `cell`: what the cell holds
afterwards, and `Ok` or `Err` with the value it held. -/
def compareExchange (cell current new : Bool) : Bool × Except Bool Bool :=
  if cell = current then (new, .ok cell) else (cell, .error cell)

/-- `SpinLock::try_lock`: the flag it leaves and whether it returns a guard. -/
def tryLock (locked : Bool) : Bool × Bool :=
  let r := compareExchange locked false true
  (r.1, r.2.isOk)

/-- `SpinLock::unlock`: the flag its `store(false)` leaves. -/
def unlock : Bool := false

theorem tryLock_eq (locked : Bool) : tryLock locked = (true, !locked) := by
  cases locked <;> rfl

/-- Where a thread is: outside the lock's code, in the loop of `lock`, or inside `fmt` holding
the guard its `try_lock` returned. -/
inductive Pc
  | idle
  | spinning
  | formatting
  deriving DecidableEq, Repr

/-- The `SpinGuard`s a thread holds, and where it is. -/
structure Thread where
  guards : ℕ
  pc : Pc
  deriving DecidableEq, Repr

/-- The flag and the threads using the lock. -/
structure Sys (τ : Type) where
  locked : Bool
  threads : τ → Thread

namespace Sys
variable {τ : Type} [DecidableEq τ]

/-- `SpinLock::new`. -/
def init : Sys τ := ⟨false, fun _ => ⟨0, .idle⟩⟩

def setPc (s : Sys τ) (t : τ) (pc : Pc) : Sys τ :=
  { s with threads := Function.update s.threads t { s.threads t with pc } }

/-- Thread `t` runs `try_lock`, and goes on at `won` with the guard or at `lost` without it. -/
def tryLock (s : Sys τ) (t : τ) (won lost : Pc) : Sys τ :=
  let r := SpinLock.tryLock s.locked
  { locked := r.1
    threads := Function.update s.threads t
      (if r.2 then ⟨(s.threads t).guards + 1, won⟩ else { s.threads t with pc := lost }) }

/-- A call of `SpinLock::unlock`, which changes nothing but the flag. -/
def unlock (s : Sys τ) : Sys τ := { s with locked := SpinLock.unlock }

/-- `SpinGuard::drop` by thread `t`, which calls `unlock`. -/
def dropGuard (s : Sys τ) (t : τ) : Sys τ :=
  { locked := SpinLock.unlock
    threads := Function.update s.threads t ⟨(s.threads t).guards - 1, .idle⟩ }

/-- One atomic step of one thread. An idle thread calls `try_lock`, enters `lock`, calls `unlock`
(only when `pubUnlock`), drops a guard, or starts formatting; a thread in `lock` makes one more
`compare_exchange`; a formatting thread drops its guard and returns. -/
inductive Step (pubUnlock : Bool) : Sys τ → Sys τ → Prop
  | tryLock {s : Sys τ} (t : τ) :
      (s.threads t).pc = .idle → Step pubUnlock s (s.tryLock t .idle .idle)
  | lock {s : Sys τ} (t : τ) : (s.threads t).pc = .idle → Step pubUnlock s (s.setPc t .spinning)
  | spin {s : Sys τ} (t : τ) :
      (s.threads t).pc = .spinning → Step pubUnlock s (s.tryLock t .idle .spinning)
  | unlock {s : Sys τ} (t : τ) :
      pubUnlock = true → (s.threads t).pc = .idle → Step pubUnlock s s.unlock
  | drop {s : Sys τ} (t : τ) :
      (s.threads t).pc = .idle → 0 < (s.threads t).guards → Step pubUnlock s (s.dropGuard t)
  | fmt {s : Sys τ} (t : τ) :
      (s.threads t).pc = .idle → Step pubUnlock s (s.tryLock t .formatting .idle)
  | fmtEnd {s : Sys τ} (t : τ) :
      (s.threads t).pc = .formatting → Step pubUnlock s (s.dropGuard t)

variable [Fintype τ]

/-- States reached from `new`; without `pubUnlock` the lock is used through its guards only. -/
def Reachable (pubUnlock : Bool) (s : Sys τ) : Prop :=
  Relation.ReflTransGen (Step pubUnlock) init s

/-- The guards live across all threads. -/
def liveGuards (s : Sys τ) : ℕ := ∑ t, (s.threads t).guards

/-- A guard is a write permit. -/
def permits (s : Sys τ) : Permits τ := ⟨fun _ => 0, fun t => (s.threads t).guards⟩

section Frame
variable {s : Sys τ} {t u : τ} {won lost pc : Pc}

theorem tryLock_of_unlocked (h : s.locked = false) :
    s.tryLock t won lost =
      ⟨true, Function.update s.threads t ⟨(s.threads t).guards + 1, won⟩⟩ := by
  simp [tryLock, tryLock_eq, h]

theorem tryLock_of_locked (h : s.locked = true) : s.tryLock t won lost = s.setPc t lost := by
  simp [tryLock, setPc, tryLock_eq, h]

@[simp] theorem locked_setPc : (s.setPc t pc).locked = s.locked := rfl

@[simp] theorem locked_unlock : s.unlock.locked = false := rfl

@[simp] theorem locked_dropGuard : (s.dropGuard t).locked = false := rfl

@[simp] theorem threads_unlock : s.unlock.threads = s.threads := rfl

theorem pc_setPc : ((s.setPc t pc).threads u).pc = if u = t then pc else (s.threads u).pc := by
  rcases eq_or_ne u t with rfl | h <;> simp [setPc, *]

theorem guards_setPc : ((s.setPc t pc).threads u).guards = (s.threads u).guards := by
  rcases eq_or_ne u t with rfl | h <;> simp [setPc, *]

@[simp] theorem liveGuards_setPc : (s.setPc t pc).liveGuards = s.liveGuards := by
  simp only [liveGuards, guards_setPc]

@[simp] theorem locked_tryLock : (s.tryLock t won lost).locked = true := by
  simp [tryLock, tryLock_eq]

theorem liveGuards_tryLock_of_unlocked (h : s.locked = false) :
    (s.tryLock t won lost).liveGuards + (s.threads t).guards =
      s.liveGuards + ((s.threads t).guards + 1) := by
  rw [tryLock_of_unlocked h]
  exact sum_update s.threads Thread.guards t _

theorem liveGuards_dropGuard :
    (s.dropGuard t).liveGuards + (s.threads t).guards =
      s.liveGuards + ((s.threads t).guards - 1) :=
  sum_update s.threads Thread.guards t _

theorem guards_le_liveGuards : (s.threads t).guards ≤ s.liveGuards := le_sum s.threads _ t

theorem permits_tryLock_of_unlocked (h : s.locked = false) :
    (s.tryLock t won lost).permits = s.permits.addWrite t := by
  rw [tryLock_of_unlocked h]
  ext u <;> rcases eq_or_ne u t with rfl | h <;> simp [permits, Permits.addWrite, *]

@[simp] theorem permits_setPc : (s.setPc t pc).permits = s.permits := by
  ext u <;> simp [permits, guards_setPc]

theorem permits_dropGuard : (s.dropGuard t).permits = s.permits.removeWrite t := by
  ext u <;> rcases eq_or_ne u t with rfl | h <;> simp [permits, dropGuard, Permits.removeWrite, *]

end Frame

/-- What the guards keep: the flag is set exactly when one guard is live, and a thread formatting
holds the guard it formats with. -/
structure Inv (s : Sys τ) : Prop where
  guards_eq : s.liveGuards = s.locked.toNat
  formatting : ∀ t, (s.threads t).pc = .formatting → 0 < (s.threads t).guards

section Invariant
variable {s s' : Sys τ} {t : τ} {won lost pc : Pc}

theorem inv_init : (init : Sys τ).Inv := ⟨by simp [liveGuards, init], by simp [init]⟩

theorem Inv.setPc (hs : s.Inv) (hpc : pc ≠ .formatting) : (s.setPc t pc).Inv := by
  refine ⟨by simpa using hs.guards_eq, fun u hu => ?_⟩
  rw [pc_setPc] at hu
  rw [guards_setPc]
  split at hu
  · exact absurd hu hpc
  · exact hs.formatting u hu

theorem Inv.liveGuards_le_one (hs : s.Inv) : s.liveGuards ≤ 1 :=
  hs.guards_eq ▸ Bool.toNat_le s.locked

theorem Inv.tryLock (hs : s.Inv) (hlost : lost ≠ .formatting) : (s.tryLock t won lost).Inv := by
  cases hl : s.locked
  · have hsum : (s.tryLock t won lost).liveGuards + _ = _ := liveGuards_tryLock_of_unlocked hl
    have h0 : s.liveGuards = 0 := by simpa [hl] using hs.guards_eq
    refine ⟨by rw [locked_tryLock]; simp only [Bool.toNat_true]; omega, fun u hu => ?_⟩
    rw [tryLock_of_unlocked hl] at hu ⊢
    rcases eq_or_ne u t with rfl | h
    · simp
    · simp only [Function.update_noteq h] at hu ⊢
      exact hs.formatting u hu
  · rw [tryLock_of_locked hl]
    exact hs.setPc hlost

theorem Inv.dropGuard (hs : s.Inv) (hg : 0 < (s.threads t).guards) : (s.dropGuard t).Inv := by
  have hsum := liveGuards_dropGuard (s := s) (t := t)
  have := guards_le_liveGuards (s := s) (t := t)
  have := hs.liveGuards_le_one
  refine ⟨by rw [locked_dropGuard, Bool.toNat_false]; omega, fun u hu => ?_⟩
  rcases eq_or_ne u t with rfl | h
  · simp [Sys.dropGuard] at hu
  · simp only [Sys.dropGuard, Function.update_noteq h] at hu ⊢
    exact hs.formatting u hu

theorem Step.inv (h : Step false s s') (hs : s.Inv) : s'.Inv := by
  cases h with
  | tryLock t _ => exact hs.tryLock (by decide)
  | lock t _ => exact hs.setPc (by decide)
  | spin t _ => exact hs.tryLock (by decide)
  | unlock t h _ => exact absurd h (by decide)
  | drop t _ hg => exact hs.dropGuard hg
  | fmt t _ => exact hs.tryLock (by decide)
  | fmtEnd t hpc => exact hs.dropGuard (hs.formatting t hpc)

theorem Inv.refines_tryLock (hs : s.Inv) :
    Permits.Step s.permits (s.tryLock t won lost).permits ∨
      (s.tryLock t won lost).permits = s.permits := by
  cases hl : s.locked
  · rw [permits_tryLock_of_unlocked hl]
    refine .inl (.acquireWrite t ?_ (by simp [permits, Permits.totalReads]))
    simpa [hl] using hs.guards_eq
  · simp [tryLock_of_locked hl]

/-- A step through the guards is a step of the abstract lock, or leaves its permits alone. -/
theorem Step.refines (h : Step false s s') (hs : s.Inv) :
    Permits.Step s.permits s'.permits ∨ s'.permits = s.permits := by
  cases h with
  | tryLock t _ => exact hs.refines_tryLock
  | lock t _ => exact .inr permits_setPc
  | spin t _ => exact hs.refines_tryLock
  | unlock t h _ => exact absurd h (by decide)
  | drop t _ hg => exact .inl (by rw [permits_dropGuard]; exact .releaseWrite t hg)
  | fmt t _ => exact hs.refines_tryLock
  | fmtEnd t hpc =>
    exact .inl (by rw [permits_dropGuard]; exact .releaseWrite t (hs.formatting t hpc))

/-- Every run through the guards keeps `Inv` and is a run of the abstract lock. -/
theorem Reachable.refines (h : s.Reachable false) : s.Inv ∧ s.permits.Reachable :=
  ReflTransGen.invariant (P := fun s : Sys τ => s.Inv ∧ s.permits.Reachable) (r := Step false) h
    ⟨inv_init, .refl⟩
    fun _ _ hxy ⟨hx, hp⟩ => ⟨hxy.inv hx, (hxy.refines hx).elim hp.tail fun heq => heq ▸ hp⟩

/-- Through the guards alone at most one guard is live and the flag is set exactly when one is,
so `try_lock` returns a guard exactly when none is live; the guards are the write permits of a
run of the abstract lock. -/
theorem guards_exclusive (h : s.Reachable false) :
    s.liveGuards ≤ 1 ∧ (s.locked = true ↔ 0 < s.liveGuards) ∧
      ((SpinLock.tryLock s.locked).2 = true ↔ s.liveGuards = 0) ∧ s.permits.Reachable := by
  obtain ⟨hs, hp⟩ := h.refines
  rw [tryLock_eq, hs.guards_eq]
  cases s.locked <;> simp [hp]

/-- Thread `true` holds the guard and thread `false` spins in `lock`, its `try_lock` failing. -/
theorem guards_exclusive_beside_spinner :
    let s := (((init : Sys Bool).tryLock true .idle .idle).setPc false .spinning).tryLock
      false .idle .spinning
    s.Reachable false ∧ s.liveGuards ≤ 1 ∧ (s.locked = true ↔ 0 < s.liveGuards) ∧
      ((SpinLock.tryLock s.locked).2 = true ↔ s.liveGuards = 0) ∧ s.permits.Reachable :=
  have hrun : ((((init : Sys Bool).tryLock true .idle .idle).setPc false .spinning).tryLock
      false .idle .spinning).Reachable false :=
    .tail (.tail (.single (Step.tryLock true rfl)) (Step.lock false rfl)) (Step.spin false rfl)
  ⟨hrun, guards_exclusive hrun⟩

/-- Thread `true` takes the guard; thread `false` calls the public `unlock`, which clears the flag
under that guard, and then `try_lock`, which returns a second guard beside it. -/
theorem unlock_lets_second_guard :
    (((init : Sys Bool).tryLock true .idle .idle).unlock.tryLock false .idle .idle).Reachable true ∧
      ((init : Sys Bool).tryLock true .idle .idle).unlock.locked = false ∧
      ((init : Sys Bool).tryLock true .idle .idle).unlock.liveGuards = 1 ∧
      (((init : Sys Bool).tryLock true .idle .idle).unlock.tryLock false .idle .idle).liveGuards = 2 ∧
      ¬ (((init : Sys Bool).tryLock true .idle .idle).unlock.tryLock false .idle .idle).permits.Exclusive :=
  ⟨.tail (.tail (.single (Step.tryLock true rfl)) (Step.unlock false rfl rfl))
    (Step.tryLock false rfl), rfl, by decide, by decide,
    fun h => absurd h.writes_le_one (by decide)⟩

end Invariant

end Sys

end SpinLock

end Libmutex
