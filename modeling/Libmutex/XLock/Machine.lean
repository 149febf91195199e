import Libmutex.Permits
import Libmutex.XLock.ReadBiased

/-!
# `XLock<T, ReadBiased>` driven by threads through its guards

A thread is outside the lock, parked in a moderator's wait loop, or has still to issue the
notification of a release, and it holds a permit for each guard whose `locked` flag is set. A step
is one critical section of the moderator; which thread a `notify_one` picks, a spurious wakeup and
a timeout are its parameters. A timed wait may time out whenever it is parked and not yet woken.
-/

namespace Libmutex.XLock

set_option autoImplicit false
set_option linter.unusedSectionVars false

/-- The moderator calls that loop on the condition variable. -/
inductive Op
  | read
  | write
  | upgrade
  deriving DecidableEq, Repr

/-- Where a thread is, as far as the lock can tell. -/
inductive Pc
  | idle
  /-- in the wait loop of `op`; `woken` once a notification has picked it -/
  | parked (op : Op) (timed woken : Bool)
  /-- out of a release's critical section, still to notify -/
  | notifying (notify : Notify)
  deriving DecidableEq, Repr

structure Thread where
  reads : ℕ
  writes : ℕ
  pc : Pc
  deriving DecidableEq, Repr

/-- The moderator's state and every thread using the lock. -/
structure Sys (τ : Type) where
  state : ReadBiasedState
  threads : τ → Thread

/-- The pass of `op`'s wait loop. -/
def Op.pass : Op → ReadBiasedState → Option ReadBiasedState
  | .read => ReadBiased.tryRead
  | .write => ReadBiased.tryWrite
  | .upgrade => ReadBiased.tryUpgrade

/-- What returning `true` gives the caller: `XLock::try_read` and `try_write` build a guard,
`LockReadGuard::try_upgrade` clears the read guard's `locked` and returns a write guard. -/
def Op.grant : Op → Thread → Thread
  | .read, th => { th with reads := th.reads + 1 }
  | .write, th => { th with writes := th.writes + 1 }
  | .upgrade, th => { th with reads := th.reads - 1, writes := th.writes + 1 }

@[simp] theorem Op.grant_pc (op : Op) (th : Thread) : (op.grant th).pc = th.pc := by
  cases op <;> rfl

/-- Who may start `op`: an upgrade is a method of a read guard. -/
def Op.Callable : Op → Thread → Prop
  | .upgrade, th => 0 < th.reads
  | _, _ => True

/-- The abstract step a returning `op` performs. -/
def Op.permit {τ : Type} [DecidableEq τ] : Op → Permits τ → τ → Permits τ
  | .read, p, t => p.addRead t
  | .write, p, t => p.addWrite t
  | .upgrade, p, t => (p.removeRead t).addWrite t

/-- What a notification does to a thread: a parked one is marked woken. -/
def Pc.wake : Pc → Pc
  | .parked op timed _ => .parked op timed true
  | pc => pc

theorem Pc.wake_ne_unwoken {pc : Pc} {op : Op} {timed : Bool} :
    pc.wake ≠ .parked op timed false := by
  cases pc <;> simp [Pc.wake]

namespace Sys
variable {τ : Type} [Fintype τ] [DecidableEq τ]

def init : Sys τ := ⟨ReadBiased.new, fun _ => ⟨0, 0, .idle⟩⟩

def setThread (s : Sys τ) (t : τ) (th : Thread) : Sys τ :=
  { s with threads := Function.update s.threads t th }

def setPc (s : Sys τ) (t : τ) (pc : Pc) : Sys τ := s.setThread t { s.threads t with pc }

/-- `t` runs one pass of `op`'s wait loop: it returns `true` with its grant, or parks. -/
def pass (s : Sys τ) (t : τ) (op : Op) (timed : Bool) : Sys τ :=
  match op.pass s.state with
  | some st =>
    { state := st
      threads := Function.update s.threads t (op.grant { s.threads t with pc := .idle }) }
  | none => s.setPc t (.parked op timed false)

/-- `t` leaves a release's critical section holding `th`'s permits, with `r`'s state and
notification. -/
def release (s : Sys τ) (t : τ) (r : ReadBiasedState × Option Notify) (th : Thread) : Sys τ :=
  { state := r.1
    threads := Function.update s.threads t { th with pc := r.2.elim .idle .notifying } }

/-- `XLock::downgrade`, which is `pub`: the moderator's `downgrade`, then a new `LockReadGuard`. -/
def lockDowngrade (s : Sys τ) (t : τ) : Sys τ :=
  s.release t (ReadBiased.downgrade s.state) { s.threads t with reads := (s.threads t).reads + 1 }

def wakeOne (s : Sys τ) (u : τ) : Sys τ := s.setPc u (s.threads u).pc.wake

def wakeAll (s : Sys τ) : Sys τ :=
  { s with threads := fun u => { s.threads u with pc := (s.threads u).pc.wake } }

/-- One critical section run by one thread. -/
inductive Step : Sys τ → Sys τ → Prop
  /-- `XLock::try_read`, `try_write`, `LockReadGuard::try_upgrade`, or their untimed forms
  `read`, `write`, `upgrade`, entering the moderator. -/
  | call {s : Sys τ} {t : τ} (op : Op) (timed : Bool) :
      (s.threads t).pc = .idle → op.Callable (s.threads t) → Step s (s.pass t op timed)
  /-- A parked thread, woken or spuriously, takes the mutex back and re-checks. -/
  | recheck {s : Sys τ} {t : τ} {op : Op} {timed woken : Bool} :
      (s.threads t).pc = .parked op timed woken → Step s (s.pass t op timed)
  | timeout {s : Sys τ} {t : τ} {op : Op} :
      (s.threads t).pc = .parked op true false → Step s (s.setPc t .idle)
  /-- `LockReadGuard::drop`. -/
  | dropRead {s : Sys τ} {t : τ} : (s.threads t).pc = .idle → 0 < (s.threads t).reads →
      Step s (s.release t (ReadBiased.readUnlock s.state)
        { s.threads t with reads := (s.threads t).reads - 1 })
  /-- `LockWriteGuard::drop`. -/
  | dropWrite {s : Sys τ} {t : τ} : (s.threads t).pc = .idle → 0 < (s.threads t).writes →
      Step s (s.release t (ReadBiased.writeUnlock s.state)
        { s.threads t with writes := (s.threads t).writes - 1 })
  /-- `LockWriteGuard::downgrade`: clear `locked`, then `XLock::downgrade`. -/
  | downgrade {s : Sys τ} {t : τ} : (s.threads t).pc = .idle → 0 < (s.threads t).writes →
      Step s ((s.setThread t { s.threads t with writes := (s.threads t).writes - 1 }).lockDowngrade t)
  | notifyOne {s : Sys τ} {t u : τ} {op : Op} {timed : Bool} :
      (s.threads t).pc = .notifying .one → (s.threads u).pc = .parked op timed false →
      Step s ((s.wakeOne u).setPc t .idle)
  | notifyNone {s : Sys τ} {t : τ} : (s.threads t).pc = .notifying .one →
      (∀ u op timed, (s.threads u).pc ≠ .parked op timed false) → Step s (s.setPc t .idle)
  | notifyAll {s : Sys τ} {t : τ} :
      (s.threads t).pc = .notifying .all → Step s (s.wakeAll.setPc t .idle)

/-- The permits the threads hold, for the abstract lock. -/
def permits (s : Sys τ) : Permits τ := ⟨fun t => (s.threads t).reads, fun t => (s.threads t).writes⟩

def totalReads (s : Sys τ) : ℕ := s.permits.totalReads

def totalWrites (s : Sys τ) : ℕ := s.permits.totalWrites

/-- The read permits out fit in the `u32` counter. -/
def Fits (s : Sys τ) : Prop := s.totalReads < 2 ^ 32

instance (s : Sys τ) : Decidable s.Fits := inferInstanceAs (Decidable (s.totalReads < 2 ^ 32))

section Frame
variable {s : Sys τ} {t u v : τ} {th : Thread} {pc : Pc}

@[simp] theorem state_setThread : (s.setThread t th).state = s.state := rfl

@[simp] theorem state_setPc : (s.setPc t pc).state = s.state := rfl

@[simp] theorem state_wakeOne : (s.wakeOne u).state = s.state := rfl

@[simp] theorem state_wakeAll : s.wakeAll.state = s.state := rfl

@[simp] theorem state_release {r : ReadBiasedState × Option Notify} :
    (s.release t r th).state = r.1 := rfl

@[simp] theorem state_lockDowngrade :
    (s.lockDowngrade t).state = (ReadBiased.downgrade s.state).1 :=
  rfl

theorem threads_setThread : (s.setThread t th).threads u = if u = t then th else s.threads u :=
  Function.update_apply s.threads t th u

theorem threads_setPc_of_ne (h : u ≠ t) : (s.setPc t pc).threads u = s.threads u := by
  simp [setPc, threads_setThread, h]

@[simp] theorem threads_setPc_self : (s.setPc t pc).threads t = { s.threads t with pc } := by
  simp [setPc, threads_setThread]

theorem threads_release_of_ne {r : ReadBiasedState × Option Notify} (h : u ≠ t) :
    (s.release t r th).threads u = s.threads u := by
  simp [release, h]

@[simp] theorem pc_release_self {r : ReadBiasedState × Option Notify} :
    ((s.release t r th).threads t).pc = r.2.elim .idle .notifying := by
  simp [release]

theorem threads_lockDowngrade_of_ne (h : u ≠ t) : (s.lockDowngrade t).threads u = s.threads u :=
  threads_release_of_ne h

theorem threads_pass_of_ne {op : Op} {timed : Bool} (h : u ≠ t) :
    (s.pass t op timed).threads u = s.threads u := by
  unfold pass
  split
  · simp [h]
  · exact threads_setPc_of_ne h

theorem threads_wakeOne_of_ne (h : v ≠ u) : (s.wakeOne u).threads v = s.threads v :=
  threads_setPc_of_ne h

@[simp] theorem pc_lockDowngrade_self : ((s.lockDowngrade t).threads t).pc = .notifying .all := by
  simp [lockDowngrade]

@[simp] theorem threads_wakeAll :
    s.wakeAll.threads u = { s.threads u with pc := (s.threads u).pc.wake } :=
  rfl

/-- A thread that keeps `p` while `t` moves elsewhere. -/
theorem pc_setPc_of_pc_ne {p : Pc} (hv : (s.threads v).pc = p) (ht : (s.threads t).pc ≠ p) :
    ((s.setPc t pc).threads v).pc = p := by
  rw [threads_setPc_of_ne (by rintro rfl; exact ht hv)]
  exact hv

/-- A thread at `p` after `t` moves to another `pc` was at `p` before. -/
theorem pc_of_pc_setPc {p : Pc} (hv : ((s.setPc t pc).threads v).pc = p) (hp : pc ≠ p) :
    (s.threads v).pc = p := by
  rcases eq_or_ne v t with rfl | h
  · exact absurd (by simpa using hv) hp
  · rwa [threads_setPc_of_ne h] at hv

theorem pc_wakeOne_of_notifying {n : Notify} (hv : (s.threads v).pc = .notifying n) :
    ((s.wakeOne u).threads v).pc = .notifying n := by
  rcases eq_or_ne v u with rfl | h
  · simp [wakeOne, hv, Pc.wake]
  · rw [threads_wakeOne_of_ne h]
    exact hv

/-- A thread parked and not woken after a `notify_one` was not its pick. -/
theorem pc_of_pc_wakeOne {op : Op} {timed : Bool}
    (hv : ((s.wakeOne u).threads v).pc = .parked op timed false) :
    (s.threads v).pc = .parked op timed false := by
  rcases eq_or_ne v u with rfl | h
  · exact absurd (by simpa [wakeOne] using hv) Pc.wake_ne_unwoken
  · rwa [threads_wakeOne_of_ne h] at hv

theorem permits_setThread : (s.setThread t th).permits = s.permits.set t th.reads th.writes := by
  ext u <;> rcases eq_or_ne u t with rfl | h <;> simp [permits, Permits.set, threads_setThread, *]

@[simp] theorem permits_setPc : (s.setPc t pc).permits = s.permits := by
  ext u <;> rcases eq_or_ne u t with rfl | h <;> simp [permits, setPc, threads_setThread, *]

@[simp] theorem permits_wakeOne : (s.wakeOne u).permits = s.permits := permits_setPc

@[simp] theorem permits_wakeAll : s.wakeAll.permits = s.permits := rfl

@[simp] theorem permits_release {r : ReadBiasedState × Option Notify} :
    (s.release t r th).permits = (s.setThread t th).permits := by
  simp only [permits_setThread]
  ext u <;> rcases eq_or_ne u t with rfl | h <;> simp [permits, release, Permits.set, *]

theorem permits_removeRead :
    (s.setThread t { s.threads t with reads := (s.threads t).reads - 1 }).permits =
      s.permits.removeRead t := by
  rw [permits_setThread, Permits.removeRead_eq_set]
  rfl

theorem permits_removeWrite :
    (s.setThread t { s.threads t with writes := (s.threads t).writes - 1 }).permits =
      s.permits.removeWrite t := by
  rw [permits_setThread, Permits.removeWrite_eq_set]
  rfl

theorem permits_lockDowngrade : (s.lockDowngrade t).permits = s.permits.addRead t := by
  rw [lockDowngrade, permits_release, permits_setThread, Permits.addRead_eq_set]
  rfl

theorem pass_of_none (t : τ) {op : Op} (timed : Bool) (h : op.pass s.state = none) :
    s.pass t op timed = s.setPc t (.parked op timed false) := by
  simp [pass, h]

theorem pass_of_some (t : τ) {op : Op} (timed : Bool) {st : ReadBiasedState}
    (h : op.pass s.state = some st) :
    (s.pass t op timed).state = st ∧ (s.pass t op timed).permits = op.permit s.permits t ∧
      (s.pass t op timed).threads = Function.update s.threads t
        (op.grant { s.threads t with pc := .idle }) := by
  simp only [pass, h, true_and]
  constructor
  · ext u <;> rcases eq_or_ne u t with rfl | hu <;> cases op <;>
      simp [permits, Op.permit, Op.grant, Permits.addRead, Permits.addWrite, Permits.removeRead, *]
  · trivial

end Frame

def Reachable (s : Sys τ) : Prop := Relation.ReflTransGen Step init s

/-- Reachable by a run that never has `2 ^ 32` read permits out at once. -/
def ReachableFits (s : Sys τ) : Prop :=
  Relation.ReflTransGen (fun s s' => Step s s' ∧ s'.Fits) init s

end Sys

end Libmutex.XLock
