import Libmutex.XLock.ReadBiased

/-!
# `UrwLock` driven by threads through its guards

A gate in front of a `std::sync::RwLock`: under a state mutex `read` and `write` take a slot of the
gate, and only then, with the mutex dropped, the inner lock. A guard's drop releases the gate first
and the inner guard after it. `InternalState` has the fields of `ReadBiasedState`, whose critical
sections these are. A thread passes the gate in a step where its loop condition is false; the
condition variable is added in `UrwLock.Condvar`.
-/

namespace Libmutex.UrwLock

set_option autoImplicit false
set_option linter.unusedSectionVars false

/-- `InternalState`: the fields of `ReadBiasedState`. -/
abbrev InternalState := ReadBiasedState

/-- The critical section of `UrwLock::read`: `while writer { wait }`, then `readers += 1`. -/
def read : InternalState → Option InternalState :=
  ReadBiased.waitPass (·.writer) fun st => { st with readers := st.readers + 1 }

/-- `UrwLock::read_unlock`; `none` where its `assert!(readers > 0)` panics. -/
def readUnlock (st : InternalState) : Option InternalState :=
  if 0 < st.readers then some { st with readers := st.readers - 1 } else none

/-- The critical section of `UrwLock::write`: `while readers != 0 || writer { wait }`, then
`writer = true`. -/
def write : InternalState → Option InternalState :=
  ReadBiased.waitPass (fun st => st.readers != 0 || st.writer) fun st => { st with writer := true }

/-- `UrwLock::write_unlock`. -/
def writeUnlock (st : InternalState) : InternalState := { st with writer := false }

/-- The critical section of `UrwLock::downgrade`. -/
def downgrade (st : InternalState) : InternalState := { st with readers := 1, writer := false }

theorem read_eq : read = ReadBiased.tryRead := rfl

theorem write_eq : write = ReadBiased.tryWrite := rfl

theorem writeUnlock_eq (st : InternalState) : writeUnlock st = (ReadBiased.writeUnlock st).1 := rfl

theorem downgrade_eq (st : InternalState) : downgrade st = (ReadBiased.downgrade st).1 := rfl

theorem readUnlock_eq_some {st st' : InternalState} :
    readUnlock st = some st' ↔ 0 < st.readers ∧ st' = (ReadBiased.readUnlock st).1 := by
  unfold readUnlock
  split <;> simp [*, eq_comm]

/-- Where a thread is between the gate and the inner lock. -/
inductive Pc
  | idle
  /-- `read` past the gate, in `data.read()` -/
  | readData
  /-- `write` past the gate, in `data.write()` -/
  | writeData
  /-- `UrwLockReadGuard::drop` past `read_unlock`, its `RwLockReadGuard` field still to drop -/
  | readDrop
  /-- `UrwLockWriteGuard::drop` past `write_unlock`, the `if let` temporary still to drop -/
  | writeDrop
  /-- `UrwLockWriteGuard::downgrade` past `self.data.take()` -/
  | downgradeState
  /-- `UrwLock::downgrade` past its critical section, in `data.read()` -/
  | downgradeData
  deriving DecidableEq, Repr

/-- The read slot of the gate an operation in progress holds without an inner guard. -/
@[simp] def Pc.readSlot : Pc → ℕ
  | .readData | .downgradeData => 1
  | _ => 0

/-- The write slot of the gate an operation in progress holds without an inner guard. -/
@[simp] def Pc.writeSlot : Pc → ℕ
  | .writeData | .downgradeState => 1
  | _ => 0

/-- The inner read guard a drop in progress holds without a slot. -/
@[simp] def Pc.readGuard : Pc → ℕ
  | .readDrop => 1
  | _ => 0

/-- The inner write guard a drop in progress holds without a slot. -/
@[simp] def Pc.writeGuard : Pc → ℕ
  | .writeDrop => 1
  | _ => 0

theorem Pc.readGuard_eq_zero {pc : Pc} (h : pc ≠ .readDrop) : pc.readGuard = 0 := by
  cases pc <;> simp_all

theorem Pc.writeGuard_eq_zero {pc : Pc} (h : pc ≠ .writeDrop) : pc.writeGuard = 0 := by
  cases pc <;> simp_all

/-- A thread's live `UrwLockReadGuard`s and `UrwLockWriteGuard`s, and where it is. -/
structure Thread where
  reads : ℕ
  writes : ℕ
  pc : Pc
  deriving DecidableEq, Repr

namespace Thread
variable (th : Thread)

@[simp] def readSlots : ℕ := th.reads + th.pc.readSlot

@[simp] def writeSlots : ℕ := th.writes + th.pc.writeSlot

@[simp] def readGuards : ℕ := th.reads + th.pc.readGuard

@[simp] def writeGuards : ℕ := th.writes + th.pc.writeGuard

end Thread

/-- The gate's state, the inner lock, and every thread using the lock. -/
structure Sys (τ : Type) [Fintype τ] where
  state : InternalState
  data : RwLock τ
  threads : τ → Thread

namespace Sys
variable {τ : Type} [Fintype τ] [DecidableEq τ]

/-- `UrwLock::new`: `InternalState::default()` and `RwLock::new`. -/
def init : Sys τ := ⟨⟨0, false⟩, RwLock.new, fun _ => ⟨0, 0, .idle⟩⟩

def setThread (s : Sys τ) (t : τ) (th : Thread) : Sys τ :=
  { s with threads := Function.update s.threads t th }

/-- `t` leaves a critical section on the state mutex with `st`, and goes on as `th`. -/
def critical (s : Sys τ) (t : τ) (st : InternalState) (th : Thread) : Sys τ :=
  { s.setThread t th with state := st }

/-- The same for a critical section that can wait or panic: on `none` nothing changes. -/
def gate (s : Sys τ) (t : τ) (r : Option InternalState) (th : Thread) : Sys τ :=
  r.elim s fun st => s.critical t st th

/-- `t` leaves the inner lock as `d`, and goes on as `th`. -/
def inner (s : Sys τ) (t : τ) (d : RwLock τ) (th : Thread) : Sys τ :=
  { s.setThread t th with data := d }

/-- `t` takes the inner lock as `r` hands it out; while `t` is blocked nothing changes. -/
def acquire (s : Sys τ) (t : τ) (r : Option (RwLock τ)) (th : Thread) : Sys τ :=
  r.elim s fun d => s.inner t d th

/-- `UrwLock::read` by `t` passes the gate. -/
def lockRead (s : Sys τ) (t : τ) : Sys τ :=
  s.gate t (read s.state) { s.threads t with pc := .readData }

/-- `data.read()` returns to `t`, in `UrwLock::read` or `UrwLock::downgrade`, and so does the call
with a new guard. -/
def dataRead (s : Sys τ) (t : τ) : Sys τ :=
  s.acquire t (s.data.read t) { s.threads t with reads := (s.threads t).reads + 1, pc := .idle }

/-- `UrwLockReadGuard::drop` by `t` calls `read_unlock`. -/
def readGuardUnlock (s : Sys τ) (t : τ) : Sys τ :=
  s.gate t (readUnlock s.state)
    { s.threads t with reads := (s.threads t).reads - 1, pc := .readDrop }

/-- Then its `RwLockReadGuard` field is dropped. -/
def readGuardRelease (s : Sys τ) (t : τ) : Sys τ :=
  s.inner t (s.data.dropRead t) { s.threads t with pc := .idle }

/-- `UrwLock::write` by `t` passes the gate. -/
def lockWrite (s : Sys τ) (t : τ) : Sys τ :=
  s.gate t (write s.state) { s.threads t with pc := .writeData }

/-- `data.write()` returns to `t`, and so does `UrwLock::write`. -/
def dataWrite (s : Sys τ) (t : τ) : Sys τ :=
  s.acquire t (s.data.write t) { s.threads t with writes := (s.threads t).writes + 1, pc := .idle }

/-- `UrwLockWriteGuard::drop` by `t` takes `Some` out of `data` and calls `write_unlock`. -/
def writeGuardUnlock (s : Sys τ) (t : τ) : Sys τ :=
  s.critical t (writeUnlock s.state)
    { s.threads t with writes := (s.threads t).writes - 1, pc := .writeDrop }

/-- Then the `if let` temporary holding the `RwLockWriteGuard` is dropped. -/
def writeGuardRelease (s : Sys τ) (t : τ) : Sys τ :=
  s.inner t (s.data.dropWrite t) { s.threads t with pc := .idle }

/-- `UrwLockWriteGuard::downgrade` by `t` drops the `RwLockWriteGuard` it takes out of `data`. -/
def downgradeTake (s : Sys τ) (t : τ) : Sys τ :=
  s.inner t (s.data.dropWrite t)
    { s.threads t with writes := (s.threads t).writes - 1, pc := .downgradeState }

/-- Then `UrwLock::downgrade` runs its critical section. -/
def lockDowngrade (s : Sys τ) (t : τ) : Sys τ :=
  s.critical t (downgrade s.state) { s.threads t with pc := .downgradeData }

/-- One atomic step of one thread: a critical section on the state mutex, or one operation on the
inner lock. A step that would wait, on the gate or on the inner lock, is not taken. -/
inductive Step : Sys τ → Sys τ → Prop
  | read {s : Sys τ} (t : τ) : (s.threads t).pc = .idle → (read s.state).isSome →
      Step s (s.lockRead t)
  | readData {s : Sys τ} (t : τ) :
      (s.threads t).pc = .readData ∨ (s.threads t).pc = .downgradeData →
      (s.data.read t).isSome → Step s (s.dataRead t)
  | readUnlock {s : Sys τ} (t : τ) : (s.threads t).pc = .idle → 0 < (s.threads t).reads →
      (readUnlock s.state).isSome → Step s (s.readGuardUnlock t)
  | readRelease {s : Sys τ} (t : τ) : (s.threads t).pc = .readDrop → Step s (s.readGuardRelease t)
  | write {s : Sys τ} (t : τ) : (s.threads t).pc = .idle → (write s.state).isSome →
      Step s (s.lockWrite t)
  | writeData {s : Sys τ} (t : τ) : (s.threads t).pc = .writeData → (s.data.write t).isSome →
      Step s (s.dataWrite t)
  | writeUnlock {s : Sys τ} (t : τ) : (s.threads t).pc = .idle → 0 < (s.threads t).writes →
      Step s (s.writeGuardUnlock t)
  | writeRelease {s : Sys τ} (t : τ) : (s.threads t).pc = .writeDrop →
      Step s (s.writeGuardRelease t)
  | downgradeTake {s : Sys τ} (t : τ) : (s.threads t).pc = .idle → 0 < (s.threads t).writes →
      Step s (s.downgradeTake t)
  | downgrade {s : Sys τ} (t : τ) : (s.threads t).pc = .downgradeState →
      Step s (s.lockDowngrade t)

/-- The gate's slots each thread holds. -/
def slots (s : Sys τ) : Permits τ :=
  ⟨fun t => (s.threads t).readSlots, fun t => (s.threads t).writeSlots⟩

/-- The inner guards each thread holds. -/
def guards (s : Sys τ) : Permits τ :=
  ⟨fun t => (s.threads t).readGuards, fun t => (s.threads t).writeGuards⟩

/-- The read slots out fit in the `u32` counter. -/
def Fits (s : Sys τ) : Prop := s.slots.totalReads < 2 ^ 32

instance (s : Sys τ) : Decidable s.Fits := inferInstanceAs (Decidable (s.slots.totalReads < 2 ^ 32))

def Reachable (s : Sys τ) : Prop := Relation.ReflTransGen Step init s

/-- Reachable by a run in which the read slots out always fit in the counter. -/
def ReachableFits (s : Sys τ) : Prop :=
  Relation.ReflTransGen (fun s s' => Step s s' ∧ s'.Fits) init s

section Frame
variable {s : Sys τ} {t u : τ} {st : InternalState} {d : RwLock τ} {th : Thread}

@[simp] theorem state_critical : (s.critical t st th).state = st := rfl

@[simp] theorem data_critical : (s.critical t st th).data = s.data := rfl

@[simp] theorem state_inner : (s.inner t d th).state = s.state := rfl

@[simp] theorem data_inner : (s.inner t d th).data = d := rfl

@[simp] theorem state_acquire {r : Option (RwLock τ)} : (s.acquire t r th).state = s.state := by
  cases r <;> rfl

theorem threads_critical : (s.critical t st th).threads = Function.update s.threads t th := rfl

theorem threads_inner : (s.inner t d th).threads = Function.update s.threads t th := rfl

theorem threads_critical_of_ne (h : u ≠ t) : (s.critical t st th).threads u = s.threads u :=
  Function.update_noteq h _ _

theorem threads_inner_of_ne (h : u ≠ t) : (s.inner t d th).threads u = s.threads u :=
  Function.update_noteq h _ _

theorem threads_gate_of_ne {r : Option InternalState} (h : u ≠ t) :
    (s.gate t r th).threads u = s.threads u := by
  cases r
  · rfl
  · exact threads_critical_of_ne h

theorem threads_acquire_of_ne {r : Option (RwLock τ)} (h : u ≠ t) :
    (s.acquire t r th).threads u = s.threads u := by
  cases r
  · rfl
  · exact threads_inner_of_ne h

theorem gate_of_eq_some {r : Option InternalState} (h : r = some st) :
    s.gate t r th = s.critical t st th := by
  subst h; rfl

theorem acquire_of_eq_some {r : Option (RwLock τ)} (h : r = some d) :
    s.acquire t r th = s.inner t d th := by
  subst h; rfl

theorem slots_setThread : (s.setThread t th).slots = s.slots.set t th.readSlots th.writeSlots := by
  ext u <;> rcases eq_or_ne u t with rfl | h <;> simp [slots, setThread, Permits.set, *]

theorem guards_setThread :
    (s.setThread t th).guards = s.guards.set t th.readGuards th.writeGuards := by
  ext u <;> rcases eq_or_ne u t with rfl | h <;> simp [guards, setThread, Permits.set, *]

theorem slots_setThread_eq (hr : th.readSlots = (s.threads t).readSlots)
    (hw : th.writeSlots = (s.threads t).writeSlots) : (s.setThread t th).slots = s.slots := by
  rw [slots_setThread]
  exact Permits.set_eq_self _ _ hr hw

theorem guards_setThread_eq (hr : th.readGuards = (s.threads t).readGuards)
    (hw : th.writeGuards = (s.threads t).writeGuards) : (s.setThread t th).guards = s.guards := by
  rw [guards_setThread]
  exact Permits.set_eq_self _ _ hr hw

theorem slots_critical : (s.critical t st th).slots = (s.setThread t th).slots := rfl

theorem guards_critical : (s.critical t st th).guards = (s.setThread t th).guards := rfl

theorem slots_inner : (s.inner t d th).slots = (s.setThread t th).slots := rfl

theorem guards_inner : (s.inner t d th).guards = (s.setThread t th).guards := rfl

end Frame

end Sys

end Libmutex.UrwLock
