import Mathlib.Data.Fintype.BigOperators
import Libmutex.UrwLock.Machine

/-!
# The gate and the inner lock agree

`Inv`: the gate's counters are coupled with the slots out, and the inner lock has out exactly the
guards the threads hold. Every step keeps it and moves the slots by a step of the abstract lock, so
an operation waiting on the inner lock is held up only by a thread that has left the gate and drops
its inner guard in its next step, and `UrwLockWriteGuard::downgrade` leaves no window.
-/

namespace Libmutex.UrwLock

set_option autoImplicit false
set_option linter.unusedSectionVars false

namespace Sys
variable {τ : Type} [Fintype τ] [DecidableEq τ] {s s' : Sys τ} {t u : τ}

/-- The gate's counters are coupled with the slots out, and the inner lock's permits are the
guards the threads hold. -/
structure Inv (s : Sys τ) : Prop where
  coupled : ReadBiased.Coupled s.state s.slots
  data_eq : s.data.permits = s.guards

theorem inv_init : (init : Sys τ).Inv := ⟨ReadBiased.coupled_new, rfl⟩

section Step
variable {st : InternalState} {d : RwLock τ} {th : Thread}

theorem Inv.critical (hs : s.Inv) {p : Permits τ} (hsl : (s.setThread t th).slots = p)
    (hg : (s.setThread t th).guards = s.guards)
    (hr : Permits.Step s.slots p ∧ ReadBiased.Coupled st p) :
    (s.critical t st th).Inv ∧
      (Permits.Step s.slots (s.critical t st th).slots ∨
        (s.critical t st th).slots = s.slots) := by
  rw [slots_critical, hsl]
  refine ⟨⟨hsl ▸ hr.2, ?_⟩, .inl hr.1⟩
  rw [data_critical, guards_critical, hg]
  exact hs.data_eq

theorem Inv.inner (hs : s.Inv) (hsl : (s.setThread t th).slots = s.slots)
    (hd : d.permits = (s.setThread t th).guards) :
    (s.inner t d th).Inv ∧
      (Permits.Step s.slots (s.inner t d th).slots ∨ (s.inner t d th).slots = s.slots) :=
  ⟨⟨by rw [state_inner, slots_inner, hsl]; exact hs.coupled, hd⟩, .inr hsl⟩

/-- Every step keeps `Inv`, and moves the slots by a step of the abstract lock or not at all. -/
theorem Inv.step (h : Step s s') (hfit : s'.Fits) (hs : s.Inv) :
    s'.Inv ∧ (Permits.Step s.slots s'.slots ∨ s'.slots = s.slots) := by
  cases h with
  | read t hpc hr =>
    obtain ⟨st, hst⟩ := Option.isSome_iff_exists.mp hr
    have hsl : (s.setThread t { s.threads t with pc := .readData }).slots = s.slots.addRead t := by
      rw [slots_setThread, Permits.addRead_eq_set]
      simp [slots, hpc]
    rw [lockRead, gate_of_eq_some hst] at hfit ⊢
    rw [Fits, slots_critical, hsl, Permits.totalReads_addRead] at hfit
    exact hs.critical hsl (guards_setThread_eq (by simp [hpc]) (by simp [hpc]))
      (ReadBiased.tryRead_refines hs.coupled hst hfit)
  | readData t hpc hr =>
    obtain ⟨d, hd⟩ := Option.isSome_iff_exists.mp hr
    rw [dataRead, acquire_of_eq_some hd]
    refine hs.inner (slots_setThread_eq (by rcases hpc with hpc | hpc <;> simp [hpc])
      (by rcases hpc with hpc | hpc <;> simp [hpc])) ?_
    rw [(RwLock.read_eq_some.mp hd).2, hs.data_eq, guards_setThread, Permits.addRead_eq_set]
    rcases hpc with hpc | hpc <;> simp [guards, hpc]
  | readUnlock t hpc hr hu =>
    obtain ⟨st, hst⟩ := Option.isSome_iff_exists.mp hu
    obtain ⟨-, rfl⟩ := readUnlock_eq_some.mp hst
    rw [readGuardUnlock, gate_of_eq_some hst]
    refine hs.critical ?_ (guards_setThread_eq (by simp [hpc]; omega) (by simp [hpc]))
      (ReadBiased.readUnlock_refines hs.coupled (t := t) (by simp [slots, hpc, hr]))
    rw [slots_setThread, Permits.removeRead_eq_set]
    simp [slots, hpc]
  | readRelease t hpc =>
    rw [readGuardRelease]
    refine hs.inner (slots_setThread_eq (by simp [hpc]) (by simp [hpc])) ?_
    rw [RwLock.permits_dropRead (by rw [hs.data_eq]; simp [guards, hpc]), hs.data_eq,
      guards_setThread, Permits.removeRead_eq_set]
    simp [guards, hpc]
  | write t hpc hr =>
    obtain ⟨st, hst⟩ := Option.isSome_iff_exists.mp hr
    rw [lockWrite, gate_of_eq_some hst]
    refine hs.critical ?_ (guards_setThread_eq (by simp [hpc]) (by simp [hpc]))
      (ReadBiased.tryWrite_refines (t := t) hs.coupled hst)
    rw [slots_setThread, Permits.addWrite_eq_set]
    simp [slots, hpc]
  | writeData t hpc hr =>
    obtain ⟨d, hd⟩ := Option.isSome_iff_exists.mp hr
    rw [dataWrite, acquire_of_eq_some hd]
    refine hs.inner (slots_setThread_eq (by simp [hpc]) (by simp [hpc])) ?_
    rw [(RwLock.write_eq_some.mp hd).2.2, hs.data_eq, guards_setThread, Permits.addWrite_eq_set]
    simp [guards, hpc]
  | writeUnlock t hpc hw =>
    rw [writeGuardUnlock]
    refine hs.critical ?_ (guards_setThread_eq (by simp [hpc]) (by simp [hpc]; omega))
      (ReadBiased.writeUnlock_refines hs.coupled (t := t) (by simp [slots, hpc, hw]))
    rw [slots_setThread, Permits.removeWrite_eq_set]
    simp [slots, hpc]
  | writeRelease t hpc =>
    rw [writeGuardRelease]
    refine hs.inner (slots_setThread_eq (by simp [hpc]) (by simp [hpc])) ?_
    rw [RwLock.permits_dropWrite (by rw [hs.data_eq]; simp [guards, hpc]), hs.data_eq,
      guards_setThread, Permits.removeWrite_eq_set]
    simp [guards, hpc]
  | downgradeTake t hpc hw =>
    rw [Sys.downgradeTake]
    refine hs.inner (slots_setThread_eq (by simp [hpc]) (by simp [hpc]; omega)) ?_
    rw [RwLock.permits_dropWrite (by rw [hs.data_eq]; simp [guards, hpc, hw]), hs.data_eq,
      guards_setThread, Permits.removeWrite_eq_set]
    simp [guards, hpc]
  | downgrade t hpc =>
    rw [lockDowngrade]
    refine hs.critical ?_ (guards_setThread_eq (by simp [hpc]) (by simp [hpc]))
      (ReadBiased.downgrade_refines hs.coupled (t := t) (by simp [slots, hpc]))
    rw [slots_setThread, Permits.removeWrite_eq_set, Permits.set_addRead]
    simp [slots, hpc]

end Step

/-- Every run in which the read slots fit in the counter keeps `Inv`, and its slots follow a run
of the abstract lock. -/
theorem ReachableFits.refines (h : s.ReachableFits) : s.Inv ∧ s.slots.Reachable :=
  ReflTransGen.invariant (P := fun s : Sys τ => s.Inv ∧ s.slots.Reachable)
    (r := fun s s' => Step s s' ∧ s'.Fits) h ⟨inv_init, .refl⟩
    fun _ _ ⟨hxy, hfit⟩ ⟨hx, hp⟩ =>
      have := hx.step hxy hfit
      ⟨this.1, this.2.elim hp.tail fun heq => heq ▸ hp⟩

section Blocking
variable (hs : s.Inv)
include hs

/-- `read_unlock`'s `assert!(readers > 0)` holds for every thread with a live read guard. -/
theorem Inv.readUnlock_isSome (ht : 0 < (s.threads t).reads) : (readUnlock s.state).isSome := by
  have hrt : (s.threads t).reads + (s.threads t).pc.readSlot ≤ s.slots.totalReads :=
    s.slots.reads_le_totalReads t
  have hpos : 0 < s.state.readers.toNat := by rw [hs.coupled.readers_eq]; omega
  simp [readUnlock, show 0 < s.state.readers from hpos]

theorem Inv.writes_pos_of_inner (hu : 0 < s.data.permits.writes u)
    (hne : (s.threads u).pc ≠ .writeDrop) : 0 < (s.threads u).writes := by
  have := Pc.writeGuard_eq_zero hne
  rw [hs.data_eq] at hu
  simp only [guards, Thread.writeGuards] at hu
  omega

theorem Inv.reads_pos_of_inner (hu : 0 < s.data.permits.reads u)
    (hne : (s.threads u).pc ≠ .readDrop) : 0 < (s.threads u).reads := by
  have := Pc.readGuard_eq_zero hne
  rw [hs.data_eq] at hu
  simp only [guards, Thread.readGuards] at hu
  omega

/-- An inner write guard out beside a thread holding a read slot belongs to a thread past
`write_unlock`. -/
theorem Inv.pc_of_inner_writer (ht : 0 < (s.threads t).pc.readSlot)
    (hu : 0 < s.data.permits.writes u) : (s.threads u).pc = .writeDrop := by
  by_contra hne
  have hw := hs.writes_pos_of_inner hu hne
  have hrt : (s.threads t).reads + (s.threads t).pc.readSlot ≤ s.slots.totalReads :=
    s.slots.reads_le_totalReads t
  have hwu : (s.threads u).writes + (s.threads u).pc.writeSlot ≤ s.slots.totalWrites :=
    s.slots.writes_le_totalWrites u
  have := hs.coupled.exclusive.disjoint
  omega

/-- An inner guard out beside a thread holding the write slot belongs to a thread past
`read_unlock` or `write_unlock`. -/
theorem Inv.pc_of_inner_guard (ht : 0 < (s.threads t).pc.writeSlot)
    (hu : 0 < s.data.permits.reads u ∨ 0 < s.data.permits.writes u) :
    (s.threads u).pc = .readDrop ∨ (s.threads u).pc = .writeDrop := by
  by_contra hne
  push_neg at hne
  have hex := hs.coupled.exclusive
  have hwt : (s.threads t).writes + (s.threads t).pc.writeSlot ≤ s.slots.totalWrites :=
    s.slots.writes_le_totalWrites t
  rcases hu with hu | hu
  · have hr := hs.reads_pos_of_inner hu hne.1
    have hru : (s.threads u).reads + (s.threads u).pc.readSlot ≤ s.slots.totalReads :=
      s.slots.reads_le_totalReads u
    have := hex.disjoint
    omega
  · have hw := hs.writes_pos_of_inner hu hne.2
    obtain rfl : t = u := hex.sole_writer (show 0 < (s.threads t).writes + _ by omega)
      (show 0 < (s.threads u).writes + _ by omega)
    have := hex.writes_le_one
    omega

/-- A thread past `read_unlock` or `write_unlock` drops its inner guard in its next step, whatever
the other threads hold. -/
theorem Inv.release (hu : (s.threads u).pc = .readDrop ∨ (s.threads u).pc = .writeDrop) :
    ∃ s', Step s s' ∧ (s'.threads u).pc = .idle ∧
      s'.data.permits.reads u + s'.data.permits.writes u + 1 =
        s.data.permits.reads u + s.data.permits.writes u := by
  rcases hu with hpc | hpc
  · have hpos : 0 < s.data.permits.reads u := by rw [hs.data_eq]; simp [guards, hpc]
    refine ⟨_, .readRelease u hpc, by simp [readGuardRelease, threads_inner], ?_⟩
    rw [readGuardRelease, data_inner, RwLock.permits_dropRead hpos]
    simp [Permits.removeRead]
    omega
  · have hpos : 0 < s.data.permits.writes u := by rw [hs.data_eq]; simp [guards, hpc]
    refine ⟨_, .writeRelease u hpc, by simp [writeGuardRelease, threads_inner], ?_⟩
    rw [writeGuardRelease, data_inner, RwLock.permits_dropWrite hpos]
    simp [Permits.removeWrite]
    omega

end Blocking

/-- `UrwLockWriteGuard::downgrade` leaves no window between dropping its inner write guard and the
critical section of `UrwLock::downgrade`: the gate stays shut to `read` and `write`, and no other
thread holds a slot. -/
theorem ReachableFits.downgrade_no_window (h : s.ReachableFits)
    (ht : (s.threads t).pc = .downgradeState) :
    read s.state = none ∧ write s.state = none ∧
      ∀ u, u ≠ t → (s.threads u).readSlots = 0 ∧ (s.threads u).writeSlots = 0 := by
  have hc := h.refines.1.coupled
  have hwt : 0 < s.slots.writes t := by simp [slots, ht]
  have := s.slots.writes_le_totalWrites t
  refine ⟨hc.tryRead_eq_none (by omega), hc.tryWrite_eq_none (by omega), fun u hu => ⟨?_, ?_⟩⟩
  · have hru : (s.threads u).readSlots ≤ s.slots.totalReads := s.slots.reads_le_totalReads u
    have := hc.exclusive.disjoint
    omega
  · by_contra hne
    exact hu (hc.exclusive.sole_writer (show 0 < s.slots.writes u from Nat.pos_of_ne_zero hne) hwt)

theorem downgrade_no_window_after_take :
    let s := (((init : Sys Bool).lockWrite true).dataWrite true).downgradeTake true
    s.ReachableFits ∧ (s.threads true).pc = .downgradeState ∧ s.data.permits.writes true = 0 ∧
      read s.state = none ∧ write s.state = none ∧
      ∀ u, u ≠ true → (s.threads u).readSlots = 0 ∧ (s.threads u).writeSlots = 0 :=
  have hrun : ((((init : Sys Bool).lockWrite true).dataWrite true).downgradeTake true)
      |>.ReachableFits :=
    .tail (.tail (.single ⟨Step.write true rfl rfl, by decide⟩)
      ⟨Step.writeData true rfl rfl, by decide⟩) ⟨Step.downgradeTake true rfl (by decide), by decide⟩
  ⟨hrun, rfl, by decide, ReachableFits.downgrade_no_window hrun rfl⟩

/-- With the read slots fitting in the `u32` counter: `readers` counts the read slots out,
`writer` is set exactly when a thread holds the write slot, which is then the only one, the
assert of `read_unlock` holds, and a thread waiting in `data.read()` or `data.write()` is held up
only by inner guards of threads past `read_unlock` or `write_unlock`, each of which drops its guard
in its next step. -/
theorem urwLock_accounting (h : s.ReachableFits) :
    s.state.readers.toNat = s.slots.totalReads ∧
    (s.state.writer = true ↔ ∃ t, 0 < s.slots.writes t) ∧
    (∀ t u, 0 < s.slots.writes t → 0 < s.slots.writes u → t = u) ∧
    (s.state.readers = 0 ∨ s.state.writer = false) ∧
    (∀ t, 0 < (s.threads t).reads → (readUnlock s.state).isSome) ∧
    (∀ t u, ((s.threads t).pc = .readData ∨ (s.threads t).pc = .downgradeData) →
      0 < s.data.permits.writes u → (s.threads u).pc = .writeDrop) ∧
    (∀ t u, (s.threads t).pc = .writeData →
      (0 < s.data.permits.reads u ∨ 0 < s.data.permits.writes u) →
      (s.threads u).pc = .readDrop ∨ (s.threads u).pc = .writeDrop) ∧
    (∀ u, ((s.threads u).pc = .readDrop ∨ (s.threads u).pc = .writeDrop) →
      ∃ s', Step s s' ∧ (s'.threads u).pc = .idle ∧
        s'.data.permits.reads u + s'.data.permits.writes u + 1 =
          s.data.permits.reads u + s.data.permits.writes u) := by
  have hs := h.refines.1
  refine ⟨hs.coupled.readers_eq, hs.coupled.writer_iff.trans (Permits.totalWrites_pos_iff _),
    fun t u => hs.coupled.exclusive.sole_writer, hs.coupled.readers_eq_zero_or,
    fun t => hs.readUnlock_isSome, fun t u ht => hs.pc_of_inner_writer (t := t) ?_,
    fun t u ht => hs.pc_of_inner_guard (t := t) (by simp [ht]), fun u => hs.release⟩
  rcases ht with ht | ht <;> simp [ht]

/-- Thread `true` has written and dropped its guard up to `write_unlock`; thread `false` has
passed the gate of `read` and waits in `data.read()` for `true` to drop the inner guard. -/
theorem reachableFits_reader_behind_write_drop :
    ((((init : Sys Bool).lockWrite true).dataWrite true).writeGuardUnlock true |>.lockRead false)
      |>.ReachableFits :=
  .tail (.tail (.tail (.single ⟨Step.write true rfl rfl, by decide⟩)
    ⟨Step.writeData true rfl rfl, by decide⟩) ⟨Step.writeUnlock true rfl (by decide), by decide⟩)
    ⟨Step.read false rfl rfl, by decide⟩


theorem urwLock_accounting_reader_behind_write_drop :
    let s := (((init : Sys Bool).lockWrite true).dataWrite true).writeGuardUnlock true
      |>.lockRead false
    s.ReachableFits ∧
    s.state.readers.toNat = s.slots.totalReads ∧
    (s.state.writer = true ↔ ∃ t, 0 < s.slots.writes t) ∧
    (∀ t u, 0 < s.slots.writes t → 0 < s.slots.writes u → t = u) ∧
    (s.state.readers = 0 ∨ s.state.writer = false) ∧
    (∀ t, 0 < (s.threads t).reads → (readUnlock s.state).isSome) ∧
    (∀ t u, ((s.threads t).pc = .readData ∨ (s.threads t).pc = .downgradeData) →
      0 < s.data.permits.writes u → (s.threads u).pc = .writeDrop) ∧
    (∀ t u, (s.threads t).pc = .writeData →
      (0 < s.data.permits.reads u ∨ 0 < s.data.permits.writes u) →
      (s.threads u).pc = .readDrop ∨ (s.threads u).pc = .writeDrop) ∧
    (∀ u, ((s.threads u).pc = .readDrop ∨ (s.threads u).pc = .writeDrop) →
      ∃ s', Step s s' ∧ (s'.threads u).pc = .idle ∧
        s'.data.permits.reads u + s'.data.permits.writes u + 1 =
          s.data.permits.reads u + s.data.permits.writes u) :=
  ⟨reachableFits_reader_behind_write_drop,
    urwLock_accounting reachableFits_reader_behind_write_drop⟩

theorem lockRead_of_writer_false (hw : s.state.writer = false) :
    s.lockRead t = s.critical t { s.state with readers := s.state.readers + 1 }
      { s.threads t with pc := .readData } :=
  gate_of_eq_some (ReadBiased.tryRead_eq_some.mpr ⟨hw, rfl⟩)

/-- `k` calls of `read` by `t` in a row, none of them waiting. -/
def readMany (s : Sys τ) (t : τ) (k : ℕ) : Sys τ := (fun s => (s.lockRead t).dataRead t)^[k] s

theorem readMany_spec (hw : s.state.writer = false) (hi : (s.threads t).pc = .idle)
    (hd : s.data.permits.totalWrites = 0) (k : ℕ) :
    (s.readMany t k).state.readers.toNat = (s.state.readers.toNat + k) % 2 ^ 32 ∧
      (s.readMany t k).state.writer = false ∧
      (s.readMany t k).threads =
        Function.update s.threads t { s.threads t with reads := (s.threads t).reads + k } ∧
      (s.readMany t k).data.permits =
        s.data.permits.set t (s.data.permits.reads t + k) (s.data.permits.writes t) := by
  induction k with
  | zero =>
    have := toNat_lt_two_pow s.state.readers
    refine ⟨by simp [readMany]; omega, hw, by simp [readMany], ?_⟩
    simp [readMany, Permits.set_self]
  | succ k ih =>
    obtain ⟨hr, hw', hth, hdata⟩ := ih
    simp only [readMany] at hr hw' hth hdata
    set s' := (fun s => (s.lockRead t).dataRead t)^[k] s
    have hlock := lockRead_of_writer_false (t := t) hw'
    have hfree : (s'.lockRead t).data.permits.totalWrites = 0 := by
      rw [hlock, data_critical, hdata, Permits.totalWrites_set_writes, hd]
    obtain ⟨d, hd'⟩ := Option.isSome_iff_exists.mp (RwLock.read_isSome_iff.mpr hfree)
    simp only [readMany, Function.iterate_succ_apply']
    rw [dataRead, acquire_of_eq_some hd']
    refine ⟨?_, by rw [state_inner, hlock]; exact hw', ?_, ?_⟩
    · rw [state_inner, hlock, state_critical, toNat_add_mod, hr]
      show ((s.state.readers.toNat + k) % 2 ^ 32 + 1) % 2 ^ 32 = _
      omega
    · rw [threads_inner, hlock, threads_critical, hth]
      funext u
      rcases eq_or_ne u t with rfl | h <;> simp [hi, *, Nat.add_assoc]
    · rw [data_inner, (RwLock.read_eq_some.mp hd').2, hlock, data_critical, hdata,
        Permits.set_addRead, Nat.add_assoc]

theorem reachable_readMany (h : s.Reachable) (hw : s.state.writer = false)
    (hi : (s.threads t).pc = .idle) (hd : s.data.permits.totalWrites = 0) (k : ℕ) :
    (s.readMany t k).Reachable := by
  induction k with
  | zero => exact h
  | succ k ih =>
    obtain ⟨-, hw', hth, hdata⟩ := readMany_spec hw hi hd k
    have hlock := lockRead_of_writer_false (t := t) hw'
    rw [readMany, Function.iterate_succ_apply']
    refine (ih.tail (Step.read t (by simp [hth, hi])
      (Option.isSome_iff_exists.mpr ⟨_, ReadBiased.tryRead_eq_some.mpr ⟨hw', rfl⟩⟩))).tail
      (Step.readData t (.inl (by rw [hlock]; simp [threads_critical])) ?_)
    rw [RwLock.read_isSome_iff, hlock, data_critical, hdata, Permits.totalWrites_set_writes, hd]

/-- `2 ^ 32` read guards of thread `true` wrap `readers` to `0`. The counter no longer counts the
read slots, the next drop of one of those guards would fail the assert of `read_unlock`, and
`write` by thread `false` passes the gate, to wait in `data.write()` on inner read guards of a
thread that is not dropping them. -/
theorem write_passes_gate_after_wrap :
    (((init : Sys Bool).readMany true (2 ^ 32)).lockWrite false).Reachable ∧
      ((init : Sys Bool).readMany true (2 ^ 32)).state.readers = 0 ∧
      ((init : Sys Bool).readMany true (2 ^ 32)).slots.totalReads = 2 ^ 32 ∧
      readUnlock ((init : Sys Bool).readMany true (2 ^ 32)).state = none ∧
      ((((init : Sys Bool).readMany true (2 ^ 32)).lockWrite false).threads false).pc =
        .writeData ∧
      (((init : Sys Bool).readMany true (2 ^ 32)).lockWrite false).data.write false = none ∧
      0 < (((init : Sys Bool).readMany true (2 ^ 32)).lockWrite false).data.permits.reads true ∧
      ((((init : Sys Bool).readMany true (2 ^ 32)).lockWrite false).threads true).pc = .idle := by
  obtain ⟨hr, hw, hth, hdata⟩ :=
    readMany_spec (s := (init : Sys Bool)) (t := true) rfl rfl Permits.totalWrites_empty (2 ^ 32)
  have h0 : ((init : Sys Bool).readMany true (2 ^ 32)).state.readers = 0 :=
    eq_zero_iff_toNat.mpr (by rw [hr]; rfl)
  have hlock : ((init : Sys Bool).readMany true (2 ^ 32)).lockWrite false =
      ((init : Sys Bool).readMany true (2 ^ 32)).critical false
        { ((init : Sys Bool).readMany true (2 ^ 32)).state with writer := true }
        { ((init : Sys Bool).readMany true (2 ^ 32)).threads false with pc := .writeData } :=
    gate_of_eq_some (ReadBiased.tryWrite_eq_some.mpr ⟨h0, hw, rfl⟩)
  have hreads : 0 < ((init : Sys Bool).readMany true (2 ^ 32)).data.permits.reads true := by
    rw [hdata]; simp [Permits.set]
  have hidle : (((init : Sys Bool).readMany true (2 ^ 32)).threads false).pc = .idle := by
    rw [hth]; rfl
  refine ⟨(reachable_readMany (s := init) (t := true) .refl rfl rfl Permits.totalWrites_empty
      (2 ^ 32)).tail
      (Step.write false hidle
        (by rw [write_eq, ReadBiased.tryWrite_eq_some.mpr ⟨h0, hw, rfl⟩]; rfl)),
    h0, ?_, by rw [readUnlock, h0]; rfl, by rw [hlock, threads_critical, Function.update_same],
    ?_, ?_, ?_⟩
  · simp only [slots, Permits.totalReads, hth, Fintype.sum_bool]
    simp [init]
  · rw [hlock, data_critical]
    exact RwLock.write_eq_none.mpr (.inr (lt_of_lt_of_le hreads (Permits.reads_le_totalReads _ _)))
  · rwa [hlock, data_critical]
  · rw [hlock, threads_critical, Function.update_noteq (by decide), hth]; rfl

end Sys

end Libmutex.UrwLock
