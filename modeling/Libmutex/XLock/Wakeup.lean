import Libmutex.XLock.Accounting

/-!
# No lost wakeups in `XLock<T, ReadBiased>`

Parked threads wait on one condition variable, and a release notifies only after dropping the state
mutex. In every state reached while the read permits fit in the counter, a notification is on its
way whenever one is needed: if the lock is idle and a thread is parked, a woken thread has still to
re-check or a releasing thread has still to notify; and a thread parked in `try_upgrade` as the sole
reader is woken or has a `notify_all` coming, however many upgraders contend.
-/

namespace Libmutex.XLock

set_option autoImplicit false
set_option linter.unusedSectionVars false

open ReadBiased

namespace Thread

def Parked (th : Thread) : Prop := ∃ op timed woken, th.pc = .parked op timed woken

/-- Picked by a notification, not yet back in its loop check. -/
def Woken (th : Thread) : Prop := ∃ op timed, th.pc = .parked op timed true

/-- Still to issue the notification of a release. -/
def Notifying (th : Thread) : Prop := ∃ n, th.pc = .notifying n

end Thread

namespace Sys
variable {τ : Type} [Fintype τ] [DecidableEq τ] {s s' : Sys τ} {t : τ}

/-- A notification has still to take effect. -/
def Pending (s : Sys τ) : Prop := (∃ t, (s.threads t).Woken) ∨ ∃ t, (s.threads t).Notifying

/-- The two facts that rule out a lost wakeup. -/
structure NoLostWakeup (s : Sys τ) : Prop where
  idle : s.state.readers = 0 → s.state.writer = false → (∃ t, (s.threads t).Parked) → s.Pending
  upgrade : ∀ t timed, (s.threads t).pc = .parked .upgrade timed false → s.state.readers = 1 →
    ∃ u, (s.threads u).pc = .notifying .all

theorem noLostWakeup_init : (init : Sys τ).NoLostWakeup :=
  ⟨fun _ _ ⟨_, _, _, _, h⟩ => by simp [init] at h, fun _ _ h => by simp [init] at h⟩

theorem Accounting.readers_ne_zero (hs : s.Accounting) (ht : 0 < (s.threads t).reads) :
    s.state.readers ≠ 0 := by
  have : (s.threads t).reads ≤ s.permits.totalReads := s.permits.reads_le_totalReads t
  rw [ne_eq, eq_zero_iff_toNat, hs.coupled.readers_eq]
  omega

theorem Accounting.writer_eq_true (hs : s.Accounting) (ht : 0 < (s.threads t).writes) :
    s.state.writer = true := by
  have : (s.threads t).writes ≤ s.permits.totalWrites := s.permits.writes_le_totalWrites t
  exact hs.coupled.writer_iff.mpr (by omega)

/-- Two threads holding read permits keep `readers` off `1`. -/
theorem Accounting.readers_ne_one (hs : s.Accounting) {u : τ} (htu : t ≠ u)
    (ht : 0 < (s.threads t).reads) (hu : 0 < (s.threads u).reads) : s.state.readers ≠ 1 := by
  have : (s.threads t).reads + (s.threads u).reads ≤ s.permits.totalReads :=
    add_le_sum s.threads Thread.reads htu
  rw [ne_eq, eq_one_iff_toNat, hs.coupled.readers_eq]
  omega

/-- After a pass of a wait loop the lock is busy: the caller parked because it was, or returned
holding a permit. -/
theorem Accounting.pass_busy (hs : s.Accounting) {op : Op} {timed : Bool}
    (hs' : (s.pass t op timed).Accounting) (hop : op = .upgrade → 0 < (s.threads t).reads) :
    (s.pass t op timed).state.readers ≠ 0 ∨ (s.pass t op timed).state.writer = true := by
  cases hp : op.pass s.state with
  | none =>
    rw [pass_of_none _ _ hp, state_setPc]
    cases op with
    | read => exact .inr (tryRead_eq_none.mp hp)
    | write => exact tryWrite_eq_none.mp hp
    | upgrade => exact .inl (hs.readers_ne_zero (hop rfl))
  | some st =>
    have hth := (pass_of_some t timed hp).2.2
    cases op with
    | read => exact .inl (hs'.readers_ne_zero (t := t) (by simp [hth, Op.grant]))
    | write => exact .inr (hs'.writer_eq_true (t := t) (by simp [hth, Op.grant]))
    | upgrade => exact .inr (hs'.writer_eq_true (t := t) (by simp [hth, Op.grant]))

theorem Pending.setPc {pc : Pc} (hp : s.Pending) (hw : ¬ (s.threads t).Woken)
    (hn : ¬ (s.threads t).Notifying) : (s.setPc t pc).Pending := by
  rcases hp with ⟨w, op, tm, hv⟩ | ⟨w, n, hv⟩
  · exact .inl ⟨w, op, tm, pc_setPc_of_pc_ne hv fun h => hw ⟨op, tm, h⟩⟩
  · exact .inr ⟨w, n, pc_setPc_of_pc_ne hv fun h => hn ⟨n, h⟩⟩

theorem Step.idle (h : Step s s') (hs : s.Accounting) (hs' : s'.Accounting) (hw : s.NoLostWakeup)
    (h0 : s'.state.readers = 0) (hwr : s'.state.writer = false) (hp : ∃ t, (s'.threads t).Parked) :
    s'.Pending := by
  obtain ⟨v, op, tm, wk, hv⟩ := hp
  cases h with
  | call op timed _ hc =>
    rcases hs.pass_busy hs' (fun h => by subst h; exact hc) with h | h <;> simp_all
  | recheck hpc =>
    rcases hs.pass_busy hs' (fun h => by subst h; exact hs.upgrader_reads _ _ _ hpc) with h | h <;>
      simp_all
  | @timeout t _ hpc =>
    refine (hw.idle (by simpa using h0) (by simpa using hwr)
      ⟨v, op, tm, wk, pc_of_pc_setPc hv (by simp)⟩).setPc ?_ ?_ <;>
      simp [Thread.Woken, Thread.Notifying, hpc]
  | @dropRead t _ _ =>
    refine .inr ⟨t, .one, ?_⟩
    simp only [state_release, readUnlock_fst] at h0
    simp [readUnlock_snd, h0]
  | @dropWrite t _ _ => exact .inr ⟨t, .one, by simp⟩
  | downgrade => simp at h0
  | @notifyOne t u op tm ht hu =>
    have hut : u ≠ t := by rintro rfl; simp_all
    exact .inl ⟨u, op, tm, by simp [threads_setPc_of_ne hut, wakeOne, hu, Pc.wake]⟩
  | @notifyNone t ht hnone =>
    have hv' := pc_of_pc_setPc hv (by simp)
    cases wk
    · exact absurd hv' (hnone v op tm)
    · exact .inl ⟨v, op, tm, pc_setPc_of_pc_ne hv' (by simp [ht])⟩
  | @notifyAll t ht =>
    have hvt : v ≠ t := by rintro rfl; simp at hv
    refine .inl ⟨v, op, tm, ?_⟩
    rw [threads_setPc_of_ne hvt, threads_wakeAll] at hv ⊢
    cases hpc : (s.threads v).pc <;> simp_all [Pc.wake]

/-- A pass of a wait loop leaves a parked sole-reader upgrader with a `notify_all` coming. -/
theorem Accounting.pass_upgrade {op : Op} {tm : Bool} (hs' : (s.pass t op tm).Accounting)
    (hw : s.NoLostWakeup) (hnot : ¬ (s.threads t).Notifying) {u : τ} {timed : Bool}
    (hu : ((s.pass t op tm).threads u).pc = .parked .upgrade timed false)
    (h1 : (s.pass t op tm).state.readers = 1) :
    ∃ v, ((s.pass t op tm).threads v).pc = .notifying .all := by
  cases hp : op.pass s.state with
  | none =>
    rw [pass_of_none _ _ hp] at hu h1 ⊢
    rw [state_setPc] at h1
    by_cases hut : u = t
    · subst hut
      obtain ⟨rfl, -⟩ : op = .upgrade ∧ tm = timed := by simpa using hu
      exact absurd h1 (tryUpgrade_eq_none.mp hp)
    · rw [threads_setPc_of_ne hut] at hu
      obtain ⟨v, hv⟩ := hw.upgrade u timed hu h1
      exact ⟨v, pc_setPc_of_pc_ne hv fun h => hnot ⟨_, h⟩⟩
  | some st =>
    have hth := (pass_of_some t tm hp).2.2
    have hut : u ≠ t := by rintro rfl; simp [hth] at hu
    have hur := hs'.upgrader_reads u timed false hu
    cases op with
    | read => exact absurd h1 (hs'.readers_ne_one hut hur (by simp [hth, Op.grant]))
    | write | upgrade =>
      have := hs'.writer_eq_true (t := t) (by simp [hth, Op.grant])
      have := hs'.coupled.readers_eq_zero_or
      simp_all

theorem Step.upgrade (h : Step s s') (hs : s.Accounting) (hs' : s'.Accounting) (hw : s.NoLostWakeup)
    {u : τ} {timed : Bool} (hu : (s'.threads u).pc = .parked .upgrade timed false)
    (h1 : s'.state.readers = 1) : ∃ v, (s'.threads v).pc = .notifying .all := by
  cases h with
  | call _ _ hpc => exact hs'.pass_upgrade hw (by simp [Thread.Notifying, hpc]) hu h1
  | recheck hpc => exact hs'.pass_upgrade hw (by simp [Thread.Notifying, hpc]) hu h1
  | @timeout t _ hpc =>
    obtain ⟨v, hv⟩ := hw.upgrade u timed (pc_of_pc_setPc hu (by simp)) (by simpa using h1)
    exact ⟨v, pc_setPc_of_pc_ne hv (by simp [hpc])⟩
  | @dropRead t _ _ =>
    simp only [state_release, readUnlock_fst] at h1
    exact ⟨t, by simp [readUnlock_snd, h1]⟩
  | @dropWrite t _ hwr =>
    have := hs.writer_eq_true hwr
    have := hs.coupled.readers_eq_zero_or
    simp_all
  | @downgrade t _ _ => exact ⟨t, by simp⟩
  | @notifyOne t w _ _ ht _ =>
    obtain ⟨v, hv⟩ := hw.upgrade u timed (pc_of_pc_wakeOne (pc_of_pc_setPc hu (by simp)))
      (by simpa using h1)
    exact ⟨v, pc_setPc_of_pc_ne (pc_wakeOne_of_notifying hv)
      (by rw [pc_wakeOne_of_notifying ht]; simp)⟩
  | @notifyNone t ht _ =>
    obtain ⟨v, hv⟩ := hw.upgrade u timed (pc_of_pc_setPc hu (by simp)) (by simpa using h1)
    exact ⟨v, pc_setPc_of_pc_ne hv (by simp [ht])⟩
  | @notifyAll t _ =>
    have hut : u ≠ t := by rintro rfl; simp at hu
    rw [threads_setPc_of_ne hut, threads_wakeAll] at hu
    exact absurd hu Pc.wake_ne_unwoken

theorem Step.noLostWakeup (h : Step s s') (hfit : s'.Fits) (hs : s.Accounting)
    (hw : s.NoLostWakeup) : s'.NoLostWakeup :=
  have hs' := h.accounting hfit hs
  ⟨h.idle hs hs' hw, fun _ _ hu h1 => h.upgrade hs hs' hw hu h1⟩

theorem ReachableFits.noLostWakeup (h : s.ReachableFits) : s.NoLostWakeup :=
  (ReflTransGen.invariant (P := fun s => s.Accounting ∧ s.NoLostWakeup) h
    ⟨accounting_init, noLostWakeup_init⟩
    fun _ _ hst hw => ⟨hst.1.accounting hst.2 hw.1, hst.1.noLostWakeup hst.2 hw.1 hw.2⟩).2

/-- With the read permits fitting in the counter, no wakeup is lost: an idle lock with a parked
thread has a notification under way, and a parked upgrader that is the sole reader has been woken
or has a `notify_all` coming. -/
theorem no_lost_wakeup (h : s.ReachableFits) :
    (s.state.readers = 0 → s.state.writer = false → (∃ t, (s.threads t).Parked) →
      (∃ t, (s.threads t).Woken) ∨ ∃ t, (s.threads t).Notifying) ∧
    (∀ t timed woken, (s.threads t).pc = .parked .upgrade timed woken → s.state.readers = 1 →
      woken = true ∨ ∃ u, (s.threads u).pc = .notifying .all) := by
  have hw := h.noLostWakeup
  refine ⟨hw.idle, fun t timed woken hpc h1 => ?_⟩
  cases woken
  · exact .inr (hw.upgrade t timed hpc h1)
  · exact .inl rfl

/-- Thread `true` drops its write guard while `false` waits in `read`; `true` has still to
notify. -/
theorem reachableFits_reader_parked_at_write_drop :
    ((((init : Sys Bool).pass true .write false).pass false .read false).release true
      (writeUnlock (((init : Sys Bool).pass true .write false).pass false .read false).state)
      { (((init : Sys Bool).pass true .write false).pass false .read false).threads true with
        writes := 0 }).ReachableFits :=
  .tail (.tail (.single ⟨Step.call (t := true) .write false rfl trivial, by decide⟩)
    ⟨Step.call (t := false) .read false rfl trivial, by decide⟩)
    ⟨Step.dropWrite (t := true) rfl (by decide), by decide⟩

theorem no_lost_wakeup_idle_and_upgrader :
    let s := (((init : Sys Bool).pass true .write false).pass false .read false).release true
      (writeUnlock (((init : Sys Bool).pass true .write false).pass false .read false).state)
      { (((init : Sys Bool).pass true .write false).pass false .read false).threads true with
        writes := 0 }
    let u := (((init : Sys Bool).pass true .read false).pass false .read false).pass true .upgrade
      false
    let s' := u.release false (readUnlock u.state) { u.threads false with reads := 0 }
    (s.ReachableFits ∧ s.state.readers = 0 ∧ s.state.writer = false ∧ (s.threads false).Parked ∧
      ((∃ t, (s.threads t).Woken) ∨ ∃ t, (s.threads t).Notifying)) ∧
    (s'.ReachableFits ∧ (s'.threads true).pc = .parked .upgrade false false ∧
      s'.state.readers = 1 ∧ (false = true ∨ ∃ t, (s'.threads t).pc = .notifying .all)) :=
  have hb := Relation.ReflTransGen.tail reachableFits_reader_upgrading
    ⟨Step.dropRead (t := false) rfl (by decide), by decide⟩
  ⟨⟨reachableFits_reader_parked_at_write_drop, rfl, rfl, ⟨.read, false, false, rfl⟩,
      (no_lost_wakeup reachableFits_reader_parked_at_write_drop).1 rfl rfl
        ⟨false, .read, false, false, rfl⟩⟩,
    ⟨hb, rfl, rfl, (no_lost_wakeup hb).2 true false false rfl rfl⟩⟩

/-- One read guard out, a writer parked behind it, then `2 ^ 32 - 1` more reads: the counter wraps
to `0`, the lock looks idle, and nobody will wake the writer. -/
theorem wakeup_lost_after_wrap :
    let s := (((init : Sys Bool).readMany false 1).pass true .write false).readMany false 4294967295
    s.Reachable ∧ s.state.readers = 0 ∧ s.state.writer = false ∧ (s.threads true).Parked ∧
      ¬ s.Pending := by
  dsimp only
  have h₁ := readMany_spec (s := (init : Sys Bool)) (t := false) rfl rfl 1
  have hblocked : Op.pass .write ((init : Sys Bool).readMany false 1).state = none := by
    refine tryWrite_eq_none.mpr (.inl fun h => ?_)
    have := congrArg UInt32.toNat h
    rw [h₁.1] at this
    exact absurd this (by decide)
  have hpark := pass_of_none true false hblocked
  have hw : (((init : Sys Bool).readMany false 1).pass true .write false).state.writer = false := by
    rw [hpark, state_setPc]
    exact h₁.2.1
  have hidle : ((((init : Sys Bool).readMany false 1).pass true .write false).threads false).pc =
      .idle := by
    rw [hpark, threads_setPc_of_ne Bool.false_ne_true, h₁.2.2]
    rfl
  have h₂ := readMany_spec (t := false) hw hidle 4294967295
  refine ⟨?_, ?_, ?_, ?_, ?_⟩
  · refine reachable_readMany ?_ hw hidle _
    refine (reachable_readMany (t := false) .refl rfl rfl 1).tail ?_
    rw [hpark, ← pass_of_none _ _ hblocked]
    exact Step.call .write false (by rw [h₁.2.2]; rfl) trivial
  · refine eq_zero_iff_toNat.mpr ?_
    rw [h₂.1, hpark, state_setPc, h₁.1]
    rfl
  · exact h₂.2.1
  · exact ⟨.write, false, false,
      by rw [h₂.2.2, Function.update_noteq (by decide : true ≠ false), hpark]; rfl⟩
  · have hth : ∀ v, (((((init : Sys Bool).readMany false 1).pass true .write false).readMany false
        4294967295).threads v).pc = if v then .parked .write false false else .idle := by
      intro v
      cases v
      · rw [h₂.2.2, Function.update_same]
        exact hidle
      · rw [h₂.2.2, Function.update_noteq (by decide : true ≠ false), hpark]
        rfl
    rintro (⟨v, op, tm, hv⟩ | ⟨v, n, hv⟩) <;> rw [hth] at hv <;> cases v <;> simp at hv

end Sys

end Libmutex.XLock
