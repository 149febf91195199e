import Libmutex.XLock.Machine

/-!
# Accounting of `XLock<T, ReadBiased>` under guard-mediated use

While the read permits fit in the `u32` counter, `readers` counts them and `writer` is set exactly
when a write permit is out; every step is a step of the abstract lock or none, and every
`debug_assert!` a thread reaches passes. Past `2 ^ 32 - 1` read permits the `+= 1` of `try_read`
wraps; `readMany` builds such runs.
-/

namespace Libmutex.XLock

set_option autoImplicit false
set_option linter.unusedSectionVars false

open ReadBiased

/-- A thread waiting to upgrade still holds the read permit it upgrades. -/
def UpgraderReads (th : Thread) : Prop :=
  ∀ timed woken, th.pc = .parked .upgrade timed woken → 0 < th.reads

theorem upgraderReads_of_pc {th : Thread}
    (h : ∀ timed woken, th.pc ≠ .parked .upgrade timed woken) :
    UpgraderReads th := fun timed woken hpc => absurd hpc (h timed woken)

theorem UpgraderReads.wake {th : Thread} (h : UpgraderReads th) :
    UpgraderReads { th with pc := th.pc.wake } := by
  intro timed woken hpc
  cases hp : th.pc <;> simp only [hp, Pc.wake, reduceCtorEq, Pc.parked.injEq] at hpc
  exact h _ _ (hpc.1 ▸ hp)

namespace Sys
variable {τ : Type} [Fintype τ] [DecidableEq τ] {s s' : Sys τ} {t : τ}

/-- The invariant of guard-mediated use. -/
structure Accounting (s : Sys τ) : Prop where
  coupled : Coupled s.state s.permits
  upgrader_reads : ∀ t, UpgraderReads (s.threads t)

theorem accounting_init : (init : Sys τ).Accounting :=
  ⟨coupled_new, fun _ => upgraderReads_of_pc fun _ _ => by simp [init]⟩

theorem upgraderReads_setThread (hs : ∀ u, UpgraderReads (s.threads u)) {th : Thread}
    (hth : UpgraderReads th) (u : τ) : UpgraderReads ((s.setThread t th).threads u) := by
  rw [threads_setThread]
  split
  · exact hth
  · exact hs u

theorem upgraderReads_setPc (hs : ∀ u, UpgraderReads (s.threads u)) {pc : Pc}
    (hth : UpgraderReads { s.threads t with pc }) (u : τ) :
    UpgraderReads ((s.setPc t pc).threads u) :=
  upgraderReads_setThread hs hth u

theorem upgraderReads_idle (hs : ∀ u, UpgraderReads (s.threads u)) (u : τ) :
    UpgraderReads ((s.setPc t .idle).threads u) :=
  upgraderReads_setPc hs (upgraderReads_of_pc (by simp)) u

theorem upgraderReads_release (hs : ∀ u, UpgraderReads (s.threads u))
    {r : ReadBiasedState × Option Notify} {th : Thread} (u : τ) :
    UpgraderReads ((s.release t r th).threads u) :=
  upgraderReads_setThread (s := s) hs (upgraderReads_of_pc fun _ _ => by cases r.2 <;> simp) u

/-- One pass of a wait loop performs the abstract step of its call when it returns, and none when
it parks. -/
theorem Accounting.pass (hs : s.Accounting) {op : Op} (timed : Bool)
    (hop : op = .upgrade → 0 < (s.threads t).reads) (hfit : (s.pass t op timed).Fits) :
    Coupled (s.pass t op timed).state (s.pass t op timed).permits ∧
      (Permits.Step s.permits (s.pass t op timed).permits ∨
        (s.pass t op timed).permits = s.permits) := by
  cases hp : op.pass s.state with
  | none =>
    rw [pass_of_none _ _ hp]
    exact ⟨by simpa using hs.coupled, .inr permits_setPc⟩
  | some st =>
    obtain ⟨hst, hperm, -⟩ := pass_of_some t timed hp
    rw [hst, hperm]
    unfold Fits totalReads at hfit
    rw [hperm] at hfit
    cases op with
    | read =>
      obtain ⟨hstep, hc⟩ := tryRead_refines hs.coupled hp (by simpa [Op.permit] using hfit)
      exact ⟨hc, .inl hstep⟩
    | write =>
      obtain ⟨hstep, hc⟩ := tryWrite_refines (t := t) hs.coupled hp
      exact ⟨hc, .inl hstep⟩
    | upgrade =>
      obtain ⟨hstep, hc⟩ := tryUpgrade_refines hs.coupled (hop rfl) hp
      exact ⟨hc, .inl hstep⟩

theorem upgraderReads_pass (hs : ∀ u, UpgraderReads (s.threads u)) {op : Op} (timed : Bool)
    (hop : op = .upgrade → 0 < (s.threads t).reads) (u : τ) :
    UpgraderReads ((s.pass t op timed).threads u) := by
  cases hp : op.pass s.state with
  | none =>
    rw [pass_of_none _ _ hp]
    have hth : UpgraderReads { s.threads t with pc := .parked op timed false } :=
      fun _ _ hpc => hop (Pc.parked.inj hpc).1
    exact upgraderReads_setPc hs hth u
  | some st =>
    rw [(pass_of_some t timed hp).2.2]
    refine upgraderReads_setThread (s := s) hs (upgraderReads_of_pc fun _ _ => ?_) u
    cases op <;> simp [Op.grant]

/-- Every step of guard-mediated use performs one step of the abstract lock, or leaves the permits
as they are, and keeps the counters coupled. -/
theorem Step.refines (h : Step s s') (hfit : s'.Fits) (hs : s.Accounting) :
    Coupled s'.state s'.permits ∧ (Permits.Step s.permits s'.permits ∨ s'.permits = s.permits) := by
  cases h with
  | call op timed _ hc => exact hs.pass timed (fun h => by subst h; exact hc) hfit
  | recheck hpc => exact hs.pass _ (fun h => by subst h; exact hs.upgrader_reads _ _ _ hpc) hfit
  | timeout => exact ⟨by simpa using hs.coupled, .inr permits_setPc⟩
  | dropRead _ hr =>
    obtain ⟨hstep, hc⟩ := readUnlock_refines hs.coupled hr
    rw [state_release, permits_release, permits_removeRead]
    exact ⟨hc, .inl hstep⟩
  | dropWrite _ hw =>
    obtain ⟨hstep, hc⟩ := writeUnlock_refines hs.coupled hw
    rw [state_release, permits_release, permits_removeWrite]
    exact ⟨hc, .inl hstep⟩
  | downgrade _ hw =>
    obtain ⟨hstep, hc⟩ := downgrade_refines hs.coupled hw
    rw [state_lockDowngrade, state_setThread, permits_lockDowngrade, permits_removeWrite]
    exact ⟨hc, .inl hstep⟩
  | notifyOne => exact ⟨by simpa using hs.coupled, .inr (by simp)⟩
  | notifyNone => exact ⟨by simpa using hs.coupled, .inr permits_setPc⟩
  | notifyAll => exact ⟨by simpa using hs.coupled, .inr (by simp)⟩

theorem Step.upgraderReads (h : Step s s') (hs : ∀ u, UpgraderReads (s.threads u)) :
    ∀ u, UpgraderReads (s'.threads u) := by
  cases h with
  | call op timed _ hc => exact upgraderReads_pass hs timed (fun h => by subst h; exact hc)
  | recheck hpc => exact upgraderReads_pass hs _ (fun h => by subst h; exact hs _ _ _ hpc)
  | timeout | notifyNone => exact upgraderReads_idle hs
  | dropRead | dropWrite => exact upgraderReads_release hs
  | downgrade hpc =>
    exact upgraderReads_release (upgraderReads_setThread hs (upgraderReads_of_pc (by simp [hpc])))
  | @notifyOne _ u => exact upgraderReads_idle (upgraderReads_setPc hs (hs u).wake)
  | notifyAll => exact upgraderReads_idle fun u => (hs u).wake

theorem Step.accounting (h : Step s s') (hfit : s'.Fits) (hs : s.Accounting) : s'.Accounting :=
  ⟨(h.refines hfit hs).1, h.upgraderReads hs.upgrader_reads⟩

theorem ReachableFits.accounting (h : s.ReachableFits) : s.Accounting :=
  ReflTransGen.invariant h accounting_init fun _ _ hs ha => hs.1.accounting hs.2 ha

/-- Used through its guards while the read permits fit in the counter, the lock refines the
abstract reader-writer lock: each step is one step of it or leaves the permits alone, so the
permits out are those of a run of it. -/
theorem ReachableFits.permits_reachable (h : s.ReachableFits) :
    s.permits.Reachable ∧ ∀ s', Step s s' → s'.Fits →
      Permits.Step s.permits s'.permits ∨ s'.permits = s.permits :=
  ⟨(ReflTransGen.invariant (P := fun s : Sys τ => s.Accounting ∧ s.permits.Reachable) h
      ⟨accounting_init, .refl⟩ fun _ _ ⟨hxy, hfit⟩ ⟨hx, hp⟩ =>
        ⟨hxy.accounting hfit hx, (hxy.refines hfit hx).2.elim hp.tail fun heq => heq ▸ hp⟩).2,
    fun _ hs hfit => (hs.refines hfit h.accounting).2⟩

/-- Thread `true` takes and drops a read guard, its `notify_one` finding nobody parked. -/
theorem reachableFits_read_released :
    ((((init : Sys Bool).pass true .read false).release true
      (ReadBiased.readUnlock ((init : Sys Bool).pass true .read false).state)
      { ((init : Sys Bool).pass true .read false).threads true with reads := 0 }).setPc true .idle)
      |>.ReachableFits :=
  .tail (.tail (.single ⟨Step.call (t := true) .read false rfl trivial, by decide⟩)
    ⟨Step.dropRead (t := true) rfl (by decide), by decide⟩)
    ⟨Step.notifyNone (t := true) rfl (fun u _ _ h => by cases u <;> cases h), by decide⟩

/-- Two readers, and thread `true` waits in `upgrade` for the other's read guard. -/
theorem reachableFits_reader_upgrading :
    (((init : Sys Bool).pass true .read false).pass false .read false).pass true .upgrade false
      |>.ReachableFits :=
  .tail (.tail (.single ⟨Step.call (t := true) .read false rfl trivial, by decide⟩)
    ⟨Step.call (t := false) .read false rfl trivial, by decide⟩)
    ⟨Step.call (t := true) .upgrade false rfl Nat.one_pos, by decide⟩

theorem permits_reachable_write_after_read :
    let s := (((init : Sys Bool).pass true .read false).release true
      (ReadBiased.readUnlock ((init : Sys Bool).pass true .read false).state)
      { ((init : Sys Bool).pass true .read false).threads true with reads := 0 }).setPc true .idle
    s.ReachableFits ∧ Step s (s.pass false .write false) ∧ (s.pass false .write false).Fits ∧
      s.permits.Reachable ∧
      (Permits.Step s.permits (s.pass false .write false).permits ∨
        (s.pass false .write false).permits = s.permits) :=
  ⟨reachableFits_read_released, Step.call .write false rfl trivial, by decide,
    (ReachableFits.permits_reachable reachableFits_read_released).1,
    (ReachableFits.permits_reachable reachableFits_read_released).2 _
      (Step.call .write false rfl trivial) (by decide)⟩

/-- Read bias: while a thread holds a read permit, `read` or `try_read` by any thread returns at
its first pass with a read permit, whatever waits. -/
theorem ReachableFits.read_passes {u : τ} (h : s.ReachableFits) (hu : 0 < (s.threads u).reads)
    (timed : Bool) : (s.pass t .read timed).permits = s.permits.addRead t := by
  obtain ⟨st, hst⟩ := Option.isSome_iff_exists.mp (h.accounting.coupled.tryRead_isSome hu)
  exact (pass_of_some t timed (show Op.read.pass s.state = some st from hst)).2.1

theorem read_passes_beside_parked_writer :
    let s := ((init : Sys Bool).pass true .read false).pass false .write false
    s.ReachableFits ∧ 0 < (s.threads true).reads ∧
      (s.threads false).pc = .parked .write false false ∧
      (s.pass true .read false).permits = s.permits.addRead true :=
  have hrun : (((init : Sys Bool).pass true .read false).pass false .write false).ReachableFits :=
    .tail (.single ⟨Step.call (t := true) .read false rfl trivial, by decide⟩)
      ⟨Step.call (t := false) .write false rfl trivial, by decide⟩
  ⟨hrun, by decide, rfl, ReachableFits.read_passes hrun (u := true) (by decide) false⟩

/-- Used through its guards, with its read permits fitting in the `u32` counter, the lock counts
them exactly, and every `debug_assert!` a thread reaches passes. -/
theorem readBiased_accounting (h : s.ReachableFits) :
    s.state.readers.toNat = s.totalReads ∧
    (s.state.writer = true ↔ ∃ t, 0 < (s.threads t).writes) ∧
    (∀ t u, 0 < (s.threads t).writes → 0 < (s.threads u).writes → t = u) ∧
    (s.state.readers = 0 ∨ s.state.writer = false) ∧
    (∀ t, (0 < (s.threads t).reads ∨ ∃ timed woken, (s.threads t).pc = .parked .upgrade timed woken) →
      readerAsserts s.state = true) ∧
    (∀ t, 0 < (s.threads t).writes → writerAsserts s.state = true) := by
  obtain ⟨hc, hup⟩ := h.accounting
  refine ⟨hc.readers_eq, hc.writer_iff.trans (Permits.totalWrites_pos_iff _),
    fun t u => hc.exclusive.sole_writer, hc.readers_eq_zero_or, fun t ht => ?_,
    fun t => hc.writerAsserts⟩
  obtain ht | ⟨timed, woken, hpc⟩ := ht
  · exact hc.readerAsserts ht
  · exact hc.readerAsserts (hup t timed woken hpc)

/-- One thread holds the write guard, the other is parked in a timed `try_read`. -/
theorem reachableFits_writer_and_parked_reader :
    (((init : Sys Bool).pass true .write false).pass false .read true).ReachableFits :=
  .tail (.single ⟨Step.call .write false rfl trivial, by decide⟩)
    ⟨Step.call .read true rfl trivial, by decide⟩

theorem readBiased_accounting_writer_and_upgrader :
    let s := ((init : Sys Bool).pass true .write false).pass false .read true
    let s' := (((init : Sys Bool).pass true .read false).pass false .read false).pass true .upgrade
      false
    (s.ReachableFits ∧ (s.threads true).writes = 1 ∧
      s.state.readers.toNat = s.totalReads ∧
      (s.state.writer = true ↔ ∃ t, 0 < (s.threads t).writes) ∧
      (∀ t u, 0 < (s.threads t).writes → 0 < (s.threads u).writes → t = u) ∧
      (s.state.readers = 0 ∨ s.state.writer = false) ∧
      (∀ t, (0 < (s.threads t).reads ∨ ∃ timed woken, (s.threads t).pc = .parked .upgrade timed woken) →
        readerAsserts s.state = true) ∧
      (∀ t, 0 < (s.threads t).writes → writerAsserts s.state = true)) ∧
    (s'.ReachableFits ∧ s'.totalReads = 2 ∧ (s'.threads true).pc = .parked .upgrade false false ∧
      s'.state.readers.toNat = s'.totalReads ∧
      (s'.state.writer = true ↔ ∃ t, 0 < (s'.threads t).writes) ∧
      (∀ t u, 0 < (s'.threads t).writes → 0 < (s'.threads u).writes → t = u) ∧
      (s'.state.readers = 0 ∨ s'.state.writer = false) ∧
      (∀ t, (0 < (s'.threads t).reads ∨ ∃ timed woken, (s'.threads t).pc = .parked .upgrade timed woken) →
        readerAsserts s'.state = true) ∧
      (∀ t, 0 < (s'.threads t).writes → writerAsserts s'.state = true)) :=
  ⟨⟨reachableFits_writer_and_parked_reader, rfl,
      readBiased_accounting reachableFits_writer_and_parked_reader⟩,
    ⟨reachableFits_reader_upgrading, by decide, rfl,
      readBiased_accounting reachableFits_reader_upgrading⟩⟩

/-- `k` more `read`s by `t` in a row, none of them blocked. -/
def readMany (s : Sys τ) (t : τ) (k : ℕ) : Sys τ := (fun s => s.pass t .read false)^[k] s

theorem readMany_spec (hw : s.state.writer = false) (hi : (s.threads t).pc = .idle) (k : ℕ) :
    (s.readMany t k).state.readers.toNat = (s.state.readers.toNat + k) % 2 ^ 32 ∧
      (s.readMany t k).state.writer = false ∧
      (s.readMany t k).threads =
        Function.update s.threads t { s.threads t with reads := (s.threads t).reads + k } := by
  induction k with
  | zero =>
    have := toNat_lt_two_pow s.state.readers
    refine ⟨by simp [readMany]; omega, hw, ?_⟩
    simp [readMany]
  | succ k ih =>
    obtain ⟨hr, hw', hth⟩ := ih
    have hp : Op.pass .read (s.readMany t k).state =
        some { (s.readMany t k).state with readers := (s.readMany t k).state.readers + 1 } :=
      tryRead_eq_some.mpr ⟨hw', rfl⟩
    obtain ⟨hst, -, hth'⟩ := pass_of_some t false hp
    simp only [readMany, Function.iterate_succ_apply'] at hst hth' ⊢
    simp only [readMany] at hr hw' hth
    refine ⟨?_, by rw [hst]; exact hw', ?_⟩
    · rw [hst, toNat_add_mod, hr]
      show ((s.state.readers.toNat + k) % 2 ^ 32 + 1) % 2 ^ 32 = _
      omega
    · rw [hth', hth]
      simp [Op.grant, hi, Nat.add_assoc]

theorem reachable_readMany (h : s.Reachable) (hw : s.state.writer = false)
    (hi : (s.threads t).pc = .idle) (k : ℕ) : (s.readMany t k).Reachable := by
  induction k with
  | zero => exact h
  | succ k ih =>
    have hpc : ((s.readMany t k).threads t).pc = .idle := by
      simp [(readMany_spec hw hi k).2.2, hi]
    rw [readMany, Function.iterate_succ_apply']
    exact ih.tail (Step.call .read false hpc trivial)

theorem readMany_init_reads (k : ℕ) : ((init : Sys Unit).readMany () k).totalReads = k := by
  simp only [totalReads, Permits.totalReads, permits,
    (readMany_spec (s := init) (t := ()) rfl rfl k).2.2]
  simp [init]

/-- `2 ^ 32` read guards out, and the counter has wrapped to `0`. -/
theorem readers_wraps_at_two_pow_32 :
    ((init : Sys Unit).readMany () (2 ^ 32)).Reachable ∧
      ((init : Sys Unit).readMany () (2 ^ 32)).state.readers.toNat ≠
        ((init : Sys Unit).readMany () (2 ^ 32)).totalReads := by
  refine ⟨reachable_readMany .refl rfl rfl _, ?_⟩
  rw [(readMany_spec (s := init) (t := ()) rfl rfl _).1, readMany_init_reads]
  simp [init, ReadBiased.new]

/-- With its read permits fitting in the `u32` counter, the counter equals the read permits out,
and `try_write` grants only when none is out. -/
theorem readers_counter_exact (h : s.ReachableFits) :
    s.state.readers.toNat = s.totalReads ∧ ∀ st, tryWrite s.state = some st → s.totalReads = 0 := by
  have hc := h.accounting.coupled
  refine ⟨hc.readers_eq, fun st hw => ?_⟩
  rw [totalReads, ← hc.readers_eq, (tryWrite_eq_some.mp hw).1]
  rfl

theorem readers_counter_exact_readers_and_grant :
    let s := (((init : Sys Bool).pass true .read false).pass false .read false).pass true .upgrade
      false
    let s' := (((init : Sys Bool).pass true .read false).release true
      (ReadBiased.readUnlock ((init : Sys Bool).pass true .read false).state)
      { ((init : Sys Bool).pass true .read false).threads true with reads := 0 }).setPc true .idle
    (s.ReachableFits ∧ s.totalReads = 2 ∧ s.state.readers.toNat = s.totalReads ∧
      ∀ st, tryWrite s.state = some st → s.totalReads = 0) ∧
    (s'.ReachableFits ∧ tryWrite s'.state = some ⟨0, true⟩ ∧
      s'.state.readers.toNat = s'.totalReads ∧ s'.totalReads = 0) :=
  ⟨⟨reachableFits_reader_upgrading, by decide,
      readers_counter_exact reachableFits_reader_upgrading⟩,
    ⟨reachableFits_read_released, rfl, (readers_counter_exact reachableFits_read_released).1,
      (readers_counter_exact reachableFits_read_released).2 _ rfl⟩⟩

/-- `2 ^ 32 - 1` leaked read guards: `try_read` increments `readers` at `u32::MAX`, to `0`, and
`try_write` then grants beside `2 ^ 32` read guards. -/
theorem try_read_increments_at_max :
    ((init : Sys Unit).readMany () (2 ^ 32 - 1)).Reachable ∧
      ((init : Sys Unit).readMany () (2 ^ 32 - 1)).state = ⟨4294967295, false⟩ ∧
      tryRead ⟨4294967295, false⟩ = some ⟨0, false⟩ ∧
      ((init : Sys Unit).readMany () (2 ^ 32)).totalReads = 2 ^ 32 ∧
      tryWrite ((init : Sys Unit).readMany () (2 ^ 32)).state = some ⟨0, true⟩ := by
  have hmax := readMany_spec (s := init) (t := ()) rfl rfl (2 ^ 32 - 1)
  have hwrap := readMany_spec (s := init) (t := ()) rfl rfl (2 ^ 32)
  refine ⟨reachable_readMany .refl rfl rfl _, ?_, by decide, readMany_init_reads _, ?_⟩
  · exact ReadBiasedState.ext (ext_toNat (by rw [hmax.1]; rfl)) hmax.2.1
  · rw [show ((init : Sys Unit).readMany () (2 ^ 32)).state = ⟨0, false⟩ from
      ReadBiasedState.ext (ext_toNat (by rw [hwrap.1]; rfl)) hwrap.2.1]
    decide

/-- `XLock::downgrade` called by one thread while the other holds the write guard: the debug
assertions pass, a read guard comes back, and the write guard is still live. -/
theorem lock_downgrade_beside_writer :
    ((init : Sys Bool).pass true .write false).Reachable ∧
      writerAsserts ((init : Sys Bool).pass true .write false).state = true ∧
      0 < ((((init : Sys Bool).pass true .write false).lockDowngrade false).threads false).reads ∧
      0 < ((((init : Sys Bool).pass true .write false).lockDowngrade false).threads true).writes ∧
      (((init : Sys Bool).pass true .write false).lockDowngrade false).state.writer = false ∧
      ¬ (((init : Sys Bool).pass true .write false).lockDowngrade false).permits.Exclusive := by
  refine ⟨.single (Step.call .write false rfl trivial), by decide, by decide, by decide, rfl, ?_⟩
  intro h
  have := h.disjoint
  simp [Permits.totalReads, Permits.totalWrites, permits] at this
  revert this
  decide

end Sys

end Libmutex.XLock
