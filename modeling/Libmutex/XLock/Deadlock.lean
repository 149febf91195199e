import Libmutex.XLock.Wakeup

/-!
# Deadlocks of `XLock<T, ReadBiased>`

The lock is not reentrant: threads waiting untimed in loops that the permits they hold among
themselves keep closed wait forever (`ReachableFits.deadlocked_forever`), two read guards both in
`upgrade` among them. With no permit out the threads are never all asleep
(`ReachableFits.not_all_asleep`).
-/

namespace Libmutex.XLock

set_option autoImplicit false
set_option linter.unusedSectionVars false

open ReadBiased

/-- The permits, `r` read and `w` write, that keep the loop of `op` waiting whoever else holds
what: a writer for `try_read`, any permit for `try_write`, a second reader for `try_upgrade`. -/
def Op.BlockedBy : Op → ℕ → ℕ → Prop
  | .read, _, w => 0 < w
  | .write, r, w => 0 < r + w
  | .upgrade, r, _ => 2 ≤ r

namespace Sys
variable {τ : Type} [Fintype τ] [DecidableEq τ] {s s' : Sys τ} {t : τ}

theorem Accounting.pass_eq_none {op : Op} {r w : ℕ} (hs : s.Accounting)
    (hr : r ≤ s.permits.totalReads) (hw : w ≤ s.permits.totalWrites) (hb : op.BlockedBy r w) :
    op.pass s.state = none := by
  cases op with
  | read => exact hs.coupled.tryRead_eq_none (lt_of_lt_of_le (show 0 < w from hb) hw)
  | write => exact hs.coupled.tryWrite_eq_none (by change 0 < r + w at hb; omega)
  | upgrade =>
    change 2 ≤ r at hb
    have := hs.coupled.readers_eq
    exact tryUpgrade_eq_none.mpr fun h1 => by have := eq_one_iff_toNat.mp h1; omega

theorem Step.waiting {op : Op} {woken : Bool} (h : Step s s')
    (ht : (s.threads t).pc = .parked op false woken) (hp : op.pass s.state = none) :
    ∃ woken', s'.threads t = { s.threads t with pc := .parked op false woken' } := by
  cases h with
  | @call v _ _ hpc _ =>
    have hvt : t ≠ v := by rintro rfl; simp [ht] at hpc
    exact ⟨woken, by rw [threads_pass_of_ne hvt, ← ht]⟩
  | @recheck v _ _ _ hpc =>
    by_cases hvt : t = v
    · subst hvt
      obtain ⟨rfl, rfl, -⟩ := by simpa [ht] using hpc
      exact ⟨false, by rw [pass_of_none t false hp, threads_setPc_self]⟩
    · exact ⟨woken, by rw [threads_pass_of_ne hvt, ← ht]⟩
  | @timeout v _ hpc =>
    have hvt : t ≠ v := by rintro rfl; simp [ht] at hpc
    exact ⟨woken, by rw [threads_setPc_of_ne hvt, ← ht]⟩
  | @dropRead v hpc _ =>
    have hvt : t ≠ v := by rintro rfl; simp [ht] at hpc
    exact ⟨woken, by rw [threads_release_of_ne hvt, ← ht]⟩
  | @dropWrite v hpc _ =>
    have hvt : t ≠ v := by rintro rfl; simp [ht] at hpc
    exact ⟨woken, by rw [threads_release_of_ne hvt, ← ht]⟩
  | @downgrade v hpc _ =>
    have hvt : t ≠ v := by rintro rfl; simp [ht] at hpc
    exact ⟨woken, by rw [threads_lockDowngrade_of_ne hvt, threads_setThread, if_neg hvt, ← ht]⟩
  | @notifyOne v w _ _ hpc _ =>
    have hvt : t ≠ v := by rintro rfl; simp [ht] at hpc
    rw [threads_setPc_of_ne hvt]
    by_cases hwt : t = w
    · subst hwt
      exact ⟨true, by rw [wakeOne, threads_setPc_self, ht]; rfl⟩
    · exact ⟨woken, by rw [threads_wakeOne_of_ne hwt, ← ht]⟩
  | @notifyNone v hpc _ =>
    have hvt : t ≠ v := by rintro rfl; simp [ht] at hpc
    exact ⟨woken, by rw [threads_setPc_of_ne hvt, ← ht]⟩
  | @notifyAll v hpc =>
    have hvt : t ≠ v := by rintro rfl; simp [ht] at hpc
    exact ⟨true, by rw [threads_setPc_of_ne hvt, threads_wakeAll, ht]; rfl⟩

section Deadlocked
variable {S : Finset τ} {op : τ → Op}

/-- The threads of `S` each wait, untimed, in the loop of `op t`, and the permits they hold among
them keep every one of those loops waiting. -/
structure Deadlocked (s : Sys τ) (S : Finset τ) (op : τ → Op) : Prop where
  waiting : ∀ t ∈ S, ∃ woken, (s.threads t).pc = .parked (op t) false woken
  blocked : ∀ t ∈ S,
    (op t).BlockedBy (∑ u ∈ S, (s.threads u).reads) (∑ u ∈ S, (s.threads u).writes)

theorem Step.deadlocked (h : Step s s') (hs : s.Accounting) (hd : s.Deadlocked S op) :
    s'.Deadlocked S op ∧ ∀ t ∈ S, (s'.threads t).reads = (s.threads t).reads ∧
      (s'.threads t).writes = (s.threads t).writes := by
  have hr : ∑ u ∈ S, (s.threads u).reads ≤ s.permits.totalReads :=
    Finset.sum_le_sum_of_subset (Finset.subset_univ S)
  have hw : ∑ u ∈ S, (s.threads u).writes ≤ s.permits.totalWrites :=
    Finset.sum_le_sum_of_subset (Finset.subset_univ S)
  have hwait : ∀ t ∈ S, ∃ woken',
      s'.threads t = { s.threads t with pc := .parked (op t) false woken' } := fun t ht =>
    have ⟨_, hpc⟩ := hd.waiting t ht
    h.waiting hpc (hs.pass_eq_none hr hw (hd.blocked t ht))
  have hkeep : ∀ t ∈ S, (s'.threads t).reads = (s.threads t).reads ∧
      (s'.threads t).writes = (s.threads t).writes := fun t ht =>
    have ⟨_, heq⟩ := hwait t ht
    ⟨by rw [heq], by rw [heq]⟩
  have hsum_r : ∑ u ∈ S, (s'.threads u).reads = ∑ u ∈ S, (s.threads u).reads :=
    Finset.sum_congr rfl fun u hu => (hkeep u hu).1
  have hsum_w : ∑ u ∈ S, (s'.threads u).writes = ∑ u ∈ S, (s.threads u).writes :=
    Finset.sum_congr rfl fun u hu => (hkeep u hu).2
  refine ⟨⟨fun t ht => ?_, fun t ht => ?_⟩, hkeep⟩
  · obtain ⟨woken', heq⟩ := hwait t ht
    exact ⟨woken', by rw [heq]⟩
  · rw [hsum_r, hsum_w]
    exact hd.blocked t ht

/-- A deadlocked set of threads never leaves its loops: from a reachable state, every run that
fits the counter keeps the set deadlocked, each thread holding the permits it held. -/
theorem ReachableFits.deadlocked_forever (h : s.ReachableFits) (hd : s.Deadlocked S op)
    (hrun : Relation.ReflTransGen (fun s s' => Step s s' ∧ s'.Fits) s s') :
    s'.Deadlocked S op ∧ ∀ t ∈ S, (s'.threads t).reads = (s.threads t).reads ∧
      (s'.threads t).writes = (s.threads t).writes :=
  (ReflTransGen.invariant (P := fun x : Sys τ => x.Accounting ∧ x.Deadlocked S op ∧
      ∀ t ∈ S, (x.threads t).reads = (s.threads t).reads ∧
        (x.threads t).writes = (s.threads t).writes) hrun
    ⟨h.accounting, hd, fun _ _ => ⟨rfl, rfl⟩⟩
    fun _ _ ⟨hxy, hfit⟩ ⟨hx, hdx, hkx⟩ =>
      have hstep := hxy.deadlocked hx hdx
      ⟨hxy.accounting hfit hx, hstep.1, fun t ht =>
        ⟨(hstep.2 t ht).1.trans (hkx t ht).1, (hstep.2 t ht).2.trans (hkx t ht).2⟩⟩).2

theorem reachableFits_two_upgraders :
    ((((init : Sys Bool).pass true .read false).pass false .read false).pass true .upgrade false
      |>.pass false .upgrade false).ReachableFits :=
  .tail reachableFits_reader_upgrading
    ⟨Step.call (t := false) .upgrade false rfl Nat.one_pos, by decide⟩

theorem deadlocked_forever_two_upgraders :
    let s := (((init : Sys Bool).pass true .read false).pass false .read false).pass true
      .upgrade false |>.pass false .upgrade false
    s.ReachableFits ∧ s.Deadlocked Finset.univ (fun _ => .upgrade) ∧
      Relation.ReflTransGen (fun s s' => Step s s' ∧ s'.Fits) s (s.pass true .upgrade false) ∧
      (s.pass true .upgrade false).Deadlocked Finset.univ (fun _ => .upgrade) ∧
      ∀ t ∈ Finset.univ, ((s.pass true .upgrade false).threads t).reads = (s.threads t).reads ∧
        ((s.pass true .upgrade false).threads t).writes = (s.threads t).writes :=
  have hd : ((((init : Sys Bool).pass true .read false).pass false .read false).pass true
      .upgrade false |>.pass false .upgrade false).Deadlocked Finset.univ (fun _ => .upgrade) :=
    ⟨fun t _ => ⟨false, by cases t <;> rfl⟩, fun _ _ => show 2 ≤ _ by decide⟩
  have hstep := Relation.ReflTransGen.single ⟨Step.recheck (t := true) rfl, by decide⟩
  ⟨reachableFits_two_upgraders, hd, hstep,
    ReachableFits.deadlocked_forever reachableFits_two_upgraders hd hstep⟩

end Deadlocked

/-- With no permit out, the threads are never all asleep: some thread is outside the lock's
waits, has still to notify, or has been woken. -/
theorem ReachableFits.not_all_asleep [Nonempty τ] (h : s.ReachableFits)
    (hfree : ∀ t, (s.threads t).reads = 0 ∧ (s.threads t).writes = 0) :
    ∃ t, ∀ op timed, (s.threads t).pc ≠ .parked op timed false := by
  by_contra hall
  push_neg at hall
  obtain ⟨h0, hwr⟩ := h.accounting.coupled.open_of_free
    (Finset.sum_eq_zero fun t _ => (hfree t).1) (Finset.sum_eq_zero fun t _ => (hfree t).2)
  obtain ⟨t⟩ := ‹Nonempty τ›
  obtain ⟨op, timed, ht⟩ := hall t
  rcases h.noLostWakeup.idle h0 hwr ⟨t, op, timed, false, ht⟩ with ⟨u, _, _, hu⟩ | ⟨u, _, hu⟩ <;>
  · obtain ⟨_, _, hu'⟩ := hall u
    simp [hu'] at hu

theorem not_all_asleep_writer_notifying :
    let s := (((init : Sys Bool).pass true .write false).pass false .read false).release true
      (writeUnlock (((init : Sys Bool).pass true .write false).pass false .read false).state)
      { (((init : Sys Bool).pass true .write false).pass false .read false).threads true with
        writes := 0 }
    s.ReachableFits ∧ (∀ t, (s.threads t).reads = 0 ∧ (s.threads t).writes = 0) ∧
      ∃ t, ∀ op timed, (s.threads t).pc ≠ .parked op timed false :=
  ⟨reachableFits_reader_parked_at_write_drop, by decide,
    ReachableFits.not_all_asleep reachableFits_reader_parked_at_write_drop (by decide)⟩

end Sys

end Libmutex.XLock
