import Libmutex.UrwLock.Condvar

/-!
# Deadlocks of `UrwLock`

`UrwLock` is not reentrant: threads waiting in `cond.wait` whose loops are kept closed by the guards
they hold among themselves stay there on every run (`ReachableFits.stays_deadlocked`). With no
guard out the threads are never all asleep (`ReachableFits.not_all_waiting`). The inner lock is
`std`'s `RwLock` by its contract, whose `read` never panics.
-/

namespace Libmutex.UrwLock

set_option autoImplicit false
set_option linter.unusedSectionVars false

/-- The guards, `r` read and `w` write, that keep the loop of `g` waiting whoever else holds
what: a write guard for `read`, any guard for `write`. -/
def Gate.BlockedBy : Gate → ℕ → ℕ → Prop
  | .read, _, w => 0 < w
  | .write, r, w => 0 < r + w

namespace Sys
variable {τ : Type} [Fintype τ] [DecidableEq τ] {s : Sys τ}

theorem Inv.pass_eq_none {g : Gate} {r w : ℕ} (hs : s.Inv) (hr : r ≤ s.slots.totalReads)
    (hw : w ≤ s.slots.totalWrites) (hb : g.BlockedBy r w) : g.pass s.state = none := by
  cases g with
  | read => exact hs.coupled.tryRead_eq_none (lt_of_lt_of_le (show 0 < w from hb) hw)
  | write => exact hs.coupled.tryWrite_eq_none (by change 0 < r + w at hb; omega)

end Sys

namespace CondSys
variable {τ : Type} [Fintype τ] [DecidableEq τ] {c c' : CondSys τ} {t : τ}

theorem Step.waiting {g : Gate} {woken : Bool} (h : Step c c') (hs : c.Inv)
    (ht : c.waits t = .parked g woken) (hp : g.pass c.sys.state = none) :
    c'.sys.threads t = c.sys.threads t ∧ ∃ woken', c'.waits t = .parked g woken' := by
  have hi : (c.sys.threads t).pc = .idle := hs.idle t (by simp [ht])
  cases h with
  | call v _ hv _ =>
    have hvt : t ≠ v := by rintro rfl; simp [ht] at hv
    exact ⟨check_threads_of_ne hvt, woken, by rw [check_waits_of_ne hvt, ht]⟩
  | recheck v _ _ hv =>
    by_cases hvt : t = v
    · subst hvt
      obtain ⟨rfl, -⟩ := by simpa [ht] using hv
      rw [check_of_pass_eq_none hp]
      exact ⟨rfl, false, Function.update_same _ _ _⟩
    · exact ⟨check_threads_of_ne hvt, woken, by rw [check_waits_of_ne hvt, ht]⟩
  | readUnlock v _ hv =>
    have hvt : t ≠ v := by rintro rfl; simp [ht] at hv
    exact ⟨Sys.threads_gate_of_ne hvt, notify_of_parked ht⟩
  | writeUnlock v _ hv =>
    have hvt : t ≠ v := by rintro rfl; simp [ht] at hv
    exact ⟨Sys.threads_critical_of_ne hvt,
      notify_of_parked (n := (ReadBiased.writeUnlock c.sys.state).2) ht⟩
  | downgrade v hpc =>
    have hvt : t ≠ v := by rintro rfl; simp [hi] at hpc
    exact ⟨Sys.threads_critical_of_ne hvt,
      notify_of_parked (w := none) (n := (ReadBiased.downgrade c.sys.state).2) ht⟩
  | readData v hpc _ =>
    have hvt : t ≠ v := by rintro rfl; simp [hi] at hpc
    exact ⟨Sys.threads_acquire_of_ne hvt, woken, ht⟩
  | readRelease v hpc =>
    have hvt : t ≠ v := by rintro rfl; simp [hi] at hpc
    exact ⟨Sys.threads_inner_of_ne hvt, woken, ht⟩
  | writeData v hpc _ =>
    have hvt : t ≠ v := by rintro rfl; simp [hi] at hpc
    exact ⟨Sys.threads_acquire_of_ne hvt, woken, ht⟩
  | writeRelease v hpc =>
    have hvt : t ≠ v := by rintro rfl; simp [hi] at hpc
    exact ⟨Sys.threads_inner_of_ne hvt, woken, ht⟩
  | downgradeTake v hv =>
    have hvt : t ≠ v := by rintro rfl; simp [ht] at hv
    exact ⟨Sys.threads_inner_of_ne hvt, woken, ht⟩

section Deadlocked
variable {S : Finset τ} {g : τ → Gate}

/-- The threads of `S` each wait in `cond.wait` in the loop of `g t`, and the guards they hold
among them keep every one of those loops waiting. -/
structure Deadlocked (c : CondSys τ) (S : Finset τ) (g : τ → Gate) : Prop where
  waiting : ∀ t ∈ S, ∃ woken, c.waits t = .parked (g t) woken
  blocked : ∀ t ∈ S,
    (g t).BlockedBy (∑ u ∈ S, (c.sys.threads u).reads) (∑ u ∈ S, (c.sys.threads u).writes)

theorem Step.deadlocked (h : Step c c') (hs : c.Inv) (hsys : c.sys.Inv)
    (hd : c.Deadlocked S g) : c'.Deadlocked S g ∧ ∀ t ∈ S, c'.sys.threads t = c.sys.threads t := by
  have hr : ∑ u ∈ S, (c.sys.threads u).reads ≤ c.sys.slots.totalReads :=
    calc ∑ u ∈ S, (c.sys.threads u).reads ≤ ∑ u ∈ S, (c.sys.threads u).readSlots :=
          Finset.sum_le_sum fun _ _ => Nat.le_add_right _ _
      _ ≤ c.sys.slots.totalReads := Finset.sum_le_sum_of_subset (Finset.subset_univ S)
  have hw : ∑ u ∈ S, (c.sys.threads u).writes ≤ c.sys.slots.totalWrites :=
    calc ∑ u ∈ S, (c.sys.threads u).writes ≤ ∑ u ∈ S, (c.sys.threads u).writeSlots :=
          Finset.sum_le_sum fun _ _ => Nat.le_add_right _ _
      _ ≤ c.sys.slots.totalWrites := Finset.sum_le_sum_of_subset (Finset.subset_univ S)
  have hwait : ∀ t ∈ S, c'.sys.threads t = c.sys.threads t ∧
      ∃ woken', c'.waits t = .parked (g t) woken' := fun t ht =>
    have ⟨_, hpc⟩ := hd.waiting t ht
    h.waiting hs hpc (hsys.pass_eq_none hr hw (hd.blocked t ht))
  have hsum_r : ∑ u ∈ S, (c'.sys.threads u).reads = ∑ u ∈ S, (c.sys.threads u).reads :=
    Finset.sum_congr rfl fun u hu => by rw [(hwait u hu).1]
  have hsum_w : ∑ u ∈ S, (c'.sys.threads u).writes = ∑ u ∈ S, (c.sys.threads u).writes :=
    Finset.sum_congr rfl fun u hu => by rw [(hwait u hu).1]
  refine ⟨⟨fun t ht => (hwait t ht).2, fun t ht => ?_⟩, fun t ht => (hwait t ht).1⟩
  rw [hsum_r, hsum_w]
  exact hd.blocked t ht

/-- A deadlocked set of threads never leaves `cond.wait`: from a reachable state, every run in
which the read slots fit in the counter keeps the set deadlocked, each thread as it was. -/
theorem ReachableFits.stays_deadlocked (h : c.ReachableFits) (hd : c.Deadlocked S g)
    (hrun : Relation.ReflTransGen (fun c c' => Step c c' ∧ c'.sys.Fits) c c') :
    c'.Deadlocked S g ∧ ∀ t ∈ S, c'.sys.threads t = c.sys.threads t :=
  (ReflTransGen.invariant (P := fun x : CondSys τ => x.ReachableFits ∧ x.Deadlocked S g ∧
      ∀ t ∈ S, x.sys.threads t = c.sys.threads t) hrun
    ⟨h, hd, fun _ _ => rfl⟩
    fun _ _ ⟨hxy, hfit⟩ ⟨hx, hdx, hkx⟩ =>
      have hstep := hxy.deadlocked hx.refines.1 hx.refines.2.refines.1 hdx
      ⟨Relation.ReflTransGen.tail hx ⟨hxy, hfit⟩, hstep.1,
        fun t ht => (hstep.2 t ht).trans (hkx t ht)⟩).2

theorem stays_deadlocked_write_beside_own_read :
    let c := (((init : CondSys Bool).check true .read).dataRead true).check true .write
    c.ReachableFits ∧ c.Deadlocked {true} (fun _ => .write) ∧
      Relation.ReflTransGen (fun c c' => Step c c' ∧ c'.sys.Fits) c (c.check true .write) ∧
      (c.check true .write).Deadlocked {true} (fun _ => .write) ∧
      ∀ t ∈ ({true} : Finset Bool), (c.check true .write).sys.threads t = c.sys.threads t :=
  have hrun : ((((init : CondSys Bool).check true .read).dataRead true).check true .write)
      |>.ReachableFits :=
    .tail (.tail (.single ⟨.call true .read rfl rfl, by decide⟩)
      ⟨.readData true (.inl rfl) rfl, by decide⟩) ⟨.call true .write rfl rfl, by decide⟩
  have hd : ((((init : CondSys Bool).check true .read).dataRead true).check true .write)
      |>.Deadlocked {true} (fun _ => .write) :=
    ⟨fun t ht => ⟨false, by rw [Finset.mem_singleton.mp ht]; rfl⟩,
      fun _ _ => show 0 < _ by decide⟩
  have hstep := Relation.ReflTransGen.single ⟨Step.recheck true .write false rfl, by decide⟩
  ⟨hrun, hd, hstep, ReachableFits.stays_deadlocked hrun hd hstep⟩

end Deadlocked

/-- With no guard out, the threads are never all asleep: some thread is running or has been
woken. -/
theorem ReachableFits.not_all_waiting [Nonempty τ] (h : c.ReachableFits)
    (hfree : ∀ t, (c.sys.threads t).reads = 0 ∧ (c.sys.threads t).writes = 0) :
    ∃ t, ∀ g, c.waits t ≠ .parked g false := by
  by_contra hall
  push_neg at hall
  obtain ⟨hi, hsys⟩ := h.refines
  have hidle : ∀ t, (c.sys.threads t).pc = .idle := fun t =>
    have ⟨_, hg⟩ := hall t
    hi.idle t (by simp [hg])
  obtain ⟨h0, hwr⟩ := hsys.refines.1.coupled.open_of_free
    (Finset.sum_eq_zero fun t _ => by simp [Sys.slots, hidle t, hfree t])
    (Finset.sum_eq_zero fun t _ => by simp [Sys.slots, hidle t, hfree t])
  obtain ⟨t⟩ := ‹Nonempty τ›
  obtain ⟨_, hg⟩ := hall t
  obtain ⟨u, _, hu⟩ := hi.woken_of_open h0 hwr ⟨t, by simp [hg]⟩
  obtain ⟨_, hu'⟩ := hall u
  simp [hu'] at hu

theorem not_all_waiting_reader_woken :
    let c := (((init : CondSys Bool).check true .write).dataWrite true).check false .read
      |>.writeGuardUnlock true (some false)
    c.ReachableFits ∧ (∀ t, (c.sys.threads t).reads = 0 ∧ (c.sys.threads t).writes = 0) ∧
      ∃ t, ∀ g, c.waits t ≠ .parked g false :=
  ⟨reachableFits_reader_woken, by decide,
    ReachableFits.not_all_waiting reachableFits_reader_woken (by decide)⟩

end CondSys

end Libmutex.UrwLock
