import Libmutex.Permits

/-!
# The read-biased moderator

Each function of `ReadBiased` is cut into the critical sections it runs with the mutex held: one
pass of a wait loop, or a release and the notification it issues once the mutex is dropped.
`Coupled` relates the counters to the abstract lock's permits. `readers` is the code's `u32`, whose
`+= 1` and `-= 1` wrap; the `debug_assert!`s are predicates, proved to hold where guards reach them.
-/

namespace Libmutex

set_option autoImplicit false
set_option linter.unusedSectionVars false

/-- `ReadBiasedState`, the moderator's counters. -/
@[ext] structure ReadBiasedState where
  readers : UInt32
  writer : Bool
  deriving DecidableEq, Repr

/-- The notification a release issues after dropping the state mutex. -/
inductive Notify
  | one
  | all
  deriving DecidableEq, Repr

namespace ReadBiased

/-- `ReadBiased::new`. -/
def new : ReadBiasedState := ⟨0, false⟩

/-- One pass of `while blocked(state) { wait }` followed by `commit(state)`, under the mutex:
`none` parks the caller on the condition variable, `some` is what it leaves on returning `true`. -/
def waitPass (blocked : ReadBiasedState → Bool) (commit : ReadBiasedState → ReadBiasedState)
    (st : ReadBiasedState) : Option ReadBiasedState :=
  if blocked st then none else some (commit st)

/-- A pass of `ReadBiased::try_read`. -/
def tryRead : ReadBiasedState → Option ReadBiasedState :=
  waitPass (·.writer) fun st => { st with readers := st.readers + 1 }

/-- A pass of `ReadBiased::try_write`. -/
def tryWrite : ReadBiasedState → Option ReadBiasedState :=
  waitPass (fun st => st.readers != 0 || st.writer) fun st => { st with writer := true }

/-- A pass of `ReadBiased::try_upgrade`, past its `debug_assert!`s. -/
def tryUpgrade : ReadBiasedState → Option ReadBiasedState :=
  waitPass (·.readers != 1) fun st => { st with readers := 0, writer := true }

/-- `ReadBiased::read_unlock`: the state it leaves and what it notifies. -/
def readUnlock (st : ReadBiasedState) : ReadBiasedState × Option Notify :=
  let readers := st.readers - 1
  ({ st with readers }, if readers = 1 then some .all else if readers = 0 then some .one else none)

/-- `ReadBiased::write_unlock`. -/
def writeUnlock (st : ReadBiasedState) : ReadBiasedState × Option Notify :=
  ({ st with writer := false }, some .one)

/-- `ReadBiased::downgrade`. -/
def downgrade (st : ReadBiasedState) : ReadBiasedState × Option Notify :=
  ({ st with readers := 1, writer := false }, some .all)

/-- The `debug_assert!`s of `read_unlock` and of each pass of `try_upgrade`. -/
def readerAsserts (st : ReadBiasedState) : Bool := 0 < st.readers && !st.writer

/-- The `debug_assert!`s of `write_unlock` and `downgrade`. -/
def writerAsserts (st : ReadBiasedState) : Bool := st.readers == 0 && st.writer

variable {st st' : ReadBiasedState}

theorem waitPass_eq_some {blocked : ReadBiasedState → Bool} {commit} :
    waitPass blocked commit st = some st' ↔ blocked st = false ∧ st' = commit st := by
  unfold waitPass
  cases blocked st
  · simpa using eq_comm
  · simp

theorem waitPass_eq_none {blocked : ReadBiasedState → Bool} {commit} :
    waitPass blocked commit st = none ↔ blocked st = true := by
  unfold waitPass
  split <;> simp_all

theorem tryRead_eq_some :
    tryRead st = some st' ↔ st.writer = false ∧ st' = { st with readers := st.readers + 1 } :=
  waitPass_eq_some

theorem tryWrite_eq_some :
    tryWrite st = some st' ↔
      st.readers = 0 ∧ st.writer = false ∧ st' = { st with writer := true } := by
  simp only [tryWrite, waitPass_eq_some, Bool.or_eq_false_iff, bne_eq_false_iff_eq, and_assoc]

theorem tryUpgrade_eq_some :
    tryUpgrade st = some st' ↔ st.readers = 1 ∧ st' = { st with readers := 0, writer := true } := by
  simp only [tryUpgrade, waitPass_eq_some, bne_eq_false_iff_eq]

theorem tryRead_eq_none : tryRead st = none ↔ st.writer = true := waitPass_eq_none

theorem tryWrite_eq_none : tryWrite st = none ↔ st.readers ≠ 0 ∨ st.writer = true := by
  simp [tryWrite, waitPass_eq_none]

theorem tryUpgrade_eq_none : tryUpgrade st = none ↔ st.readers ≠ 1 := by
  simp [tryUpgrade, waitPass_eq_none]

@[simp] theorem readUnlock_fst : (readUnlock st).1 = ⟨st.readers - 1, st.writer⟩ := rfl

theorem readUnlock_snd :
    (readUnlock st).2 = if st.readers - 1 = 1 then some .all
      else if st.readers - 1 = 0 then some .one else none := rfl

@[simp] theorem writeUnlock_fst : (writeUnlock st).1 = ⟨st.readers, false⟩ := rfl

@[simp] theorem writeUnlock_snd : (writeUnlock st).2 = some .one := rfl

@[simp] theorem downgrade_fst : (downgrade st).1 = ⟨1, false⟩ := rfl

@[simp] theorem downgrade_snd : (downgrade st).2 = some .all := rfl

theorem readerAsserts_iff : readerAsserts st ↔ 0 < st.readers.toNat ∧ st.writer = false := by
  simp only [readerAsserts, Bool.and_eq_true, decide_eq_true_eq, Bool.not_eq_true']
  exact and_congr_left fun _ => Iff.rfl

theorem writerAsserts_iff : writerAsserts st ↔ st.readers = 0 ∧ st.writer = true := by
  simp [writerAsserts]

section Coupling
variable {τ : Type} [Fintype τ] [DecidableEq τ] {p : Permits τ} {t : τ}

/-- The counters agree with the permits out, and those are exclusive. -/
structure Coupled (st : ReadBiasedState) (p : Permits τ) : Prop where
  readers_eq : st.readers.toNat = p.totalReads
  writer_iff : st.writer = true ↔ 0 < p.totalWrites
  exclusive : p.Exclusive

theorem coupled_new : Coupled new (Permits.empty : Permits τ) :=
  ⟨by simp [new], by simp [new], Permits.exclusive_empty⟩

theorem Coupled.totalWrites_eq_zero (h : Coupled st p) (hw : st.writer = false) :
    p.totalWrites = 0 := by
  have := h.writer_iff
  simp_all

theorem Coupled.totalWrites_eq_one (h : Coupled st p) (hw : st.writer = true) :
    p.totalWrites = 1 := by
  have := h.writer_iff.mp hw
  have := h.exclusive.writes_le_one
  omega

theorem tryRead_refines (h : Coupled st p) (hr : tryRead st = some st')
    (hfit : p.totalReads + 1 < 2 ^ 32) :
    Permits.Step p (p.addRead t) ∧ Coupled st' (p.addRead t) := by
  obtain ⟨hw, rfl⟩ := tryRead_eq_some.mp hr
  have hstep := Permits.Step.acquireRead t (h.totalWrites_eq_zero hw)
  refine ⟨hstep, ?_, ?_, hstep.exclusive h.exclusive⟩
  · rw [toNat_add_one (by rw [h.readers_eq]; exact hfit), h.readers_eq]
    simp
  · simpa [hw] using h.totalWrites_eq_zero hw

theorem tryWrite_refines (h : Coupled st p) (hr : tryWrite st = some st') :
    Permits.Step p (p.addWrite t) ∧ Coupled st' (p.addWrite t) := by
  obtain ⟨h0, hw, rfl⟩ := tryWrite_eq_some.mp hr
  have hstep := Permits.Step.acquireWrite t (h.totalWrites_eq_zero hw)
    (by rw [← h.readers_eq, h0]; rfl)
  exact ⟨hstep, by simpa using h.readers_eq, by simp, hstep.exclusive h.exclusive⟩

theorem tryUpgrade_refines (h : Coupled st p) (hp : 0 < p.reads t) (hr : tryUpgrade st = some st') :
    Permits.Step p ((p.removeRead t).addWrite t) ∧ Coupled st' ((p.removeRead t).addWrite t) := by
  obtain ⟨h1, rfl⟩ := tryUpgrade_eq_some.mp hr
  have hsole : p.totalReads = 1 := by rw [← h.readers_eq, h1]; rfl
  have hstep := Permits.Step.upgrade t hp hsole
  exact ⟨hstep, by simp; omega, by simp, hstep.exclusive h.exclusive⟩

theorem readUnlock_refines (h : Coupled st p) (hp : 0 < p.reads t) :
    Permits.Step p (p.removeRead t) ∧ Coupled (readUnlock st).1 (p.removeRead t) := by
  have := p.reads_le_totalReads t
  have hstep := Permits.Step.releaseRead t hp
  refine ⟨hstep, ?_, by simpa using h.writer_iff, hstep.exclusive h.exclusive⟩
  rw [readUnlock_fst, toNat_sub_one (by rw [h.readers_eq]; omega), h.readers_eq]
  simp
  omega

theorem writeUnlock_refines (h : Coupled st p) (hp : 0 < p.writes t) :
    Permits.Step p (p.removeWrite t) ∧ Coupled (writeUnlock st).1 (p.removeWrite t) := by
  have := p.writes_le_totalWrites t
  have := h.exclusive.writes_le_one
  have hstep := Permits.Step.releaseWrite t hp
  exact ⟨hstep, by simpa using h.readers_eq, by simp; omega, hstep.exclusive h.exclusive⟩

theorem downgrade_refines (h : Coupled st p) (hp : 0 < p.writes t) :
    Permits.Step p ((p.removeWrite t).addRead t) ∧
      Coupled (downgrade st).1 ((p.removeWrite t).addRead t) := by
  have := p.writes_le_totalWrites t
  have := h.exclusive.writes_le_one
  have := h.exclusive.disjoint
  have hstep := Permits.Step.downgrade t hp
  exact ⟨hstep, by simp; omega, by simp; omega, hstep.exclusive h.exclusive⟩

theorem Coupled.readers_eq_zero_or (h : Coupled st p) : st.readers = 0 ∨ st.writer = false := by
  rcases h.exclusive.disjoint with hw | hr
  · exact .inr (Bool.eq_false_iff.mpr fun hwr => by have := h.writer_iff.mp hwr; omega)
  · exact .inl (eq_zero_iff_toNat.mpr (h.readers_eq.trans hr))

/-- A reader calling `read_unlock` or `try_upgrade` passes their `debug_assert!`s. -/
theorem Coupled.readerAsserts (h : Coupled st p) (hp : 0 < p.reads t) : readerAsserts st := by
  have := p.reads_le_totalReads t
  have hw : p.totalWrites = 0 := h.exclusive.disjoint.resolve_right (by omega)
  refine readerAsserts_iff.mpr ⟨by rw [h.readers_eq]; omega, ?_⟩
  exact Bool.eq_false_iff.mpr fun hwr => by have := h.writer_iff.mp hwr; omega

/-- Read bias: while a read permission is out, a pass of `try_read` returns `true`. -/
theorem Coupled.tryRead_isSome (h : Coupled st p) (hp : 0 < p.reads t) : (tryRead st).isSome := by
  simp [tryRead, waitPass, (readerAsserts_iff.mp (h.readerAsserts hp)).2]

/-- While a write permission is out, a pass of `try_read` waits. -/
theorem Coupled.tryRead_eq_none (h : Coupled st p) (hw : 0 < p.totalWrites) : tryRead st = none :=
  ReadBiased.tryRead_eq_none.mpr (h.writer_iff.mpr hw)

/-- While any permission is out, a pass of `try_write` waits. -/
theorem Coupled.tryWrite_eq_none (h : Coupled st p) (hp : 0 < p.totalReads + p.totalWrites) :
    tryWrite st = none := by
  refine ReadBiased.tryWrite_eq_none.mpr ?_
  by_cases hw : 0 < p.totalWrites
  · exact .inr (h.writer_iff.mpr hw)
  · exact .inl fun h0 => by have := h.readers_eq; rw [h0] at this; simp at this; omega

/-- With no permission out, the counters say so: no reader and no writer. -/
theorem Coupled.open_of_free (h : Coupled st p) (hr : p.totalReads = 0) (hw : p.totalWrites = 0) :
    st.readers = 0 ∧ st.writer = false :=
  ⟨eq_zero_iff_toNat.mpr (h.readers_eq.trans hr),
    Bool.eq_false_iff.mpr fun hw' => by have := h.writer_iff.mp hw'; omega⟩

/-- A writer calling `write_unlock` or `downgrade` passes their `debug_assert!`s. -/
theorem Coupled.writerAsserts (h : Coupled st p) (hp : 0 < p.writes t) : writerAsserts st := by
  have := p.writes_le_totalWrites t
  have hw : st.writer = true := h.writer_iff.mpr (by omega)
  have := h.exclusive.disjoint
  refine writerAsserts_iff.mpr ⟨eq_zero_iff_toNat.mpr ?_, hw⟩
  rw [h.readers_eq]
  omega

end Coupling

end ReadBiased

end Libmutex
