import Libmutex.UrwLock.Invariant

/-!
# `UrwLock`'s condition variable

Each thread also has its place with respect to `cond`: running, or in `cond.wait` in the loop of
`read` or `write`, woken or not. A release notifies before it drops the state mutex, `notify_one`
wakes one waiting thread and `notify_all` every one, and a wait may end spuriously. Every step is a
step of `Sys` or leaves it alone (`ReachableFits.refines_sys`), no wakeup is lost
(`ReachableFits.waiter_woken_of_open`), and while a read slot is out `read` passes at once.
-/

namespace Libmutex.UrwLock

set_option autoImplicit false
set_option linter.unusedSectionVars false

/-- The wait loop a thread is in: `read`'s, `while state.writer`, or `write`'s,
`while state.readers != 0 || state.writer`. -/
inductive Gate
  | read
  | write
  deriving DecidableEq, Repr

/-- The critical section of the loop's call: `none` where the loop's condition holds. -/
def Gate.pass : Gate → InternalState → Option InternalState
  | .read => UrwLock.read
  | .write => UrwLock.write

theorem Gate.pass_isSome_of_open {st : InternalState} (h0 : st.readers = 0)
    (hw : st.writer = false) (g : Gate) : (g.pass st).isSome := by
  cases g <;> simp [Gate.pass, UrwLock.read, UrwLock.write, ReadBiased.waitPass, h0, hw]

/-- A thread's place with respect to `cond`. -/
inductive Wait
  | running
  /-- In `cond.wait` in the loop of `gate`; `woken` by a notification since it last checked. -/
  | parked (gate : Gate) (woken : Bool)
  deriving DecidableEq, Repr

/-- What a notification does to a thread: one in `cond.wait` is marked woken. -/
def Wait.wake : Wait → Wait
  | .parked g _ => .parked g true
  | .running => .running

@[simp] theorem Wait.wake_eq_running {w : Wait} : w.wake = .running ↔ w = .running := by
  cases w <;> simp [Wait.wake]

namespace Sys
variable {τ : Type} [Fintype τ] [DecidableEq τ] {s : Sys τ} {t u : τ}

/-- `t` leaves the loop of `g` past the gate. -/
def pass (s : Sys τ) (t : τ) : Gate → Sys τ
  | .read => s.lockRead t
  | .write => s.lockWrite t

theorem threads_pass_of_ne {g : Gate} (h : u ≠ t) : (s.pass t g).threads u = s.threads u := by
  cases g <;> exact threads_gate_of_ne h

theorem Step.pass {g : Gate} (hi : (s.threads t).pc = .idle) (hp : (g.pass s.state).isSome) :
    Step s (s.pass t g) := by
  cases g
  · exact .read t hi hp
  · exact .write t hi hp

theorem Inv.readers_ne_zero (hs : s.Inv) (ht : 0 < (s.threads t).readSlots) :
    s.state.readers ≠ 0 := by
  intro h0
  have hle : (s.threads t).readSlots ≤ s.slots.totalReads := s.slots.reads_le_totalReads t
  have hr := hs.coupled.readers_eq
  rw [h0] at hr
  simp only [UInt32.toNat_zero] at hr
  omega

theorem Inv.closed_of_pass {g : Gate} (hs : (s.pass t g).Inv) (hp : (g.pass s.state).isSome) :
    (s.pass t g).state.readers ≠ 0 ∨ (s.pass t g).state.writer = true := by
  cases g <;> simp only [Gate.pass] at hp <;> obtain ⟨st, hst⟩ := Option.isSome_iff_exists.mp hp
  · refine .inl (hs.readers_ne_zero (t := t) ?_)
    simp [pass, lockRead, gate_of_eq_some hst, threads_critical]
  · obtain ⟨-, -, rfl⟩ := ReadBiased.tryWrite_eq_some.mp hst
    exact .inr (by simp [pass, lockWrite, gate_of_eq_some hst])

end Sys

/-- `Sys` with the threads' places with respect to `cond`. -/
structure CondSys (τ : Type) [Fintype τ] where
  sys : Sys τ
  waits : τ → Wait

namespace CondSys
variable {τ : Type} [Fintype τ] [DecidableEq τ]

def init : CondSys τ := ⟨Sys.init, fun _ => .running⟩

/-- `t` holds the state mutex at the head of the loop of `g`: the loop's condition is false and
`t` passes the gate, or `t` waits on `cond`, giving the mutex up. -/
def check (c : CondSys τ) (t : τ) (g : Gate) : CondSys τ :=
  if (g.pass c.sys.state).isSome then ⟨c.sys.pass t g, Function.update c.waits t .running⟩
  else ⟨c.sys, Function.update c.waits t (.parked g false)⟩

section Check
variable {c : CondSys τ} {t u : τ} {g : Gate}

theorem check_waits_of_ne (h : u ≠ t) : (c.check t g).waits u = c.waits u := by
  unfold check
  split <;> exact Function.update_noteq h _ _

theorem check_threads_of_ne (h : u ≠ t) : (c.check t g).sys.threads u = c.sys.threads u := by
  unfold check
  split
  · exact Sys.threads_pass_of_ne h
  · rfl

theorem check_of_pass_eq_none (h : g.pass c.sys.state = none) :
    c.check t g = ⟨c.sys, Function.update c.waits t (.parked g false)⟩ := by
  simp [check, h]

end Check

/-- `cond.notify_one()`, which wakes `w`, or `cond.notify_all()`. -/
def notify (waits : τ → Wait) (w : Option τ) : Option Notify → τ → Wait
  | none => waits
  | some .one => w.elim waits fun u => Function.update waits u (waits u).wake
  | some .all => fun u => (waits u).wake

/-- `w` is a thread `notify_one` may wake: one in `cond.wait` and not woken, or none if there is
no such thread. -/
def Picks (waits : τ → Wait) : Option τ → Prop
  | some u => ∃ g, waits u = .parked g false
  | none => ∀ u g, waits u ≠ .parked g false

/-- `UrwLock::read_unlock` by `t`, which notifies as `ReadBiased::read_unlock` does, whose
branches it repeats; `w` is the thread its `notify_one` wakes. -/
def readGuardUnlock (c : CondSys τ) (t : τ) (w : Option τ) : CondSys τ :=
  ⟨c.sys.readGuardUnlock t, notify c.waits w (ReadBiased.readUnlock c.sys.state).2⟩

/-- `UrwLock::write_unlock` by `t`, with its `notify_one`, which wakes `w`. -/
def writeGuardUnlock (c : CondSys τ) (t : τ) (w : Option τ) : CondSys τ :=
  ⟨c.sys.writeGuardUnlock t, notify c.waits w (ReadBiased.writeUnlock c.sys.state).2⟩

/-- `UrwLock::downgrade` by `t`, with its `notify_all`. -/
def lockDowngrade (c : CondSys τ) (t : τ) : CondSys τ :=
  ⟨c.sys.lockDowngrade t, notify c.waits none (ReadBiased.downgrade c.sys.state).2⟩

/-- The steps on the inner lock leave `cond` alone. -/
def dataRead (c : CondSys τ) (t : τ) : CondSys τ := ⟨c.sys.dataRead t, c.waits⟩

def readGuardRelease (c : CondSys τ) (t : τ) : CondSys τ := ⟨c.sys.readGuardRelease t, c.waits⟩

def dataWrite (c : CondSys τ) (t : τ) : CondSys τ := ⟨c.sys.dataWrite t, c.waits⟩

def writeGuardRelease (c : CondSys τ) (t : τ) : CondSys τ := ⟨c.sys.writeGuardRelease t, c.waits⟩

def downgradeTake (c : CondSys τ) (t : τ) : CondSys τ := ⟨c.sys.downgradeTake t, c.waits⟩

/-- One atomic step of one thread: those of `Sys`, the passes of the gate taken from the loops'
checks, with the waits and notifications of `cond`. -/
inductive Step : CondSys τ → CondSys τ → Prop
  /-- `t` calls `read` or `write` and checks the loop's condition. -/
  | call {c : CondSys τ} (t : τ) (g : Gate) : c.waits t = .running →
      (c.sys.threads t).pc = .idle → Step c (c.check t g)
  /-- `cond.wait` returns to `t`, woken or spuriously, with the mutex taken back. -/
  | recheck {c : CondSys τ} (t : τ) (g : Gate) (woken : Bool) : c.waits t = .parked g woken →
      Step c (c.check t g)
  | readUnlock {c : CondSys τ} (t : τ) (w : Option τ) : c.waits t = .running →
      (c.sys.threads t).pc = .idle → 0 < (c.sys.threads t).reads →
      (readUnlock c.sys.state).isSome → Picks c.waits w → Step c (c.readGuardUnlock t w)
  | writeUnlock {c : CondSys τ} (t : τ) (w : Option τ) : c.waits t = .running →
      (c.sys.threads t).pc = .idle → 0 < (c.sys.threads t).writes → Picks c.waits w →
      Step c (c.writeGuardUnlock t w)
  | downgrade {c : CondSys τ} (t : τ) : (c.sys.threads t).pc = .downgradeState →
      Step c (c.lockDowngrade t)
  | readData {c : CondSys τ} (t : τ) :
      (c.sys.threads t).pc = .readData ∨ (c.sys.threads t).pc = .downgradeData →
      (c.sys.data.read t).isSome → Step c (c.dataRead t)
  | readRelease {c : CondSys τ} (t : τ) : (c.sys.threads t).pc = .readDrop →
      Step c (c.readGuardRelease t)
  | writeData {c : CondSys τ} (t : τ) : (c.sys.threads t).pc = .writeData →
      (c.sys.data.write t).isSome → Step c (c.dataWrite t)
  | writeRelease {c : CondSys τ} (t : τ) : (c.sys.threads t).pc = .writeDrop →
      Step c (c.writeGuardRelease t)
  | downgradeTake {c : CondSys τ} (t : τ) : c.waits t = .running →
      (c.sys.threads t).pc = .idle → 0 < (c.sys.threads t).writes → Step c (c.downgradeTake t)

/-- Reachable by a run in which the read slots out always fit in the counter. -/
def ReachableFits (c : CondSys τ) : Prop :=
  Relation.ReflTransGen (fun c c' => Step c c' ∧ c'.sys.Fits) init c

section Notify
variable {waits : τ → Wait} {w : Option τ} {n : Option Notify} {u : τ}

theorem notify_eq_or (waits : τ → Wait) (w : Option τ) (n : Option Notify) (u : τ) :
    notify waits w n u = waits u ∨ notify waits w n u = (waits u).wake := by
  rcases n with _ | _ | _
  · exact .inl rfl
  · rcases w with _ | v
    · exact .inl rfl
    · rcases eq_or_ne u v with rfl | h <;> simp [notify, Function.update_noteq, *]
  · exact .inr rfl

theorem notify_eq_running : notify waits w n u = .running ↔ waits u = .running := by
  rcases notify_eq_or waits w n u with h | h <;> simp [h]

theorem notify_of_woken {g : Gate} (h : waits u = .parked g true) :
    notify waits w n u = .parked g true := by
  rcases notify_eq_or waits w n u with h' | h' <;> simp [h', h, Wait.wake]

theorem notify_of_parked {g : Gate} {woken : Bool} (h : waits u = .parked g woken) :
    ∃ woken', notify waits w n u = .parked g woken' := by
  rcases notify_eq_or waits w n u with h' | h'
  · exact ⟨woken, h'.trans h⟩
  · exact ⟨true, by rw [h', h]; rfl⟩

theorem woken_of_notify_one (hw : Picks waits w) (hu : waits u ≠ .running) :
    ∃ v g, notify waits w (some .one) v = .parked g true := by
  rcases w with _ | v
  · rcases hwu : waits u with _ | ⟨g, _ | _⟩
    · exact absurd hwu hu
    · exact absurd hwu (hw u g)
    · exact ⟨u, g, hwu⟩
  · obtain ⟨g, hg⟩ := hw
    exact ⟨v, g, by simp [notify, Wait.wake, hg]⟩

end Notify

/-- A thread in `cond.wait` is between operations, and no wakeup is lost. -/
structure Inv (c : CondSys τ) : Prop where
  idle : ∀ t, c.waits t ≠ .running → (c.sys.threads t).pc = .idle
  /-- While the gate is open to every thread, a thread in `cond.wait` has been woken. -/
  woken_of_open : c.sys.state.readers = 0 → c.sys.state.writer = false →
    (∃ t, c.waits t ≠ .running) → ∃ t g, c.waits t = .parked g true

theorem inv_init : (init : CondSys τ).Inv :=
  ⟨fun _ h => absurd rfl h, fun _ _ ⟨_, h⟩ => absurd rfl h⟩

section Step
variable {c c' : CondSys τ} {t : τ}

theorem Inv.running (hs : c.Inv) (h : (c.sys.threads t).pc ≠ .idle) : c.waits t = .running :=
  by_contra fun hn => h (hs.idle t hn)

theorem check_refines {g : Gate} (hi : (c.sys.threads t).pc = .idle) :
    Sys.Step c.sys (c.check t g).sys ∨ (c.check t g).sys = c.sys := by
  unfold check
  split
  · exact .inl (Sys.Step.pass hi ‹_›)
  · exact .inr rfl

/-- Every step is a step of `Sys`, or a wait that leaves it alone. -/
theorem Step.refines (h : Step c c') (hs : c.Inv) : Sys.Step c.sys c'.sys ∨ c'.sys = c.sys := by
  cases h with
  | call t g _ hi => exact check_refines hi
  | recheck t g _ ht => exact check_refines (hs.idle t (by simp [ht]))
  | readUnlock t _ _ hi hr hu _ => exact .inl (.readUnlock t hi hr hu)
  | writeUnlock t _ _ hi hw _ => exact .inl (.writeUnlock t hi hw)
  | downgrade t hpc => exact .inl (.downgrade t hpc)
  | readData t hpc hr => exact .inl (.readData t hpc hr)
  | readRelease t hpc => exact .inl (.readRelease t hpc)
  | writeData t hpc hw => exact .inl (.writeData t hpc hw)
  | writeRelease t hpc => exact .inl (.writeRelease t hpc)
  | downgradeTake t _ hi hw => exact .inl (.downgradeTake t hi hw)

/-- A check of the loop keeps `Inv`: a pass closes the gate, and a thread waits only while the
gate is closed to it. -/
theorem Inv.check {g : Gate} (hs : c.Inv) (hi : (c.sys.threads t).pc = .idle)
    (hsys : (c.check t g).sys.Inv) : (c.check t g).Inv := by
  by_cases hp : (g.pass c.sys.state).isSome
  · rw [CondSys.check, if_pos hp] at hsys ⊢
    refine ⟨fun u hu => ?_, fun h0 hw _ =>
      (hsys.closed_of_pass hp).elim (absurd h0) fun h => absurd hw (by simp [h])⟩
    dsimp only at hu ⊢
    have hut : u ≠ t := by rintro rfl; simp at hu
    rw [Sys.threads_pass_of_ne hut]
    exact hs.idle u (by rwa [Function.update_noteq hut] at hu)
  · rw [CondSys.check, if_neg hp]
    refine ⟨fun u hu => ?_, fun h0 hw _ => absurd (Gate.pass_isSome_of_open h0 hw g) hp⟩
    dsimp only at hu ⊢
    rcases eq_or_ne u t with rfl | hut
    · exact hi
    · exact hs.idle u (by rwa [Function.update_noteq hut] at hu)

theorem Inv.release (hs : c.Inv) {s' : Sys τ} (w : Option τ) (n : Option Notify)
    (ht : c.waits t = .running) (hu : ∀ u, u ≠ t → s'.threads u = c.sys.threads u)
    (hw : n = some .one → Picks c.waits w)
    (hn : s'.state.readers = 0 → s'.state.writer = false → n = some .one ∨ s'.state = c.sys.state) :
    (⟨s', notify c.waits w n⟩ : CondSys τ).Inv := by
  refine ⟨fun u hwu => ?_, fun h0 hw0 ⟨u, hwu⟩ => ?_⟩
  · rw [Ne, notify_eq_running] at hwu
    have hut : u ≠ t := by rintro rfl; exact hwu ht
    exact (hu u hut).symm ▸ hs.idle u hwu
  · rw [Ne, notify_eq_running] at hwu
    rcases hn h0 hw0 with rfl | hst
    · exact woken_of_notify_one (hw rfl) hwu
    · rw [hst] at h0 hw0
      obtain ⟨v, g, hv⟩ := hs.woken_of_open h0 hw0 ⟨u, hwu⟩
      exact ⟨v, g, notify_of_woken hv⟩

theorem Inv.inner (hs : c.Inv) {s' : Sys τ} (hpc : (c.sys.threads t).pc ≠ .idle)
    (hu : ∀ u, u ≠ t → s'.threads u = c.sys.threads u) (hst : s'.state = c.sys.state) :
    (⟨s', c.waits⟩ : CondSys τ).Inv :=
  hs.release none none (hs.running hpc) hu nofun fun _ _ => .inr hst

/-- Every step keeps `Inv`, given that `Sys`'s invariant holds after it. -/
theorem Inv.step (h : Step c c') (hs : c.Inv) (hsys : c'.sys.Inv) : c'.Inv := by
  cases h with
  | call t g _ hi => exact hs.check hi hsys
  | recheck t g _ ht => exact hs.check (hs.idle t (by simp [ht])) hsys
  | readUnlock t w ht _ _ hr hw =>
    obtain ⟨st, hst⟩ := Option.isSome_iff_exists.mp hr
    obtain ⟨-, rfl⟩ := readUnlock_eq_some.mp hst
    refine hs.release w _ ht (fun _ => Sys.threads_gate_of_ne) (fun _ => hw) fun h0 _ => .inl ?_
    simp only [Sys.readGuardUnlock, Sys.gate_of_eq_some hst, Sys.state_critical,
      ReadBiased.readUnlock_fst] at h0
    rw [ReadBiased.readUnlock_snd, if_neg (by rw [h0]; decide), if_pos h0]
  | writeUnlock t w ht _ _ hw =>
    exact hs.release w _ ht (fun _ => Sys.threads_critical_of_ne) (fun _ => hw) fun _ _ => .inl rfl
  | downgrade t hpc =>
    refine hs.release none _ (hs.running (by simp [hpc])) (fun _ => Sys.threads_critical_of_ne)
      nofun fun h0 _ => absurd h0 ?_
    simp [Sys.lockDowngrade, downgrade]
  | readData t hpc _ =>
    exact hs.inner (by rcases hpc with h | h <;> simp [h]) (fun _ => Sys.threads_acquire_of_ne)
      Sys.state_acquire
  | readRelease t hpc =>
    exact hs.inner (by simp [hpc]) (fun _ => Sys.threads_inner_of_ne) Sys.state_inner
  | writeData t hpc _ =>
    exact hs.inner (by simp [hpc]) (fun _ => Sys.threads_acquire_of_ne) Sys.state_acquire
  | writeRelease t hpc =>
    exact hs.inner (by simp [hpc]) (fun _ => Sys.threads_inner_of_ne) Sys.state_inner
  | downgradeTake t ht _ _ =>
    exact hs.release none none ht (fun _ => Sys.threads_inner_of_ne) nofun fun _ _ => .inr rfl

end Step

variable {c : CondSys τ}

/-- Every run in which the read slots fit in the counter keeps `Inv`, and is a run of `Sys` with
the waits taken out. -/
theorem ReachableFits.refines (h : c.ReachableFits) : c.Inv ∧ c.sys.ReachableFits :=
  ReflTransGen.invariant (P := fun c : CondSys τ => c.Inv ∧ c.sys.ReachableFits)
    (r := fun c c' => Step c c' ∧ c'.sys.Fits) h ⟨inv_init, .refl⟩
    fun _ y ⟨hxy, hfit⟩ ⟨hx, hr⟩ =>
      have hr' : y.sys.ReachableFits :=
        (hxy.refines hx).elim (fun h => hr.tail ⟨h, hfit⟩) fun heq => heq ▸ hr
      ⟨hx.step hxy hr'.refines.1, hr'⟩

/-- The model with the condition variable refines `Sys`: from a state it reaches, each step is
a step of `Sys` or a wait that leaves `Sys` alone, and every run in which the read slots fit in
the counter is, with the waits taken out, such a run of `Sys`, so what is proved of those holds
of it. -/
theorem ReachableFits.refines_sys (h : c.ReachableFits) :
    c.sys.ReachableFits ∧ ∀ c', Step c c' → Sys.Step c.sys c'.sys ∨ c'.sys = c.sys :=
  ⟨h.refines.2, fun _ hc => hc.refines h.refines.1⟩

/-- Thread `true` writes and thread `false`, calling `read`, waits; `true`'s `write_unlock` opens
the gate and wakes `false`. -/
theorem reachableFits_reader_woken :
    (((((init : CondSys Bool).check true .write).dataWrite true).check false .read).writeGuardUnlock
      true (some false)).ReachableFits :=
  .tail (.tail (.tail (.single ⟨.call true .write rfl rfl, by decide⟩)
    ⟨.writeData true rfl rfl, by decide⟩) ⟨.call false .read rfl rfl, by decide⟩)
    ⟨.writeUnlock true (some false) rfl rfl (by decide) ⟨.read, rfl⟩, by decide⟩

theorem refines_sys_reader_woken :
    let c := (((init : CondSys Bool).check true .write).dataWrite true).check false .read
      |>.writeGuardUnlock true (some false)
    c.ReachableFits ∧ c.sys.ReachableFits ∧
      ∀ c', Step c c' → Sys.Step c.sys c'.sys ∨ c'.sys = c.sys :=
  ⟨reachableFits_reader_woken, ReachableFits.refines_sys reachableFits_reader_woken⟩

/-- No wakeup is lost: while the gate is open to every thread and a thread waits on `cond`, a
thread in `cond.wait` has been woken, and the gate is open to it. -/
theorem ReachableFits.waiter_woken_of_open (h : c.ReachableFits) (h0 : c.sys.state.readers = 0)
    (hw : c.sys.state.writer = false) (hp : ∃ t, c.waits t ≠ .running) :
    ∃ t g, c.waits t = .parked g true ∧ (g.pass c.sys.state).isSome := by
  obtain ⟨t, g, ht⟩ := h.refines.1.woken_of_open h0 hw hp
  exact ⟨t, g, ht, Gate.pass_isSome_of_open h0 hw g⟩

theorem waiter_woken_of_open_reader_woken :
    let c := (((init : CondSys Bool).check true .write).dataWrite true).check false .read
      |>.writeGuardUnlock true (some false)
    c.ReachableFits ∧ c.sys.state.readers = 0 ∧ c.sys.state.writer = false ∧
      (∃ t, c.waits t ≠ .running) ∧ ∃ t g, c.waits t = .parked g true ∧ (g.pass c.sys.state).isSome :=
  ⟨reachableFits_reader_woken, rfl, rfl, ⟨false, by decide⟩,
    ReachableFits.waiter_woken_of_open reachableFits_reader_woken rfl rfl ⟨false, by decide⟩⟩

/-- Read bias: while a thread holds a read slot, a call of `read` passes the gate at once,
whatever waits on `cond`. -/
theorem ReachableFits.check_read {t u : τ} (h : c.ReachableFits)
    (hu : 0 < (c.sys.threads u).readSlots) :
    c.check t .read = ⟨c.sys.lockRead t, Function.update c.waits t .running⟩ :=
  if_pos (h.refines.2.refines.1.coupled.tryRead_isSome hu)

theorem check_read_beside_waiting_writer :
    let c := (((init : CondSys Bool).check true .read).dataRead true).check false .write
    c.ReachableFits ∧ 0 < (c.sys.threads true).readSlots ∧ c.waits false = .parked .write false ∧
      c.check true .read = ⟨c.sys.lockRead true, Function.update c.waits true .running⟩ :=
  have hrun : ((((init : CondSys Bool).check true .read).dataRead true).check false .write)
      |>.ReachableFits :=
    .tail (.tail (.single ⟨.call true .read rfl rfl, by decide⟩)
      ⟨.readData true (.inl rfl) rfl, by decide⟩) ⟨.call false .write rfl rfl, by decide⟩
  ⟨hrun, by decide, rfl, ReachableFits.check_read hrun (u := true) (by decide)⟩

end CondSys

end Libmutex.UrwLock
