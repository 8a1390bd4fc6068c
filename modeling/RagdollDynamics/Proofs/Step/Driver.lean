import Mathlib.Algebra.Order.Floor.Div
import RagdollDynamics.Proofs.Step.Passes

/-!
# The driver of a step

When a step goes on to another pass, how often it reads the clock and what it reports.  Passes are
counted from zero.
-/

namespace RagdollDynamics

/-! ### Times -/

theorem toNat_addTime (a b : UInt64) :
    (addTime a b).toNat = min (a.toNat + b.toNat) (UInt64.size - 1) := by
  have hsize : UInt64.size = 2 ^ 64 := rfl
  have hlatest : latestTime.toNat = UInt64.size - 1 := rfl
  have ha := a.toNat_lt
  have hle : a ≤ latestTime := by
    rw [UInt64.le_iff_toNat_le]
    omega
  have hroom := UInt64.toNat_sub_of_le _ _ hle
  unfold addTime
  split
  next h =>
    rw [UInt64.lt_iff_toNat_lt, hroom] at h
    omega
  next h =>
    rw [UInt64.lt_iff_toNat_lt, hroom] at h
    rw [UInt64.toNat_add, Nat.mod_eq_of_lt (by omega)]
    omega

theorem toNat_timeSince {a b : UInt64} (h : a ≤ b) : a.toNat + (timeSince a b).toNat = b.toNat := by
  have hab := UInt64.le_iff_toNat_le.1 h
  rw [timeSince, if_neg (UInt64.not_lt.2 h), UInt64.toNat_sub_of_le _ _ h]
  omega

theorem Clock.toNat_ticking (start tick : UInt64) (n : Nat) :
    ((Clock.ticking start tick).schedule n).toNat =
      min (start.toNat + n * tick.toNat) (UInt64.size - 1) := by
  have hlatest : latestTime.toNat = UInt64.size - 1 := rfl
  refine (UInt64.toNat_ofNat_of_lt' ?_).trans (by rw [hlatest])
  have : 0 < UInt64.size := by decide
  omega

namespace Simulation

variable {K : Type} [Scalar K]

/-! ### The passes of a step -/

/-- Simulation and world before the `k`-th pass of a step, if passes never ended. -/
def beforeStepPass (s : Simulation K) (w : World K) (dt : K) (k : Nat) : Simulation K × World K :=
  (s.begin dt w).1.beforePass (s.begin dt w).2 k

/-- The `k`-th pass of a step, if passes never ended. -/
def stepPass (s : Simulation K) (w : World K) (dt : K) (k : Nat) : Relaxation K :=
  (s.begin dt w).1.passAt (s.begin dt w).2 k

variable {s : Simulation K} {w : World K} {order : StepOrder K}

/-- The clock was read once before the first pass and once after each of them. -/
theorem clock_beforeStepPass (dt : K) (k : Nat) : (s.beforeStepPass w dt k).1.clock =
    { s.clock with reads := s.clock.reads + (k + 1) } := by
  have hbegin : (s.begin dt w).1.clock = s.clock.next := rfl
  rw [beforeStepPass, clock_beforePass, hbegin, Nat.add_comm k, ← Nat.add_assoc]
  rfl

theorem time_stepPass (dt : K) (k : Nat) :
    (s.stepPass w dt k).time = s.clock.schedule (s.clock.reads + (k + 1)) := by
  have hpass : (s.stepPass w dt k).time = (s.beforeStepPass w dt k).1.clock.now := rfl
  rw [hpass, clock_beforeStepPass]
  rfl

/-- Whether time is left after the `k`-th pass. -/
theorem time_lt_expiry_iff (k : Nat) :
    (s.stepPass w order.dt k).time < addTime s.clock.now order.maxTime ↔
      (s.clock.schedule (s.clock.reads + (k + 1))).toNat <
        min ((s.clock.schedule s.clock.reads).toNat + order.maxTime.toNat) (UInt64.size - 1) := by
  rw [time_stepPass, UInt64.lt_iff_toNat_lt, toNat_addTime]
  rfl

/-- What a step comes to, by the number of its last pass. -/
theorem step_spec (s : Simulation K) (w : World K) (order : StepOrder K) :
    ∃ n ≤ order.maxPasses.toNat - 1,
      (∀ k < n, (s.stepPass w order.dt k).unfinished order.minError
        (addTime s.clock.now order.maxTime) = true) ∧
      (n < order.maxPasses.toNat - 1 → (s.stepPass w order.dt n).unfinished order.minError
        (addTime s.clock.now order.maxTime) = false) ∧
      (s.step w order).1.passes = n + 1 ∧
      (s.step w order).1.error = (s.stepPass w order.dt n).error ∧
      (s.step w order).1.collisions = (s.stepPass w order.dt n).sim.collisions.size ∧
      (s.step w order).1.hitOther = (s.begin order.dt w).1.anyHit (s.begin order.dt w).2 (n + 1) ∧
      (s.step w order).1.elapsed = timeSince s.clock.now (s.stepPass w order.dt n).time ∧
      (s.step w order).2.1 = (s.stepPass w order.dt n).sim.forgetOld := by
  obtain ⟨n, hn, heq, hbefore, hlast⟩ := relax_spec order.minError
    (addTime s.clock.now order.maxTime) (order.maxPasses.toNat - 1) (s.begin order.dt w).1
    (s.begin order.dt w).2
  refine ⟨n, hn, hbefore, hlast, ?_⟩
  unfold step
  simp only [heq]
  exact ⟨rfl, rfl, rfl, rfl, rfl, rfl⟩

/-- After its last pass a step forgets old contacts; the rest concerns the world alone. -/
theorem sim_step (s : Simulation K) (w : World K) (order : StepOrder K) : (s.step w order).2.1 =
    (s.beforeStepPass w order.dt (s.step w order).1.passes).1.forgetOld := by
  obtain ⟨n, -, -, -, hpasses, -, -, -, -, hsim⟩ := step_spec s w order
  rw [hsim, hpasses]
  rfl

theorem unfinished_stepPass_iff (k : Nat) :
    (s.stepPass w order.dt k).unfinished order.minError (addTime s.clock.now order.maxTime) = true ↔
      (s.stepPass w order.dt k).sim.collisions.isEmpty = false ∧
        order.minError < (s.stepPass w order.dt k).error ∧
        (s.clock.schedule (s.clock.reads + (k + 1))).toNat <
          min ((s.clock.schedule s.clock.reads).toNat + order.maxTime.toNat) (UInt64.size - 1) := by
  rw [← time_lt_expiry_iff (w := w)]
  simp only [Relaxation.unfinished, Bool.and_eq_true, Bool.not_eq_true', decide_eq_true_eq,
    and_assoc]

/-- A step goes on after a pass exactly if that leaves something to do and passes and time are
left. -/
theorem step_goes_on_iff {k : Nat} (hk : k < (s.step w order).1.passes) :
    k + 1 < (s.step w order).1.passes ↔
      (s.stepPass w order.dt k).sim.collisions.isEmpty = false ∧ k + 1 < order.maxPasses.toNat ∧
        order.minError < (s.stepPass w order.dt k).error ∧
        (s.clock.schedule (s.clock.reads + (k + 1))).toNat <
          min ((s.clock.schedule s.clock.reads).toNat + order.maxTime.toNat) (UInt64.size - 1) := by
  obtain ⟨n, hn, hbefore, hlast, hpasses, -⟩ := step_spec s w order
  rw [hpasses] at hk ⊢
  constructor
  · intro hmore
    obtain ⟨hhits, herr, htime⟩ := (unfinished_stepPass_iff k).1 (hbefore k (by omega))
    exact ⟨hhits, by omega, herr, htime⟩
  · rintro ⟨hhits, hmax, herr, htime⟩
    by_contra hmore
    obtain rfl : k = n := by omega
    have hopen := (unfinished_stepPass_iff k).2 ⟨hhits, herr, htime⟩
    rw [hlast (by omega)] at hopen
    exact Bool.false_ne_true hopen

/-! ### Clocks that tick -/

/-- With a clock that ticks and does not reach the latest time, time is left after as many passes
as there are whole ticks before the end of the step. -/
theorem ticking_lt_expiry_iff {start tick maxTime : UInt64} {reads k : Nat} (htick : 0 < tick.toNat)
    (hfits : start.toNat + reads * tick.toNat + maxTime.toNat < UInt64.size) :
    ((Clock.ticking start tick).schedule (reads + k)).toNat <
        min (((Clock.ticking start tick).schedule reads).toNat + maxTime.toNat) (UInt64.size - 1) ↔
      k < maxTime.toNat ⌈/⌉ tick.toNat := by
  have hceil : maxTime.toNat ⌈/⌉ tick.toNat ≤ k ↔ maxTime.toNat ≤ k * tick.toNat := by
    rw [ceilDiv_le_iff_le_smul htick, smul_eq_mul, Nat.mul_comm]
  rw [Clock.toNat_ticking, Clock.toNat_ticking, Nat.add_mul]
  omega

theorem step_ticking {start tick : UInt64}
    (hclock : s.clock.schedule = (Clock.ticking start tick).schedule) (htick : 0 < tick.toNat)
    (hfits : start.toNat + s.clock.reads * tick.toNat + order.maxTime.toNat < UInt64.size)
    (hopen : ∀ k, k + 1 < max 1 (order.maxTime.toNat ⌈/⌉ tick.toNat) →
      (s.stepPass w order.dt k).sim.collisions.isEmpty = false ∧ k + 1 < order.maxPasses.toNat ∧
        order.minError < (s.stepPass w order.dt k).error) :
    (s.step w order).1.passes = max 1 (order.maxTime.toNat ⌈/⌉ tick.toNat) := by
  have hgo : ∀ k, k < (s.step w order).1.passes → k + 1 < (s.step w order).1.passes →
      k + 1 < order.maxTime.toNat ⌈/⌉ tick.toNat := by
    intro k hk hmore
    have htime := ((step_goes_on_iff hk).1 hmore).2.2.2
    rw [hclock] at htime
    exact (ticking_lt_expiry_iff htick hfits).1 htime
  have hstop : ∀ k, k < (s.step w order).1.passes → k + 1 < order.maxTime.toNat ⌈/⌉ tick.toNat →
      k + 1 < (s.step w order).1.passes := by
    intro k hk hmore
    obtain ⟨hhits, hmax, herr⟩ := hopen k (lt_max_of_lt_right hmore)
    have htime := (ticking_lt_expiry_iff htick hfits).2 hmore
    rw [← hclock] at htime
    exact (step_goes_on_iff hk).2 ⟨hhits, hmax, herr, htime⟩
  obtain ⟨n, -, -, -, hpasses, -⟩ := step_spec s w order
  rw [hpasses] at hgo hstop ⊢
  have hlast := hstop n (Nat.lt_succ_self n)
  cases n with
  | zero => omega
  | succ n =>
    have hprev := hgo n (by omega) (by omega)
    omega

/-! ### The driver -/

/-- **The driver of a step.**  A step runs at least one pass and at most as many as it may, and it
reads the clock once before and once after each of them.  It goes on to another pass exactly if the
last one kept collisions, passes and time are left and the joints do not hold well enough.  It
reports error and collisions of the last pass, whether any pass hit another entity, and the time
from the first reading to the last one.  With a clock that ticks, a step that always finds
something to do runs for as many passes as it takes to use up its time. -/
theorem step_driver (s : Simulation K) (w : World K) (order : StepOrder K) :
    let report := (s.step w order).1
    let pass := s.stepPass w order.dt
    let reading := fun n => (s.clock.schedule (s.clock.reads + n)).toNat
    (1 ≤ report.passes ∧ report.passes ≤ max 1 order.maxPasses.toNat ∧
      report.passes < UInt32.size) ∧
    (s.step w order).2.1.clock = { s.clock with reads := s.clock.reads + (report.passes + 1) } ∧
    (∀ k < report.passes, k + 1 < report.passes ↔
      (pass k).sim.collisions.isEmpty = false ∧ k + 1 < order.maxPasses.toNat ∧
        order.minError < (pass k).error ∧
        reading (k + 1) < min (reading 0 + order.maxTime.toNat) (UInt64.size - 1)) ∧
    report.error = (pass (report.passes - 1)).error ∧
    report.collisions = (pass (report.passes - 1)).sim.collisions.size ∧
    (report.hitOther = true ↔ ∃ k < report.passes, ((s.beforeStepPass w order.dt k).1.detect
      (s.beforeStepPass w order.dt k).2).1 = true) ∧
    ((∀ i j, i ≤ j → s.clock.schedule i ≤ s.clock.schedule j) →
      reading 0 + report.elapsed.toNat = reading report.passes) ∧
    ∀ start tick : UInt64, s.clock.schedule = (Clock.ticking start tick).schedule →
      0 < tick.toNat →
      start.toNat + s.clock.reads * tick.toNat + order.maxTime.toNat < UInt64.size →
      (∀ k, k + 1 < max 1 (order.maxTime.toNat ⌈/⌉ tick.toNat) →
        (pass k).sim.collisions.isEmpty = false ∧ k + 1 < order.maxPasses.toNat ∧
          order.minError < (pass k).error) →
      report.passes = max 1 (order.maxTime.toNat ⌈/⌉ tick.toNat) := by
  intro report pass reading
  have hgoesOn : ∀ k < report.passes, k + 1 < report.passes ↔
      (pass k).sim.collisions.isEmpty = false ∧ k + 1 < order.maxPasses.toNat ∧
        order.minError < (pass k).error ∧
        reading (k + 1) < min (reading 0 + order.maxTime.toNat) (UInt64.size - 1) :=
    fun k hk => step_goes_on_iff hk
  obtain ⟨n, hn, -, -, hn', herror, hcollisions, hhit, helapsed, hsim⟩ := step_spec s w order
  have hmax := order.maxPasses.toNat_lt
  have hpasses : report.passes = n + 1 := hn'
  have hlast : report.passes - 1 = n := by omega
  refine ⟨⟨by omega, by omega, ?_⟩, ?_, hgoesOn, ?_, ?_, ?_, fun hmono => ?_,
    fun start tick hclock htick hfits hopen => step_ticking hclock htick hfits hopen⟩
  · have hsize : UInt32.size = 2 ^ 32 := rfl
    omega
  · have hclock : (s.stepPass w order.dt n).sim.forgetOld.clock =
        (s.beforeStepPass w order.dt (n + 1)).1.clock := rfl
    rw [hsim, hclock, clock_beforeStepPass, hpasses]
  · rw [hlast]
    exact herror
  · rw [hlast]
    exact hcollisions
  · rw [hhit, hpasses]
    simp only [anyHit, List.any_eq_true, List.mem_range]
    rfl
  · have hle := hmono s.clock.reads (s.clock.reads + (n + 1)) (Nat.le_add_right _ _)
    rw [helapsed, time_stepPass, hpasses]
    exact toNat_timeSince hle

/-- Two balls in one place that cannot move, as the shapes of one entity. -/
def jam : World Float32 where
  shapes := (Arena.empty.push (.ofForm (.sphere 1) 0)).push (.ofForm (.sphere 1) 0)
  entities := Arena.empty.push ⟨.scenery [⟨0⟩, ⟨1⟩], none⟩
  ragdolls := .empty

def jammed : Simulation Float32 :=
  { fresh ⟨1⟩ .standard (.ticking 0 10) with entities := Roster.empty.seat (some ⟨0⟩) }

/-- Twenty-five microseconds take three ticks of ten. -/
theorem step_driver_of_jam : (jammed.step jam ⟨0.01, -1, 8, 25⟩).1.passes = 3 := by
  obtain ⟨-, -, -, -, -, -, -, hticking⟩ := step_driver jammed jam ⟨0.01, -1, 8, 25⟩
  refine hticking 0 10 rfl (by decide) (by decide) fun k hk => ?_
  have hticks : max 1 ((25 : UInt64).toNat ⌈/⌉ (10 : UInt64).toNat) = 3 := by decide
  have hk' : k + 1 < 3 := hticks ▸ hk
  rcases k with - | - | k
  · decide +kernel
  · decide +kernel
  · omega

end Simulation

end RagdollDynamics
