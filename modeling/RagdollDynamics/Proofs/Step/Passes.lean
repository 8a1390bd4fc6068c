import RagdollDynamics.Simulation.Step

/-!
# Passes

Relaxing repeats one pass.  The passes that would follow each other if nothing ever stopped them
come first (`Simulation.passAt`); relaxing is then described by the number of the pass at which it
stops (`Simulation.relax_spec`).
-/

namespace RagdollDynamics

namespace Simulation

variable {K : Type} [Scalar K] {s : Simulation K} {w : World K}

/-! ### The passes that never end -/

/-- Simulation and world before the `n`-th pass, counted from zero. -/
def beforePass (s : Simulation K) (w : World K) : Nat → Simulation K × World K
  | 0 => (s, w)
  | n + 1 =>
    let r := (s.beforePass w n).1.pass (s.beforePass w n).2
    (r.sim, r.world)

/-- The `n`-th pass, counted from zero. -/
def passAt (s : Simulation K) (w : World K) (n : Nat) : Relaxation K :=
  (s.beforePass w n).1.pass (s.beforePass w n).2

theorem beforePass_succ (n : Nat) :
    s.beforePass w (n + 1) = ((s.passAt w n).sim, (s.passAt w n).world) := rfl

theorem beforePass_pass (n : Nat) :
    (s.pass w).sim.beforePass (s.pass w).world n = s.beforePass w (n + 1) := by
  induction n with
  | zero => rfl
  | succ n ih => rw [beforePass, ih, ← passAt, ← beforePass_succ]

theorem passAt_pass (n : Nat) :
    (s.pass w).sim.passAt (s.pass w).world n = s.passAt w (n + 1) := by
  rw [passAt, beforePass_pass, passAt]

/-- Every pass reads the clock once and changes nothing else about it. -/
theorem clock_beforePass (n : Nat) :
    (s.beforePass w n).1.clock = { s.clock with reads := s.clock.reads + n } := by
  induction n with
  | zero => rfl
  | succ n ih =>
    have hpass : (s.passAt w n).sim.clock = (s.beforePass w n).1.clock.next := rfl
    rw [beforePass_succ, hpass, ih]
    rfl

/-! ### Where relaxing stops -/

/-- Whether any of the first `n` passes finds the primary entity colliding with another one. -/
def anyHit (s : Simulation K) (w : World K) (n : Nat) : Bool :=
  (List.range n).any fun k => ((s.beforePass w k).1.detect (s.beforePass w k).2).1

/-- What the passes up to the `n`-th come to. -/
def passesTo (s : Simulation K) (w : World K) (n : Nat) : Relaxation K :=
  { s.passAt w n with passes := n + 1, hitOther := s.anyHit w (n + 1) }

theorem anyHit_succ (n : Nat) : s.anyHit w (n + 1) =
    ((s.pass w).hitOther || (s.pass w).sim.anyHit (s.pass w).world n) := by
  simp only [anyHit, List.range_succ_eq_map, List.any_cons, List.any_map, Function.comp_def,
    beforePass_pass]
  rfl

theorem passesTo_zero : s.passesTo w 0 = s.pass w := by
  rw [passesTo, anyHit_succ]
  exact congrArg (fun b => { s.pass w with hitOther := b }) (Bool.or_false _)

theorem followedBy_passesTo (n : Nat) :
    (s.pass w).followedBy ((s.pass w).sim.passesTo (s.pass w).world n) = s.passesTo w (n + 1) := by
  rw [passesTo, passesTo, anyHit_succ (n + 1), ← passAt_pass, Relaxation.followedBy]
  simp only [Relaxation.mk.injEq, true_and, and_true]
  exact Nat.add_comm 1 (n + 1)

/-- **Relaxing stops after the first pass that leaves nothing to do**, at the latest after
`more + 1` passes. -/
theorem relax_spec (minError : K) (expiry : UInt64) (more : Nat) (s : Simulation K) (w : World K) :
    ∃ n ≤ more, relax minError expiry more s w = s.passesTo w n ∧
      (∀ k < n, (s.passAt w k).unfinished minError expiry = true) ∧
      (n < more → (s.passAt w n).unfinished minError expiry = false) := by
  induction more generalizing s w with
  | zero => exact ⟨0, Nat.le_refl 0, passesTo_zero.symm, fun k hk => absurd hk k.not_lt_zero,
      fun h => absurd h (Nat.lt_irrefl 0)⟩
  | succ more ih =>
    rw [relax]
    split
    next hgo =>
      -- the remaining passes start from what the first one leaves
      obtain ⟨n, hn, heq, hbefore, hlast⟩ := ih (s.pass w).sim (s.pass w).world
      refine ⟨n + 1, Nat.succ_le_succ hn, ?_, fun k hk => ?_, fun h => ?_⟩
      · rw [heq, followedBy_passesTo]
      · cases k with
        | zero => exact hgo
        | succ k =>
          rw [← passAt_pass]
          exact hbefore k (Nat.lt_of_succ_lt_succ hk)
      · rw [← passAt_pass]
        exact hlast (Nat.lt_of_succ_lt_succ h)
    next hstop =>
      exact ⟨0, Nat.zero_le _, passesTo_zero.symm, fun k hk => absurd hk k.not_lt_zero,
        fun _ => Bool.eq_false_iff.2 hstop⟩

end Simulation

end RagdollDynamics
