import RagdollDynamics.Simulation.Membership
import RagdollDynamics.Simulation.Step

/-!
# Commands and histories

Everything that can be asked of a simulation and changes something, as data, so that statements
can speak about all that ever happened to it.  A history lists what happened, the latest first; it
ends with the first violated precondition.
-/

namespace RagdollDynamics

/-- What can be asked of a simulation. -/
inductive Command (K : Type) where
  | admitEntity (id : EntityId)
  | admitRagdoll (id : RagdollId)
  | setEntity (id : Option EntityId)
  | setRagdoll (id : Option RagdollId)
  | dismissEntity (id : EntityId)
  | dismissRagdoll (id : RagdollId)
  | disband
  | detect
  | noteContacts
  | enforceContacts
  | rubContacts
  | resolve
  | forgetOld
  | forgetEntity (id : EntityId)
  | forgetShape (id : ShapeId)
  | moveOrigin (origin : Vec3 K)
  | step (order : StepOrder K)

def Outcome.state {k : HandleKind} {K : Type} (o : Outcome k K) : Simulation K × World K :=
  (o.sim, o.world)

/-- Simulation and world after a command. -/
def Simulation.perform {K : Type} [Scalar K] (s : Simulation K) (w : World K) :
    Command K → Except Violation (Simulation K × World K)
  | .admitEntity id => (s.admitEntity w id).map Outcome.state
  | .admitRagdoll id => (s.admitRagdoll w id).map Outcome.state
  | .setEntity id => (s.setEntity w id).map Outcome.state
  | .setRagdoll id => (s.setRagdoll w id).map Outcome.state
  | .dismissEntity id => .ok (s.dismissEntity w id)
  | .dismissRagdoll id => .ok (s.dismissRagdoll w id)
  | .disband => .ok (s.disband w)
  | .detect => .ok ((s.detect w).2, w)
  | .noteContacts => .ok (s.noteContacts w, w)
  | .enforceContacts => .ok (s.enforceContacts w).2
  | .rubContacts => .ok (s.rubContacts w)
  | .resolve => .ok (s, s.resolve w)
  | .forgetOld => .ok (s.forgetOld, w)
  | .forgetEntity id => .ok (s.forgetEntity w id, w)
  | .forgetShape id => .ok (s.forgetShape id, w)
  | .moveOrigin origin => .ok ({ s with origin := origin }, w)
  | .step order => .ok (s.step w order).2

/-! ### Histories -/

section History

variable {σ ε : Type} {act : σ → ε → Except Violation σ} {start st : σ} {e : ε} {past : List ε}
  {P : σ → Prop}

/-- The state that a history leads to from `start`.  The latest event stands first. -/
def outcome (act : σ → ε → Except Violation σ) (start : σ) : List ε → Except Violation σ
  | [] => .ok start
  | e :: past => (outcome act start past).bind fun st => act st e

theorem outcome_cons_eq_ok : outcome act start (e :: past) = .ok st ↔
    ∃ before, outcome act start past = .ok before ∧ act before e = .ok st := by
  rw [outcome]
  cases outcome act start past <;> simp [Except.bind]

/-- What holds at the start and is kept by every event holds after every history. -/
theorem outcome_invariant (h₀ : P start)
    (hstep : ∀ before e after, P before → act before e = .ok after → P after) :
    ∀ {past : List ε} {st : σ}, outcome act start past = .ok st → P st
  | [], _, h => Except.ok.inj h ▸ h₀
  | _ :: _, _, h => by
    obtain ⟨before, hpast, hlast⟩ := outcome_cons_eq_ok.1 h
    exact hstep _ _ _ (outcome_invariant h₀ hstep hpast) hlast

/-- Every event of a history meets a condition on the state in which it happens. -/
def Observes (act : σ → ε → Except Violation σ) (start : σ) (C : σ → ε → Prop) : List ε → Prop
  | [] => True
  | e :: past => Observes act start C past ∧ ∀ st, outcome act start past = .ok st → C st e

/-- What holds at the start and is kept by every event that meets a condition holds after every
history whose events meet it. -/
theorem outcome_invariant_of_observes {C : σ → ε → Prop} (h₀ : P start)
    (hstep : ∀ before e after, P before → C before e → act before e = .ok after → P after) :
    ∀ {past : List ε} {st : σ}, Observes act start C past → outcome act start past = .ok st → P st
  | [], _, _, h => Except.ok.inj h ▸ h₀
  | _ :: _, _, hobs, h => by
    obtain ⟨before, hpast, hlast⟩ := outcome_cons_eq_ok.1 h
    have hbefore : P before := outcome_invariant_of_observes h₀ hstep hobs.1 hpast
    exact hstep _ _ _ hbefore (hobs.2 before hpast) hlast

/-- A violation that no event causes in a state that satisfies an invariant never occurs. -/
theorem outcome_ne_error {v : Violation} (h₀ : P start)
    (hstep : ∀ before e after, P before → act before e = .ok after → P after)
    (hsafe : ∀ before e, P before → act before e ≠ .error v) :
    ∀ past : List ε, outcome act start past ≠ .error v := by
  intro past
  induction past with
  | nil => exact fun h => nomatch (show Except.ok start = Except.error v from h)
  | cons e past ih =>
    intro h
    rw [outcome] at h
    cases hpast : outcome act start past with
    | error v' =>
      rw [hpast] at h
      exact ih (hpast.trans h)
    | ok before =>
      rw [hpast] at h
      exact hsafe before e (outcome_invariant h₀ hstep hpast) h

end History

/-! ### A simulation and its world -/

/-- A change that comes to a world from outside a simulation.  No entity loses a shape by it. -/
structure World.Change (K : Type) where
  apply : World K → World K
  keeps : ∀ w id, w.entityShapes id ⊆ (apply w).entityShapes id

def World.Change.onShapes {K : Type} (f : Shapes K → Shapes K) : World.Change K where
  apply := fun w => { w with shapes := f w.shapes }
  keeps := fun _ _ => List.Subset.refl _

/-- What can happen to a simulation and its world. -/
inductive Happening (K : Type) where
  | command (c : Command K)
  | change (f : World.Change K)

def Happening.act {K : Type} [Scalar K] (st : Simulation K × World K) :
    Happening K → Except Violation (Simulation K × World K)
  | .command c => st.1.perform st.2 c
  | .change f => .ok (st.1, f.apply st.2)

end RagdollDynamics
