import RagdollDynamics.Proofs.Frame.Step

/-!
# Independent simulations

Two simulations of one world whose footprints do not meet may step in either order
(`Simulation.step_comm`), and so may whole runs of steps (`Simulation.run_comm`): neither notices
that the other one stepped.
-/

namespace RagdollDynamics

namespace Simulation

variable {K : Type} [Scalar K] {F : Footprint} {s s₁ s₂ : Simulation K} {w : World K}

/-! ### Runs -/

/-- Steps by a list of orders in turn: what they report, and simulation and world afterwards. -/
def run (s : Simulation K) (w : World K) :
    List (StepOrder K) → List (StepReport K) × Simulation K × World K
  | [] => ([], s, w)
  | order :: rest =>
    let one := s.step w order
    let others := one.2.1.run one.2.2 rest
    (one.1 :: others.1, others.2)

theorem inside_step (hs : s.Inside F) (hw : F.Covers w) (order : StepOrder K) :
    (s.step w order).2.1.Inside F :=
  hs.alike (s.alike_step w order).1
    (within_step hs.contacts (fun _ _ h => faces_mem hs hw h) order)

/-- A run is confined to the footprint in which it starts. -/
theorem confined_run : ∀ (orders : List (StepOrder K)) {s : Simulation K}, s.Inside F →
    Confined F.region fun w => (((s.run w orders).1, (s.run w orders).2.1), (s.run w orders).2.2)
  | [], s, _ => .pure ([], s)
  | order :: rest, s, hs => by
    refine (confined_step hs order).bind
      (g := fun (one : StepReport K × Simulation K) w =>
        ((one.1 :: (one.2.run w rest).1, (one.2.run w rest).2.1), (one.2.run w rest).2.2))
      fun w hw => ?_
    have hrest := confined_run rest (inside_step hs hw order)
    exact hrest.map fun others => ((s.step w order).1 :: others.1, others.2)

/-! ### Two simulations -/

/-- Two simulations of a world share neither members nor shapes within their reach. -/
structure Independent (s₁ s₂ : Simulation K) (w : World K) : Prop where
  shapes : (s₁.reach w).Disjoint (s₂.reach w)
  entities : s₁.entities.members.Disjoint s₂.entities.members
  ragdolls : s₁.ragdolls.members.Disjoint s₂.ragdolls.members

omit [Scalar K] in
/-- Whether simulations are independent does not depend on the order of their contacts. -/
theorem Independent.reorder {t₁ t₂ : ContactTable K} (h : s₁.Independent s₂ w)
    (order₁ : s₁.contacts.entries.Perm t₁.entries) (order₂ : s₂.contacts.entries.Perm t₂.entries) :
    ({ s₁ with contacts := t₁ } : Simulation K).Independent { s₂ with contacts := t₂ } w where
  shapes _ h₁ h₂ := h.shapes ((reach_perm order₁ w).mem_iff.2 h₁) ((reach_perm order₂ w).mem_iff.2 h₂)
  entities := h.entities
  ragdolls := h.ragdolls

theorem Independent.apart (h : s₁.Independent s₂ w) :
    ((s₁.footprint w).region : Region (World K)).Apart (s₂.footprint w).region :=
  Footprint.apart h.shapes h.entities h.ragdolls

/-- **Independent simulations commute.**  Whichever of the two steps first, each reports the same
and becomes the same simulation, and the world afterwards is the same. -/
theorem step_comm (s₁ s₂ : Simulation K) (w : World K) (order₁ order₂ : StepOrder K)
    (h : s₁.Independent s₂ w) :
    (s₁.step (s₂.step w order₂).2.2 order₁).1 = (s₁.step w order₁).1 ∧
    (s₁.step (s₂.step w order₂).2.2 order₁).2.1 = (s₁.step w order₁).2.1 ∧
    (s₂.step (s₁.step w order₁).2.2 order₂).1 = (s₂.step w order₂).1 ∧
    (s₂.step (s₁.step w order₁).2.2 order₂).2.1 = (s₂.step w order₂).2.1 ∧
    (s₂.step (s₁.step w order₁).2.2 order₂).2.2 = (s₁.step (s₂.step w order₂).2.2 order₁).2.2 := by
  obtain ⟨hfirst, hsecond, hworld⟩ := h.apart.comm
    (confined_step (s₁.inside_footprint w) order₁) (confined_step (s₂.inside_footprint w) order₂)
    (s₁.covers_footprint w) (s₂.covers_footprint w)
  obtain ⟨hreport₁, hsim₁⟩ := Prod.ext_iff.1 hfirst
  obtain ⟨hreport₂, hsim₂⟩ := Prod.ext_iff.1 hsecond
  exact ⟨hreport₁, hsim₁, hreport₂, hsim₂, hworld⟩

/-- Whole runs of independent simulations commute. -/
theorem run_comm (orders₁ orders₂ : List (StepOrder K)) (h : s₁.Independent s₂ w) :
    (s₁.run (s₂.run w orders₂).2.2 orders₁).1 = (s₁.run w orders₁).1 ∧
    (s₁.run (s₂.run w orders₂).2.2 orders₁).2.1 = (s₁.run w orders₁).2.1 ∧
    (s₂.run (s₁.run w orders₁).2.2 orders₂).2.2 = (s₁.run (s₂.run w orders₂).2.2 orders₁).2.2 := by
  obtain ⟨hfirst, -, hworld⟩ := h.apart.comm
    (confined_run orders₁ (s₁.inside_footprint w)) (confined_run orders₂ (s₂.inside_footprint w))
    (s₁.covers_footprint w) (s₂.covers_footprint w)
  obtain ⟨hreports, hsim⟩ := Prod.ext_iff.1 hfirst
  exact ⟨hreports, hsim, hworld⟩

/-- Two pairs of balls, the balls of a pair in one place. -/
def pairs : World Float32 where
  shapes := (((Arena.empty.push (.ofForm (.sphere 1) 1)).push (.ofForm (.sphere 1) 1)).push
    (.ofForm (.sphere 2) 1)).push (.ofForm (.sphere 2) 1)
  entities := (((Arena.empty.push ⟨.rigid (.ofMass 1 [⟨0⟩]), some ⟨1⟩⟩).push
    ⟨.rigid (.ofMass 1 [⟨1⟩]), some ⟨1⟩⟩).push ⟨.rigid (.ofMass 1 [⟨2⟩]), some ⟨2⟩⟩).push
    ⟨.rigid (.ofMass 1 [⟨3⟩]), some ⟨2⟩⟩
  ragdolls := .empty

def ofPair (id : SimulationId) (first second : EntityId) : Simulation Float32 :=
  { fresh id .standard (.still 0) with entities := ⟨some first, [second]⟩ }

theorem step_comm_of_pairs : ∃ order : StepOrder Float32,
    ((ofPair ⟨1⟩ ⟨0⟩ ⟨1⟩).step pairs order).1.collisions = 1 ∧
    ((ofPair ⟨2⟩ ⟨2⟩ ⟨3⟩).step pairs order).1.collisions = 1 ∧
    ((ofPair ⟨2⟩ ⟨2⟩ ⟨3⟩).step ((ofPair ⟨1⟩ ⟨0⟩ ⟨1⟩).step pairs order).2.2 order).2.2 =
      ((ofPair ⟨1⟩ ⟨0⟩ ⟨1⟩).step ((ofPair ⟨2⟩ ⟨2⟩ ⟨3⟩).step pairs order).2.2 order).2.2 := by
  have hshapes : ∀ x ∈ (ofPair ⟨1⟩ ⟨0⟩ ⟨1⟩).reach pairs, x ∉ (ofPair ⟨2⟩ ⟨2⟩ ⟨3⟩).reach pairs := by
    decide +kernel
  have hentities : ∀ e ∈ (ofPair ⟨1⟩ ⟨0⟩ ⟨1⟩).entities.members,
      e ∉ (ofPair ⟨2⟩ ⟨2⟩ ⟨3⟩).entities.members := by decide
  have hindependent : (ofPair ⟨1⟩ ⟨0⟩ ⟨1⟩).Independent (ofPair ⟨2⟩ ⟨2⟩ ⟨3⟩) pairs :=
    ⟨fun x h => hshapes x h, fun e h => hentities e h, List.disjoint_nil_left _⟩
  obtain ⟨-, -, -, -, hworld⟩ := step_comm _ _ pairs ⟨0.01, 0, 1, 0⟩ ⟨0.01, 0, 1, 0⟩ hindependent
  exact ⟨⟨0.01, 0, 1, 0⟩, by decide +kernel, by decide +kernel, hworld⟩

end Simulation

end RagdollDynamics
