import RagdollDynamics.Proofs.Exact.Movers
import RagdollDynamics.Proofs.Contact.Shares

/-!
# Immovable shapes

Answering collisions and enforcing rods leaves every immovable shape where it is.  Contacts do so
only with the shapes that were immovable when their contacts were last refreshed
(`Simulation.immovable_stays`): a shape that becomes immovable later is still moved by the share
that it had before (`Simulation.immovable_yields_to_contact`).
-/

namespace RagdollDynamics

theorem shareOf_zero (total : ℝ) : shareOf 0 total = 0 := by
  rw [shareOf, zero_div, ite_self]

theorem Contact.WeighedBy.not_mem_movers {c : Contact ℝ} {m : ShapeId → ℝ} (h : c.WeighedBy m)
    {x : ShapeId} (immovable : m x = 0) : x ∉ c.movers := by
  intro hx
  rcases mem_movers_iff.1 hx with ⟨rfl, hshare⟩ | ⟨rfl, hshare⟩
  · exact hshare (by rw [h.lower, immovable, shareOf_zero])
  · exact hshare (by rw [h.upper, immovable, shareOf_zero])

namespace Simulation

variable {id : SimulationId} {config : Config ℝ} {clock : Clock} {w₀ : World ℝ}
  {past : List (Happening ℝ)} {s : Simulation ℝ} {w : World ℝ}

/-- A contact gives no share to a shape that was immovable when it was last refreshed. -/
theorem not_mem_movers_of_history
    (run : outcome Happening.act (fresh id config clock, w₀) past = .ok (s, w)) {x : ShapeId}
    {c : Contact ℝ} (hc : c ∈ s.contacts.toList)
    (immovable : ∀ v, LastRefresh (fresh id config clock, w₀) c.lower c.upper past v →
      v.shapes.inverseMass x = 0) : x ∉ c.movers := by
  have hkeyed := (orderly_of_history run).contacts.toKeyed
  have hfound : s.contacts.find? (.of c.lower c.upper) = some c :=
    hkeyed.find?_eq_some_iff.2 ⟨hc, .inl ⟨rfl, rfl⟩⟩
  obtain ⟨v, hlast, hweighed⟩ := weighed_of_history run hfound
  exact hweighed.not_mem_movers (immovable v hlast)

/-- **An immovable shape stays where it is** if no corrections wait with it: whatever happened
before, answering the collisions of the last detection does not move it, and neither does a rod.
Enforcing contacts and rubbing them does not move it if it was immovable already when each of its
contacts was last refreshed. -/
theorem immovable_stays
    (run : outcome Happening.act (fresh id config clock, w₀) past = .ok (s, w)) {x : ShapeId}
    (immovable : w.shapes.inverseMass x = 0)
    (nothing_waits : ∀ t, w.shapes.find? x = some t → t.pendingCount = 0) :
    (s.resolve w).shapes.find? x = w.shapes.find? x ∧
    (∀ a b length, ((Joint.rod a b length).enforce w.shapes).2.find? x = w.shapes.find? x) ∧
    ((∀ c ∈ s.contacts.toList, x ∈ c.shapes → ∀ v,
        LastRefresh (fresh id config clock, w₀) c.lower c.upper past v →
        v.shapes.inverseMass x = 0) →
      (s.enforceContacts w).2.2.shapes.find? x = w.shapes.find? x ∧
      (s.rubContacts w).2.shapes.find? x = w.shapes.find? x) := by
  refine ⟨Collision.find?_resolveAll immovable nothing_waits, ?_, ?_⟩
  · intro a b length
    have hfixed : x ∉ w.shapes.movable [a, b] :=
      fun hx => (Shapes.mem_movable_iff.1 hx).2 immovable
    exact (Joint.changedOn_enforceRod a b length w.shapes).find?_eq hfixed
  · intro before
    have hfixed : x ∉ s.contacts.toList.flatMap Contact.movers := by
      intro hx
      obtain ⟨c, hc, hmoves⟩ := List.mem_flatMap.1 hx
      have hbefore := before c hc (c.movers_subset hmoves)
      exact not_mem_movers_of_history run hc hbefore hmoves
    constructor
    · exact (s.contacts.changedOn_enforce w.shapes).find?_eq hfixed
    · exact (s.contacts.changedOn_rub w.shapes).find?_eq hfixed

/-! ### A ball that becomes immovable -/

noncomputable def marble (entity : EntityId) (mass : ℝ) (p : Vec3 ℝ) : Shape ℝ :=
  { Shape.ofForm (.sphere 1) mass with position := p, holder := some entity }

/-- A ball, and at its surface the centre of another one, which is immovable. -/
noncomputable def marbles : World ℝ where
  shapes := ⟨#[marble ⟨0⟩ 1 ⟨0, 0, 0⟩, marble ⟨1⟩ 0 ⟨1, 0, 0⟩]⟩
  entities := ⟨#[⟨.rigid (.ofMass 1 [⟨0⟩]), some ⟨1⟩⟩, ⟨.rigid (.ofMass 0 [⟨1⟩]), some ⟨1⟩⟩]⟩
  ragdolls := .empty

/-- The balls before they belong to a simulation. -/
noncomputable def looseMarbles : World ℝ :=
  { marbles with
    entities := ⟨#[⟨.rigid (.ofMass 1 [⟨0⟩]), none⟩, ⟨.rigid (.ofMass 0 [⟨1⟩]), none⟩]⟩ }

noncomputable def players : Simulation ℝ :=
  { fresh ⟨1⟩ .standard (.still 0) with entities := ⟨some ⟨0⟩, [⟨1⟩]⟩ }

noncomputable def knock : Collision ℝ := ⟨⟨⟨1, 0, 0⟩, ⟨1, 0, 0⟩⟩, ⟨0⟩, some ⟨1⟩⟩

/-- The contact of the two balls, of which only the first one can move. -/
noncomputable def touch : Contact ℝ where
  lower := ⟨0⟩
  upper := ⟨1⟩
  frame := 0
  normal := ⟨1, 0, 0⟩
  lowerAnchor := ⟨1, 0, 0⟩
  upperAnchor := ⟨-1, 0, 0⟩
  lowerShare := 1
  upperShare := 0
  pressure := 1
  friction := 0.5
  allowance := 0.01

/-- The first ball becomes immovable, and the second one is put aside. -/
noncomputable def freeze : World.Change ℝ :=
  .onShapes fun shapes =>
    (shapes.modify ⟨0⟩ fun s => { s with mass := 0 }).modify ⟨1⟩ fun s => s.moveBy ⟨0, 0.25, 0⟩

/-- The balls collide, their contact is noted, and then the first ball becomes immovable. -/
noncomputable def freezing : List (Happening ℝ) :=
  [.change freeze, .command .noteContacts, .command .detect, .command (.admitEntity ⟨1⟩),
    .command (.setEntity (some ⟨0⟩))]

noncomputable def touching : Simulation ℝ :=
  { players with collisions := ⟨#[knock], 256, 0⟩, contacts := ⟨[(.of ⟨0⟩ ⟨1⟩, touch)]⟩ }

theorem find?_marbles_first : marbles.shapes.find? ⟨0⟩ = some (marble ⟨0⟩ 1 ⟨0, 0, 0⟩) := rfl

theorem find?_marbles_second : marbles.shapes.find? ⟨1⟩ = some (marble ⟨1⟩ 0 ⟨1, 0, 0⟩) := rfl

theorem inverseMass_marble_one (e : EntityId) (p : Vec3 ℝ) : (marble e 1 p).inverseMass = 1 := by
  norm_num [Shape.inverseMass, Shape.effectiveMass, marble, Shape.ofForm, Scalar.isFinite]

theorem inverseMass_marble_zero (e : EntityId) (p : Vec3 ℝ) : (marble e 0 p).inverseMass = 0 := by
  norm_num [Shape.inverseMass, Shape.effectiveMass, marble, Shape.ofForm]

theorem length_ahead : Vec3.length (⟨1, 0, 0⟩ : Vec3 ℝ) = 1 := by
  norm_num [Vec3.length, Vec3.lengthSq, Vec3.dot, Scalar.sqrt_real]

theorem overlap?_marbles : (marble ⟨0⟩ 1 ⟨0, 0, 0⟩).toSolid.overlap?
    (marble ⟨1⟩ 0 ⟨1, 0, 0⟩).toSolid = some ⟨⟨1, 0, 0⟩, ⟨1, 0, 0⟩⟩ := by
  show Ball.overlapBall? (K := ℝ) ⟨⟨0, 0, 0⟩, 1⟩ ⟨⟨1, 0, 0⟩, 1⟩ = _
  have hsq : Vec3.lengthSq ((⟨1, 0, 0⟩ : Vec3 ℝ) - ⟨0, 0, 0⟩) = 1 := by
    norm_num [Vec3.lengthSq, Vec3.dot, Vec3.sub_def]
  have hdeep : ¬ ((1 : ℝ) + 1) * (1 + 1) ≤ 1 := by norm_num
  have hlong : (Scalar.tolerance : ℝ) < 1 := by norm_num [Scalar.tolerance]
  simp only [Ball.overlapBall?, hsq, hdeep, Scalar.sqrt_real, Real.sqrt_one, hlong, if_true,
    if_false]
  norm_num [Vec3.sub_def, Vec3.add_def, Vec3.mul_def, Vec3.div_def]

theorem collision_marbles : marbles.shapes.collision? ⟨0⟩ ⟨1⟩ = some knock := by
  rw [Shapes.collision?, if_neg (by decide), find?_marbles_first, find?_marbles_second,
    Option.bind_some, Option.bind_some, overlap?_marbles]
  rfl

theorem start_touch : Contact.start? knock 0 marbles.shapes 0.01 = some touch := by
  have hblank : Contact.blank (K := ℝ) ⟨0⟩ ⟨1⟩ 0 0.01 =
      { touch with
        normal := .up, lowerAnchor := 0, upperAnchor := 0, lowerShare := 0, upperShare := 0,
        pressure := 0, friction := 0 } := by
    norm_num [Contact.blank, touch, Scalar.max_real]
  have hstart : Contact.start? knock 0 marbles.shapes 0.01 =
      some ((Contact.blank ⟨0⟩ ⟨1⟩ 0 0.01).anchor knock marbles.shapes) := by
    show (marbles.shapes.find? ⟨0⟩).bind (fun _ => (marbles.shapes.find? ⟨1⟩).map fun _ => _) = _
    rw [find?_marbles_first, find?_marbles_second]
    rfl
  have hinward : Vec3.directionOr (⟨1, 0, 0⟩ : Vec3 ℝ) .up = ⟨1, 0, 0⟩ := by
    norm_num [Vec3.directionOr, Vec3.direction?, length_ahead, Scalar.isFinite, Vec3.mul_def]
  have hfriction : Material.frictionWith (K := ℝ) .standard .standard = 0.5 := by
    rw [Material.frictionWith, Material.standard, Scalar.sqrt_real]
    exact Real.sqrt_mul_self (by norm_num)
  rw [hstart, hblank, Contact.anchor]
  simp only [touch, knock, find?_marbles_first, find?_marbles_second, inverseMass_marble_one,
    inverseMass_marble_zero, hinward, Collision.depth, length_ahead, if_true]
  simp only [marble, Shape.ofForm, hfriction]
  norm_num [Vec3.sub_def, Vec3.neg_def]

theorem outcome_detected : outcome Happening.act (fresh ⟨1⟩ .standard (.still 0), looseMarbles)
    [.command .detect, .command (.admitEntity ⟨1⟩), .command (.setEntity (some ⟨0⟩))] =
      .ok ({ players with collisions := ⟨#[knock], 256, 0⟩ }, marbles) := by
  have hjoined : outcome Happening.act (fresh ⟨1⟩ .standard (.still 0), looseMarbles)
      [.command (.admitEntity ⟨1⟩), .command (.setEntity (some ⟨0⟩))] =
        .ok (players, marbles) := rfl
  have hown : players.ownCollisions marbles = [] := rfl
  have hothers : players.otherCollisions marbles = [knock] := by
    show [(⟨0⟩ : ShapeId)].flatMap
      (fun a => [⟨1⟩].filterMap (marbles.shapes.collision? a)) ++ [] = _
    rw [List.append_nil, List.flatMap_singleton, List.filterMap_cons_some collision_marbles]
    rfl
  rw [outcome, hjoined]
  show Except.ok ((players.detect marbles).2, marbles) = _
  rw [detect, hown, hothers]
  rfl

theorem outcome_freezing : outcome Happening.act (fresh ⟨1⟩ .standard (.still 0), looseMarbles)
    freezing = .ok (touching, freeze.apply marbles) := by
  have htable : ContactTable.noteAll .empty 0 0.01 marbles.shapes [knock] =
      ⟨[(.of ⟨0⟩ ⟨1⟩, touch)]⟩ := by
    show ContactTable.mk
      (((Contact.start? knock 0 marbles.shapes 0.01).map fun c => (_, c)).toList) = _
    rw [start_touch]
    rfl
  rw [freezing, outcome, outcome, outcome_detected]
  show Except.ok ({ players with
    collisions := ⟨#[knock], 256, 0⟩
    contacts := ContactTable.noteAll .empty 0 0.01 marbles.shapes [knock] },
    freeze.apply marbles) = _
  rw [htable]
  rfl

theorem find?_frozen_first :
    (freeze.apply marbles).shapes.find? ⟨0⟩ = some (marble ⟨0⟩ 0 ⟨0, 0, 0⟩) := by
  show (Arena.modify (Arena.modify marbles.shapes ⟨0⟩ _) ⟨1⟩ _).find? ⟨0⟩ = _
  rw [Arena.find?_modify_of_ne _ (by decide), Arena.find?_modify_self, find?_marbles_first]
  rfl

theorem find?_frozen_second :
    (freeze.apply marbles).shapes.find? ⟨1⟩ = some (marble ⟨1⟩ 0 ⟨1, 0.25, 0⟩) := by
  have hmoved : (⟨1, 0, 0⟩ : Vec3 ℝ) + ⟨0, 0.25, 0⟩ = ⟨1, 0.25, 0⟩ := by norm_num [Vec3.add_def]
  show (Arena.modify (Arena.modify marbles.shapes ⟨0⟩ _) ⟨1⟩ _).find? ⟨1⟩ = _
  rw [Arena.find?_modify_self, Arena.find?_modify_of_ne _ (by decide), find?_marbles_second,
    Option.map_some, Shape.moveBy, marble, hmoved]
  rfl

theorem separation?_touch :
    touch.separation? (freeze.apply marbles).shapes = some ⟨1, -0.25, 0⟩ := by
  have hlower : (freeze.apply marbles).shapes.position? touch.lower = some ⟨0, 0, 0⟩ := by
    show ((freeze.apply marbles).shapes.find? ⟨0⟩).map _ = _
    rw [find?_frozen_first]
    rfl
  have hupper : (freeze.apply marbles).shapes.position? touch.upper = some ⟨1, 0.25, 0⟩ := by
    show ((freeze.apply marbles).shapes.find? ⟨1⟩).map _ = _
    rw [find?_frozen_second]
    rfl
  rw [Contact.separation?, hlower, hupper]
  norm_num [touch, Vec3.add_def, Vec3.sub_def]

theorem find?_spread_touch (v : Vec3 ℝ) :
    (touch.spread v (freeze.apply marbles).shapes).find? ⟨0⟩ =
      some ((marble ⟨0⟩ 0 ⟨0, 0, 0⟩).moveBy (-(v * (1 : ℝ)))) := by
  show (Arena.modify (Arena.modify (freeze.apply marbles).shapes ⟨0⟩ _) ⟨1⟩ _).find? ⟨0⟩ = _
  rw [Arena.find?_modify_of_ne _ (by decide), Arena.find?_modify_self, find?_frozen_first]
  rfl

theorem overlap_touch : Vec3.dot (⟨1, -0.25, 0⟩ : Vec3 ℝ) touch.normal = 1 := by
  norm_num [Vec3.dot, touch]

theorem enforce_touch : (touch.enforce (freeze.apply marbles).shapes).2.2 =
    touch.spread ⟨0.99, 0, 0⟩ (freeze.apply marbles).shapes := by
  have hmoves : touch.isImmovable = false := by norm_num [Contact.isImmovable, touch]
  have hdeep : ¬ 1 - touch.allowance ≤ (Scalar.tolerance : ℝ) := by
    norm_num [touch, Scalar.tolerance]
  have hpush : touch.normal * (1 - touch.allowance) = ⟨0.99, 0, 0⟩ := by
    norm_num [touch, Vec3.mul_def]
  simp only [Contact.enforce, hmoves, separation?_touch, overlap_touch, hdeep, hpush, if_false,
    Bool.false_eq_true]

theorem rub_touch : (touch.rub (freeze.apply marbles).shapes).2 =
    touch.spread ⟨0, -0.25, 0⟩ (freeze.apply marbles).shapes := by
  have hmoves : ¬ (touch.isImmovable = true ∨ touch.friction ≤ 0) := by
    norm_num [Contact.isImmovable, touch]
  have hnear : ¬ (1 : ℝ) < -touch.allowance := by norm_num [touch]
  have hslip : (⟨1, -0.25, 0⟩ : Vec3 ℝ) - touch.normal * (1 : ℝ) = ⟨0, -0.25, 0⟩ := by
    norm_num [touch, Vec3.mul_def, Vec3.sub_def]
  have hlength : Vec3.length (⟨0, -0.25, 0⟩ : Vec3 ℝ) = 0.25 := by
    have hsq : Vec3.lengthSq (⟨0, -0.25, 0⟩ : Vec3 ℝ) = 0.25 * 0.25 := by
      norm_num [Vec3.lengthSq, Vec3.dot]
    rw [Vec3.length, hsq, Scalar.sqrt_real]
    exact Real.sqrt_mul_self (by norm_num)
  have hlong : ¬ (0.25 : ℝ) < Scalar.tolerance := by norm_num [Scalar.tolerance]
  have hgrip : Contact.grip (⟨0, -0.25, 0⟩ : Vec3 ℝ) (touch.friction * touch.pressure) =
      ⟨0, -0.25, 0⟩ := by
    rw [Contact.grip, hlength, if_pos (by norm_num [touch])]
  simp only [Contact.rub, hmoves, separation?_touch, overlap_touch, hnear, hslip, hlength, hlong,
    hgrip, if_false]

/-- The contact was last refreshed before the first ball became immovable. -/
theorem eq_marbles_of_lastRefresh {v : World ℝ}
    (h : LastRefresh (fresh ⟨1⟩ .standard (.still 0), looseMarbles) ⟨0⟩ ⟨1⟩ freezing v) :
    v = marbles := by
  rw [freezing] at h
  cases h with
  | changed h =>
    cases h with
    | now run _ => exact (Prod.ext_iff.1 (Except.ok.inj (run.symm.trans outcome_detected))).2
    | before _ _ h =>
      -- nothing before the note refreshes a contact
      cases h with
      | now _ refreshes => exact refreshes.elim
      | before _ _ h =>
        cases h with
        | now _ refreshes => exact refreshes.elim
        | before _ _ h =>
          cases h with
          | now _ refreshes => exact refreshes.elim
          | before _ _ h => cases h

/-- The second ball was immovable from the start. -/
theorem immovable_stays_of_freezing :
    outcome Happening.act (fresh ⟨1⟩ .standard (.still 0), looseMarbles) freezing =
      .ok (touching, freeze.apply marbles) ∧
    (touching.resolve (freeze.apply marbles)).shapes.find? ⟨1⟩ =
      some (marble ⟨1⟩ 0 ⟨1, 0.25, 0⟩) ∧
    (touching.enforceContacts (freeze.apply marbles)).2.2.shapes.find? ⟨1⟩ =
      some (marble ⟨1⟩ 0 ⟨1, 0.25, 0⟩) ∧
    (touching.rubContacts (freeze.apply marbles)).2.shapes.find? ⟨1⟩ =
      some (marble ⟨1⟩ 0 ⟨1, 0.25, 0⟩) := by
  have himmovable : (freeze.apply marbles).shapes.inverseMass ⟨1⟩ = 0 :=
    (Shapes.inverseMass_of_find? find?_frozen_second).trans (inverseMass_marble_zero _ _)
  have hwaits : ∀ t, (freeze.apply marbles).shapes.find? ⟨1⟩ = some t → t.pendingCount = 0 := by
    intro t ht
    rw [find?_frozen_second] at ht
    exact Option.some.inj ht ▸ rfl
  have hbefore : ∀ c ∈ touching.contacts.toList, (⟨1⟩ : ShapeId) ∈ c.shapes → ∀ v,
      LastRefresh (fresh ⟨1⟩ .standard (.still 0), looseMarbles) c.lower c.upper freezing v →
      v.shapes.inverseMass ⟨1⟩ = 0 := by
    intro c hc _ v hlast
    obtain rfl := List.mem_singleton.1 hc
    obtain rfl := eq_marbles_of_lastRefresh hlast
    exact (Shapes.inverseMass_of_find? find?_marbles_second).trans (inverseMass_marble_zero _ _)
  obtain ⟨hresolve, -, hcontacts⟩ := immovable_stays outcome_freezing himmovable hwaits
  obtain ⟨henforce, hrub⟩ := hcontacts hbefore
  exact ⟨outcome_freezing, hresolve.trans find?_frozen_second,
    henforce.trans find?_frozen_second, hrub.trans find?_frozen_second⟩

/-- The first ball was not: it is immovable, no correction waits with it, and its contact still
moves it, both when it is enforced and when it is rubbed. -/
theorem immovable_yields_to_contact :
    outcome Happening.act (fresh ⟨1⟩ .standard (.still 0), looseMarbles) freezing =
      .ok (touching, freeze.apply marbles) ∧
    (freeze.apply marbles).shapes.inverseMass ⟨0⟩ = 0 ∧
    (∀ t, (freeze.apply marbles).shapes.find? ⟨0⟩ = some t → t.pendingCount = 0) ∧
    (freeze.apply marbles).shapes.position? ⟨0⟩ = some ⟨0, 0, 0⟩ ∧
    (touching.enforceContacts (freeze.apply marbles)).2.2.shapes.position? ⟨0⟩ =
      some ⟨-0.99, 0, 0⟩ ∧
    (touching.rubContacts (freeze.apply marbles)).2.shapes.position? ⟨0⟩ =
      some ⟨0, 0.25, 0⟩ := by
  refine ⟨outcome_freezing, ?_, ?_, ?_, ?_, ?_⟩
  · exact (Shapes.inverseMass_of_find? find?_frozen_first).trans (inverseMass_marble_zero _ _)
  · intro t ht
    rw [find?_frozen_first] at ht
    exact Option.some.inj ht ▸ rfl
  · rw [Shapes.position?, find?_frozen_first]
    rfl
  · show Shapes.position? (touch.enforce (freeze.apply marbles).shapes).2.2 ⟨0⟩ = _
    rw [enforce_touch, Shapes.position?, find?_spread_touch]
    norm_num [Shape.moveBy, marble, Vec3.mul_def, Vec3.neg_def, Vec3.add_def]
  · show Shapes.position? (touch.rub (freeze.apply marbles).shapes).2 ⟨0⟩ = _
    rw [rub_touch, Shapes.position?, find?_spread_touch]
    norm_num [Shape.moveBy, marble, Vec3.mul_def, Vec3.neg_def, Vec3.add_def]

end Simulation

end RagdollDynamics
