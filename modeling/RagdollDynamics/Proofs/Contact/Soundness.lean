import RagdollDynamics.Proofs.Collision.Response
import RagdollDynamics.Proofs.Contact.Shares
import RagdollDynamics.Proofs.Contact.Sides
import RagdollDynamics.Proofs.Exact.Nearest
import RagdollDynamics.Proofs.Translation.Bodies

/-!
# Sound contacts

In exact arithmetic a contact of two different shapes has a unit normal and shares that make up a
whole correction or none, and is pressed together by a depth that is not negative.  A collision that
starts or renews it makes it so, and nothing that happens to it or to the shapes changes that
(`Contact.Arises.sound`).
-/

namespace RagdollDynamics

/-! ### Shares -/

section Shares

variable {own other : ℝ}

theorem shareOf_nonneg (hown : 0 ≤ own) (total : ℝ) : 0 ≤ shareOf own total := by
  unfold shareOf
  split
  next htotal => exact div_nonneg hown htotal.le
  next => exact le_refl 0

theorem shareOf_total : shareOf own (own + other) + shareOf other (own + other) = 1 ∨
    shareOf own (own + other) = 0 ∧ shareOf other (own + other) = 0 := by
  unfold shareOf
  by_cases htotal : 0 < own + other
  · rw [if_pos htotal, if_pos htotal, ← add_div, div_self htotal.ne']
    exact .inl rfl
  · rw [if_neg htotal, if_neg htotal]
    exact .inr ⟨rfl, rfl⟩

end Shares

namespace Contact

/-- The shares of the two shapes make up a whole correction, or neither shape takes part. -/
structure Sharing (c : Contact ℝ) : Prop where
  lower : 0 ≤ c.lowerShare
  upper : 0 ≤ c.upperShare
  total : c.lowerShare + c.upperShare = 1 ∨ c.lowerShare = 0 ∧ c.upperShare = 0

variable {c c₀ : Contact ℝ} {shapes shapes₀ : Shapes ℝ} {hit : Collision ℝ} {v w : Vec3 ℝ}

theorem WeighedBy.sharing {m : ShapeId → ℝ} (h : c.WeighedBy m) (hm : ∀ x, 0 ≤ m x) :
    c.Sharing := by
  refine ⟨?_, ?_, ?_⟩
  · rw [h.lower]
    exact shareOf_nonneg (hm _) _
  · rw [h.upper]
    exact shareOf_nonneg (hm _) _
  · rw [h.lower, h.upper]
    exact shareOf_total

theorem isImmovable_iff : c.isImmovable ↔ c.lowerShare = 0 ∧ c.upperShare = 0 := by
  simp [isImmovable]

theorem Sharing.total_eq_one (h : c.Sharing) (hmovable : ¬c.isImmovable) :
    c.lowerShare + c.upperShare = 1 :=
  h.total.resolve_right fun hzero => hmovable (isImmovable_iff.2 hzero)

/-! ### What the operations do -/

/-- The part of a separation that is along the surface. -/
noncomputable def slip (c : Contact ℝ) (v : Vec3 ℝ) : Vec3 ℝ := v - c.normal * v.dot c.normal

/-- There is nothing to enforce at the separation `v`. -/
def Settled (c : Contact ℝ) (v : Vec3 ℝ) : Prop :=
  c.isImmovable ∨ v.dot c.normal - c.allowance ≤ Scalar.tolerance

/-- There is nothing to rub at the separation `v`. -/
def Still (c : Contact ℝ) (v : Vec3 ℝ) : Prop :=
  c.isImmovable ∨ c.friction ≤ 0 ∨ v.dot c.normal < -c.allowance ∨
    (c.slip v).length < Scalar.tolerance

/-- The part of a slip that the pressure and the friction of the contact undo. -/
noncomputable def held (c : Contact ℝ) (v : Vec3 ℝ) : Vec3 ℝ :=
  grip (c.slip v) (c.friction * c.pressure)

theorem enforce_of_settled (hv : c.separation? shapes = some v) (h : c.Settled v) :
    c.enforce shapes = (0, c, shapes) := by
  unfold enforce
  split
  · rfl
  next hmovable =>
    rw [hv]
    exact if_pos (h.resolve_left hmovable)

theorem enforce_of_not_settled (hv : c.separation? shapes = some v) (h : ¬c.Settled v) :
    c.enforce shapes = (v.dot c.normal,
      { c with pressure := c.pressure + (v.dot c.normal - c.allowance) },
      c.spread (c.normal * (v.dot c.normal - c.allowance)) shapes) := by
  obtain ⟨hmovable, hexcess⟩ := not_or.1 h
  rw [enforce, if_neg hmovable, hv]
  exact if_neg hexcess

theorem rub_of_still (hv : c.separation? shapes = some v) (h : c.Still v) :
    c.rub shapes = (c, shapes) := by
  unfold rub
  split
  · rfl
  next hrough =>
    obtain ⟨hmovable, hfriction⟩ := not_or.1 hrough
    rw [hv]
    dsimp only
    split
    · rfl
    next htouching =>
      exact if_pos (((h.resolve_left hmovable).resolve_left hfriction).resolve_left htouching)

theorem rub_of_not_still (hv : c.separation? shapes = some v) (h : ¬c.Still v) :
    c.rub shapes = ({ c with upperAnchor := c.upperAnchor + (c.slip v - c.held v) },
      c.spread (c.held v) shapes) := by
  obtain ⟨hmovable, hfriction, htouching, hslip⟩ :
      ¬c.isImmovable ∧ ¬c.friction ≤ 0 ∧ ¬v.dot c.normal < -c.allowance ∧
        ¬(c.slip v).length < Scalar.tolerance := by
    simpa only [Still, not_or] using h
  rw [rub, if_neg (not_or.2 ⟨hmovable, hfriction⟩), hv]
  exact (if_neg htouching).trans (if_neg hslip)

/-! ### The invariant -/

/-- The contact is one of two different shapes that exist, and its data make sense. -/
structure Sound (c : Contact ℝ) (shapes : Shapes ℝ) : Prop where
  lower_ne_upper : c.lower ≠ c.upper
  lower : (shapes.find? c.lower).isSome
  upper : (shapes.find? c.upper).isSome
  unit : c.normal.lengthSq = 1
  sharing : c.Sharing
  pressure : 0 ≤ c.pressure
  friction : 0 ≤ c.friction
  allowance : 0 ≤ c.allowance

theorem Sound.exists_separation? (h : c.Sound shapes) : ∃ v, c.separation? shapes = some v := by
  obtain ⟨s, hs⟩ := Option.isSome_iff_exists.1 h.lower
  obtain ⟨t, ht⟩ := Option.isSome_iff_exists.1 h.upper
  simp [separation?, Shapes.position?, hs, ht]

theorem sound_blank {a b : ShapeId} (hne : a ≠ b) (ha : (shapes.find? a).isSome)
    (hb : (shapes.find? b).isSome) (frame : UInt32) (allowance : ℝ) :
    (blank a b frame allowance).Sound shapes := by
  have hunit : (Vec3.up : Vec3 ℝ).lengthSq = 1 := by norm_num [Vec3.up, Vec3.lengthSq, Vec3.dot]
  have hsharing : (blank a b frame allowance).Sharing :=
    ⟨le_refl 0, le_refl 0, .inr ⟨rfl, rfl⟩⟩
  have hallowance : 0 ≤ Scalar.max allowance 0 := by
    rw [Scalar.max_real]
    exact le_sup_right
  rcases joins_blank a b frame allowance with ⟨hl, hu⟩ | ⟨hl, hu⟩
  · exact ⟨by rwa [hl, hu], by rwa [hl], by rwa [hu], hunit, hsharing, le_refl 0, le_refl 0,
      hallowance⟩
  · exact ⟨by rwa [hl, hu, ne_comm], by rwa [hl], by rwa [hu], hunit, hsharing, le_refl 0,
      le_refl 0, hallowance⟩

namespace Sound

theorem replace {p : ℝ} (h : c.Sound shapes) (frame : UInt32) (u : Vec3 ℝ) (hp : 0 ≤ p) :
    ({ c with frame := frame, upperAnchor := u, pressure := p } : Contact ℝ).Sound shapes :=
  ⟨h.lower_ne_upper, h.lower, h.upper, h.unit,
    ⟨h.sharing.lower, h.sharing.upper, h.sharing.total⟩, hp, h.friction, h.allowance⟩

theorem congr {shapes' : Shapes ℝ} (h : c.Sound shapes)
    (hkept : ∀ x, (shapes'.find? x).isSome = (shapes.find? x).isSome) : c.Sound shapes' :=
  { h with
    lower := (hkept c.lower).trans h.lower
    upper := (hkept c.upper).trans h.upper }

theorem modify (h : c.Sound shapes) (x : ShapeId) (f : Shape ℝ → Shape ℝ) :
    c.Sound (shapes.modify x f) := by
  refine h.congr fun y => ?_
  rw [Arena.find?_modify]
  split
  · rw [Option.isSome_map]
  · rfl

/-- The normal that a collision leaves is a unit vector, also where its penetration has no
direction. -/
theorem lengthSq_inward (h : c.Sound shapes) (hit : Collision ℝ) :
    (c.inward hit).lengthSq = 1 := by
  have hunit := Vec3.lengthSq_directionOr h.unit hit.penetration
  unfold inward
  dsimp only
  split
  · exact hunit
  · rwa [Vec3.lengthSq_neg]

theorem anchor (h : c.Sound shapes) (hit : Collision ℝ) : (c.anchor hit shapes).Sound shapes := by
  have hweighed : (c.anchor hit shapes).WeighedBy shapes.inverseMass :=
    weighedBy_anchor h.lower h.upper
  have hsharing := hweighed.sharing shapes.inverseMass_nonneg
  have hunit := h.lengthSq_inward hit
  obtain ⟨s, hs⟩ := Option.isSome_iff_exists.1 h.lower
  obtain ⟨t, ht⟩ := Option.isSome_iff_exists.1 h.upper
  unfold Contact.anchor at hsharing ⊢
  rw [hs, ht] at hsharing ⊢
  exact ⟨h.lower_ne_upper, h.lower, h.upper, hunit, hsharing, hit.penetration.length_nonneg,
    Real.sqrt_nonneg _, h.allowance⟩

theorem renew (h : c.Sound shapes) (hit : Collision ℝ) (frame : UInt32) :
    (c.renew hit frame shapes).Sound shapes :=
  (h.replace frame c.upperAnchor h.pressure).anchor hit

theorem spread (h : c.Sound shapes) (v : Vec3 ℝ) : c.Sound (c.spread v shapes) :=
  (h.modify _ _).modify _ _

theorem enforce (h : c.Sound shapes) :
    (c.enforce shapes).2.1.Sound (c.enforce shapes).2.2 := by
  obtain ⟨v, hv⟩ := h.exists_separation?
  by_cases hsettled : c.Settled v
  · rwa [enforce_of_settled hv hsettled]
  · have hexcess : 0 < v.dot c.normal - c.allowance :=
      Scalar.tolerance_pos.trans (not_le.1 (not_or.1 hsettled).2)
    rw [enforce_of_not_settled hv hsettled]
    exact (h.spread _).replace c.frame c.upperAnchor (add_nonneg h.pressure hexcess.le)

theorem rub (h : c.Sound shapes) : (c.rub shapes).1.Sound (c.rub shapes).2 := by
  obtain ⟨v, hv⟩ := h.exists_separation?
  by_cases hstill : c.Still v
  · rwa [rub_of_still hv hstill]
  · rw [rub_of_not_still hv hstill]
    exact (h.spread _).replace c.frame _ h.pressure

end Sound

theorem sound_start? {frame : UInt32} {allowance : ℝ} (hproper : hit.Proper)
    (h : start? hit frame shapes allowance = some c) : c.Sound shapes := by
  obtain ⟨b, hb, h⟩ := Option.bind_eq_some_iff.1 h
  obtain ⟨s, hs, h⟩ := Option.bind_eq_some_iff.1 h
  obtain ⟨t, ht, rfl⟩ := Option.map_eq_some_iff.1 h
  have hfirst : (shapes.find? hit.first).isSome := by rw [hs]; rfl
  have hsecond : (shapes.find? b).isSome := by rw [ht]; rfl
  exact (sound_blank (hproper b hb) hfirst hsecond frame allowance).anchor hit

/-! ### Histories -/

section History

variable {K : Type} [Scalar K]

/-- What can happen to a contact and to the shapes. -/
inductive Event (K : Type) where
  /-- A collision, of these or of any shapes, renews the contact. -/
  | renew (hit : Collision K) (frame : UInt32)
  | enforce
  | rub
  /-- A shape is moved, or changed in any other way. -/
  | change (x : ShapeId) (f : Shape K → Shape K)

def Event.act : Contact K × Shapes K → Event K → Contact K × Shapes K
  | (c, shapes), .renew hit frame => (c.renew hit frame shapes, shapes)
  | (c, shapes), .enforce => (c.enforce shapes).2
  | (c, shapes), .rub => c.rub shapes
  | (c, shapes), .change x f => (c, shapes.modify x f)

/-- The contact and the shapes come about from a collision of two different shapes and what happens
after it. -/
inductive Arises : Contact K → Shapes K → Prop
  | start {hit : Collision K} {frame : UInt32} {shapes : Shapes K} {allowance : K} {c : Contact K}
      (proper : hit.Proper) (start : start? hit frame shapes allowance = some c) : Arises c shapes
  | next {c : Contact K} {shapes : Shapes K} (before : Arises c shapes) (e : Event K) :
      Arises (e.act (c, shapes)).1 (e.act (c, shapes)).2

end History

theorem Sound.act (h : c.Sound shapes) (e : Event ℝ) :
    (e.act (c, shapes)).1.Sound (e.act (c, shapes)).2 := by
  cases e with
  | renew hit frame => exact h.renew hit frame
  | enforce => exact h.enforce
  | rub => exact h.rub
  | change x f => exact h.modify x f

/-- **A contact of two different shapes is always sound**, whatever has happened to it and to the
shapes. -/
theorem Arises.sound (h : c.Arises shapes) : c.Sound shapes := by
  induction h with
  | start hproper hstart => exact sound_start? hproper hstart
  | next _ e ih => exact ih.act e

/-! ### Two balls that press and slide -/

noncomputable def bump : Contact ℝ where
  lower := ⟨0⟩
  upper := ⟨1⟩
  frame := 1
  normal := ⟨1, 0, 0⟩
  lowerAnchor := ⟨1.25, 0, 0⟩
  upperAnchor := ⟨-1, 0, 0⟩
  lowerShare := 0.5
  upperShare := 0.5
  pressure := 0.25
  friction := 0.5
  allowance := 0.01

/-- The neighbours after the second one has slid down. -/
noncomputable def slid : Shapes ℝ := neighbours.modify ⟨1⟩ fun s => s.moveBy ⟨0, -1, 0⟩

theorem find?_neighbours_first :
    neighbours.find? ⟨0⟩ = some ((Shape.ofForm (.sphere 1) 1).moveBy ⟨-1, 0, 0⟩) := rfl

theorem find?_neighbours_second :
    neighbours.find? ⟨1⟩ = some ((Shape.ofForm (.sphere 1) 1).moveBy ⟨1, 0, 0⟩) := rfl

theorem position_ball (p : Vec3 ℝ) :
    ((Shape.ofForm (.sphere (1 : ℝ)) 1).moveBy p).position = p := zero_add p

theorem inverseMass_ball (p : Vec3 ℝ) :
    ((Shape.ofForm (.sphere (1 : ℝ)) 1).moveBy p).inverseMass = 1 := by
  norm_num [Shape.inverseMass, Shape.effectiveMass, Shape.moveBy, Shape.ofForm, Scalar.isFinite]

theorem start?_press : start? press 1 neighbours 0.01 = some bump := by
  have hlength : press.penetration.length = 1 / 4 := by
    have hsq : press.penetration.lengthSq = 1 / 4 * (1 / 4) := by
      norm_num [press, Vec3.lengthSq, Vec3.dot]
    rw [Vec3.length, hsq, Scalar.sqrt_real]
    exact Real.sqrt_mul_self (by norm_num)
  have hinward : press.penetration.directionOr .up = ⟨-1, 0, 0⟩ := by
    have hne : press.penetration ≠ 0 := by
      intro hzero
      rw [hzero, Vec3.length_zero] at hlength
      norm_num at hlength
    rw [Vec3.directionOr_of_ne_zero hne, hlength]
    norm_num [press, Vec3.mul_def]
  have hfriction : Material.frictionWith (K := ℝ) .standard .standard = 1 / 2 := by
    rw [Material.frictionWith, Material.standard, Scalar.sqrt_real,
      Real.sqrt_mul_self (by norm_num)]
    norm_num
  have hblank : blank (K := ℝ) ⟨0⟩ ⟨1⟩ 1 0.01 =
      { bump with
        normal := .up, lowerAnchor := 0, upperAnchor := 0, lowerShare := 0, upperShare := 0,
        pressure := 0, friction := 0 } := by
    norm_num [blank, bump, Scalar.max_real]
  have hstart : start? press 1 neighbours 0.01 =
      some ((blank ⟨0⟩ ⟨1⟩ 1 0.01).anchor press neighbours) := concerns_press.start?_eq 1 0.01
  have htold : ¬press.first = ⟨0⟩ := by decide
  rw [hstart, hblank, Contact.anchor]
  simp only [bump, find?_neighbours_first, find?_neighbours_second, hinward, Collision.depth,
    hlength, position_ball, inverseMass_ball, htold, if_false]
  simp only [Shape.moveBy, Shape.ofForm, hfriction]
  norm_num [press, Vec3.sub_def, Vec3.neg_def, Vec3.zero_def]

theorem arises_bump : bump.Arises slid := by
  have hproper : press.Proper := by
    intro b hb
    cases hb
    decide
  exact .next (.start hproper start?_press) (.change ⟨1⟩ fun s => s.moveBy ⟨0, -1, 0⟩)

theorem separation?_bump : bump.separation? slid = some ⟨1 / 4, 1, 0⟩ := by
  have hlower : slid.position? ⟨0⟩ = some ⟨-1, 0, 0⟩ := by
    rw [slid, Shapes.position?, Arena.find?_modify_of_ne _ (by decide), find?_neighbours_first,
      Option.map_some, position_ball]
  have hupper : slid.position? ⟨1⟩ = some ⟨1, -1, 0⟩ := by
    rw [slid, Shapes.position?, Arena.find?_modify_self, find?_neighbours_second, Option.map_some,
      Option.map_some, Shape.position_moveBy, position_ball]
    norm_num [Vec3.add_def]
  rw [separation?, bump, hlower, hupper]
  norm_num [Vec3.add_def, Vec3.sub_def]

end Contact

end RagdollDynamics
