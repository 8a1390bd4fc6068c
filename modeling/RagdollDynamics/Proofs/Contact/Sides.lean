import RagdollDynamics.Proofs.Exact.Real
import RagdollDynamics.Proofs.Contact.Table

/-!
# Collisions told from either side

A collision of two shapes can be told from the one shape or from the other.  In exact arithmetic a
contact makes the same of both accounts, as long as the penetration has a direction.  Without one
the contact falls back to the normal it has, and turns that normal around if the account does not
start with the lower shape (`Contact.told_from_either_side`).
-/

namespace RagdollDynamics

/-- The same collision, told from the second shape; nothing changes if there is none. -/
def Collision.swapped {K : Type} [Scalar K] (c : Collision K) : Collision K :=
  match c.second with
  | none => c
  | some b => ⟨c.toOverlap.swapped, b, some c.first⟩

namespace Collision

variable {hit : Collision ℝ} {a b : ShapeId}

theorem swapped_of_second (h : hit.second = some b) :
    hit.swapped = ⟨hit.toOverlap.swapped, b, some hit.first⟩ := by
  rw [swapped, h]

theorem Joins.swapped (h : hit.Joins a b) : hit.swapped.Joins a b := by
  rcases h with ⟨rfl, hsecond⟩ | ⟨rfl, hsecond⟩
  · rw [swapped_of_second hsecond]
    exact .inr ⟨rfl, rfl⟩
  · rw [swapped_of_second hsecond]
    exact .inl ⟨rfl, rfl⟩

theorem Joins.toOverlap_swapped (h : hit.Joins a b) :
    hit.swapped.toOverlap = hit.toOverlap.swapped := by
  rcases h with ⟨-, hsecond⟩ | ⟨-, hsecond⟩
  · rw [swapped_of_second hsecond]
  · rw [swapped_of_second hsecond]

theorem Joins.first_swapped_iff (h : hit.Joins a b) (hne : a ≠ b) :
    hit.swapped.first = a ↔ ¬ hit.first = a := by
  rcases h with ⟨hfirst, hsecond⟩ | ⟨hfirst, hsecond⟩
  · simp [swapped_of_second hsecond, hfirst, hne.symm]
  · simp [swapped_of_second hsecond, hfirst, hne.symm]

end Collision

theorem Vec3.neg_directionOr {v : Vec3 ℝ} (h : v ≠ 0) (a : Vec3 ℝ) :
    (-v).directionOr a = -v.directionOr a := by
  rw [directionOr_of_ne_zero h, directionOr_of_ne_zero (neg_ne_zero.2 h), length_neg, neg_mul]

namespace Contact

section Accounts

variable {K : Type}

/-- The collision is one of the contact's pair, and the pair is one of two different shapes that
exist. -/
structure Concerns (c : Contact K) (hit : Collision K) (shapes : Shapes K) : Prop where
  lower_ne_upper : c.lower ≠ c.upper
  joins : hit.Joins c.lower c.upper
  lower : (shapes.find? c.lower).isSome
  upper : (shapes.find? c.upper).isSome

variable [Scalar K]

/-- The contact with its normal turned around. -/
def turned (c : Contact K) : Contact K := { c with normal := -c.normal }

def inward (c : Contact K) (hit : Collision K) : Vec3 K :=
  let v := hit.penetration.directionOr c.normal
  if hit.first = c.lower then v else -v

end Accounts

variable {c : Contact ℝ} {hit : Collision ℝ} {shapes : Shapes ℝ}

/-! ### The normal -/

namespace Concerns

theorem inward_swapped (h : c.Concerns hit shapes) (hdirection : hit.penetration ≠ 0) :
    c.inward hit.swapped = c.inward hit := by
  have hpenetration : hit.swapped.penetration = -hit.penetration := by
    rw [h.joins.toOverlap_swapped]
    rfl
  unfold inward
  simp only [h.joins.first_swapped_iff h.lower_ne_upper, hpenetration,
    Vec3.neg_directionOr hdirection, neg_neg, ite_not]

theorem inward_swapped_of_zero (h : c.Concerns hit shapes) (hzero : hit.penetration = 0) :
    c.inward hit.swapped = -c.inward hit := by
  have hpenetration : hit.swapped.penetration = 0 := by
    rw [h.joins.toOverlap_swapped, Overlap.swapped, hzero, neg_zero]
  unfold inward
  simp only [h.joins.first_swapped_iff h.lower_ne_upper, hpenetration, hzero,
    Vec3.zero_directionOr]
  by_cases hfirst : hit.first = c.lower
  · simp [hfirst]
  · simp [hfirst]

/-! ### The contact -/

theorem normal_anchor (h : c.Concerns hit shapes) :
    (c.anchor hit shapes).normal = c.inward hit := by
  obtain ⟨s, hs⟩ := Option.isSome_iff_exists.1 h.lower
  obtain ⟨t, ht⟩ := Option.isSome_iff_exists.1 h.upper
  rw [anchor, hs, ht]
  rfl

/-- The two accounts differ in the normal at most. -/
theorem anchor_swapped_eq (h : c.Concerns hit shapes) : c.anchor hit.swapped shapes =
    { c.anchor hit shapes with normal := c.inward hit.swapped } := by
  obtain ⟨s, hs⟩ := Option.isSome_iff_exists.1 h.lower
  obtain ⟨t, ht⟩ := Option.isSome_iff_exists.1 h.upper
  have hoverlap : hit.swapped.toOverlap = hit.toOverlap.swapped := h.joins.toOverlap_swapped
  have hdepth : hit.swapped.depth = hit.depth := by
    rw [Collision.depth, hoverlap]
    exact hit.penetration.length_neg
  -- each account calls the other's point on the second shape its own
  have hpoint : hit.swapped.point = hit.point - hit.penetration := by
    rw [hoverlap]
    rfl
  have hfar : hit.point - hit.penetration - hit.swapped.penetration = hit.point := by
    rw [hoverlap]
    simp [Overlap.swapped]
  simp only [anchor, hs, ht, h.joins.first_swapped_iff h.lower_ne_upper, hdepth, hfar, hpoint,
    inward, ite_not]

theorem anchor_swapped (h : c.Concerns hit shapes) (hdirection : hit.penetration ≠ 0) :
    c.anchor hit.swapped shapes = c.anchor hit shapes := by
  rw [h.anchor_swapped_eq, h.inward_swapped hdirection, ← h.normal_anchor]

theorem anchor_swapped_of_zero (h : c.Concerns hit shapes) (hzero : hit.penetration = 0) :
    c.anchor hit.swapped shapes = (c.anchor hit shapes).turned := by
  rw [h.anchor_swapped_eq, h.inward_swapped_of_zero hzero, ← h.normal_anchor, turned]

/-! ### New contacts -/

theorem swapped (h : c.Concerns hit shapes) : c.Concerns hit.swapped shapes :=
  ⟨h.lower_ne_upper, h.joins.swapped, h.lower, h.upper⟩

/-- What concerns a contact concerns a new one of the same pair. -/
theorem blank (h : c.Concerns hit shapes) (frame : UInt32) (allowance : ℝ) :
    (Contact.blank c.lower c.upper frame allowance).Concerns hit shapes := by
  rcases joins_blank c.lower c.upper frame allowance with ⟨hlower, hupper⟩ | ⟨hlower, hupper⟩
  · exact ⟨by rw [hlower, hupper]; exact h.lower_ne_upper, by rw [hlower, hupper]; exact h.joins,
      by rw [hlower]; exact h.lower, by rw [hupper]; exact h.upper⟩
  · exact ⟨by rw [hlower, hupper]; exact h.lower_ne_upper.symm,
      by rw [hlower, hupper]; exact h.joins.symm, by rw [hlower]; exact h.upper,
      by rw [hupper]; exact h.lower⟩

end Concerns

theorem blank_comm {a b : ShapeId} (hne : a ≠ b) (frame : UInt32) (allowance : ℝ) :
    blank a b frame allowance = blank b a frame allowance := by
  unfold blank
  by_cases hlt : b.raw < a.raw
  · simp [hlt, UInt32.lt_asymm hlt]
  · have hgt : a.raw < b.raw :=
      UInt32.lt_of_le_of_ne (UInt32.not_lt.1 hlt) (Handle.raw_ne hne)
    simp [hlt, hgt]

/-- A new contact is a blank one that is renewed. -/
theorem Concerns.start?_eq (h : c.Concerns hit shapes) (frame : UInt32) (allowance : ℝ) :
    start? hit frame shapes allowance =
      some ((Contact.blank c.lower c.upper frame allowance).anchor hit shapes) := by
  obtain ⟨s, hs⟩ := Option.isSome_iff_exists.1 h.lower
  obtain ⟨t, ht⟩ := Option.isSome_iff_exists.1 h.upper
  rcases h.joins with ⟨hfirst, hsecond⟩ | ⟨hfirst, hsecond⟩
  · simp [start?, hfirst, hsecond, hs, ht]
  · simp [start?, hfirst, hsecond, hs, ht, blank_comm h.lower_ne_upper]

/-- **A contact makes the same of a collision, whichever of the two shapes tells it**, if the
penetration has a direction.  If it has none, the two accounts still agree in everything but the
normal, and leave normals that are opposite to each other. -/
theorem told_from_either_side (h : c.Concerns hit shapes) (frame : UInt32) (allowance : ℝ) :
    (hit.penetration ≠ 0 →
      c.renew hit.swapped frame shapes = c.renew hit frame shapes ∧
      start? hit.swapped frame shapes allowance = start? hit frame shapes allowance) ∧
    (hit.penetration = 0 →
      c.renew hit.swapped frame shapes = (c.renew hit frame shapes).turned ∧
      start? hit.swapped frame shapes allowance =
        (start? hit frame shapes allowance).map turned) := by
  have hrenewed : ({ c with frame := frame } : Contact ℝ).Concerns hit shapes :=
    ⟨h.lower_ne_upper, h.joins, h.lower, h.upper⟩
  have hblank := h.blank frame allowance
  rw [h.start?_eq, h.swapped.start?_eq]
  refine ⟨fun hdirection => ⟨hrenewed.anchor_swapped hdirection, ?_⟩,
    fun hzero => ⟨hrenewed.anchor_swapped_of_zero hzero, ?_⟩⟩
  · rw [hblank.anchor_swapped hdirection]
  · rw [hblank.anchor_swapped_of_zero hzero, Option.map_some]

/-! ### Two balls that touch -/

noncomputable def neighbours : Shapes ℝ :=
  ⟨#[(Shape.ofForm (.sphere 1) 1).moveBy ⟨-1, 0, 0⟩, (Shape.ofForm (.sphere 1) 1).moveBy ⟨1, 0, 0⟩]⟩

noncomputable def acquaintance : Contact ℝ := blank ⟨0⟩ ⟨1⟩ 0 0.01

/-- The neighbours press against each other, as the second one tells it. -/
noncomputable def press : Collision ℝ := ⟨⟨0, ⟨-0.25, 0, 0⟩⟩, ⟨1⟩, some ⟨0⟩⟩

/-- The neighbours touch and no more, as the first one tells it. -/
noncomputable def graze : Collision ℝ := ⟨⟨0, 0⟩, ⟨0⟩, some ⟨1⟩⟩

theorem concerns_press : acquaintance.Concerns press neighbours :=
  ⟨by decide, .inr ⟨rfl, rfl⟩, rfl, rfl⟩

theorem concerns_graze : acquaintance.Concerns graze neighbours :=
  ⟨by decide, .inl ⟨rfl, rfl⟩, rfl, rfl⟩

/-- The second ball tells of a collision from the right. -/
theorem told_from_either_side_of_press :
    acquaintance.Concerns press neighbours ∧ press.penetration ≠ 0 ∧
    acquaintance.renew press.swapped 1 neighbours = acquaintance.renew press 1 neighbours ∧
    start? press.swapped 1 neighbours 0.01 = start? press 1 neighbours 0.01 := by
  have hdirection : press.penetration ≠ 0 := by
    intro hzero
    have hx : (-0.25 : ℝ) = 0 := congrArg Vec3.x hzero
    norm_num at hx
  obtain ⟨hsame, -⟩ := told_from_either_side concerns_press 1 0.01
  exact ⟨concerns_press, hdirection, hsame hdirection⟩

/-- **Without a direction it matters who tells.**  The contact that the first ball starts points up,
where every contact points at first, and the one that the second ball starts points down. -/
theorem normal_turns_without_direction :
    acquaintance.Concerns graze neighbours ∧ graze.penetration = 0 ∧
    (start? graze 1 neighbours 0.01).map normal = some ⟨0, 1, 0⟩ ∧
    (start? graze.swapped 1 neighbours 0.01).map normal = some ⟨0, -1, 0⟩ ∧
    acquaintance.renew graze.swapped 1 neighbours ≠ acquaintance.renew graze 1 neighbours := by
  have hnew : (Contact.blank ⟨0⟩ ⟨1⟩ 1 0.01).Concerns graze neighbours :=
    concerns_graze.blank 1 0.01
  have hup : ((Contact.blank ⟨0⟩ ⟨1⟩ 1 0.01).anchor graze neighbours).normal = ⟨0, 1, 0⟩ := by
    rw [hnew.normal_anchor]
    show (if (⟨0⟩ : ShapeId) = ⟨0⟩ then (0 : Vec3 ℝ).directionOr .up
      else -(0 : Vec3 ℝ).directionOr .up) = _
    rw [if_pos rfl, Vec3.zero_directionOr]
    rfl
  have hdown : ((Contact.blank ⟨0⟩ ⟨1⟩ 1 0.01).anchor graze.swapped neighbours).normal =
      ⟨0, -1, 0⟩ := by
    rw [hnew.anchor_swapped_of_zero rfl, turned, hup]
    norm_num [Vec3.neg_def]
  refine ⟨concerns_graze, rfl, ?_, ?_, fun hsame => ?_⟩
  · rw [concerns_graze.start?_eq, Option.map_some]
    exact congrArg some hup
  · rw [concerns_graze.swapped.start?_eq, Option.map_some]
    exact congrArg some hdown
  · -- the contact that is renewed differs from a new one in nothing
    have hnormals : (⟨0, -1, 0⟩ : Vec3 ℝ) = ⟨0, 1, 0⟩ :=
      hdown.symm.trans ((congrArg normal hsame).trans hup)
    have hy : (-1 : ℝ) = 1 := congrArg Vec3.y hnormals
    norm_num at hy

end Contact

end RagdollDynamics
