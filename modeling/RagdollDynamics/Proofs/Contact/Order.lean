import RagdollDynamics.Proofs.Exact.Movers

/-!
# The order of contacts

Contacts that share only shapes of which neither moves any do not interact: in exact arithmetic each
of them finds its shapes as the others found them.  So it makes no difference in which order they
are enforced and rubbed (`Simulation.contacts_in_any_order`).
-/

namespace RagdollDynamics

/-! ### Two contacts -/

namespace Contact

variable {c d : Contact ℝ} {shapes : Shapes ℝ}

/-- The contact takes the shape for immovable: no share of its corrections goes to it. -/
def Fixes (c : Contact ℝ) (x : ShapeId) : Prop :=
  (c.lower = x → c.lowerShare = 0) ∧ (c.upper = x → c.upperShare = 0)

/-- Both contacts take the shapes that both of them join for immovable. -/
def Aloof (c d : Contact ℝ) : Prop :=
  ∀ x, c.involves x = true → d.involves x = true → c.Fixes x ∧ d.Fixes x

theorem Aloof.symm (h : c.Aloof d) : d.Aloof c := fun x hd hc => (h x hc hd).symm

theorem mem_shapes_iff {x : ShapeId} : x ∈ c.shapes ↔ c.involves x = true := by
  rw [shapes, List.mem_pair, involves, decide_eq_true_eq, eq_comm, eq_comm (a := x) (b := c.upper)]

theorem not_mem_movers_iff {x : ShapeId} : x ∉ c.movers ↔ c.Fixes x := by
  rw [mem_movers_iff, Fixes]
  tauto

theorem Aloof.disjoint (h : c.Aloof d) : c.shapes.Disjoint d.movers := by
  intro x hc hd
  have hfixes := h x (mem_shapes_iff.1 hc) (mem_shapes_iff.1 (d.movers_subset hd))
  exact not_mem_movers_iff.2 hfixes.2 hd

/-- A contact looks at its two shapes, and changes those to which it gives a share. -/
noncomputable def region (c : Contact ℝ) : Region (Shapes ℝ) where
  Closed := fun _ => True
  Changed := Arena.ChangedOn Shape.Kept c.movers
  Agree := Arena.AgreeOn c.shapes
  changed_refl := .refl c.movers
  changed_trans := .trans
  agree := Arena.equivalence_agreeOn c.shapes
  closed_of_changed := fun _ _ => trivial
  closed_of_agree := fun _ _ => trivial

/-- Contacts that do not interact work on parts that do not meet. -/
theorem Aloof.apart (h : c.Aloof d) : c.region.Apart d.region where
  left hd := hd.agreeOn h.disjoint
  right hc := hc.agreeOn h.symm.disjoint
  ext h₁ h₁' h₂ h₂' hc hd := by
    refine Arena.ext_of_changedOn h₁ h₁' h₂ h₂' ?_ ?_
    · intro x hx
      exact hc x (c.movers_subset hx)
    · intro x hx
      exact hd x (d.movers_subset hx)

theorem lower_mem_shapes (c : Contact ℝ) : c.lower ∈ c.shapes := List.mem_cons_self

theorem upper_mem_shapes (c : Contact ℝ) : c.upper ∈ c.shapes :=
  List.mem_cons_of_mem _ List.mem_cons_self

theorem confined_enforce_region (c : Contact ℝ) : Confined c.region
    fun shapes => (((c.enforce shapes).1, (c.enforce shapes).2.1), (c.enforce shapes).2.2) where
  changed shapes _ := c.changedOn_enforce shapes
  agree a b _ hab :=
    (confined_enforce c.lower_mem_shapes c.upper_mem_shapes).agree a b trivial hab

theorem confined_rub_region (c : Contact ℝ) : Confined c.region c.rub where
  changed shapes _ := c.changedOn_rub shapes
  agree a b _ hab := (confined_rub c.lower_mem_shapes c.upper_mem_shapes).agree a b trivial hab

end Contact

/-! ### Tables -/

namespace ContactTable

variable {t t' : ContactTable ℝ} {entries entries' : List (ShapePair × Contact ℝ)}
  {shapes : Shapes ℝ}

noncomputable def enforceEntry (e : ShapePair × Contact ℝ) (shapes : Shapes ℝ) :
    (ℝ × ShapePair × Contact ℝ) × Shapes ℝ :=
  (((e.2.enforce shapes).1, e.1, (e.2.enforce shapes).2.1), (e.2.enforce shapes).2.2)

noncomputable def rubEntry (e : ShapePair × Contact ℝ) (shapes : Shapes ℝ) :
    (ShapePair × Contact ℝ) × Shapes ℝ :=
  ((e.1, (e.2.rub shapes).1), (e.2.rub shapes).2)

theorem enforceEntries_eq_inTurn (entries : List (ShapePair × Contact ℝ)) (shapes : Shapes ℝ) :
    enforceEntries entries shapes =
      ((inTurn enforceEntry entries shapes).1.map Prod.fst,
        (inTurn enforceEntry entries shapes).1.map Prod.snd,
        (inTurn enforceEntry entries shapes).2) := by
  induction entries generalizing shapes with
  | nil => rfl
  | cons e rest ih =>
    rw [enforceEntries, ih]
    rfl

theorem rubEntries_eq_inTurn (entries : List (ShapePair × Contact ℝ)) (shapes : Shapes ℝ) :
    rubEntries entries shapes = inTurn rubEntry entries shapes := by
  induction entries generalizing shapes with
  | nil => rfl
  | cons e rest ih =>
    rw [rubEntries, ih]
    rfl

theorem pairwise_apart (aloof : t.toList.Pairwise Contact.Aloof) :
    t.entries.Pairwise fun e e' => e.2.region.Apart e'.2.region :=
  (List.pairwise_map.1 aloof).imp fun h => h.apart

theorem independent_enforce (aloof : t.toList.Pairwise Contact.Aloof) (shapes : Shapes ℝ) :
    Independent (fun e => e.2.region) enforceEntry t.entries shapes where
  confined e _ := e.2.confined_enforce_region.map fun one => (one.1, e.1, one.2)
  apart := pairwise_apart aloof
  closed _ _ := trivial

theorem independent_rub (aloof : t.toList.Pairwise Contact.Aloof) (shapes : Shapes ℝ) :
    Independent (fun e => e.2.region) rubEntry t.entries shapes where
  confined e _ := e.2.confined_rub_region.map fun c => (e.1, c)
  apart := pairwise_apart aloof
  closed _ _ := trivial

/-- Contacts that do not interact find the same largest overlap in whichever order they are
enforced, and leave the same contacts and shapes. -/
theorem enforce_perm (aloof : t.toList.Pairwise Contact.Aloof) (order : t.entries.Perm t'.entries)
    (shapes : Shapes ℝ) : (t'.enforce shapes).1 = (t.enforce shapes).1 ∧
      (t.enforce shapes).2.1.entries.Perm (t'.enforce shapes).2.1.entries ∧
      (t'.enforce shapes).2.2 = (t.enforce shapes).2.2 := by
  have hone := independent_enforce aloof shapes
  have hanswers : (inTurn enforceEntry t.entries shapes).1.Perm
      (inTurn enforceEntry t'.entries shapes).1 := by
    rw [hone.answers, (hone.perm order).answers]
    exact order.map _
  simp only [enforce, enforceEntries_eq_inTurn]
  exact ⟨Scalar.greatest_perm (hanswers.map _), hanswers.map _, hone.inTurn_perm order⟩

/-- Contacts that do not interact leave the same contacts and shapes in whichever order friction is
applied to them. -/
theorem rub_perm (aloof : t.toList.Pairwise Contact.Aloof) (order : t.entries.Perm t'.entries)
    (shapes : Shapes ℝ) : (t.rub shapes).1.entries.Perm (t'.rub shapes).1.entries ∧
      (t'.rub shapes).2 = (t.rub shapes).2 := by
  have hone := independent_rub aloof shapes
  have hanswers : (inTurn rubEntry t.entries shapes).1.Perm
      (inTurn rubEntry t'.entries shapes).1 := by
    rw [hone.answers, (hone.perm order).answers]
    exact order.map _
  simp only [rub, rubEntries_eq_inTurn]
  exact ⟨hanswers, hone.inTurn_perm order⟩

end ContactTable

/-! ### Simulations -/

namespace Simulation

/-- **The order of contacts does not matter** where the contacts that share a shape all take it for
immovable.  Enforcing them in another order finds the same largest overlap and ends with the same
contacts and the same world, and so does rubbing them. -/
theorem contacts_in_any_order (s : Simulation ℝ) (w : World ℝ) (t : ContactTable ℝ)
    (aloof : s.contacts.toList.Pairwise Contact.Aloof)
    (order : s.contacts.entries.Perm t.entries) :
    ((({ s with contacts := t } : Simulation ℝ).enforceContacts w).1 = (s.enforceContacts w).1 ∧
      (s.enforceContacts w).2.1.contacts.entries.Perm
        (({ s with contacts := t } : Simulation ℝ).enforceContacts w).2.1.contacts.entries ∧
      (({ s with contacts := t } : Simulation ℝ).enforceContacts w).2.2
        = (s.enforceContacts w).2.2) ∧
    (s.rubContacts w).1.contacts.entries.Perm
      (({ s with contacts := t } : Simulation ℝ).rubContacts w).1.contacts.entries ∧
    (({ s with contacts := t } : Simulation ℝ).rubContacts w).2 = (s.rubContacts w).2 := by
  obtain ⟨hoverlap, hentries, hshapes⟩ := ContactTable.enforce_perm aloof order w.shapes
  obtain ⟨hrubbed, hshapes'⟩ := ContactTable.rub_perm aloof order w.shapes
  refine ⟨⟨hoverlap, hentries, ?_⟩, hrubbed, ?_⟩
  · simp only [enforceContacts, hshapes]
  · simp only [rubContacts, hshapes']

/-- A ball that has sunk into the floor, the shape of number zero, which never yields. -/
noncomputable def onFloor (ball : ShapeId) : Contact ℝ where
  lower := ⟨0⟩
  upper := ball
  frame := 1
  normal := .up
  lowerAnchor := 0
  upperAnchor := ⟨0, -1, 0⟩
  lowerShare := 0
  upperShare := 1
  pressure := 0
  friction := 0.5
  allowance := 0

/-- A floor and two balls that have sunk into it. -/
noncomputable def parlour : World ℝ :=
  { World.empty with
    shapes := ⟨#[.ofForm (.plane .up) 0, (Shape.ofForm (.sphere 1) 1).moveBy ⟨0, 0.75, 0⟩,
      (Shape.ofForm (.sphere 1) 1).moveBy ⟨2.5, 0.5, 0⟩]⟩ }

/-- The two contacts share the floor. -/
noncomputable def billiards : Simulation ℝ :=
  { fresh ⟨1⟩ .standard (.still 0) with
    contacts := ⟨[(.of ⟨0⟩ ⟨1⟩, onFloor ⟨1⟩), (.of ⟨0⟩ ⟨2⟩, onFloor ⟨2⟩)]⟩ }

theorem aloof_onFloor {a b : ShapeId} (hab : a ≠ b) (ha : a ≠ ⟨0⟩) (hb : b ≠ ⟨0⟩) :
    (onFloor a).Aloof (onFloor b) := by
  have hfixes : ∀ {c : ShapeId}, c ≠ ⟨0⟩ → (onFloor c).Fixes ⟨0⟩ :=
    fun hc => ⟨fun _ => rfl, fun h => absurd h hc⟩
  intro x hx hx'
  have hfloor : x = ⟨0⟩ := by
    rcases of_decide_eq_true hx with h | h
    · exact h.symm
    · rcases of_decide_eq_true hx' with h' | h'
      · exact h'.symm
      · exact absurd (h.trans h'.symm) hab
  subst hfloor
  exact ⟨hfixes ha, hfixes hb⟩

/-- Whichever ball is lifted first, and whichever is kept from sliding first. -/
theorem contacts_in_any_order_of_billiards :
    billiards.contacts.toList.Pairwise Contact.Aloof ∧
    (({ billiards with contacts := ⟨billiards.contacts.entries.reverse⟩ } :
      Simulation ℝ).enforceContacts parlour).2.2 = (billiards.enforceContacts parlour).2.2 ∧
    (({ billiards with contacts := ⟨billiards.contacts.entries.reverse⟩ } :
      Simulation ℝ).rubContacts parlour).2 = (billiards.rubContacts parlour).2 := by
  have haloof : billiards.contacts.toList.Pairwise Contact.Aloof :=
    List.pairwise_pair.2 (aloof_onFloor (by decide) (by decide) (by decide))
  obtain ⟨⟨-, -, hworld⟩, -, hworld'⟩ := contacts_in_any_order billiards parlour
    ⟨billiards.contacts.entries.reverse⟩ haloof (List.reverse_perm _).symm
  exact ⟨haloof, hworld, hworld'⟩

end Simulation

end RagdollDynamics
