import RagdollDynamics.Proofs.Contact.Pairing
import RagdollDynamics.Proofs.Contact.Lifetime
import RagdollDynamics.Proofs.Frame.Step

/-!
# The shares of a contact

A contact keeps the shares of its two shapes from one collision of the pair to the next.  Whatever
happens in between, they are the shares by the inverse masses that the shapes had when the contact
was last refreshed (`Simulation.weighed_of_history`), which need not be those that they have.
-/

namespace RagdollDynamics

variable {K : Type} [Scalar K]

/-! ### One contact -/

/-- The share of a shape in a correction, by its inverse mass and the sum of both. -/
def shareOf (own total : K) : K := if 0 < total then own / total else 0

namespace Contact

def weights (c : Contact K) : ShapeId × ShapeId × K × K :=
  (c.lower, c.upper, c.lowerShare, c.upperShare)

/-- The shares of the contact are those by the given inverse masses. -/
structure WeighedBy (c : Contact K) (m : ShapeId → K) : Prop where
  lower : c.lowerShare = shareOf (m c.lower) (m c.lower + m c.upper)
  upper : c.upperShare = shareOf (m c.upper) (m c.lower + m c.upper)

variable {c d : Contact K} {m : ShapeId → K} {hit : Collision K} {shapes : Shapes K}

theorem WeighedBy.congr (h : c.WeighedBy m) (same : c.weights = d.weights) : d.WeighedBy m := by
  simp only [weights, Prod.mk.injEq] at same
  obtain ⟨hlower, hupper, hlowerShare, hupperShare⟩ := same
  refine ⟨?_, ?_⟩
  · rw [← hlowerShare, h.lower, hlower, hupper]
  · rw [← hupperShare, h.upper, hlower, hupper]

theorem weights_enforce (c : Contact K) (shapes : Shapes K) :
    (c.enforce shapes).2.1.weights = c.weights := by
  obtain ⟨p, hp⟩ := c.enforce_eq shapes
  rw [hp]
  rfl

theorem weights_rub (c : Contact K) (shapes : Shapes K) : (c.rub shapes).1.weights = c.weights := by
  obtain ⟨p, hp⟩ := c.rub_eq shapes
  rw [hp]
  rfl

/-- A collision of two existing shapes gives their contact new shares. -/
theorem weighedBy_anchor (hlower : (shapes.find? c.lower).isSome)
    (hupper : (shapes.find? c.upper).isSome) :
    (c.anchor hit shapes).WeighedBy shapes.inverseMass := by
  obtain ⟨s, hs⟩ := Option.isSome_iff_exists.1 hlower
  obtain ⟨t, ht⟩ := Option.isSome_iff_exists.1 hupper
  have hsm : shapes.inverseMass c.lower = s.inverseMass := by
    rw [Shapes.inverseMass, hs]
    rfl
  have htm : shapes.inverseMass c.upper = t.inverseMass := by
    rw [Shapes.inverseMass, ht]
    rfl
  rw [anchor, hs, ht]
  refine ⟨?_, ?_⟩
  · simp only [hsm, htm, shareOf]
  · simp only [hsm, htm, shareOf]

/-- Without both shapes a collision changes no share. -/
theorem weights_renew_of_missing
    (missing : ¬ ((shapes.find? c.lower).isSome ∧ (shapes.find? c.upper).isSome))
    (frame : UInt32) : (c.renew hit frame shapes).weights = c.weights := by
  unfold renew anchor
  split
  next hs ht => exact absurd ⟨by rw [hs]; rfl, by rw [ht]; rfl⟩ missing
  next => rfl

end Contact

/-- The collision is one of two shapes that both exist. -/
def Collision.Binds (hit : Collision K) (shapes : Shapes K) (a b : ShapeId) : Prop :=
  hit.Joins a b ∧ (shapes.find? a).isSome ∧ (shapes.find? b).isSome

omit [Scalar K] in
theorem Collision.Joins.binds {hit : Collision K} {shapes : Shapes K} {a b d : ShapeId}
    (hjoins : hit.Joins a b) (hd : hit.second = some d)
    (hfirst : (shapes.find? hit.first).isSome) (hsecond : (shapes.find? d).isSome) :
    hit.Binds shapes a b := by
  refine ⟨hjoins, ?_⟩
  rcases hjoins with ⟨rfl, hb⟩ | ⟨rfl, hb⟩
  · obtain rfl := Option.some.inj (hd.symm.trans hb)
    exact ⟨hfirst, hsecond⟩
  · obtain rfl := Option.some.inj (hd.symm.trans hb)
    exact ⟨hsecond, hfirst⟩

/-! ### Tables -/

namespace ContactTable

variable {t t' t'' : ContactTable K} {a b : ShapeId} {m : ShapeId → K} {r r' : Prop}
  {hit : Collision K} {shapes : Shapes K} {frame : UInt32} {allowance : K}

/-- If the contact of the two shapes is refreshed its shares are those by `m`, and if not, they are
what they were before. -/
def Reweighed (t t' : ContactTable K) (a b : ShapeId) (refreshed : Prop) (m : ShapeId → K) : Prop :=
  ∀ c, t'.find? (.of a b) = some c → (refreshed ∧ c.WeighedBy m) ∨
    ¬ refreshed ∧ ∃ c₀, t.find? (.of a b) = some c₀ ∧ c₀.weights = c.weights

theorem Reweighed.congr (h : t.Reweighed t' a b r m) (hr : r ↔ r') : t.Reweighed t' a b r' m :=
  propext hr ▸ h

theorem Reweighed.trans (h : t.Reweighed t' a b r m) (h' : t'.Reweighed t'' a b r' m) :
    t.Reweighed t'' a b (r ∨ r') m := by
  intro c hc
  rcases h' c hc with ⟨hr', hweighed⟩ | ⟨hr', c₁, hc₁, hsame⟩
  · exact .inl ⟨.inr hr', hweighed⟩
  · rcases h c₁ hc₁ with ⟨hr, hweighed⟩ | ⟨hr, c₀, hc₀, hsame₀⟩
    · exact .inl ⟨.inl hr, hweighed.congr hsame⟩
    · exact .inr ⟨not_or.2 ⟨hr, hr'⟩, c₀, hc₀, hsame₀.trans hsame⟩

theorem reweighed_of_view (h : t'.view Contact.weights = t.view Contact.weights) (a b : ShapeId)
    (m : ShapeId → K) : t.Reweighed t' a b False m := by
  intro c hc
  have hmap := map_find?_congr h (.of a b)
  rw [hc, Option.map_some] at hmap
  obtain ⟨c₀, hc₀, hsame⟩ := Option.map_eq_some_iff.1 hmap.symm
  exact .inr ⟨id, c₀, hc₀, hsame⟩

theorem Keyed.reweighed_keep (ht : t.Keyed) (p : Contact K → Bool) (a b : ShapeId)
    (m : ShapeId → K) : t.Reweighed (t.keep p) a b False m := by
  intro c hc
  rw [ht.find?_keep, Option.filter_eq_some_iff] at hc
  exact .inr ⟨id, c, hc.1, rfl⟩

theorem weighedBy_start? {c : Contact K} (hjoins : hit.Joins a b)
    (h : Contact.start? hit frame shapes allowance = some c) :
    hit.Binds shapes a b ∧ c.WeighedBy shapes.inverseMass := by
  obtain ⟨d, hd, h⟩ := Option.bind_eq_some_iff.1 h
  obtain ⟨s, hs, h⟩ := Option.bind_eq_some_iff.1 h
  obtain ⟨u, hu, rfl⟩ := Option.map_eq_some_iff.1 h
  have hfirst : (shapes.find? hit.first).isSome := by rw [hs]; rfl
  have hsecond : (shapes.find? d).isSome := by rw [hu]; rfl
  refine ⟨hjoins.binds hd hfirst hsecond, ?_⟩
  rcases Contact.joins_blank hit.first d frame allowance with ⟨hl, hr⟩ | ⟨hl, hr⟩
  · exact Contact.weighedBy_anchor (by rw [hl, hfirst]) (by rw [hr, hsecond])
  · exact Contact.weighedBy_anchor (by rw [hl, hsecond]) (by rw [hr, hfirst])

/-- Noting a collision refreshes the contact of its pair, if both shapes exist. -/
theorem Keyed.reweighed_note (ht : t.Keyed) (hit : Collision K) (frame : UInt32) (allowance : K)
    (shapes : Shapes K) (a b : ShapeId) : t.Reweighed (t.note frame allowance shapes hit) a b
      (hit.Binds shapes a b) shapes.inverseMass := by
  intro c hc
  have hkey := Collision.key?_eq_some_iff (c := hit) (a := a) (b := b)
  unfold ContactTable.note at hc
  split at hc
  next hnone =>
    rw [hnone] at hkey
    exact .inr ⟨fun h => (nomatch hkey.2 h.1), c, hc, rfl⟩
  next key hsome =>
    rw [find?, lookup_upsert] at hc
    by_cases same : ShapePair.of a b = key
    · subst same
      have hjoins : hit.Joins a b := hkey.1 hsome
      rw [if_pos rfl] at hc
      cases hold : t.entries.lookup (.of a b) with
      | none =>
        rw [hold] at hc
        have hstart := weighedBy_start? hjoins hc
        exact .inl hstart
      | some c₀ =>
        rw [hold] at hc
        obtain rfl := Option.some.inj hc
        have hpair : c₀.Joins a b := (ht.find?_eq_some_iff.1 hold).2
        have hboth : hit.Binds shapes a b ↔
            (shapes.find? c₀.lower).isSome ∧ (shapes.find? c₀.upper).isSome := by
          rcases hpair with ⟨hl, hu⟩ | ⟨hl, hu⟩
          · rw [hl, hu]
            exact and_iff_right hjoins
          · rw [hl, hu, and_comm (a := (shapes.find? b).isSome = true)]
            exact and_iff_right hjoins
        by_cases hbinds : hit.Binds shapes a b
        · have hfound := hboth.1 hbinds
          exact .inl ⟨hbinds, Contact.weighedBy_anchor hfound.1 hfound.2⟩
        · have hsame : (c₀.renew hit frame shapes).weights = c₀.weights :=
            Contact.weights_renew_of_missing (fun h => hbinds (hboth.2 h)) frame
          exact .inr ⟨hbinds, c₀, hold, hsame.symm⟩
    · rw [if_neg same] at hc
      refine .inr ⟨fun h => same ?_, c, hc, rfl⟩
      exact Option.some.inj ((hkey.2 h.1).symm.trans hsome)

theorem Keyed.reweighed_noteAll {hits : List (Collision K)} (ht : t.Keyed) :
    t.Reweighed (t.noteAll frame allowance shapes hits) a b
      (∃ hit ∈ hits, hit.Binds shapes a b) shapes.inverseMass := by
  induction hits generalizing t with
  | nil =>
    refine (reweighed_of_view rfl a b shapes.inverseMass).congr ⟨False.elim, ?_⟩
    rintro ⟨hit, hmem, -⟩
    cases hmem
  | cons hit rest ih =>
    have hone := ht.reweighed_note hit frame allowance shapes a b
    refine (hone.trans (ih ht.note)).congr ?_
    rw [List.exists_mem_cons_iff]

end ContactTable

/-! ### Commands -/

namespace Simulation

variable {s s' : Simulation K} {w w' : World K} {a b : ShapeId}

theorem reweighed_pass (hk : s.contacts.Keyed) (w : World K) (a b : ShapeId) :
    s.contacts.Reweighed (s.pass w).sim.contacts a b
      (∃ hit ∈ (s.pass w).sim.collisions.toList, hit.Joins a b) w.shapes.inverseMass := by
  have hnoted : s.contacts.Reweighed ((s.detect w).2.noteContacts w).contacts a b
      (∃ hit ∈ (s.detect w).2.collisions.toList, hit.Binds w.shapes a b) w.shapes.inverseMass :=
    hk.reweighed_noteAll
  have hrubbed : ((s.detect w).2.noteContacts w).contacts.Reweighed (s.pass w).sim.contacts a b
      False w.shapes.inverseMass :=
    ContactTable.reweighed_of_view (ContactTable.view_rub Contact.weights_rub _ _) a b _
  refine (hnoted.trans hrubbed).congr ?_
  rw [or_false]
  constructor
  · rintro ⟨hit, hmem, hbinds⟩
    exact ⟨hit, hmem, hbinds.1⟩
  · rintro ⟨hit, hmem, hjoins⟩
    obtain ⟨d, hd, -, -, hfirst, hsecond⟩ := faces_of_mem_detect hmem
    exact ⟨hit, hmem, hjoins.binds hd hfirst hsecond⟩

/-- Nothing within a step changes how readily shapes move. -/
theorem inverseMass_beforeStepPass (s : Simulation K) (w : World K) (dt : K) (k : Nat) :
    (s.beforeStepPass w dt k).2.shapes.inverseMass = w.shapes.inverseMass := by
  have hchanged := (changed_beforeStepPass (s.inside_footprint w) (s.covers_footprint w) dt k).1
  exact Shapes.inverseMass_of_changedOn (fun _ _ h => h.build) hchanged.shapes

theorem reweighed_beforeStepPass (hk : s.contacts.Keyed) (w : World K) (dt : K) (n : Nat)
    (a b : ShapeId) : s.contacts.Reweighed (s.beforeStepPass w dt n).1.contacts a b
      (∃ k < n, ∃ hit ∈ (s.stepPass w dt k).sim.collisions.toList, hit.Joins a b)
      w.shapes.inverseMass := by
  induction n with
  | zero =>
    refine (ContactTable.reweighed_of_view
      (ContactTable.view_enforce Contact.weights_enforce _ _) a b _).congr ⟨False.elim, ?_⟩
    rintro ⟨k, hk, -⟩
    exact absurd hk k.not_lt_zero
  | succ n ih =>
    have hbefore : (s.beforeStepPass w dt n).1.contacts.Keyed := keyed_beforeStepPass hk dt n
    have hpass := reweighed_pass hbefore (s.beforeStepPass w dt n).2 a b
    rw [inverseMass_beforeStepPass] at hpass
    refine (ih.trans hpass).congr ?_
    rw [Nat.exists_lt_succ_right]
    exact Iff.rfl

theorem reweighed_step (hk : s.contacts.Keyed) (w : World K) (order : StepOrder K) (a b : ShapeId) :
    s.contacts.Reweighed (s.step w order).2.1.contacts a b (s.Finds w order a b)
      w.shapes.inverseMass := by
  rw [sim_step]
  have hpasses := reweighed_beforeStepPass hk w order.dt (s.step w order).1.passes a b
  have hlast : (s.beforeStepPass w order.dt (s.step w order).1.passes).1.contacts.Keyed :=
    keyed_beforeStepPass hk order.dt _
  refine (hpasses.trans (hlast.reweighed_keep _ a b w.shapes.inverseMass)).congr ?_
  rw [or_false]
  exact Iff.rfl

end Simulation

/-- Whether a command refreshes the contact of two shapes. -/
def Command.Refreshes (s : Simulation K) (w : World K) : Command K → ShapeId → ShapeId → Prop
  | .noteContacts, a, b => ∃ hit ∈ s.collisions.toList, hit.Binds w.shapes a b
  | .step order, a, b => s.Finds w order a b
  | _, _, _ => False

/-- **What a command does to shares**: those of the pairs that it refreshes become the shares by the
inverse masses that the shapes have then, and no others change. -/
theorem Simulation.reweighed_perform {s s' : Simulation K} {w w' : World K} {c : Command K}
    (hk : s.contacts.Keyed) (h : s.perform w c = .ok (s', w')) (a b : ShapeId) :
    s.contacts.Reweighed s'.contacts a b (c.Refreshes s w a b) w.shapes.inverseMass := by
  by_cases hnote : c = .noteContacts
  · subst hnote
    obtain ⟨rfl, rfl⟩ := Prod.ext_iff.1 (Except.ok.inj h)
    exact hk.reweighed_noteAll
  by_cases hstep : ∃ order, c = .step order
  · obtain ⟨order, rfl⟩ := hstep
    obtain ⟨rfl, rfl⟩ := Prod.ext_iff.1 (Except.ok.inj h)
    exact reweighed_step hk w order a b
  · rw [not_exists] at hstep
    have hview := (view_perform Contact.weights_enforce Contact.weights_rub h hnote hstep).2
    have hkept := (hk.reweighed_keep (c.spares s w) a b w.shapes.inverseMass).trans
      (ContactTable.reweighed_of_view hview a b w.shapes.inverseMass)
    refine hkept.congr ?_
    cases c with
    | noteContacts => exact absurd rfl hnote
    | step order => exact absurd rfl (hstep order)
    | _ => exact or_self_iff

/-! ### Histories -/

/-- The contact of the two shapes was last refreshed in the world `v`. -/
inductive LastRefresh (start : Simulation K × World K) (a b : ShapeId) :
    List (Happening K) → World K → Prop
  | now {past : List (Happening K)} {s : Simulation K} {v : World K} {c : Command K}
      (run : outcome Happening.act start past = .ok (s, v)) (refreshes : c.Refreshes s v a b) :
      LastRefresh start a b (.command c :: past) v
  | before {past : List (Happening K)} {s : Simulation K} {w v : World K} {c : Command K}
      (run : outcome Happening.act start past = .ok (s, w)) (spares : ¬ c.Refreshes s w a b)
      (last : LastRefresh start a b past v) : LastRefresh start a b (.command c :: past) v
  | changed {past : List (Happening K)} {v : World K} {f : World.Change K}
      (last : LastRefresh start a b past v) : LastRefresh start a b (.change f :: past) v

namespace Simulation

variable {s : Simulation K} {w : World K}

theorem orderly_of_history {id : SimulationId} {config : Config K} {clock : Clock} {w₀ : World K}
    {past : List (Happening K)}
    (run : outcome Happening.act (fresh id config clock, w₀) past = .ok (s, w)) : s.Orderly := by
  refine outcome_invariant (P := fun st : Simulation K × World K => st.1.Orderly)
    ⟨ContactTable.ordered_empty, fun _ hmem => absurd hmem List.not_mem_nil⟩ ?_ run
  intro before e after hbefore hact
  cases e with
  | command c => exact hbefore.perform hact
  | change f => exact Except.ok.inj hact ▸ hbefore

/-- **The shares of a contact** are those by the inverse masses that its shapes had when it was last
refreshed. -/
theorem weighed_of_history {id : SimulationId} {config : Config K} {clock : Clock} {w₀ : World K}
    {past : List (Happening K)}
    (run : outcome Happening.act (fresh id config clock, w₀) past = .ok (s, w)) {a b : ShapeId}
    {c : Contact K} (hc : s.contacts.find? (.of a b) = some c) :
    ∃ v, LastRefresh (fresh id config clock, w₀) a b past v ∧
      c.WeighedBy v.shapes.inverseMass := by
  induction past generalizing s w c with
  | nil =>
    obtain ⟨rfl, rfl⟩ := Prod.ext_iff.1 (Except.ok.inj run)
    cases hc
  | cons e past ih =>
    obtain ⟨⟨s₁, w₁⟩, hpast, hlast⟩ := outcome_cons_eq_ok.1 run
    cases e with
    | change f =>
      obtain ⟨rfl, rfl⟩ := Prod.ext_iff.1 (Except.ok.inj hlast)
      obtain ⟨v, hv, hweighed⟩ := ih hpast hc
      exact ⟨v, .changed hv, hweighed⟩
    | command cmd =>
      have hk := (orderly_of_history hpast).contacts.toKeyed
      rcases reweighed_perform hk hlast a b c hc with ⟨hr, hweighed⟩ | ⟨hr, c₀, hc₀, hsame⟩
      · exact ⟨w₁, .now hpast hr, hweighed⟩
      · obtain ⟨v, hv, hweighed⟩ := ih hpast hc₀
        exact ⟨v, .before hpast hr hv, hweighed.congr hsame⟩

end Simulation

end RagdollDynamics
