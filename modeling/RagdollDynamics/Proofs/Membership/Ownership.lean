import RagdollDynamics.Proofs.Membership.Roster
import RagdollDynamics.World

/-!
# Recorded owners

What the operations on slots do to the recorded owners, and the invariant that ties a roster to
the slots of a world: `Roster.Settled` says that the roster is sound and lists exactly the objects
that are recorded as owned by its simulation.  Whatever a simulation does to slots is a
`Slots.ChangedBy` of its own: it takes over objects that nobody owns and gives back its own.
-/

namespace RagdollDynamics

namespace Slots

variable {k : HandleKind} {α : Type} {slots slots' slots'' : Slots k α} {sim other : SimulationId}
  {id h : Handle k}

/-! ### The record of one operation -/

@[simp] theorem record?_replace {body : α} : (slots.replace id body).record? h = slots.record? h := by
  unfold replace record?
  rw [Arena.find?_modify]
  split
  · rw [Option.map_map]
    rfl
  · rfl

theorem owner?_eq_some_iff : slots.owner? h = some sim ↔ slots.record? h = some (some sim) :=
  Option.join_eq_some_iff

theorem owner?_claim (hid : slots.record? id ≠ none) :
    (slots.claim id sim).owner? h = if h = id then some sim else slots.owner? h := by
  unfold claim owner? record? at *
  rw [Arena.find?_modify]
  by_cases e : id = h
  · subst e
    obtain ⟨s, hs⟩ := Option.ne_none_iff_exists'.1 (by simpa using hid)
    simp [hs]
  · rw [if_neg e, if_neg (Ne.symm e)]

theorem join_releasedBy (s : Option (Slot α)) :
    ((s.map fun s => s.releasedBy sim).map Slot.owner).join =
      if (s.map Slot.owner).join = some sim then none else (s.map Slot.owner).join := by
  cases s with
  | none => rfl
  | some s =>
    unfold Slot.releasedBy
    by_cases e : s.owner = some sim <;> simp [e]

theorem owner?_release : (slots.release sim id).owner? h =
    if h = id ∧ slots.owner? h = some sim then none else slots.owner? h := by
  unfold release owner? record?
  rw [Arena.find?_modify]
  by_cases e : id = h
  · subst e
    rw [if_pos rfl, join_releasedBy]
    simp
  · rw [if_neg e, if_neg fun hc => e hc.1.symm]

theorem owner?_releaseAll : (slots.releaseAll sim).owner? h =
    if slots.owner? h = some sim then none else slots.owner? h := by
  unfold releaseAll owner? record?
  rw [Arena.find?_map, join_releasedBy]

/-- A new object is owned by nobody, as it was before it existed. -/
theorem owner?_push {body : α} : owner? (slots.push ⟨body, none⟩) h = slots.owner? h := by
  unfold owner? record?
  rw [Arena.find?_push]
  split
  next last =>
    have hnew : slots.find? h = none := (Arena.find?_eq_none_iff slots h).2 (by omega)
    simp [hnew]
  next => rfl

/-! ### What one simulation may change -/

/-- Owners change only between nobody and `sim`. -/
def ChangedBy (sim : SimulationId) (slots slots' : Slots k α) : Prop :=
  ∀ h, slots'.owner? h = slots.owner? h ∨
    (slots.owner? h = none ∧ slots'.owner? h = some sim) ∨
    (slots.owner? h = some sim ∧ slots'.owner? h = none)

theorem changedBy_of_record? (he : slots'.record? = slots.record?) : slots.ChangedBy sim slots' :=
  fun h => .inl (by simp [owner?, he])

theorem ChangedBy.trans (h₁ : slots.ChangedBy sim slots') (h₂ : slots'.ChangedBy sim slots'') :
    slots.ChangedBy sim slots'' := by
  intro h
  rcases h₁ h with e₁ | ⟨e₁, e₁'⟩ | ⟨e₁, e₁'⟩ <;>
    rcases h₂ h with e₂ | ⟨e₂, e₂'⟩ | ⟨e₂, e₂'⟩ <;> simp_all

/-- **No simulation touches what another one owns.** -/
theorem ChangedBy.owner?_iff (hc : slots.ChangedBy sim slots') (ho : other ≠ sim) :
    slots'.owner? h = some other ↔ slots.owner? h = some other := by
  rcases hc h with e | ⟨e, e'⟩ | ⟨e, e'⟩
  · rw [e]
  · simp [e, e', Ne.symm ho]
  · simp [e, e', Ne.symm ho]

theorem changedBy_claim (hid : slots.record? id = some none) :
    slots.ChangedBy sim (slots.claim id sim) := by
  intro h
  rw [owner?_claim (by simp [hid])]
  by_cases e : h = id
  · subst e
    exact .inr (.inl ⟨by simp [owner?, hid], if_pos rfl⟩)
  · exact .inl (if_neg e)

theorem changedBy_release : slots.ChangedBy sim (slots.release sim id) := by
  intro h
  rw [owner?_release]
  by_cases e : h = id ∧ slots.owner? h = some sim
  · exact .inr (.inr ⟨e.2, if_pos e⟩)
  · exact .inl (if_neg e)

theorem changedBy_releaseAll : slots.ChangedBy sim (slots.releaseAll sim) := by
  intro h
  rw [owner?_releaseAll]
  by_cases e : slots.owner? h = some sim
  · exact .inr (.inr ⟨e, if_pos e⟩)
  · exact .inl (if_neg e)

/-- Releasing objects one after the other releases all of them. -/
theorem owner?_foldl_release {σ : Type} (sim : SimulationId)
    (release : σ → Handle k → σ) (owner : σ → Handle k → Option SimulationId)
    (hone : ∀ x id h, owner (release x id) h =
      if h = id ∧ owner x h = some sim then none else owner x h)
    (l : List (Handle k)) (x : σ) (h : Handle k) :
    owner (l.foldl release x) h = if h ∈ l ∧ owner x h = some sim then none else owner x h := by
  induction l generalizing x with
  | nil => simp
  | cons id l ih =>
    rw [List.foldl_cons, ih, hone]
    by_cases hid : h = id <;> by_cases hown : owner x h = some sim <;> simp [hid, hown]

end Slots

/-! ### Rosters that agree with the record -/

namespace Roster

variable {k : HandleKind} {α : Type} {r : Roster k} {capacity : Nat} {sim : SimulationId}
  {slots slots' : Slots k α} {id : Handle k}

/-- The roster is sound, and lists exactly the objects that are recorded as owned by `sim`. -/
structure Settled (r : Roster k) (capacity : Nat) (sim : SimulationId) (slots : Slots k α) :
    Prop where
  sound : r.Sound capacity
  owner?_iff : ∀ h, slots.owner? h = some sim ↔ r.contains h = true

theorem settled_empty (hfree : ∀ h, slots.owner? h ≠ some sim) :
    (empty : Roster k).Settled capacity sim slots :=
  ⟨sound_empty, fun h => by simp [hfree h]⟩

/-- Owners may change as long as what `sim` owns stays the same. -/
theorem Settled.congr (hr : r.Settled capacity sim slots)
    (he : ∀ h, slots'.owner? h = some sim ↔ slots.owner? h = some sim) :
    r.Settled capacity sim slots' :=
  ⟨hr.sound, fun h => (he h).trans (hr.owner?_iff h)⟩

/-- An object that is recorded as owned by `sim` is listed, so no request meets a stale record. -/
theorem Settled.admission_ne_stale (hr : r.Settled capacity sim slots) (id : Handle k) :
    r.admission sim capacity (slots.record? id) id ≠ .stale := by
  intro hs
  obtain ⟨hrec, hnot⟩ := admission_eq_stale hs
  rw [(hr.owner?_iff id).1 (Slots.owner?_eq_some_iff.2 hrec)] at hnot
  exact Bool.noConfusion hnot

theorem Settled.promotion_ne_stale (hr : r.Settled capacity sim slots) (id : Handle k) :
    r.promotion sim (slots.record? id) id ≠ .stale := by
  intro hs
  obtain ⟨hrec, hnot⟩ := promotion_eq_stale hs
  rw [(hr.owner?_iff id).1 (Slots.owner?_eq_some_iff.2 hrec)] at hnot
  exact Bool.noConfusion hnot

theorem owner?_claim_iff (hr : r.Settled capacity sim slots) (hid : slots.record? id ≠ none)
    (h : Handle k) :
    (slots.claim id sim).owner? h = some sim ↔ r.contains h = true ∨ h = id := by
  rw [Slots.owner?_claim hid, ← hr.owner?_iff h]
  by_cases e : h = id <;> simp [e]

theorem owner?_release_iff (hr : r.Settled capacity sim slots) (h : Handle k) :
    (slots.release sim id).owner? h = some sim ↔ r.contains h = true ∧ h ≠ id := by
  rw [Slots.owner?_release, ← hr.owner?_iff h]
  by_cases e : h = id <;> by_cases e' : slots.owner? h = some sim <;> simp [e, e']

theorem Settled.join (hr : r.Settled capacity sim slots)
    (hg : r.admission sim capacity (slots.record? id) id = .granted) :
    (r.join id).Settled capacity sim (slots.claim id sim) := by
  obtain ⟨hrec, hnot, hroom⟩ := admission_eq_granted_iff.1 hg
  refine ⟨hr.sound.join hnot hroom, fun h => ?_⟩
  rw [owner?_claim_iff hr (by simp [hrec]), contains_join]

theorem Settled.seat (hr : r.Settled capacity sim slots) (hp : r.primary = none)
    (hnot : r.contains id = false) (hid : slots.record? id ≠ none) :
    (r.seat (some id)).Settled capacity sim (slots.claim id sim) := by
  refine ⟨hr.sound.seat (contains_eq_false_iff.1 hnot).2, fun h => ?_⟩
  rw [owner?_claim_iff hr hid, contains_seat hp]

theorem Settled.unseat (hr : r.Settled capacity sim slots) (hp : r.primary = some id) :
    (r.seat none).Settled capacity sim (slots.release sim id) :=
  ⟨hr.sound.unseat, fun h => by rw [owner?_release_iff hr, contains_unseat hr.sound hp]⟩

theorem Settled.leave (hr : r.Settled capacity sim slots) :
    (r.leave id).Settled capacity sim (slots.release sim id) :=
  ⟨hr.sound.leave, fun h => by rw [owner?_release_iff hr, contains_leave hr.sound]⟩

end Roster

end RagdollDynamics
