import Mathlib.Data.List.Nodup
import Mathlib.Data.List.Perm.Basic
import RagdollDynamics.Simulation.Roster

/-!
# Sound rosters

A roster is sound if nobody is listed twice, the primary member is not among the others, and the
others are within their limit.  Every way in which a roster changes keeps it sound, and `contains`
changes by exactly the member that joins or leaves.
-/

namespace RagdollDynamics

/-- Taking an element out in place permutes what `List.erase` leaves. -/
theorem swapErase_perm {α : Type} [DecidableEq α] (a : α) :
    ∀ l : List α, (swapErase a l).Perm (l.erase a)
  | [] => .refl _
  | b :: rest => by
    by_cases hb : b = a
    · subst hb
      rw [swapErase, if_pos rfl, List.erase_cons_head]
      rcases List.eq_nil_or_concat rest with rfl | ⟨front, z, rfl⟩
      · exact .refl _
      · simpa using @List.perm_append_comm _ [z] front
    · rw [swapErase, if_neg hb, List.erase_cons_tail (by simpa using hb)]
      exact (swapErase_perm a rest).cons b

namespace Roster

variable {k : HandleKind} {r : Roster k} {sim : SimulationId} {capacity : Nat}
  {slot : Option (Option SimulationId)} {id h : Handle k}

theorem contains_iff : r.contains id = true ↔ r.primary = some id ∨ id ∈ r.others := by
  simp [contains]

theorem contains_iff_mem : r.contains id = true ↔ id ∈ r.members := by
  simp [contains, members]

theorem contains_eq_false_iff : r.contains id = false ↔ r.primary ≠ some id ∧ id ∉ r.others := by
  rw [Bool.eq_false_iff, Ne, contains_iff, not_or]

/-! ### What leads to each verdict -/

/-- **Who may join the others**: an object that nobody owns and that is no member yet, while there
is room. -/
theorem admission_eq_granted_iff : r.admission sim capacity slot id = .granted ↔
    slot = some none ∧ r.contains id = false ∧ r.others.length < capacity := by
  rcases slot with _ | _ | o
  · simp [admission]
  · simp only [admission, contains]
    split_ifs <;> simp_all
  · simp only [admission, contains]
    split_ifs <;> simp

theorem admission_eq_stale (hs : r.admission sim capacity slot id = .stale) :
    slot = some (some sim) ∧ r.contains id = false := by
  rcases slot with _ | _ | o
  · simp [admission] at hs
  · simp only [admission] at hs
    split_ifs at hs
  · simp only [admission] at hs
    split_ifs at hs
    simp_all [contains]

/-- **Who may become the primary member**: an object that nobody owns and that is no member yet. -/
theorem promotion_eq_granted_iff : r.promotion sim slot id = .granted ↔
    slot = some none ∧ r.contains id = false := by
  rcases slot with _ | _ | o
  · simp only [promotion, contains]
    split_ifs <;> simp
  · simp only [promotion, contains]
    split_ifs <;> simp_all
  · simp only [promotion, contains]
    split_ifs <;> simp

theorem promotion_eq_stale (hs : r.promotion sim slot id = .stale) :
    slot = some (some sim) ∧ r.contains id = false := by
  rcases slot with _ | _ | o
  · simp only [promotion] at hs
    split_ifs at hs
  · simp only [promotion] at hs
    split_ifs at hs
  · simp only [promotion] at hs
    split_ifs at hs
    simp_all [contains]

/-! ### Soundness -/

/-- Nobody is listed twice, and the others are within their limit. -/
structure Sound (r : Roster k) (capacity : Nat) : Prop where
  nodup : r.others.Nodup
  length_le : r.others.length ≤ capacity
  /-- Nobody has both places. -/
  primary_notMem : ∀ id, r.primary = some id → id ∉ r.others

theorem sound_empty : (empty : Roster k).Sound capacity :=
  ⟨List.nodup_nil, Nat.zero_le _, fun _ _ => List.not_mem_nil⟩

theorem Sound.join (hr : r.Sound capacity) (hid : r.contains id = false)
    (hroom : r.others.length < capacity) : (r.join id).Sound capacity := by
  have hnot := contains_eq_false_iff.1 hid
  refine ⟨?_, by simpa [Roster.join] using Nat.succ_le_of_lt hroom, fun p hp hmem => ?_⟩
  · exact List.nodup_append.2 ⟨hr.nodup, List.nodup_singleton id, by
      simpa using fun x hx (e : x = id) => hnot.2 (e ▸ hx)⟩
  · rcases List.mem_append.1 hmem with hmem | hmem
    · exact hr.primary_notMem p hp hmem
    · rw [List.mem_singleton] at hmem
      exact hnot.1 (hmem ▸ hp)

theorem Sound.unseat (hr : r.Sound capacity) : (r.seat none).Sound capacity :=
  ⟨hr.nodup, hr.length_le, fun _ hp => nomatch hp⟩

theorem Sound.seat (hr : r.Sound capacity) (hid : id ∉ r.others) :
    (r.seat (some id)).Sound capacity := by
  refine ⟨hr.nodup, hr.length_le, fun p hp => ?_⟩
  rw [← Option.some.inj (show some id = some p from hp)]
  exact hid

theorem Sound.leave (hr : r.Sound capacity) : (r.leave id).Sound capacity := by
  unfold Roster.leave
  split
  · exact hr.unseat
  · have hperm := swapErase_perm id r.others
    refine ⟨hperm.nodup_iff.2 (hr.nodup.erase id), ?_, fun p hp hmem => ?_⟩
    · have hle := List.length_erase_le (a := id) (l := r.others)
      have hcap := hr.length_le
      simp only [hperm.length_eq]
      omega
    · exact hr.primary_notMem p hp (List.mem_of_mem_erase (hperm.mem_iff.1 hmem))

/-! ### Who is a member afterwards -/

@[simp] theorem contains_empty : (empty : Roster k).contains h = false := by
  simp [contains, empty]

/-- A primary member that gives up its place makes nobody else a member. -/
theorem contains_seat_none {old : Handle k} (hp : r.primary = some old)
    (hid : r.contains id = false) : id ≠ old ∧ (r.seat none).contains id = false := by
  obtain ⟨hprimary, hothers⟩ := contains_eq_false_iff.1 hid
  refine ⟨fun e => hprimary (e ▸ hp), contains_eq_false_iff.2 ⟨?_, hothers⟩⟩
  exact fun e => by cases e

theorem contains_join : (r.join id).contains h = true ↔ r.contains h = true ∨ h = id := by
  simp [contains, Roster.join, or_assoc]

theorem contains_seat (hp : r.primary = none) :
    (r.seat (some id)).contains h = true ↔ r.contains h = true ∨ h = id := by
  simp only [contains, Roster.seat, hp, reduceCtorEq, false_or, Option.some.injEq,
    decide_eq_true_eq]
  exact ⟨fun hm => hm.symm.imp_right Eq.symm, fun hm => hm.symm.imp_left Eq.symm⟩

theorem contains_unseat (hr : r.Sound capacity) (hp : r.primary = some id) :
    (r.seat none).contains h = true ↔ r.contains h = true ∧ h ≠ id := by
  have hnot := hr.primary_notMem id hp
  simp only [contains, Roster.seat, hp, reduceCtorEq, false_or, Option.some.injEq,
    decide_eq_true_eq]
  constructor
  · exact fun hm => ⟨.inr hm, fun e => hnot (e ▸ hm)⟩
  · rintro ⟨rfl | hm, hne⟩
    · exact absurd rfl hne
    · exact hm

theorem contains_leave (hr : r.Sound capacity) :
    (r.leave id).contains h = true ↔ r.contains h = true ∧ h ≠ id := by
  unfold Roster.leave
  split
  next hp => exact contains_unseat hr hp
  next hp =>
    have hmem : h ∈ swapErase id r.others ↔ h ≠ id ∧ h ∈ r.others := by
      rw [(swapErase_perm id r.others).mem_iff, hr.nodup.mem_erase_iff]
    simp only [contains, hmem, decide_eq_true_eq]
    constructor
    · rintro (hq | ⟨hne, hm⟩)
      · exact ⟨.inl hq, fun e => hp (e ▸ hq)⟩
      · exact ⟨.inr hm, hne⟩
    · rintro ⟨hq | hm, hne⟩
      · exact .inl hq
      · exact .inr ⟨hne, hm⟩

end Roster

end RagdollDynamics
