import RagdollDynamics.Proofs.Membership.Lawful

/-!
# How requests are answered

Several reasons may speak against a request at once.  Each reason for an answer is stated on its own
(`Roster.AdmissionGround`, `Roster.PromotionGround`), and so is the order in which they count
(`Verdict.admissionRank`, `Verdict.promotionRank`).  A request gets the answer whose reason counts
first, and only an object that joins changes anything (`Simulation.requests_answered`).
-/

namespace RagdollDynamics

/-! ### Reasons and their order -/

namespace Verdict

variable {k : HandleKind}

/-- There is a reason for the verdict, and none for a verdict that counts before it. -/
def Prevails (rank : Verdict k → Nat) (Ground : Verdict k → Prop) (v : Verdict k) : Prop :=
  Ground v ∧ ∀ v', Ground v' → rank v ≤ rank v'

/-- Only one verdict prevails if no two that there are reasons for have the same rank. -/
theorem Prevails.unique {rank : Verdict k → Nat} {Ground : Verdict k → Prop} {v v' : Verdict k}
    (h : Prevails rank Ground v) (h' : Prevails rank Ground v')
    (hrank : Ground v → Ground v' → rank v = rank v' → v = v') : v = v' :=
  hrank h.1 h'.1 (Nat.le_antisymm (h.2 v' h'.1) (h'.2 v h.1))

/-- The order in which reasons count when an object asks to join the others. -/
def admissionRank : Verdict k → Nat
  | .refused (.unknown _) => 0
  | .refused .otherRole => 1
  | .inPlace => 2
  | .refused (.ownedElsewhere _) => 3
  | .refused (.full _) => 4
  | .stale => 5
  | .granted => 6

/-- The order in which reasons count when an object asks to become the primary member. -/
def promotionRank : Verdict k → Nat
  | .inPlace => 0
  | .refused (.unknown _) => 1
  | .refused .otherRole => 2
  | .refused (.ownedElsewhere _) => 3
  | .refused (.full _) => 4
  | .stale => 5
  | .granted => 6

end Verdict

theorem Slots.record?_eq_none_iff {k : HandleKind} {α : Type} {slots : Slots k α} {id : Handle k} :
    slots.record? id = none ↔ slots.size ≤ id.index := by
  rw [record?, Option.map_eq_none_iff, Arena.find?_eq_none_iff]

theorem Slots.owner?_of_record? {k : HandleKind} {α : Type} {slots : Slots k α} {id : Handle k}
    {owner : Option SimulationId} (h : slots.record? id = some owner) :
    slots.owner? id = owner := by
  rw [owner?, h]
  rfl

namespace Roster

variable {k : HandleKind} {α : Type}

/-- The reasons for what comes of `id` asking to join the others of simulation `sim`, which takes
`capacity` of them, whichever others there are. -/
def AdmissionGround (r : Roster k) (sim : SimulationId) (capacity : Nat) (slots : Slots k α)
    (id : Handle k) : Verdict k → Prop
  | .refused (.unknown h) => h = id ∧ slots.size ≤ id.index
  | .refused .otherRole => r.primary = some id
  | .inPlace => id ∈ r.others
  | .refused (.ownedElsewhere o) => slots.owner? id = some o ∧ o ≠ sim
  | .refused (.full c) => c = capacity ∧ capacity ≤ r.others.length
  | .stale => slots.owner? id = some sim
  | .granted => slots.owner? id = none

/-- The reasons for what comes of `id` asking to become the primary member of simulation `sim`.
However many others there are, that is none. -/
def PromotionGround (r : Roster k) (sim : SimulationId) (slots : Slots k α) (id : Handle k) :
    Verdict k → Prop
  | .inPlace => r.primary = some id
  | .refused (.unknown h) => h = id ∧ slots.size ≤ id.index
  | .refused .otherRole => id ∈ r.others
  | .refused (.ownedElsewhere o) => slots.owner? id = some o ∧ o ≠ sim
  | .refused (.full _) => False
  | .stale => slots.owner? id = some sim
  | .granted => slots.owner? id = none

variable {r : Roster k} {sim : SimulationId} {capacity : Nat} {slots : Slots k α} {id : Handle k}
  {v v' : Verdict k}

/-! ### The verdict is the one that prevails -/

theorem prevails_admission (r : Roster k) (sim : SimulationId) (capacity : Nat)
    (slots : Slots k α) (id : Handle k) :
    Verdict.Prevails Verdict.admissionRank (r.AdmissionGround sim capacity slots id)
      (r.admission sim capacity (slots.record? id) id) := by
  have hrange : slots.record? id = none ↔ slots.size ≤ id.index := Slots.record?_eq_none_iff
  have howner : ∀ owner, slots.record? id = some owner → slots.owner? id = owner :=
    fun _ => Slots.owner?_of_record?
  constructor
  · simp only [admission]
    grind [AdmissionGround]
  · intro v' hv'
    simp only [admission]
    cases v' with
    | refused why => cases why <;> grind [AdmissionGround, Verdict.admissionRank]
    | inPlace | stale | granted => grind [AdmissionGround, Verdict.admissionRank]

theorem prevails_promotion (r : Roster k) (sim : SimulationId) (slots : Slots k α)
    (id : Handle k) :
    Verdict.Prevails Verdict.promotionRank (r.PromotionGround sim slots id)
      (r.promotion sim (slots.record? id) id) := by
  have hrange : slots.record? id = none ↔ slots.size ≤ id.index := Slots.record?_eq_none_iff
  have howner : ∀ owner, slots.record? id = some owner → slots.owner? id = owner :=
    fun _ => Slots.owner?_of_record?
  constructor
  · simp only [promotion]
    grind [PromotionGround]
  · intro v' hv'
    simp only [promotion]
    cases v' with
    | refused why => cases why <;> grind [PromotionGround, Verdict.promotionRank]
    | inPlace | stale | granted => grind [PromotionGround, Verdict.promotionRank]

/-- Reasons of the same rank are reasons for the same verdict. -/
theorem eq_of_admissionRank_eq (hv : r.AdmissionGround sim capacity slots id v)
    (hv' : r.AdmissionGround sim capacity slots id v')
    (hrank : v.admissionRank = v'.admissionRank) : v = v' := by
  rcases v with (_ | _ | _ | _) | _ | _ | _ <;> rcases v' with (_ | _ | _ | _) | _ | _ | _ <;>
    grind [AdmissionGround, Verdict.admissionRank]

theorem eq_of_promotionRank_eq (hv : r.PromotionGround sim slots id v)
    (hv' : r.PromotionGround sim slots id v') (hrank : v.promotionRank = v'.promotionRank) :
    v = v' := by
  rcases v with (_ | _ | _ | _) | _ | _ | _ <;> rcases v' with (_ | _ | _ | _) | _ | _ | _ <;>
    grind [PromotionGround, Verdict.promotionRank]

/-- **What comes of asking to join the others** is the one verdict that prevails. -/
theorem admission_eq_iff : r.admission sim capacity (slots.record? id) id = v ↔
    Verdict.Prevails Verdict.admissionRank (r.AdmissionGround sim capacity slots id) v := by
  have hprevails := r.prevails_admission sim capacity slots id
  exact ⟨fun h => h ▸ hprevails, fun h => hprevails.unique h eq_of_admissionRank_eq⟩

/-- **What comes of asking to become the primary member** is the one verdict that prevails. -/
theorem promotion_eq_iff : r.promotion sim (slots.record? id) id = v ↔
    Verdict.Prevails Verdict.promotionRank (r.PromotionGround sim slots id) v := by
  have hprevails := r.prevails_promotion sim slots id
  exact ⟨fun h => h ▸ hprevails, fun h => hprevails.unique h eq_of_promotionRank_eq⟩

end Roster

/-! ### The answers -/

namespace Simulation

variable {K : Type} {s : Simulation K} {w : World K}

/-- The answer to a request of `id`, when one of the verdicts prevails.  A refusal tells the reason,
and it changes nothing; neither does a request for what is so already.  An object that is taken in
has the place it asked for. -/
structure Answers {k : HandleKind} (s : Simulation K) (w : World K) (id : Handle k)
    (Prevailing : Verdict k → Prop) (Joined : Simulation K → World K → Prop)
    (answer : Except Violation (Outcome k K)) : Prop where
  atomic : ∀ why s' w', answer = .ok ⟨some why, s', w'⟩ → s' = s ∧ w' = w
  refused : ∀ why, answer = .ok ⟨some why, s, w⟩ ↔ Prevailing (.refused why)
  inPlace : answer = .ok ⟨none, s, w⟩ ↔ Prevailing .inPlace
  stale : ∀ v, answer = .error v ↔ Prevailing .stale ∧ v = .staleOwner k id
  granted : (∃ s' w', answer = .ok ⟨none, s', w'⟩ ∧ (s', w') ≠ (s, w) ∧ Joined s' w') ↔
    Prevailing .granted

/-- A request that is answered along a verdict is answered along the one that prevails. -/
theorem Answers.of_verdict {k : HandleKind} {id : Handle k} {verdict : Verdict k}
    {Prevailing : Verdict k → Prop} {Joined : Simulation K → World K → Prop}
    {answer : Except Violation (Outcome k K)} (hverdict : ∀ v, verdict = v ↔ Prevailing v)
    (hrefused : ∀ why, verdict = .refused why → answer = .ok ⟨some why, s, w⟩)
    (hplace : verdict = .inPlace → answer = .ok ⟨none, s, w⟩)
    (hstale : verdict = .stale → answer = .error (.staleOwner k id))
    (hgranted : verdict = .granted → ∃ s' w', answer = .ok ⟨none, s', w'⟩ ∧ Joined s' w')
    (hnew : verdict = .granted → ¬ Joined s w) :
    s.Answers w id Prevailing Joined answer := by
  obtain rfl : Prevailing = fun v => verdict = v := funext fun v => propext (hverdict v).symm
  cases verdict with
  | refused why =>
    rw [hrefused why rfl]
    exact ⟨fun _ _ _ h => by cases h; exact ⟨rfl, rfl⟩, by simp, by simp, by simp, by simp⟩
  | inPlace =>
    rw [hplace rfl]
    refine ⟨by simp, by simp, by simp, by simp, ?_⟩
    simp only [reduceCtorEq, iff_false]
    rintro ⟨s', w', hsame, hchanged, -⟩
    cases hsame
    exact hchanged rfl
  | stale =>
    rw [hstale rfl]
    refine ⟨by simp, by simp, by simp, fun v => ?_, by simp⟩
    simp [eq_comm]
  | granted =>
    obtain ⟨s', w', hanswer, hjoined⟩ := hgranted rfl
    have hchanged : (s', w') ≠ (s, w) := by
      intro hsame
      cases hsame
      exact hnew rfl hjoined
    rw [hanswer]
    refine ⟨by simp, by simp, ?_, by simp, ?_⟩
    · simp only [reduceCtorEq, iff_false]
      intro hsame
      cases hsame
      exact hchanged rfl
    · exact ⟨fun _ => rfl, fun _ => ⟨s', w', rfl, hchanged, hjoined⟩⟩

/-- A refusal tells a reason that prevails. -/
theorem Answers.prevailing {k : HandleKind} {id : Handle k} {Prevailing : Verdict k → Prop}
    {Joined : Simulation K → World K → Prop} {answer : Except Violation (Outcome k K)}
    (h : s.Answers w id Prevailing Joined answer) {o : Outcome k K} {why : Refusal k}
    (ho : answer = .ok o) (hwhy : o.refusal = some why) : Prevailing (.refused why) := by
  obtain ⟨refusal, s', w'⟩ := o
  obtain rfl : refusal = some why := hwhy
  obtain ⟨rfl, rfl⟩ := h.atomic why s' w' ho
  exact (h.refused why).1 ho

theorem answers_admitEntity (s : Simulation K) (w : World K) (id : EntityId) :
    s.Answers w id
      (Verdict.Prevails Verdict.admissionRank
        (s.entities.AdmissionGround s.id s.config.maxEntities w.entities id))
      (fun s' w' => id ∈ s'.entities.others ∧ w'.entities.owner? id = some s.id)
      (s.admitEntity w id) := by
  refine .of_verdict (fun _ => Roster.admission_eq_iff) (fun why h => ?_) (fun h => ?_)
    (fun h => ?_) (fun h => ?_) (fun h hjoined => ?_)
  · rw [admitEntity, h]
  · rw [admitEntity, h]
  · rw [admitEntity, h]
  · have hrec := (Roster.admission_eq_granted_iff.1 h).1
    refine ⟨_, _, by rw [admitEntity, h], List.mem_append_right _ (List.mem_singleton_self id), ?_⟩
    rw [Slots.owner?_claim (by simp [hrec]), if_pos rfl]
  · have hnot := (Roster.admission_eq_granted_iff.1 h).2.1
    exact (Roster.contains_eq_false_iff.1 hnot).2 hjoined.1

theorem answers_setEntity (s : Simulation K) (w : World K) (id : EntityId) :
    s.Answers w id
      (Verdict.Prevails Verdict.promotionRank (s.entities.PromotionGround s.id w.entities id))
      (fun s' w' => s'.entities.primary = some id ∧ w'.entities.owner? id = some s.id)
      (s.setEntity w (some id)) := by
  refine .of_verdict (fun _ => Roster.promotion_eq_iff) (fun why h => ?_) (fun h => ?_)
    (fun h => ?_) (fun h => ?_) (fun h hjoined => ?_)
  · rw [setEntity, promoteEntity, h]
  · rw [setEntity, promoteEntity, h]
  · rw [setEntity, promoteEntity, h]
  · have hrec := (unseatEntity_granted h).2.2
    refine ⟨_, _, by rw [setEntity, promoteEntity, h], rfl, ?_⟩
    rw [Slots.owner?_claim (by simp [hrec]), if_pos rfl]
  · have hnot := (Roster.promotion_eq_granted_iff.1 h).2
    exact (Roster.contains_eq_false_iff.1 hnot).1 hjoined.1

theorem answers_setRagdoll (s : Simulation K) (w : World K) (id : RagdollId) :
    s.Answers w id
      (Verdict.Prevails Verdict.promotionRank (s.ragdolls.PromotionGround s.id w.ragdolls id))
      (fun s' w' => s'.ragdolls.primary = some id ∧ w'.ragdolls.owner? id = some s.id)
      (s.setRagdoll w (some id)) := by
  refine .of_verdict (fun _ => Roster.promotion_eq_iff) (fun why h => ?_) (fun h => ?_)
    (fun h => ?_) (fun h => ?_) (fun h hjoined => ?_)
  · rw [setRagdoll, promoteRagdoll, h]
  · rw [setRagdoll, promoteRagdoll, h]
  · rw [setRagdoll, promoteRagdoll, h]
  · have hrec := (unseatRagdoll_granted h).2.2
    refine ⟨_, _, by rw [setRagdoll, promoteRagdoll, h], rfl, ?_⟩
    rw [Slots.owner?_claim (by simp [hrec]), if_pos rfl]
  · have hnot := (Roster.promotion_eq_granted_iff.1 h).2
    exact (Roster.contains_eq_false_iff.1 hnot).1 hjoined.1

variable [Scalar K]

theorem answers_admitRagdoll (s : Simulation K) (w : World K) (id : RagdollId) :
    s.Answers w id
      (Verdict.Prevails Verdict.admissionRank
        (s.ragdolls.AdmissionGround s.id s.config.maxRagdolls w.ragdolls id))
      (fun s' w' => id ∈ s'.ragdolls.others ∧ w'.ragdolls.owner? id = some s.id)
      (s.admitRagdoll w id) := by
  refine .of_verdict (fun _ => Roster.admission_eq_iff) (fun why h => ?_) (fun h => ?_)
    (fun h => ?_) (fun h => ?_) (fun h hjoined => ?_)
  · rw [admitRagdoll, h]
  · rw [admitRagdoll, h]
  · rw [admitRagdoll, h]
  · have hrec := (Roster.admission_eq_granted_iff.1 h).1
    refine ⟨_, _, by rw [admitRagdoll, h], List.mem_append_right _ (List.mem_singleton_self id), ?_⟩
    -- the mass scale that it takes is no matter of who owns it
    have halike : World.Alike _ (World.rescaleRagdoll { w with ragdolls := w.ragdolls.claim id s.id }
      s.config.otherMassScale id) := World.alike_actRagdoll _ id _
    rw [Slots.owner?, halike.ragdollRecord, ← Slots.owner?, Slots.owner?_claim (by simp [hrec]),
      if_pos rfl]
  · have hnot := (Roster.admission_eq_granted_iff.1 h).2.1
    exact (Roster.contains_eq_false_iff.1 hnot).2 hjoined.1

/-- **How requests are answered.**  In every state of a simulation and a world, whether or not they
agree on who is a member, a request to join gets the answer whose reason counts first.  Unless the
object is taken in, simulation and world stay exactly as they are.  Asking for the primary place is
never refused for lack of room, and giving it up is never refused at all. -/
theorem requests_answered (s : Simulation K) (w : World K) :
    (∀ id, s.Answers w id
      (Verdict.Prevails Verdict.admissionRank
        (s.entities.AdmissionGround s.id s.config.maxEntities w.entities id))
      (fun s' w' => id ∈ s'.entities.others ∧ w'.entities.owner? id = some s.id)
      (s.admitEntity w id)) ∧
    (∀ id, s.Answers w id
      (Verdict.Prevails Verdict.admissionRank
        (s.ragdolls.AdmissionGround s.id s.config.maxRagdolls w.ragdolls id))
      (fun s' w' => id ∈ s'.ragdolls.others ∧ w'.ragdolls.owner? id = some s.id)
      (s.admitRagdoll w id)) ∧
    (∀ id, s.Answers w id
      (Verdict.Prevails Verdict.promotionRank (s.entities.PromotionGround s.id w.entities id))
      (fun s' w' => s'.entities.primary = some id ∧ w'.entities.owner? id = some s.id)
      (s.setEntity w (some id))) ∧
    (∀ id, s.Answers w id
      (Verdict.Prevails Verdict.promotionRank (s.ragdolls.PromotionGround s.id w.ragdolls id))
      (fun s' w' => s'.ragdolls.primary = some id ∧ w'.ragdolls.owner? id = some s.id)
      (s.setRagdoll w (some id))) ∧
    (∀ id c o, s.setEntity w id = .ok o → o.refusal ≠ some (.full c)) ∧
    (∀ id c o, s.setRagdoll w id = .ok o → o.refusal ≠ some (.full c)) ∧
    (∃ s' w', s.setEntity w none = .ok ⟨none, s', w'⟩) ∧
    ∃ s' w', s.setRagdoll w none = .ok ⟨none, s', w'⟩ := by
  refine ⟨s.answers_admitEntity w, s.answers_admitRagdoll w, s.answers_setEntity w,
    s.answers_setRagdoll w, ?_, ?_, ⟨_, _, rfl⟩, ⟨_, _, rfl⟩⟩
  · intro id c o ho hfull
    cases id with
    | none => exact nomatch Except.ok.inj ho ▸ hfull
    | some id => exact ((s.answers_setEntity w id).prevailing ho hfull).1
  · intro id c o ho hfull
    cases id with
    | none => exact nomatch Except.ok.inj ho ▸ hfull
    | some id => exact ((s.answers_setRagdoll w id).prevailing ho hfull).1

end Simulation

end RagdollDynamics
