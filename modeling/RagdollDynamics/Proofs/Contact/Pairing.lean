import RagdollDynamics.Proofs.Contact.Removal

/-!
# Contacts and their pairs

Whatever a simulation is asked for, with whichever worlds, each of its contacts stands under the key
of its pair, the lower handle first, and no pair has two contacts (`ContactTable.Ordered`).  So the
collisions of a pair renew its one contact in whichever order they name the two shapes, and no
contact is ever renewed from a collision of another pair (`Simulation.contacts_ordered`).
-/

namespace RagdollDynamics

variable {K : Type}

/-! ### Pairs in order -/

/-- The collision is not one of a shape with itself. -/
def Collision.Proper (c : Collision K) : Prop := ∀ b, c.second = some b → c.first ≠ b

theorem Contact.lower_lt_upper_of_start? [Scalar K] {hit : Collision K} {frame : UInt32}
    {shapes : Shapes K} {allowance : K} {c : Contact K} (hproper : hit.Proper)
    (h : start? hit frame shapes allowance = some c) : c.lower.raw < c.upper.raw := by
  obtain ⟨b, hb, h⟩ := Option.bind_eq_some_iff.1 h
  obtain ⟨-, -, h⟩ := Option.bind_eq_some_iff.1 h
  obtain ⟨-, -, rfl⟩ := Option.map_eq_some_iff.1 h
  have houtline := outline_anchor (c := blank hit.first b frame allowance) hit shapes
  simp only [outline, Prod.mk.injEq] at houtline
  rw [houtline.1, houtline.2.1, blank]
  have hne := Handle.raw_ne (hproper b hb)
  by_cases hlt : b.raw < hit.first.raw
  · simpa only [if_pos hlt] using hlt
  · simpa only [if_neg hlt] using UInt32.lt_of_le_of_ne (UInt32.not_lt.1 hlt) hne

namespace ContactTable

variable {t t' : ContactTable K} {hit : Collision K} {frame : UInt32} {allowance : K}
  {shapes : Shapes K}

/-- Every contact stands under the key of its pair, the lower handle first, and no key occurs
twice. -/
structure Ordered (t : ContactTable K) : Prop extends t.Keyed where
  lower_lt_upper : ∀ e ∈ t.entries, e.2.lower.raw < e.2.upper.raw

theorem ordered_empty : (empty : ContactTable K).Ordered :=
  ⟨⟨List.nodup_nil, fun _ he => nomatch he⟩, fun _ he => nomatch he⟩

theorem Ordered.congr (ht : t.Ordered) (h : t'.outline = t.outline) : t'.Ordered := by
  refine ⟨ht.toKeyed.congr h, fun e he => ?_⟩
  obtain ⟨e₀, he₀, -, hout⟩ := exists_of_outline_eq h he
  simp only [Contact.outline, Prod.mk.injEq] at hout
  rw [← hout.1, ← hout.2.1]
  exact ht.lower_lt_upper e₀ he₀

theorem Ordered.keep (ht : t.Ordered) (p : Contact K → Bool) : (t.keep p).Ordered :=
  ⟨ht.toKeyed.keep p, fun e he => ht.lower_lt_upper e (List.mem_filter.1 he).1⟩

/-- No two contacts of a table are of the same pair. -/
theorem Keyed.pairwise (ht : t.Keyed) : t.toList.Pairwise fun c d => ¬ d.Joins c.lower c.upper := by
  have hkeys : t.entries.Pairwise fun e e' => e.1 ≠ e'.1 := List.pairwise_map.1 ht.nodup
  refine List.pairwise_map.2 (hkeys.imp_of_mem fun {e e'} he he' hne hjoins => hne ?_)
  rw [ht.key_eq e he, ht.key_eq e' he']
  exact (ShapePair.of_eq_of_iff.2 hjoins).symm

variable [Scalar K]

theorem Ordered.note (ht : t.Ordered) (hproper : hit.Proper) :
    (t.note frame allowance shapes hit).Ordered := by
  refine ⟨ht.toKeyed.note, ?_⟩
  unfold ContactTable.note
  split
  next => exact ht.lower_lt_upper
  next key hkey =>
    intro e he
    rcases mem_upsert he with he | ⟨e₀, he₀, rfl⟩ | ⟨c, hc, rfl⟩
    · exact ht.lower_lt_upper e he
    · have hout := Contact.outline_renew (c := e₀.2) hit frame shapes
      simp only [Contact.outline, Prod.mk.injEq] at hout
      rw [hout.1, hout.2.1]
      exact ht.lower_lt_upper e₀ he₀
    · exact Contact.lower_lt_upper_of_start? hproper hc

theorem Ordered.noteAll {hits : List (Collision K)} (ht : t.Ordered)
    (hproper : ∀ hit ∈ hits, hit.Proper) : (t.noteAll frame allowance shapes hits).Ordered :=
  List.foldlRecOn (motive := fun t : ContactTable K => t.Ordered) hits _ ht
    fun _ h hit hmem => h.note (hproper hit hmem)

/-! ### What is renewed -/

/-- A collision of a contact's pair renews that contact and starts no other one. -/
theorem Keyed.note_renews (ht : t.Keyed) {c : Contact K} (hc : c ∈ t.toList)
    (hjoins : hit.Joins c.lower c.upper) :
    (t.note frame allowance shapes hit).find? (.of c.lower c.upper) =
        some (c.renew hit frame shapes) ∧
      (t.note frame allowance shapes hit).size = t.size := by
  have hfind : t.find? (.of c.lower c.upper) = some c :=
    ht.find?_eq_some_iff.2 ⟨hc, .inl ⟨rfl, rfl⟩⟩
  have hkey : hit.key? = some (.of c.lower c.upper) := Collision.key?_eq_some_iff.2 hjoins
  rw [ContactTable.note, hkey]
  refine ⟨?_, ?_⟩
  · rw [find?, lookup_upsert, if_pos rfl, ← find?, hfind]
    rfl
  · -- the key occurs, so nothing is appended
    have hmem : ShapePair.of c.lower c.upper ∈ t.entries.map Prod.fst :=
      List.mem_map.2 ⟨_, (lookup_eq_some_iff_mem ht.nodup).1 hfind, rfl⟩
    simp only [size]
    generalize ShapePair.of c.lower c.upper = key at hmem
    generalize t.entries = l at hmem
    induction l with
    | nil => cases hmem
    | cons e l ih =>
      rw [upsert]
      split
      next => rfl
      next hne =>
        have hrest := (List.mem_cons.1 hmem).resolve_left fun he => hne he.symm
        rw [List.length_cons, List.length_cons, ih hrest]

/-- The contacts that noting collisions one after the other renews, each with its collision. -/
def renewals (t : ContactTable K) (frame : UInt32) (allowance : K) (shapes : Shapes K) :
    List (Collision K) → List (Contact K × Collision K)
  | [] => []
  | hit :: later =>
    ((hit.key?.bind t.find?).map fun c => (c, hit)).toList ++
      (t.note frame allowance shapes hit).renewals frame allowance shapes later

/-- Contacts are only renewed from collisions of their own pair. -/
theorem Keyed.joins_of_mem_renewals {hits : List (Collision K)} (ht : t.Keyed)
    {r : Contact K × Collision K} (h : r ∈ t.renewals frame allowance shapes hits) :
    r.2.Joins r.1.lower r.1.upper := by
  induction hits generalizing t with
  | nil => cases h
  | cons hit later ih =>
    rcases List.mem_append.1 h with h | h
    · obtain ⟨c, hc, rfl⟩ := Option.map_eq_some_iff.1 (Option.mem_toList.1 h)
      obtain ⟨key, hkey, hfind⟩ := Option.bind_eq_some_iff.1 hc
      have hown := ht.key_eq _ ((lookup_eq_some_iff_mem ht.nodup).1 hfind)
      exact Collision.key?_eq_some_iff.1 (hkey.trans (congrArg some hown))
    · exact ih ht.note h

end ContactTable

/-! ### Simulations -/

namespace Simulation

variable [Scalar K] {s s' : Simulation K} {w w' : World K}

/-- The contacts are in order, and no collision of the last detection is one of a shape with
itself. -/
structure Orderly (s : Simulation K) : Prop where
  contacts : s.contacts.Ordered
  collisions : ∀ hit ∈ s.collisions.toList, hit.Proper

theorem proper_of_mem_detect {hit : Collision K} (h : hit ∈ (s.detect w).2.collisions.toList) :
    hit.Proper := by
  obtain ⟨b, hb, hne, -⟩ := faces_of_mem_detect h
  intro b' hb'
  exact Option.some.inj (hb.symm.trans hb') ▸ hne

theorem proper_of_mem_step {hit : Collision K} {order : StepOrder K}
    (h : hit ∈ (s.step w order).2.1.collisions.toList) : hit.Proper := by
  obtain ⟨n, -, -, -, -, -, -, -, -, hsim⟩ := step_spec s w order
  rw [hsim] at h
  exact proper_of_mem_detect h

theorem ordered_beforeStepPass (hs : s.contacts.Ordered) (dt : K) (k : Nat) :
    (s.beforeStepPass w dt k).1.contacts.Ordered := by
  induction k with
  | zero => exact hs.congr (s.outline_begin dt w)
  | succ k ih =>
    refine (ih.noteAll fun hit hmem => ?_).congr (outline_pass _ _)
    exact proper_of_mem_detect hmem

theorem ordered_step (hs : s.contacts.Ordered) (w : World K) (order : StepOrder K) :
    (s.step w order).2.1.contacts.Ordered := by
  rw [sim_step]
  exact ContactTable.Ordered.keep (ordered_beforeStepPass hs order.dt _) fun c =>
    (s.beforeStepPass w order.dt _).1.frame - c.frame ≤
      (s.beforeStepPass w order.dt _).1.config.contactLifetime

theorem Orderly.perform {c : Command K} (hs : s.Orderly) (h : s.perform w c = .ok (s', w')) :
    s'.Orderly := by
  refine ⟨?_, ?_⟩
  · by_cases hnote : c = .noteContacts
    · subst hnote
      obtain ⟨rfl, rfl⟩ := Prod.ext_iff.1 (Except.ok.inj h)
      exact hs.contacts.noteAll hs.collisions
    by_cases hstep : ∃ order, c = .step order
    · obtain ⟨order, rfl⟩ := hstep
      obtain ⟨rfl, rfl⟩ := Prod.ext_iff.1 (Except.ok.inj h)
      exact ordered_step hs.contacts w order
    · rw [not_exists] at hstep
      exact (hs.contacts.keep _).congr (contacts_perform h hnote hstep).2
  · cases hc : c.renews with
    | false =>
      rw [collisions_perform h hc]
      exact hs.collisions
    | true =>
      cases c with
      | detect =>
        obtain ⟨rfl, rfl⟩ := Prod.ext_iff.1 (Except.ok.inj h)
        exact fun hit hmem => proper_of_mem_detect hmem
      | disband =>
        obtain ⟨rfl, rfl⟩ := Prod.ext_iff.1 (Except.ok.inj h)
        exact fun hit hmem => nomatch hmem
      | step order =>
        obtain ⟨rfl, rfl⟩ := Prod.ext_iff.1 (Except.ok.inj h)
        exact fun hit hmem => proper_of_mem_step hmem
      | _ => cases hc

/-- The contacts that a command renews, each with its collision.  A step notes the collisions of
each of its passes. -/
def renewals (s : Simulation K) (w : World K) : Command K → List (Contact K × Collision K)
  | .noteContacts =>
    s.contacts.renewals s.frame s.config.contactAllowance w.shapes s.collisions.toList
  | .step order =>
    (List.range (s.step w order).1.passes).flatMap fun k =>
      let before := s.beforeStepPass w order.dt k
      let found := (before.1.detect before.2).2
      found.contacts.renewals found.frame found.config.contactAllowance before.2.shapes
        found.collisions.toList
  | _ => []

theorem joins_of_mem_renewals {c : Command K} (hs : s.contacts.Keyed)
    {r : Contact K × Collision K} (h : r ∈ s.renewals w c) : r.2.Joins r.1.lower r.1.upper := by
  cases c with
  | noteContacts => exact hs.joins_of_mem_renewals h
  | step order =>
    obtain ⟨k, -, h⟩ := List.mem_flatMap.1 h
    have hk : (s.beforeStepPass w order.dt k).1.contacts.Keyed := keyed_beforeStepPass hs order.dt k
    exact hk.joins_of_mem_renewals h
  | _ => cases h

def actWith (s : Simulation K) (e : World K × Command K) : Except Violation (Simulation K) :=
  (s.perform e.1 e.2).map Prod.fst

theorem Orderly.actWith {e : World K × Command K} (hs : s.Orderly) (h : s.actWith e = .ok s') :
    s'.Orderly := by
  unfold Simulation.actWith at h
  cases hp : s.perform e.1 e.2 with
  | error v =>
    rw [hp] at h
    exact nomatch h
  | ok after =>
    rw [hp] at h
    exact Except.ok.inj h ▸ hs.perform hp

/-- **Contacts and their pairs.**  Whatever a simulation was asked for, with whichever worlds, every
contact has two different shapes, the lower one first, and stands under the key of its pair.  Keys
are the same exactly for the same two shapes, so no pair has two contacts; a collision of a
contact's pair renews that contact, in whichever order it names the shapes; and whatever is asked
next, contacts are renewed from collisions of their own pair only. -/
theorem contacts_ordered (id : SimulationId) (config : Config K) (clock : Clock)
    (past : List (World K × Command K)) (s : Simulation K)
    (h : outcome actWith (fresh id config clock) past = .ok s) :
    (∀ e ∈ s.contacts.entries,
      e.2.lower.raw < e.2.upper.raw ∧ e.1 = .of e.2.lower e.2.upper) ∧
    (∀ a b c d, ShapePair.of a b = .of c d ↔ (a = c ∧ b = d) ∨ (a = d ∧ b = c)) ∧
    (s.contacts.toList.Pairwise fun c d => ¬ d.Joins c.lower c.upper) ∧
    (∀ c ∈ s.contacts.toList, ∀ hit, hit.Joins c.lower c.upper → ∀ frame allowance shapes,
      (s.contacts.note frame allowance shapes hit).find? (.of c.lower c.upper) =
          some (c.renew hit frame shapes) ∧
        (s.contacts.note frame allowance shapes hit).size = s.contacts.size) ∧
    ∀ w c, ∀ r ∈ s.renewals w c, r.2.Joins r.1.lower r.1.upper := by
  have hs : s.Orderly := outcome_invariant (P := Orderly)
    ⟨ContactTable.ordered_empty, fun _ hmem => absurd hmem List.not_mem_nil⟩
    (fun _ _ _ hs h => hs.actWith h) h
  exact ⟨fun e he => ⟨hs.contacts.lower_lt_upper e he, hs.contacts.key_eq e he⟩,
    fun _ _ _ _ => ShapePair.of_eq_of_iff, hs.contacts.toKeyed.pairwise,
    fun c hc hit hjoins _ _ _ => hs.contacts.toKeyed.note_renews hc hjoins,
    fun w c r hr => joins_of_mem_renewals hs.contacts.toKeyed hr⟩

/-- The pair of balls collides with the second ball as the primary entity, and a step in a world
without objects follows. -/
def errands : List (World Float32 × Command Float32) :=
  [(.empty, .step ⟨0.01, 0, 1, 0⟩), (pair, .noteContacts), (pair, .detect),
    (pair, .admitEntity ⟨0⟩), (pair, .setEntity (some ⟨1⟩))]

/-- The next step finds the collision that names the second ball first, and renews the contact that
names it second. -/
theorem contacts_ordered_of_errands : ∃ s e r,
    outcome actWith (fresh ⟨1⟩ .standard (.still 0)) errands = .ok s ∧
      e ∈ s.contacts.entries ∧ e.2.lower.raw < e.2.upper.raw ∧
      r ∈ s.renewals pair (.step ⟨0.01, 0, 1, 0⟩) ∧ r.2.first = ⟨1⟩ ∧
      r.2.Joins r.1.lower r.1.upper := by
  have hrun : (outcome actWith (fresh ⟨1⟩ .standard (.still 0)) errands).toOption.any (fun s =>
      !s.contacts.entries.isEmpty &&
        (s.renewals pair (.step ⟨0.01, 0, 1, 0⟩)).any fun r => r.2.first = ⟨1⟩) = true := by
    decide +kernel
  cases h : outcome actWith (fresh ⟨1⟩ .standard (.still 0)) errands with
  | error v => simp [h, Except.toOption] at hrun
  | ok s =>
    simp only [h, Except.toOption, Option.any_some, Bool.and_eq_true, Bool.not_eq_true',
      List.isEmpty_eq_false_iff, List.any_eq_true, decide_eq_true_eq] at hrun
    obtain ⟨hfull, r, hr, hfirst⟩ := hrun
    obtain ⟨e, he⟩ := List.exists_mem_of_ne_nil _ hfull
    obtain ⟨hordered, -, -, -, hrenewed⟩ := contacts_ordered _ _ _ errands s h
    exact ⟨s, e, r, rfl, he, (hordered e he).1, hr, hfirst, hrenewed _ _ r hr⟩

end Simulation

end RagdollDynamics
