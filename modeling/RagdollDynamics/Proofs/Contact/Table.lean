import RagdollDynamics.Contact.Table

/-!
# What contact tables remember

The outline of a contact, its pair and its frame, decides how long the contact lives and whom it
concerns.  Pushing and rubbing leave every outline alone; noting a collision renews the outline of
its pair or appends one; and a table keeps each pair under its own key, once (`ContactTable.Keyed`).
-/

namespace RagdollDynamics

/-! ### Pairs -/

namespace ShapePair

variable {a b c d : ShapeId}

theorem toNat_raw_ofOrdered (a b : ShapeId) :
    (ofOrdered a b).raw.toNat = a.raw.toNat * UInt32.size + b.raw.toNat := by
  have ha : a.raw.toNat < UInt32.size := a.raw.toNat_lt_size
  have hb : b.raw.toNat < UInt32.size := b.raw.toNat_lt_size
  have hsize : UInt32.size * UInt32.size = UInt64.size := rfl
  have hfits : a.raw.toNat <<< 32 < UInt64.size := by
    rw [← hsize, Nat.shiftLeft_eq]
    exact Nat.mul_lt_mul_of_lt_of_le ha (Nat.le_refl _) (by decide)
  calc (ofOrdered a b).raw.toNat
      = a.raw.toNat <<< 32 % UInt64.size ||| b.raw.toNat := by
        simp [ofOrdered, UInt64.toNat_or, UInt64.toNat_shiftLeft]
    _ = a.raw.toNat <<< 32 + b.raw.toNat := by
        rw [Nat.mod_eq_of_lt hfits, Nat.shiftLeft_add_eq_or_of_lt hb]
    _ = a.raw.toNat * UInt32.size + b.raw.toNat := by
        rw [Nat.shiftLeft_eq]

theorem ofOrdered_inj : ofOrdered a b = ofOrdered c d ↔ a = c ∧ b = d := by
  constructor
  · intro h
    have hsize : UInt32.size = 4294967296 := rfl
    have hraw := toNat_raw_ofOrdered a b
    rw [h, toNat_raw_ofOrdered, hsize] at hraw
    have hb := b.raw.toNat_lt
    have hd := d.raw.toNat_lt
    exact ⟨Handle.index_inj.1 (show a.raw.toNat = c.raw.toNat by omega),
      Handle.index_inj.1 (show b.raw.toNat = d.raw.toNat by omega)⟩
  · rintro ⟨rfl, rfl⟩
    rfl

theorem of_comm (a b : ShapeId) : of a b = of b a := by
  unfold of
  split <;> split
  next h h' => exact absurd h (UInt32.lt_asymm h')
  · rfl
  · rfl
  next h h' =>
    have hab : a.raw = b.raw := UInt32.le_antisymm (UInt32.not_lt.1 h') (UInt32.not_lt.1 h)
    rw [Handle.index_inj.1 (congrArg UInt32.toNat hab)]

/-- The key of a pair names its two shapes, up to their order. -/
theorem of_eq_of_iff : of a b = of c d ↔ (a = c ∧ b = d) ∨ (a = d ∧ b = c) := by
  constructor
  · intro h
    unfold of at h
    split at h <;> split at h <;> rw [ofOrdered_inj] at h
    · exact .inl h
    · exact .inr h
    · exact .inr ⟨h.2, h.1⟩
    · exact .inl ⟨h.2, h.1⟩
  · rintro (⟨rfl, rfl⟩ | ⟨rfl, rfl⟩)
    · rfl
    · exact of_comm a b

end ShapePair

/-! ### One contact -/

variable {K : Type}

/-- The contact is about two shapes, in whichever order they are given. -/
def Contact.Joins (c : Contact K) (a b : ShapeId) : Prop :=
  (c.lower = a ∧ c.upper = b) ∨ (c.lower = b ∧ c.upper = a)

/-- The collision is one of two shapes, in whichever order they are given. -/
def Collision.Joins (c : Collision K) (a b : ShapeId) : Prop :=
  (c.first = a ∧ c.second = some b) ∨ (c.first = b ∧ c.second = some a)

theorem Collision.Joins.symm {c : Collision K} {a b : ShapeId} (h : c.Joins a b) : c.Joins b a :=
  Or.symm h

theorem Collision.key?_eq_some_iff {c : Collision K} {a b : ShapeId} :
    c.key? = some (.of a b) ↔ c.Joins a b := by
  cases h : c.second with
  | none => simp [key?, Joins, h]
  | some d => simp [key?, Joins, h, ShapePair.of_eq_of_iff]

namespace Contact

/-- What decides how long a contact lives and whom it concerns: its shapes and its frame. -/
def outline (c : Contact K) : ShapeId × ShapeId × UInt32 := (c.lower, c.upper, c.frame)

variable {c : Contact K}

variable [Scalar K]

theorem outline_anchor (hit : Collision K) (shapes : Shapes K) :
    (c.anchor hit shapes).outline = c.outline := by
  unfold anchor
  split <;> rfl

theorem outline_renew (hit : Collision K) (frame : UInt32) (shapes : Shapes K) :
    (c.renew hit frame shapes).outline = (c.lower, c.upper, frame) :=
  outline_anchor hit shapes

/-- Enforcing a contact changes its pressure at most. -/
theorem enforce_eq (c : Contact K) (shapes : Shapes K) :
    ∃ p, (c.enforce shapes).2.1 = { c with pressure := p } := by
  unfold enforce
  split
  · exact ⟨c.pressure, rfl⟩
  split
  · exact ⟨c.pressure, rfl⟩
  · dsimp only
    split <;> exact ⟨_, rfl⟩

/-- Applying friction to a contact changes its upper anchor at most. -/
theorem rub_eq (c : Contact K) (shapes : Shapes K) :
    ∃ p, (c.rub shapes).1 = { c with upperAnchor := p } := by
  unfold rub
  split
  · exact ⟨c.upperAnchor, rfl⟩
  split
  · exact ⟨c.upperAnchor, rfl⟩
  · dsimp only
    split
    · exact ⟨c.upperAnchor, rfl⟩
    · split <;> exact ⟨_, rfl⟩

theorem outline_enforce (c : Contact K) (shapes : Shapes K) :
    (c.enforce shapes).2.1.outline = c.outline := by
  obtain ⟨p, hp⟩ := c.enforce_eq shapes
  rw [hp]
  rfl

theorem outline_rub (c : Contact K) (shapes : Shapes K) : (c.rub shapes).1.outline = c.outline := by
  obtain ⟨p, hp⟩ := c.rub_eq shapes
  rw [hp]
  rfl

theorem joins_blank (a b : ShapeId) (frame : UInt32) (allowance : K) :
    (blank a b frame allowance).Joins a b := by
  unfold blank Joins
  by_cases h : b.raw < a.raw
  · simp [h]
  · simp [h]

/-- A collision of two existing shapes starts a contact of the two. -/
theorem start?_spec {hit : Collision K} {frame : UInt32} {shapes : Shapes K} {allowance : K}
    (h : start? hit frame shapes allowance = some c) :
    c.frame = frame ∧ ∃ b, hit.second = some b ∧ c.Joins hit.first b := by
  obtain ⟨b, hb, h⟩ := Option.bind_eq_some_iff.1 h
  obtain ⟨-, -, h⟩ := Option.bind_eq_some_iff.1 h
  obtain ⟨-, -, rfl⟩ := Option.map_eq_some_iff.1 h
  have houtline := outline_anchor (c := blank hit.first b frame allowance) hit shapes
  simp only [outline, Prod.mk.injEq] at houtline
  obtain ⟨hlower, hupper, hframe⟩ := houtline
  refine ⟨hframe, b, hb, ?_⟩
  rw [Joins, hlower, hupper]
  exact joins_blank hit.first b frame allowance

theorem isSome_start? {hit : Collision K} {shapes : Shapes K} {b : ShapeId} (frame : UInt32)
    (allowance : K) (hb : hit.second = some b) (h₁ : (shapes.find? hit.first).isSome)
    (h₂ : (shapes.find? b).isSome) : (start? hit frame shapes allowance).isSome := by
  obtain ⟨s, hs⟩ := Option.isSome_iff_exists.1 h₁
  obtain ⟨t, ht⟩ := Option.isSome_iff_exists.1 h₂
  simp [start?, hb, hs, ht]

end Contact

/-! ### Tables -/

theorem lookup_cons_ite {α β : Type} [DecidableEq α] {k : α} {e : α × β} {l : List (α × β)} :
    (e :: l).lookup k = if k = e.1 then some e.2 else l.lookup k := by
  rw [List.lookup_cons]
  split
  next h => rw [if_pos (beq_iff_eq.1 h)]
  next h => rw [if_neg (beq_eq_false_iff_ne.1 h)]

/-- In a list without repeated keys, looking up finds what is there. -/
theorem lookup_eq_some_iff_mem {α β : Type} [DecidableEq α] {k : α} {v : β} {l : List (α × β)}
    (h : (l.map Prod.fst).Nodup) : l.lookup k = some v ↔ (k, v) ∈ l := by
  induction l with
  | nil => simp
  | cons e l ih =>
    rw [List.map_cons, List.nodup_cons] at h
    obtain ⟨hnot, hl⟩ := h
    rw [lookup_cons_ite, List.mem_cons]
    by_cases hk : k = e.1
    · subst hk
      have hmem : (e.1, v) ∉ l := fun hm => hnot (List.mem_map.2 ⟨_, hm, rfl⟩)
      simp [hmem, Prod.ext_iff, eq_comm]
    · have hne : (k, v) ≠ e := fun he => hk (congrArg Prod.fst he)
      simp [hk, hne, ih hl]

namespace ContactTable

variable {t t' : ContactTable K} {key : ShapePair}

/-- What is seen of the contacts, each under the key of its pair. -/
def view {β : Type} (v : Contact K → β) (t : ContactTable K) : List (ShapePair × β) :=
  t.entries.map fun e => (e.1, v e.2)

def outline (t : ContactTable K) : List (ShapePair × ShapeId × ShapeId × UInt32) :=
  t.entries.map fun e => (e.1, e.2.outline)

/-- Every contact stands under the key of its pair, and no key occurs twice. -/
structure Keyed (t : ContactTable K) : Prop where
  nodup : (t.entries.map Prod.fst).Nodup
  key_eq : ∀ e ∈ t.entries, e.1 = .of e.2.lower e.2.upper

/-- The frame in which a pair last collided, as far as the table knows. -/
def frame? (t : ContactTable K) (key : ShapePair) : Option UInt32 :=
  (t.find? key).map Contact.frame

theorem exists_of_outline_eq (h : t'.outline = t.outline) {e : ShapePair × Contact K}
    (he : e ∈ t'.entries) : ∃ e₀ ∈ t.entries, e₀.1 = e.1 ∧ e₀.2.outline = e.2.outline := by
  have hmem : (e.1, e.2.outline) ∈ t.outline := by
    rw [← h]
    exact List.mem_map.2 ⟨e, he, rfl⟩
  obtain ⟨e₀, he₀, heq⟩ := List.mem_map.1 hmem
  exact ⟨e₀, he₀, Prod.ext_iff.1 heq⟩

theorem Keyed.congr (hk : t.Keyed) (h : t'.outline = t.outline) : t'.Keyed := by
  refine ⟨?_, fun e he => ?_⟩
  · have hkeys : ∀ t : ContactTable K, t.entries.map Prod.fst = t.outline.map Prod.fst := fun t => by
      simp [outline, Function.comp_def]
    rw [hkeys, h, ← hkeys]
    exact hk.nodup
  · obtain ⟨e₀, he₀, hkey, hout⟩ := exists_of_outline_eq h he
    simp only [Contact.outline, Prod.mk.injEq] at hout
    rw [← hkey, ← hout.1, ← hout.2.1]
    exact hk.key_eq e₀ he₀

theorem lookup_view {β : Type} (v : Contact K → β) (t : ContactTable K) (key : ShapePair) :
    (t.view v).lookup key = (t.find? key).map v := by
  rw [find?, view]
  induction t.entries with
  | nil => rfl
  | cons e l ih =>
    rw [List.map_cons, List.lookup_cons, List.lookup_cons]
    split
    · rfl
    · exact ih

theorem map_find?_congr {β : Type} {v : Contact K → β} (h : t'.view v = t.view v)
    (key : ShapePair) : (t'.find? key).map v = (t.find? key).map v := by
  rw [← lookup_view, h, lookup_view]

theorem frame?_congr (h : t'.outline = t.outline) : t'.frame? key = t.frame? key := by
  have hframe : ∀ t : ContactTable K,
      t.frame? key = ((t.find? key).map Contact.outline).map fun o => o.2.2 := fun t => by
    rw [Option.map_map]
    rfl
  rw [hframe, hframe, map_find?_congr (v := Contact.outline) h]

/-- A pair's contact is the one under the pair's key. -/
theorem Keyed.find?_eq_some_iff (hk : t.Keyed) {c : Contact K} {a b : ShapeId} :
    t.find? (.of a b) = some c ↔ c ∈ t.toList ∧ c.Joins a b := by
  rw [find?, lookup_eq_some_iff_mem hk.nodup, toList]
  constructor
  · intro hmem
    exact ⟨List.mem_map.2 ⟨_, hmem, rfl⟩, ShapePair.of_eq_of_iff.1 (hk.key_eq _ hmem).symm⟩
  · rintro ⟨hmem, hjoins⟩
    obtain ⟨e, he, rfl⟩ := List.mem_map.1 hmem
    have hkey : e.1 = .of a b := (hk.key_eq e he).trans (ShapePair.of_eq_of_iff.2 hjoins)
    rw [← hkey]
    exact he

/-! ### Whom contacts concern -/

/-- Every contact joins two shapes that stand in a relation, in one order or the other. -/
def Within (t : ContactTable K) (P : ShapeId → ShapeId → Prop) : Prop :=
  ∀ c ∈ t.toList, P c.lower c.upper ∨ P c.upper c.lower

variable {P : ShapeId → ShapeId → Prop}

theorem Within.congr (ht : t.Within P) (h : t'.outline = t.outline) : t'.Within P := by
  intro c hc
  obtain ⟨e, he, rfl⟩ := List.mem_map.1 hc
  obtain ⟨e₀, he₀, -, hout⟩ := exists_of_outline_eq h he
  simp only [Contact.outline, Prod.mk.injEq] at hout
  rw [← hout.1, ← hout.2.1]
  exact ht _ (List.mem_map_of_mem he₀)

/-! ### Keeping -/

theorem mem_toList_keep {p : Contact K → Bool} {c : Contact K} :
    c ∈ (t.keep p).toList ↔ c ∈ t.toList ∧ p c = true := by
  unfold ContactTable.keep toList
  rw [List.mem_map, List.mem_map]
  constructor
  · rintro ⟨e, he, rfl⟩
    obtain ⟨hmem, hp⟩ := List.mem_filter.1 he
    exact ⟨⟨e, hmem, rfl⟩, hp⟩
  · rintro ⟨⟨e, hmem, rfl⟩, hp⟩
    exact ⟨e, List.mem_filter.2 ⟨hmem, hp⟩, rfl⟩

theorem keep_all {p : Contact K → Bool} (h : ∀ c, p c = true) : t.keep p = t := by
  rw [ContactTable.keep, List.filter_eq_self.2 fun e _ => h e.2]

theorem Keyed.keep (hk : t.Keyed) (p : Contact K → Bool) : (t.keep p).Keyed :=
  ⟨(List.filter_sublist.map Prod.fst).nodup hk.nodup,
    fun e he => hk.key_eq e (List.mem_filter.1 he).1⟩

theorem Keyed.find?_keep (hk : t.Keyed) (p : Contact K → Bool) :
    (t.keep p).find? key = (t.find? key).filter p := by
  refine Option.ext fun c => ?_
  rw [find?, lookup_eq_some_iff_mem (hk.keep p).nodup, Option.filter_eq_some_iff, find?,
    lookup_eq_some_iff_mem hk.nodup]
  exact List.mem_filter

theorem Keyed.frame?_keep (hk : t.Keyed) {p : Contact K → Bool} {q : UInt32 → Bool}
    (h : ∀ c, p c = q c.frame) : (t.keep p).frame? key = (t.frame? key).filter q := by
  rw [frame?, frame?, hk.find?_keep]
  cases t.find? key with
  | none => rfl
  | some c =>
    rw [Option.map_some, Option.filter_some, Option.filter_some, h]
    split <;> rfl

/-! ### Renewing or appending -/

section Upsert

variable {renew : Contact K → Contact K} {fresh : Option (Contact K)} {e : ShapePair × Contact K}
  {l : List (ShapePair × Contact K)}

theorem mem_upsert (h : e ∈ upsert key renew fresh l) :
    e ∈ l ∨ (∃ e₀ ∈ l, e = (e₀.1, renew e₀.2)) ∨ ∃ c, fresh = some c ∧ e = (key, c) := by
  induction l with
  | nil =>
    obtain ⟨c, hc, rfl⟩ := Option.map_eq_some_iff.1 (Option.mem_toList.1 h)
    exact .inr (.inr ⟨c, hc, rfl⟩)
  | cons d l ih =>
    rw [upsert] at h
    split at h
    · rcases List.mem_cons.1 h with rfl | h
      · exact .inr (.inl ⟨d, List.mem_cons_self, rfl⟩)
      · exact .inl (List.mem_cons_of_mem _ h)
    · rcases List.mem_cons.1 h with rfl | h
      · exact .inl List.mem_cons_self
      · rcases ih h with h | ⟨e₀, he₀, rfl⟩ | h
        · exact .inl (List.mem_cons_of_mem _ h)
        · exact .inr (.inl ⟨e₀, List.mem_cons_of_mem _ he₀, rfl⟩)
        · exact .inr (.inr h)

theorem nodup_upsert (h : (l.map Prod.fst).Nodup) :
    ((upsert key renew fresh l).map Prod.fst).Nodup := by
  induction l with
  | nil => cases fresh <;> simp [upsert]
  | cons d l ih =>
    rw [List.map_cons, List.nodup_cons] at h
    obtain ⟨hnot, hl⟩ := h
    rw [upsert]
    split
    · exact List.nodup_cons.2 ⟨hnot, hl⟩
    next hne =>
      refine List.nodup_cons.2 ⟨fun hmem => ?_, ih hl⟩
      obtain ⟨e, he, hkey⟩ := List.mem_map.1 hmem
      rcases mem_upsert he with he | ⟨e₀, he₀, rfl⟩ | ⟨c, -, rfl⟩
      · exact hnot (List.mem_map.2 ⟨e, he, hkey⟩)
      · exact hnot (List.mem_map.2 ⟨e₀, he₀, hkey⟩)
      · exact hne hkey.symm

theorem lookup_upsert (k : ShapePair) : (upsert key renew fresh l).lookup k =
    if k = key then ((l.lookup key).map renew).or fresh else l.lookup k := by
  induction l with
  | nil => cases fresh <;> simp [upsert, lookup_cons_ite]
  | cons d l ih =>
    rw [upsert]
    split
    next hd =>
      subst hd
      rw [lookup_cons_ite, lookup_cons_ite, if_pos rfl, lookup_cons_ite]
      split <;> rfl
    next hd =>
      rw [lookup_cons_ite, lookup_cons_ite, lookup_cons_ite, if_neg (Ne.symm hd), ih]
      by_cases hk : k = d.1
      · rw [if_pos hk, if_pos hk, if_neg (hk ▸ hd)]
      · rw [if_neg hk, if_neg hk]

end Upsert

variable [Scalar K]

/-! ### Pushing and rubbing -/

/-- What enforcing a contact keeps, enforcing a table keeps of each of its contacts. -/
theorem view_enforce {β : Type} {v : Contact K → β}
    (hv : ∀ c shapes, v (Contact.enforce c shapes).2.1 = v c) (t : ContactTable K)
    (shapes : Shapes K) : (t.enforce shapes).2.1.view v = t.view v := by
  suffices h : ∀ l : List (ShapePair × Contact K), ∀ shapes : Shapes K,
      (enforceEntries l shapes).2.1.map (fun e => (e.1, v e.2)) =
        l.map fun e => (e.1, v e.2) from h t.entries shapes
  intro l
  induction l with
  | nil => exact fun _ => rfl
  | cons e l ih => exact fun shapes => by simp [enforceEntries, ih, hv]

/-- What friction keeps of a contact, it keeps of each contact of a table. -/
theorem view_rub {β : Type} {v : Contact K → β} (hv : ∀ c shapes, v (Contact.rub c shapes).1 = v c)
    (t : ContactTable K) (shapes : Shapes K) : (t.rub shapes).1.view v = t.view v := by
  suffices h : ∀ l : List (ShapePair × Contact K), ∀ shapes : Shapes K,
      (rubEntries l shapes).1.map (fun e => (e.1, v e.2)) = l.map fun e => (e.1, v e.2) from
    h t.entries shapes
  intro l
  induction l with
  | nil => exact fun _ => rfl
  | cons e l ih => exact fun shapes => by simp [rubEntries, ih, hv]

theorem outline_enforce (t : ContactTable K) (shapes : Shapes K) :
    (t.enforce shapes).2.1.outline = t.outline :=
  view_enforce Contact.outline_enforce t shapes

theorem outline_rub (t : ContactTable K) (shapes : Shapes K) :
    (t.rub shapes).1.outline = t.outline :=
  view_rub Contact.outline_rub t shapes

/-! ### Noting -/

variable {hit : Collision K} {frame : UInt32} {allowance : K} {shapes : Shapes K}

theorem Keyed.note (hk : t.Keyed) : (t.note frame allowance shapes hit).Keyed := by
  unfold ContactTable.note
  split
  next => exact hk
  next key hkey =>
    refine ⟨nodup_upsert hk.nodup, fun e he => ?_⟩
    rcases mem_upsert he with he | ⟨e₀, he₀, rfl⟩ | ⟨c, hc, rfl⟩
    · exact hk.key_eq e he
    · have hout := Contact.outline_renew (c := e₀.2) hit frame shapes
      simp only [Contact.outline, Prod.mk.injEq] at hout
      rw [hout.1, hout.2.1]
      exact hk.key_eq e₀ he₀
    · obtain ⟨-, b, hb, hjoins⟩ := Contact.start?_spec hc
      rw [Collision.key?, hb] at hkey
      rw [← Option.some.inj hkey]
      exact (ShapePair.of_eq_of_iff.2 hjoins).symm

/-- Noting a collision of two existing shapes renews or starts their contact. -/
theorem frame?_note {b : ShapeId} (hb : hit.second = some b)
    (h₁ : (shapes.find? hit.first).isSome) (h₂ : (shapes.find? b).isSome) :
    (t.note frame allowance shapes hit).frame? key =
      if hit.key? = some key then some frame else t.frame? key := by
  obtain ⟨c, hc⟩ := Option.isSome_iff_exists.1
    (Contact.isSome_start? frame allowance hb h₁ h₂)
  have hkey : hit.key? = some (.of hit.first b) := by rw [Collision.key?, hb]; rfl
  rw [note, hkey]
  dsimp only
  rw [frame?, find?, lookup_upsert, hc]
  by_cases e : key = .of hit.first b
  · rw [if_pos e, if_pos (by rw [e])]
    cases List.lookup (ShapePair.of hit.first b) t.entries with
    | none => exact congrArg some (Contact.start?_spec hc).1
    | some c₀ =>
      have hout := Contact.outline_renew (c := c₀) hit frame shapes
      simp only [Contact.outline, Prod.mk.injEq] at hout
      exact congrArg some hout.2.2
  · rw [if_neg e, if_neg fun h => e (Option.some.inj h).symm]
    rfl

theorem Keyed.noteAll (hk : t.Keyed) (hits : List (Collision K)) :
    (t.noteAll frame allowance shapes hits).Keyed :=
  List.foldlRecOn hits _ hk fun _ h _ _ => h.note

/-- Noting the collisions of a detection renews or starts the contact of each of their pairs. -/
theorem frame?_noteAll {hits : List (Collision K)}
    (hcomplete : ∀ hit ∈ hits, ∃ b, hit.second = some b ∧ (shapes.find? hit.first).isSome ∧
      (shapes.find? b).isSome) :
    (t.noteAll frame allowance shapes hits).frame? key =
      if ∃ hit ∈ hits, hit.key? = some key then some frame else t.frame? key := by
  unfold noteAll
  induction hits generalizing t with
  | nil => simp
  | cons hit hits ih =>
    obtain ⟨b, hb, h₁, h₂⟩ := hcomplete hit List.mem_cons_self
    rw [List.foldl_cons, ih fun hit h => hcomplete hit (List.mem_cons_of_mem _ h),
      frame?_note hb h₁ h₂]
    by_cases hlater : ∃ hit ∈ hits, hit.key? = some key
    · simp [hlater]
    · by_cases hnow : hit.key? = some key <;> simp [hlater, hnow]

theorem Within.note (ht : t.Within P) (hP : ∀ b, hit.second = some b → P hit.first b) :
    (t.note frame allowance shapes hit).Within P := by
  unfold ContactTable.note
  split
  next => exact ht
  next key hkey =>
    intro c hc
    obtain ⟨e, he, rfl⟩ := List.mem_map.1 hc
    rcases mem_upsert he with he | ⟨e₀, he₀, rfl⟩ | ⟨c, hstart, rfl⟩
    · exact ht _ (List.mem_map_of_mem he)
    · have hout := Contact.outline_renew (c := e₀.2) hit frame shapes
      simp only [Contact.outline, Prod.mk.injEq] at hout
      rw [hout.1, hout.2.1]
      exact ht _ (List.mem_map_of_mem he₀)
    · obtain ⟨-, b, hb, ⟨h₁, h₂⟩ | ⟨h₁, h₂⟩⟩ := Contact.start?_spec hstart
      · exact .inl (h₁ ▸ h₂ ▸ hP b hb)
      · exact .inr (h₁ ▸ h₂ ▸ hP b hb)

theorem Within.noteAll {hits : List (Collision K)} (ht : t.Within P)
    (hP : ∀ hit ∈ hits, ∀ b, hit.second = some b → P hit.first b) :
    (t.noteAll frame allowance shapes hits).Within P :=
  List.foldlRecOn (motive := fun t : ContactTable K => t.Within P) hits _ ht
    fun _ h hit hmem => h.note (hP hit hmem)

end ContactTable

end RagdollDynamics
