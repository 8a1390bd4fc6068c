import RagdollDynamics.Proofs.Command

/-!
# Which entity a shape is part of

An entity marks its shapes when it is added to a world.  It may list handles that name nothing yet,
and the shapes that get those handles later stay unmarked.  So a shape is part of the entity that
lists it and came after it, and there is at most one (`World.holder_eq_some_iff`).
-/

namespace RagdollDynamics

variable {K : Type}

/-! ### Marking -/

namespace World

theorem addEntity_eq_ok {w : World K} {body : Entity K} {added : EntityId × World K}
    (h : w.addEntity body = .ok added) :
    ∃ shapes, markHeld w.entities.nextHandle body.shapes w.shapes = .ok shapes ∧
      added = (w.entities.nextHandle,
        { w with shapes := shapes, entities := w.entities.push ⟨body, none⟩ }) := by
  cases hmark : markHeld w.entities.nextHandle body.shapes w.shapes with
  | error v =>
    rw [addEntity, hmark] at h
    cases h
  | ok shapes =>
    rw [addEntity, hmark] at h
    exact ⟨shapes, rfl, (Except.ok.inj h).symm⟩

/-- Marking shapes changes nothing else, and the shapes may not be part of another entity. -/
theorem markHeld_eq_ok {holder : EntityId} {ids : List ShapeId} {shapes shapes' : Shapes K}
    (h : markHeld holder ids shapes = .ok shapes') :
    shapes'.size = shapes.size ∧
      (∀ x ∈ ids, ∀ s e, shapes.find? x = some s → s.holder = some e → e = holder) ∧
      ∀ x, shapes'.find? x = if x ∈ ids then
        (shapes.find? x).map fun s => { s with holder := some holder } else shapes.find? x := by
  induction ids generalizing shapes with
  | nil => exact Except.ok.inj h ▸ ⟨rfl, nofun, fun x => rfl⟩
  | cons id rest ih =>
    rw [markHeld] at h
    cases hid : (shapes.find? id).bind Shape.holder with
    | some other =>
      obtain ⟨t, ht, hother⟩ := Option.bind_eq_some_iff.1 hid
      simp only [hid] at h
      split at h
      next same =>
        subst same
        obtain ⟨hsize, hfree, hfind⟩ := ih h
        refine ⟨hsize, fun x hx s e hs he => ?_, fun x => ?_⟩
        · rcases List.mem_cons.1 hx with rfl | hx
          · rw [Option.some.inj (ht.symm.trans hs), he] at hother
            exact Option.some.inj hother
          · exact hfree x hx s e hs he
        · rw [hfind x]
          by_cases hx : x = id
          · subst hx
            have hmarked : { t with holder := some other } = t := by rw [← hother]
            simp [ht, hmarked]
          · simp [hx]
      next => cases h
    | none =>
      simp only [hid] at h
      obtain ⟨hsize, hfree, hfind⟩ := ih h
      refine ⟨hsize.trans (Arena.size_modify _ _ _), fun x hx s e hs he => ?_, fun x => ?_⟩
      · by_cases hx' : x = id
        · subst hx'
          rw [hs, Option.bind_some, he] at hid
          cases hid
        · have hrest : x ∈ rest := (List.mem_cons.1 hx).resolve_left hx'
          exact hfree x hrest s e (by rw [Arena.find?_modify_of_ne _ (Ne.symm hx'), hs]) he
      · rw [hfind x, Arena.find?_modify]
        by_cases hx : x = id
        · subst hx
          simp [Function.comp_def]
        · simp [hx, Ne.symm hx]

end World

/-! ### Additions -/

/-- What is added to a world, as far as shapes and entities go. -/
inductive Addition (K : Type) where
  | shape (s : Shape K)
  | entity (body : Entity K)

def World.add (w : World K) : Addition K → Except Violation (World K)
  | .shape s => .ok (w.addShape s).2
  | .entity body => (w.addEntity body).map Prod.snd

namespace Addition

def shapeCount : List (Addition K) → Nat
  | [] => 0
  | .shape _ :: past => shapeCount past + 1
  | .entity _ :: past => shapeCount past

def entityCount : List (Addition K) → Nat
  | [] => 0
  | .shape _ :: past => entityCount past
  | .entity _ :: past => entityCount past + 1

/-- The shape `x` was part of `e` when it was added: it is a copy of a shape of `e`. -/
inductive Brought : List (Addition K) → ShapeId → EntityId → Prop
  | now {past : List (Addition K)} {s : Shape K} {x : ShapeId} {e : EntityId}
      (last : x.index = shapeCount past) (held : s.holder = some e) :
      Brought (.shape s :: past) x e
  | before {a : Addition K} {past : List (Addition K)} {x : ShapeId} {e : EntityId}
      (h : Brought past x e) : Brought (a :: past) x e

/-- The entity `e` was added as `body`, when there were `n` shapes. -/
inductive Entered : List (Addition K) → EntityId → Entity K → Nat → Prop
  | now {past : List (Addition K)} {body : Entity K} :
      Entered (.entity body :: past) (.ofIndex (entityCount past)) body (shapeCount past)
  | before {a : Addition K} {past : List (Addition K)} {e : EntityId} {body : Entity K} {n : Nat}
      (h : Entered past e body n) : Entered (a :: past) e body n

/-- The shape `x` was there when `e` was added. -/
def Precedes (past : List (Addition K)) (x : ShapeId) (e : EntityId) : Prop :=
  ∃ body n, Entered past e body n ∧ x.index < n

/-- The shape `x` was there when `e` was added with `x` among its shapes. -/
def Marked (past : List (Addition K)) (x : ShapeId) (e : EntityId) : Prop :=
  ∃ body n, Entered past e body n ∧ x ∈ body.shapes ∧ x.index < n

variable {past : List (Addition K)} {x : ShapeId} {e : EntityId} {body : Entity K} {n : Nat}
  {s : Shape K}

theorem Brought.lt (h : Brought past x e) : x.index < shapeCount past := by
  induction h with
  | now last held => exact Nat.lt_succ_of_le (Nat.le_of_eq last)
  | @before a _ _ _ _ ih => cases a with
    | shape s => exact Nat.lt_succ_of_lt ih
    | entity body => exact ih

theorem Entered.le (h : Entered past e body n) : n ≤ shapeCount past := by
  induction h with
  | now => exact Nat.le_refl _
  | @before a _ _ _ _ _ ih => cases a with
    | shape s => exact Nat.le_succ_of_le ih
    | entity body => exact ih

theorem Entered.lt (h : Entered past e body n) : e.index < entityCount past := by
  induction h with
  | now => exact Nat.lt_succ_of_le (Nat.mod_le _ _)
  | @before a _ _ _ _ _ ih => cases a with
    | shape s => exact ih
    | entity body => exact Nat.lt_succ_of_lt ih

theorem Marked.lt (h : Marked past x e) : x.index < shapeCount past := by
  obtain ⟨body, n, hentered, -, hx⟩ := h
  exact Nat.lt_of_lt_of_le hx hentered.le

theorem brought_shape_iff : Brought (.shape s :: past) x e ↔
    (x.index = shapeCount past ∧ s.holder = some e) ∨ Brought past x e := by
  constructor
  · intro h
    cases h with
    | now last held => exact .inl ⟨last, held⟩
    | before h => exact .inr h
  · rintro (⟨last, held⟩ | h)
    · exact .now last held
    · exact .before h

theorem brought_entity_iff : Brought (.entity body :: past) x e ↔ Brought past x e :=
  ⟨fun h => by cases h with | before h => exact h, .before⟩

theorem entered_shape_iff : Entered (.shape s :: past) e body n ↔ Entered past e body n :=
  ⟨fun h => by cases h with | before h => exact h, .before⟩

theorem marked_shape_iff : Marked (.shape s :: past) x e ↔ Marked past x e := by
  simp only [Marked, entered_shape_iff]

theorem marked_entity_iff : Marked (.entity body :: past) x e ↔
    (e = .ofIndex (entityCount past) ∧ x ∈ body.shapes ∧ x.index < shapeCount past) ∨
      Marked past x e := by
  constructor
  · rintro ⟨body', n, hentered, hlists, hx⟩
    cases hentered with
    | now => exact .inl ⟨rfl, hlists, hx⟩
    | before h => exact .inr ⟨body', n, h, hlists, hx⟩
  · rintro (⟨rfl, hlists, hx⟩ | ⟨body', n, hentered, hlists, hx⟩)
    · exact ⟨body, _, .now, hlists, hx⟩
    · exact ⟨body', n, .before hentered, hlists, hx⟩

end Addition

/-! ### Worlds -/

open Addition

/-- What a world records is what was added to it. -/
structure World.Records (w : World K) (past : List (Addition K)) : Prop where
  shapes : w.shapes.size = shapeCount past
  entities : w.entities.size = entityCount past
  holder : ∀ x s, w.shapes.find? x = some s → ∀ e,
    s.holder = some e ↔ Brought past x e ∨ Marked past x e
  body : entityCount past ≤ UInt32.size → ∀ e body n, Entered past e body n →
    w.entities.body? e = some body

namespace World

variable {w w' : World K} {past : List (Addition K)}

theorem Records.lt (hw : w.Records past) {x : ShapeId} {s : Shape K}
    (hs : w.shapes.find? x = some s) : x.index < shapeCount past := by
  rw [← hw.shapes]
  refine Nat.lt_of_not_le fun hout => ?_
  rw [(w.shapes.find?_eq_none_iff x).2 hout] at hs
  cases hs

theorem records_empty : (empty : World K).Records [] where
  shapes := rfl
  entities := rfl
  holder _ _ hs := nomatch hs
  body _ _ _ _ h := nomatch h

theorem Records.addShape (hw : w.Records past) (s : Shape K) :
    (w.addShape s).2.Records (.shape s :: past) where
  shapes := by
    rw [World.addShape, Arena.size_push, hw.shapes]
    rfl
  entities := hw.entities
  holder x t ht e := by
    rw [World.addShape, Arena.find?_push, hw.shapes] at ht
    rw [brought_shape_iff, marked_shape_iff]
    by_cases hlast : x.index = shapeCount past
    · rw [if_pos hlast] at ht
      obtain rfl := Option.some.inj ht
      -- what was added before the shape cannot be about it
      have hbrought : ¬ Brought past x e := fun h => Nat.ne_of_lt h.lt hlast
      have hmarked : ¬ Marked past x e := fun h => Nat.ne_of_lt h.lt hlast
      simp [hlast, hbrought, hmarked]
    · rw [if_neg hlast] at ht
      rw [hw.holder x t ht e]
      simp [hlast]
  body hfits e body n h := hw.body hfits e body n (entered_shape_iff.1 h)

theorem Records.addEntity (hw : w.Records past) {body : Entity K} {added : EntityId × World K}
    (h : w.addEntity body = .ok added) : added.2.Records (.entity body :: past) := by
  obtain ⟨shapes, hmark, rfl⟩ := addEntity_eq_ok h
  obtain ⟨hsize, hfree, hfind⟩ := markHeld_eq_ok hmark
  have hnext : w.entities.nextHandle = .ofIndex (entityCount past) := by
    rw [Arena.nextHandle, hw.entities]
  rw [hnext] at hfree hfind
  refine ⟨hsize.trans hw.shapes, ?_, fun x t ht e => ?_, fun hfits e b n hb => ?_⟩
  · rw [Arena.size_push, hw.entities]
    rfl
  · rw [brought_entity_iff, marked_entity_iff]
    rw [hfind x] at ht
    by_cases hx : x ∈ body.shapes
    · rw [if_pos hx] at ht
      obtain ⟨s, hs, rfl⟩ := Option.map_eq_some_iff.1 ht
      -- whatever was recorded before is the new entity
      have hold : Brought past x e ∨ Marked past x e → e = .ofIndex (entityCount past) :=
        fun hrec => hfree x hx s e hs ((hw.holder x s hs e).2 hrec)
      constructor
      · intro he
        exact .inr (.inl ⟨(Option.some.inj he).symm, hx, hw.lt hs⟩)
      · rintro (hbrought | ⟨rfl, -⟩ | hmarked)
        · exact congrArg some (hold (.inl hbrought)).symm
        · rfl
        · exact congrArg some (hold (.inr hmarked)).symm
    · rw [if_neg hx] at ht
      rw [hw.holder x t ht e]
      simp [hx]
  · have hcount : entityCount past < UInt32.size := hfits
    rw [Slots.body?, Arena.find?_push, hw.entities]
    cases hb with
    | now => rw [if_pos (Handle.index_ofIndex hcount), Option.map_some]
    | before hb =>
      rw [if_neg (Nat.ne_of_lt hb.lt)]
      exact hw.body (Nat.le_of_lt hcount) e b n hb

theorem Records.add (hw : w.Records past) {a : Addition K} (h : w.add a = .ok w') :
    w'.Records (a :: past) := by
  cases a with
  | shape s => exact Except.ok.inj h ▸ hw.addShape s
  | entity body =>
    cases hadd : w.addEntity body with
    | error v =>
      simp only [World.add, hadd] at h
      cases h
    | ok added =>
      simp only [World.add, hadd] at h
      exact Except.ok.inj h ▸ hw.addEntity hadd

theorem records_of_run {w : World K} (run : outcome World.add .empty past = .ok w) :
    w.Records past := by
  induction past generalizing w with
  | nil => exact Except.ok.inj run ▸ records_empty
  | cons a past ih =>
    obtain ⟨before, hpast, hlast⟩ := outcome_cons_eq_ok.1 run
    exact (ih hpast).add hlast

theorem Records.exists_find? (hw : w.Records past) {x : ShapeId} (hx : x.index < shapeCount past) :
    ∃ s, w.shapes.find? x = some s := by
  refine Option.ne_none_iff_exists'.1 fun hout => ?_
  rw [Arena.find?_eq_none_iff, hw.shapes] at hout
  exact Nat.not_lt.2 hout hx

/-- **Which entity a shape is part of**, after all additions that are not refused.  It is the entity
that the shape was added with, or one that lists the shape and was added when the shape was there;
of the latter there is at most one.  Which entity has which handle is told by its shapes, while
there are not more entities than handles. -/
theorem holder_eq_some_iff (past : List (Addition K)) (w : World K)
    (run : outcome World.add .empty past = .ok w) :
    (∀ x s, w.shapes.find? x = some s → ∀ e,
      s.holder = some e ↔ Brought past x e ∨ Marked past x e) ∧
    (∀ x e e', Marked past x e → Marked past x e' → e = e') ∧
    (entityCount past ≤ UInt32.size → ∀ x e,
      Marked past x e ↔ x ∈ w.entityShapes e ∧ Precedes past x e) := by
  have hw := records_of_run run
  refine ⟨hw.holder, fun x e e' h h' => ?_, fun hfits x e => ?_⟩
  · obtain ⟨s, hs⟩ := hw.exists_find? h.lt
    have he := (hw.holder x s hs e).2 (.inr h)
    have he' := (hw.holder x s hs e').2 (.inr h')
    exact Option.some.inj (he.symm.trans he')
  · have hshapes : ∀ body n, Entered past e body n → w.entityShapes e = body.shapes := by
      intro body n h
      rw [entityShapes, hw.body hfits e body n h]
      rfl
    constructor
    · rintro ⟨body, n, hentered, hlists, hx⟩
      exact ⟨hshapes body n hentered ▸ hlists, body, n, hentered, hx⟩
    · rintro ⟨hlists, body, n, hentered, hx⟩
      exact ⟨body, n, hentered, hshapes body n hentered ▸ hlists, hx⟩

/-- The first of two entities lists the second shape before there is one, the other one lists it
twice. -/
def sharing : List (Addition Float32) :=
  [.entity (.scenery [⟨1⟩, ⟨1⟩]), .shape (.ofForm (.sphere 1) 1), .entity (.scenery [⟨0⟩, ⟨1⟩]),
    .shape (.ofForm (.sphere 1) 1)]

/-- Each entity gets the shape that was there when it was added. -/
theorem holders_of_sharing : ∃ w s t, outcome World.add .empty sharing = .ok w ∧
    w.shapes.find? ⟨0⟩ = some s ∧ s.holder = some ⟨0⟩ ∧
    w.shapes.find? ⟨1⟩ = some t ∧ t.holder = some ⟨1⟩ ∧ ¬ Precedes sharing ⟨1⟩ ⟨0⟩ := by
  obtain ⟨w, hrun⟩ : ∃ w, outcome World.add .empty sharing = .ok w := ⟨_, rfl⟩
  obtain ⟨hholder, hunique, hlists⟩ := holder_eq_some_iff sharing w hrun
  have hfirst : Marked sharing ⟨0⟩ ⟨0⟩ :=
    ⟨.scenery [⟨0⟩, ⟨1⟩], 1, .before (.before .now), by decide, by decide⟩
  have hsecond : Marked sharing ⟨1⟩ ⟨1⟩ := ⟨.scenery [⟨1⟩, ⟨1⟩], 2, .now, by decide, by decide⟩
  obtain rfl := Except.ok.inj hrun
  refine ⟨_, _, _, rfl, rfl, (hholder _ _ rfl _).2 (.inr hfirst), rfl,
    (hholder _ _ rfl _).2 (.inr hsecond), fun hprecedes => ?_⟩
  have hmarked := (hlists (by decide) ⟨1⟩ ⟨0⟩).2 ⟨by decide, hprecedes⟩
  exact absurd (hunique _ _ _ hmarked hsecond) (by decide)

/-- An entity may list a shape that is not part of it, since another one lists it too; and a copy of
an entity's shape is recorded as part of that entity, which does not list it. -/
theorem listing_is_not_holding :
    (∃ w s, outcome World.add .empty sharing = .ok w ∧ w.shapes.find? ⟨1⟩ = some s ∧
      ⟨1⟩ ∈ w.entityShapes ⟨0⟩ ∧ ⟨1⟩ ∈ w.entityShapes ⟨1⟩ ∧ s.holder ≠ some ⟨0⟩) ∧
    ∃ (w : World Float32) (w' : World Float32) (s : Shape Float32),
      outcome World.add .empty
        [.entity (.scenery [⟨0⟩]), .shape (.ofForm (.sphere 1) 1)] = .ok w ∧
      w.shapes.find? ⟨0⟩ = some s ∧ w.add (.shape s) = .ok w' ∧
      w'.shapes.find? ⟨1⟩ = some s ∧ s.holder = some ⟨0⟩ ∧ ⟨1⟩ ∉ w'.entityShapes ⟨0⟩ :=
  ⟨⟨_, _, rfl, rfl, by decide, by decide, by decide⟩,
    ⟨_, _, _, rfl, rfl, rfl, rfl, rfl, by decide⟩⟩

end World

end RagdollDynamics
