import Mathlib.Data.List.Basic
import Mathlib.Order.Defs.Unbundled
import RagdollDynamics.Arena

/-!
# Regions

What it means that an operation works on one part of a state alone: it changes nothing else
(`Confined.changed`), and what it answers and leaves there depends on nothing else
(`Confined.agree`).  Two operations confined to parts that do not meet may change places
(`Region.Apart.comm`).
-/

namespace RagdollDynamics

/-- A part of a state. -/
structure Region (σ : Type) where
  /-- Everything that the content of the part refers to belongs to the part. -/
  Closed : σ → Prop
  /-- The second state comes from the first one by changes within the part. -/
  Changed : σ → σ → Prop
  /-- The two states have the same content in the part. -/
  Agree : σ → σ → Prop
  changed_refl : ∀ a, Changed a a
  changed_trans : ∀ {a b c}, Changed a b → Changed b c → Changed a c
  agree : Equivalence Agree
  closed_of_changed : ∀ {a b}, Closed a → Changed a b → Closed b
  closed_of_agree : ∀ {a b}, Closed a → Agree a b → Closed b

variable {σ α β : Type}

/-- The operation reads and writes one part of the state only. -/
structure Confined (R : Region σ) (f : σ → α × σ) : Prop where
  changed : ∀ a, R.Closed a → R.Changed a (f a).2
  agree : ∀ a b, R.Closed a → R.Agree a b → (f a).1 = (f b).1 ∧ R.Agree (f a).2 (f b).2

namespace Confined

variable {R : Region σ} {f : σ → α × σ} {g : α → σ → β × σ}

/-- Both conditions at once, for operations that are defined by cases. -/
theorem of_cases (h : ∀ a b, R.Closed a → R.Agree a b →
    R.Changed a (f a).2 ∧ (f a).1 = (f b).1 ∧ R.Agree (f a).2 (f b).2) : Confined R f :=
  ⟨fun a ha => (h a a ha (R.agree.refl a)).1, fun a b ha hab => (h a b ha hab).2⟩

theorem closed (hf : Confined R f) {a : σ} (ha : R.Closed a) : R.Closed (f a).2 :=
  R.closed_of_changed ha (hf.changed a ha)

/-- Looking at the part changes nothing. -/
theorem read {v : σ → α} (hv : ∀ a b, R.Closed a → R.Agree a b → v a = v b) :
    Confined R fun a => (v a, a) :=
  ⟨fun a _ => R.changed_refl a, fun a b ha hab => ⟨hv a b ha hab, hab⟩⟩

theorem pure (x : α) : Confined R fun a => (x, a) := read fun _ _ _ _ => rfl

/-- One operation after the other; the second one may use the answer of the first one. -/
theorem bind (hf : Confined R f) (hg : ∀ a, R.Closed a → Confined R (g (f a).1)) :
    Confined R fun a => g (f a).1 (f a).2 := by
  constructor
  · intro a ha
    exact R.changed_trans (hf.changed a ha) ((hg a ha).changed _ (hf.closed ha))
  · intro a b ha hab
    obtain ⟨hanswer, hleft⟩ := hf.agree a b ha hab
    have hnext := (hg a ha).agree _ _ (hf.closed ha) hleft
    rw [hanswer] at hnext ⊢
    exact hnext

theorem map (hf : Confined R f) (h : α → β) : Confined R fun a => (h (f a).1, (f a).2) :=
  hf.bind (g := fun x a => (h x, a)) fun _ _ => pure _

theorem foldl {F : σ → α → σ} :
    ∀ {l : List α}, (∀ x ∈ l, Confined R fun a => ((), F a x)) →
      Confined R fun a => ((), l.foldl F a)
  | [], _ => pure ()
  | x :: _, h =>
    (h x List.mem_cons_self).bind (g := fun _ a => ((), List.foldl F a _)) fun _ _ =>
      foldl fun y hy => h y (List.mem_cons_of_mem x hy)

end Confined

namespace Region

/-- Two parts that have nothing in common: changes in one are not seen in the other, and nothing
but the two parts distinguishes states that come about by changes in both. -/
structure Apart (R S : Region σ) : Prop where
  left : ∀ {a b}, S.Changed a b → R.Agree a b
  right : ∀ {a b}, R.Changed a b → S.Agree a b
  ext : ∀ {a b₁ b₂ c₁ c₂}, R.Changed a b₁ → S.Changed b₁ c₁ → S.Changed a b₂ → R.Changed b₂ c₂ →
    R.Agree c₁ c₂ → S.Agree c₁ c₂ → c₁ = c₂

variable {R S : Region σ} {f : σ → α × σ} {g : σ → β × σ} {a : σ}

/-- **Operations confined to parts that do not meet may change places**: both answer the same in
either order, and the state afterwards is the same. -/
theorem Apart.comm (h : R.Apart S) (hf : Confined R f) (hg : Confined S g) (hR : R.Closed a)
    (hS : S.Closed a) :
    (f (g a).2).1 = (f a).1 ∧ (g (f a).2).1 = (g a).1 ∧ (g (f a).2).2 = (f (g a).2).2 := by
  have hfa : R.Changed a (f a).2 := hf.changed a hR
  have hga : S.Changed a (g a).2 := hg.changed a hS
  have hSf : S.Agree a (f a).2 := h.right hfa
  have hRg : R.Agree a (g a).2 := h.left hga
  -- the second operation finds its part as the first one found it
  have hgf : S.Changed (f a).2 (g (f a).2).2 := hg.changed _ (S.closed_of_agree hS hSf)
  have hfg : R.Changed (g a).2 (f (g a).2).2 := hf.changed _ (R.closed_of_agree hR hRg)
  obtain ⟨hanswerF, hleftF⟩ := hf.agree a _ hR hRg
  obtain ⟨hanswerG, hleftG⟩ := hg.agree a _ hS hSf
  refine ⟨hanswerF.symm, hanswerG.symm, h.ext hfa hgf hga hfg ?_ ?_⟩
  · exact R.agree.trans (R.agree.symm (h.left hgf)) hleftF
  · exact S.agree.trans (S.agree.symm hleftG) (h.right hfg)

theorem Apart.symm (h : R.Apart S) : S.Apart R where
  left := h.right
  right := h.left
  ext h₁ h₁' h₂ h₂' hS hR := (h.ext h₂ h₂' h₁ h₁' (R.agree.symm hR) (S.agree.symm hS)).symm

end Region

/-! ### Operations in turn -/

/-- Carries out an operation for every entry of a list, one after the other, and collects the
answers. -/
def inTurn {ι : Type} (f : ι → σ → α × σ) : List ι → σ → List α × σ
  | [], a => ([], a)
  | i :: rest, a =>
    let one := f i a
    let others := inTurn f rest one.2
    (one.1 :: others.1, others.2)

/-- Every operation of a list works on a part of its own, and no two of the parts meet. -/
structure Independent {ι : Type} (P : ι → Region σ) (f : ι → σ → α × σ) (l : List ι) (a : σ) :
    Prop where
  confined : ∀ i ∈ l, Confined (P i) (f i)
  apart : l.Pairwise fun i j => (P i).Apart (P j)
  closed : ∀ i ∈ l, (P i).Closed a

namespace Independent

variable {ι : Type} {P : ι → Region σ} {f : ι → σ → α × σ} {l l' : List ι} {i j : ι} {a : σ}

/-- The parts of the later operations are as they were before the first one. -/
theorem agree (h : Independent P f (i :: l) a) (hj : j ∈ l) : (P j).Agree a (f i a).2 := by
  have hone : Confined (P i) (f i) := h.confined i List.mem_cons_self
  have hapart : (P i).Apart (P j) := (List.pairwise_cons.1 h.apart).1 j hj
  exact hapart.right (hone.changed a (h.closed i List.mem_cons_self))

theorem tail (h : Independent P f (i :: l) a) : Independent P f l (f i a).2 where
  confined j hj := h.confined j (List.mem_cons_of_mem i hj)
  apart := (List.pairwise_cons.1 h.apart).2
  closed j hj := (P j).closed_of_agree (h.closed j (List.mem_cons_of_mem i hj)) (h.agree hj)

theorem perm (h : Independent P f l a) (order : l.Perm l') : Independent P f l' a where
  confined i hi := h.confined i (order.mem_iff.2 hi)
  apart := (order.pairwise_iff fun hij => hij.symm).1 h.apart
  closed i hi := h.closed i (order.mem_iff.2 hi)

/-- Each operation answers as if it were the first one. -/
theorem answers (h : Independent P f l a) : (inTurn f l a).1 = l.map fun i => (f i a).1 := by
  induction l generalizing a with
  | nil => rfl
  | cons i rest ih =>
    have hrest : ∀ j ∈ rest, (f j (f i a).2).1 = (f j a).1 := by
      intro j hj
      have hmem : j ∈ i :: rest := List.mem_cons_of_mem i hj
      exact ((h.confined j hmem).agree a _ (h.closed j hmem) (h.agree hj)).1.symm
    rw [inTurn, ih h.tail, List.map_cons, List.map_congr_left hrest]

/-- **In whichever order**: the state afterwards is the same. -/
theorem inTurn_perm (h : Independent P f l a) (order : l.Perm l') :
    (inTurn f l' a).2 = (inTurn f l a).2 := by
  induction order generalizing a with
  | nil => rfl
  | cons i _ ih => exact ih h.tail
  | swap i j l =>
    have hapart : (P j).Apart (P i) := (List.pairwise_cons.1 h.apart).1 i List.mem_cons_self
    have hi : i ∈ j :: i :: l := List.mem_cons_of_mem j List.mem_cons_self
    have hswap : (f j (f i a).2).2 = (f i (f j a).2).2 :=
      (hapart.symm.comm (h.confined i hi) (h.confined j List.mem_cons_self) (h.closed i hi)
        (h.closed j List.mem_cons_self)).2.2
    exact congrArg (fun b => (inTurn f l b).2) hswap
  | trans first _ ih₁ ih₂ => exact (ih₂ (h.perm first)).trans (ih₁ h)

end Independent

/-! ### Parts of arenas -/

namespace Arena

variable {k : HandleKind} {T : α → α → Prop} {F G : List (Handle k)} {a b c : Arena k α}

def AgreeOn (F : List (Handle k)) (a b : Arena k α) : Prop := ∀ h ∈ F, a.find? h = b.find? h

theorem equivalence_agreeOn (F : List (Handle k)) :
    Equivalence (AgreeOn F : Arena k α → Arena k α → Prop) where
  refl := fun _ _ _ => rfl
  symm := fun h x hx => (h x hx).symm
  trans := fun h₁ h₂ x hx => (h₁ x hx).trans (h₂ x hx)

theorem AgreeOn.modify (h : AgreeOn F a b) (x : Handle k) (f : α → α) :
    AgreeOn F (a.modify x f) (b.modify x f) := by
  intro y hy
  rw [find?_modify, find?_modify, h y hy]

theorem AgreeOn.modifyAll (f : α → α) : ∀ (hs : List (Handle k)) {a b : Arena k α},
    AgreeOn F a b → AgreeOn F (a.modifyAll hs f) (b.modifyAll hs f)
  | [], _, _, h => h
  | x :: hs, _, _, h => AgreeOn.modifyAll f hs (h.modify x f)

/-- To change an object into itself is to change nothing. -/
theorem modify_eq_self {h : Handle k} {f : α → α} (same : ∀ x, a.find? h = some x → f x = x) :
    a.modify h f = a := by
  have items : a.items.modify h.index f = a.items := by
    refine Array.ext_getElem? fun i => ?_
    rw [Array.getElem?_modify]
    split
    next here =>
      subst here
      cases hx : a.items[h.index]? with
      | none => rfl
      | some x => rw [Option.map_some, same x hx]
    next => rfl
  exact congrArg Arena.mk items

/-- What is done to every object of a list counts once, if doing it again changes nothing. -/
theorem getElem?_modifyAll {f : α → α} (hf : ∀ v, f (f v) = f v) (i : Nat) :
    ∀ (hs : List (Handle k)) (a : Arena k α), (a.modifyAll hs f).items[i]? =
      if ∃ h ∈ hs, h.index = i then a.items[i]?.map f else a.items[i]?
  | [], a => by simp [Arena.modifyAll]
  | x :: hs, a => by
    have hrest : (a.modifyAll (x :: hs) f).items[i]? =
        ((a.modify x f).modifyAll hs f).items[i]? := rfl
    have hone : (a.modify x f).items[i]? =
        if x.index = i then a.items[i]?.map f else a.items[i]? := Array.getElem?_modify
    rw [hrest, getElem?_modifyAll hf i hs, hone]
    simp only [List.mem_cons, exists_eq_or_imp]
    by_cases hx : x.index = i
    · simp [hx, Function.comp_def, hf]
    · simp [hx]

theorem find?_modifyAll {f : α → α} (hf : ∀ v, f (f v) = f v) (hs : List (Handle k))
    (a : Arena k α) (x : Handle k) :
    (a.modifyAll hs f).find? x = if x ∈ hs then (a.find? x).map f else a.find? x := by
  simp only [find?, getElem?_modifyAll hf, Handle.index_inj, exists_eq_right]

/-- What is done to every object of a list is done once to each, if none is listed twice. -/
theorem find?_modifyAll_of_nodup (f : α → α) {hs : List (Handle k)} (hnodup : hs.Nodup)
    (a : Arena k α) (x : Handle k) :
    (a.modifyAll hs f).find? x = if x ∈ hs then (a.find? x).map f else a.find? x := by
  induction hs generalizing a with
  | nil => rfl
  | cons y hs ih =>
    obtain ⟨hfresh, hrest⟩ := List.nodup_cons.1 hnodup
    have hstep : (a.modifyAll (y :: hs) f).find? x = ((a.modify y f).modifyAll hs f).find? x := rfl
    rw [hstep, ih hrest, find?_modify]
    by_cases hy : y = x
    · subst hy
      simp [hfresh]
    · simp [hy, Ne.symm hy]

/-- Objects change by `T`, and only where a handle of a list names them. -/
structure ChangedOn (T : α → α → Prop) (F : List (Handle k)) (a b : Arena k α) : Prop where
  size_eq : b.size = a.size
  off : ∀ i : Nat, (∀ h ∈ F, h.index ≠ i) → b.items[i]? = a.items[i]?
  rel : ∀ (i : Nat) (x : α), a.items[i]? = some x → ∃ y, b.items[i]? = some y ∧ T x y

theorem ChangedOn.find?_eq (h : ChangedOn T F a b) {x : Handle k} (hx : x ∉ F) :
    b.find? x = a.find? x :=
  h.off x.index fun _ hy he => hx (Handle.index_inj.1 he ▸ hy)

theorem ChangedOn.find?_rel (h : ChangedOn T F a b) {x : Handle k} {v : α}
    (hx : a.find? x = some v) : ∃ v', b.find? x = some v' ∧ T v v' :=
  h.rel x.index v hx

theorem ChangedOn.find?_eq_none (h : ChangedOn T F a b) {x : Handle k} (hx : a.find? x = none) :
    b.find? x = none := by
  rw [find?_eq_none_iff] at hx ⊢
  exact Nat.le_trans (Nat.le_of_eq h.size_eq) hx

/-- What a handle names afterwards comes from what it named before. -/
theorem ChangedOn.exists_of_find? (h : ChangedOn T F a b) {x : Handle k} {v' : α}
    (hx : b.find? x = some v') : ∃ v, a.find? x = some v ∧ T v v' := by
  cases hv : a.find? x with
  | none => exact absurd hx (by rw [h.find?_eq_none hv]; exact nofun)
  | some v =>
    obtain ⟨v₁, hv₁, hrel⟩ := h.find?_rel hv
    exact ⟨v, rfl, Option.some.inj (hv₁.symm.trans hx) ▸ hrel⟩

theorem ChangedOn.mono (h : ChangedOn T F a b) (hFG : F ⊆ G) : ChangedOn T G a b :=
  ⟨h.size_eq, fun i hi => h.off i fun x hx => hi x (hFG hx), h.rel⟩

theorem ChangedOn.map_getElem? (h : ChangedOn T F a b) {v : α → β}
    (hv : ∀ x y, T x y → v y = v x) (i : Nat) : b.items[i]?.map v = a.items[i]?.map v := by
  cases hi : a.items[i]? with
  | none =>
    have hsize : b.items.size ≤ i :=
      Nat.le_trans (Nat.le_of_eq h.size_eq) (Array.getElem?_eq_none_iff.1 hi)
    rw [Array.getElem?_eq_none hsize]
  | some x =>
    obtain ⟨y, hy, hxy⟩ := h.rel i x hi
    rw [hy, Option.map_some, Option.map_some, hv x y hxy]

theorem ChangedOn.map_find? (h : ChangedOn T F a b) {v : α → β} (hv : ∀ x y, T x y → v y = v x)
    (x : Handle k) : (b.find? x).map v = (a.find? x).map v := h.map_getElem? hv x.index

theorem ChangedOn.map_toList (h : ChangedOn T F a b) {v : α → β}
    (hv : ∀ x y, T x y → v y = v x) : b.toList.map v = a.toList.map v := by
  refine List.ext_getElem? fun i => ?_
  simp only [toList, List.getElem?_map, Array.getElem?_toList, h.map_getElem? hv i]

/-- What holds of every object goes on holding, if `T` keeps it of each. -/
theorem ChangedOn.forall_mem_toList (h : ChangedOn T F a b) {P : α → Prop}
    (hP : ∀ x y, T x y → P x → P y) (ha : ∀ x ∈ a.toList, P x) : ∀ y ∈ b.toList, P y := by
  intro y hy
  obtain ⟨i, hi⟩ := List.mem_iff_getElem?.1 hy
  have hlt : i < a.items.size := by
    have hlt := (List.getElem?_eq_some_iff.1 hi).1
    exact Nat.lt_of_lt_of_eq hlt h.size_eq
  obtain ⟨y', hy', hrel⟩ := h.rel i a.items[i] (Array.getElem?_eq_getElem hlt)
  have hsame : y = y' := Option.some.inj (hi.symm.trans (Array.getElem?_toList.trans hy'))
  exact hsame ▸ hP _ _ hrel (ha _ (Array.getElem_mem_toList hlt))

/-- Changes outside a list of handles are not seen by it. -/
theorem ChangedOn.agreeOn (h : ChangedOn T F a b) (hFG : G.Disjoint F) : AgreeOn G a b :=
  fun _ hx => (h.find?_eq (hFG hx)).symm

/-- Arenas that come about by changes of the same objects differ in those objects only. -/
theorem ext_of_changedOn {b₁ b₂ c₁ c₂ : Arena k α} {T' : α → α → Prop}
    (h₁ : ChangedOn T F a b₁) (h₁' : ChangedOn T' G b₁ c₁) (h₂ : ChangedOn T' G a b₂)
    (h₂' : ChangedOn T F b₂ c₂) (hF : AgreeOn F c₁ c₂) (hG : AgreeOn G c₁ c₂) : c₁ = c₂ := by
  have hitems : ∀ i : Nat, c₁.items[i]? = c₂.items[i]? := by
    intro i
    by_cases hi : ∃ h ∈ F ++ G, h.index = i
    · obtain ⟨h, hmem, rfl⟩ := hi
      rcases List.mem_append.1 hmem with hmem | hmem
      · exact hF h hmem
      · exact hG h hmem
    · have hoffF : ∀ h ∈ F, h.index ≠ i := fun h hh he => hi ⟨h, List.mem_append_left G hh, he⟩
      have hoffG : ∀ h ∈ G, h.index ≠ i := fun h hh he => hi ⟨h, List.mem_append_right F hh, he⟩
      rw [h₁'.off i hoffG, h₁.off i hoffF, h₂'.off i hoffF, h₂.off i hoffG]
  cases c₁
  cases c₂
  exact congrArg Arena.mk (Array.ext_getElem? hitems)

theorem ChangedOn.refl [Std.Refl T] (F : List (Handle k)) (a : Arena k α) : ChangedOn T F a a :=
  ⟨rfl, fun _ _ => rfl, fun _ x hx => ⟨x, hx, Std.Refl.refl x⟩⟩

theorem ChangedOn.trans [IsTrans α T] (h₁ : ChangedOn T F a b) (h₂ : ChangedOn T F b c) :
    ChangedOn T F a c := by
  refine ⟨h₂.size_eq.trans h₁.size_eq, fun i hi => (h₂.off i hi).trans (h₁.off i hi), ?_⟩
  intro i x hx
  obtain ⟨y, hy, hxy⟩ := h₁.rel i x hx
  obtain ⟨z, hz, hyz⟩ := h₂.rel i y hy
  exact ⟨z, hz, IsTrans.trans x y z hxy hyz⟩

theorem changedOn_modify [Std.Refl T] {x : Handle k} {f : α → α} (hx : x ∈ F)
    (hf : ∀ v, a.find? x = some v → T v (f v)) : ChangedOn T F a (a.modify x f) := by
  refine ⟨size_modify a x f, fun i hi => ?_, fun i v hv => ?_⟩
  · simp only [Arena.modify, Array.getElem?_modify, if_neg (hi x hx)]
  · simp only [Arena.modify, Array.getElem?_modify]
    split
    next he =>
      subst he
      exact ⟨f v, by rw [hv]; rfl, hf v hv⟩
    next => exact ⟨v, hv, Std.Refl.refl v⟩

theorem changedOn_modifyAll [Std.Refl T] [IsTrans α T] {f : α → α} (hf : ∀ v, T v (f v)) :
    ∀ {hs : List (Handle k)} {a : Arena k α}, hs ⊆ F → ChangedOn T F a (a.modifyAll hs f)
  | [], a, _ => .refl F a
  | _ :: _, _, h => (changedOn_modify (h List.mem_cons_self) fun v _ => hf v).trans
      (changedOn_modifyAll hf (List.subset_of_cons_subset h))

/-- Objects that changed by `T` become related to what they were by `T'` when all of them are
brought to rest. -/
theorem ChangedOn.modifyAll_self {T' : α → α → Prop} [Std.Refl T'] {f : α → α}
    (h : ChangedOn T F a b) (hf : ∀ v, f (f v) = f v) (hT : ∀ v v', T v v' → T' v (f v')) :
    ChangedOn T' F a (b.modifyAll F f) := by
  refine ⟨(size_modifyAll b F f).trans h.size_eq, fun i hi => ?_, fun i v hv => ?_⟩
  · rw [getElem?_modifyAll hf, if_neg fun ⟨x, hx, he⟩ => hi x hx he, h.off i hi]
  · rw [getElem?_modifyAll hf]
    split
    next =>
      obtain ⟨v', hv', hrel⟩ := h.rel i v hv
      exact ⟨f v', by rw [hv', Option.map_some], hT v v' hrel⟩
    next hi =>
      exact ⟨v, (h.off i fun x hx he => hi ⟨x, hx, he⟩).trans hv, Std.Refl.refl v⟩

end Arena

end RagdollDynamics
