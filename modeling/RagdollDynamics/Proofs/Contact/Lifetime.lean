import Mathlib.Data.Nat.Find
import RagdollDynamics.Proofs.Contact.Changes

/-!
# How long contacts live

A simulation remembers a pair of shapes for as many steps as its limits say.  What it remembers
after a history is read off that history: the steps that found the pair colliding, and what has
purged it since (`Seen`).  The two agree (`Faithful`) however often frame numbers start over.
-/

namespace RagdollDynamics

variable {K : Type} [Scalar K]

/-! ### What a history has seen -/

/-- Some pass of a step keeps a collision of the two shapes. -/
def Simulation.Finds (s : Simulation K) (w : World K) (order : StepOrder K) (a b : ShapeId) :
    Prop :=
  ∃ k < (s.step w order).1.passes, ∃ hit ∈ (s.stepPass w order.dt k).sim.collisions.toList,
    hit.Joins a b

/-- The step that began `n` steps before the last one, whose number was `frame`, found the two
shapes colliding, and nothing has purged either of them since. -/
inductive Seen (start : Simulation K × World K) (a b : ShapeId) :
    List (Happening K) → Nat → UInt32 → Prop
  | now {past : List (Happening K)} {s : Simulation K} {w : World K} {order : StepOrder K}
      (run : outcome Happening.act start past = .ok (s, w)) (found : s.Finds w order a b) :
      Seen start a b (.command (.step order) :: past) 0 (s.step w order).1.frame
  | older {past : List (Happening K)} {order : StepOrder K} {n : Nat} {frame : UInt32}
      (seen : Seen start a b past n frame) :
      Seen start a b (.command (.step order) :: past) (n + 1) frame
  | spared {past : List (Happening K)} {s : Simulation K} {w : World K} {c : Command K} {n : Nat}
      {frame : UInt32} (run : outcome Happening.act start past = .ok (s, w))
      (noStep : ∀ order, c ≠ .step order) (first : c.purges s w a = false)
      (second : c.purges s w b = false) (seen : Seen start a b past n frame) :
      Seen start a b (.command c :: past) n frame
  | changed {past : List (Happening K)} {f : World.Change K} {n : Nat} {frame : UInt32}
      (seen : Seen start a b past n frame) : Seen start a b (.change f :: past) n frame

/-- The latest step that found the two shapes colliding, if nothing has purged them since. -/
def LastSeen (start : Simulation K × World K) (a b : ShapeId) (past : List (Happening K)) (n : Nat)
    (frame : UInt32) : Prop :=
  Seen start a b past n frame ∧ ∀ m g, Seen start a b past m g → n ≤ m

section

variable {start : Simulation K × World K} {a b : ShapeId} {past : List (Happening K)} {n : Nat}
  {frame : UInt32} {s : Simulation K} {w : World K} {order : StepOrder K} {c : Command K}

theorem seen_step_iff (run : outcome Happening.act start past = .ok (s, w)) :
    Seen start a b (.command (.step order) :: past) n frame ↔
      (n = 0 ∧ frame = (s.step w order).1.frame ∧ s.Finds w order a b) ∨
        ∃ m, n = m + 1 ∧ Seen start a b past m frame := by
  constructor
  · intro h
    cases h with
    | now run' found =>
      obtain ⟨rfl, rfl⟩ := Prod.ext_iff.1 (Except.ok.inj (run'.symm.trans run))
      exact .inl ⟨rfl, rfl, found⟩
    | older seen => exact .inr ⟨_, rfl, seen⟩
    | spared run' noStep => exact absurd rfl (noStep order)
  · rintro (⟨rfl, rfl, found⟩ | ⟨m, rfl, seen⟩)
    · exact .now run found
    · exact .older seen

theorem seen_command_iff (run : outcome Happening.act start past = .ok (s, w))
    (noStep : ∀ order, c ≠ .step order) : Seen start a b (.command c :: past) n frame ↔
      (c.purges s w a = false ∧ c.purges s w b = false) ∧ Seen start a b past n frame := by
  constructor
  · intro h
    cases h with
    | now | older => exact absurd rfl (noStep _)
    | spared run' _ first second seen =>
      obtain ⟨rfl, rfl⟩ := Prod.ext_iff.1 (Except.ok.inj (run'.symm.trans run))
      exact ⟨⟨first, second⟩, seen⟩
  · rintro ⟨⟨first, second⟩, seen⟩
    exact .spared run noStep first second seen

theorem seen_change_iff {f : World.Change K} :
    Seen start a b (.change f :: past) n frame ↔ Seen start a b past n frame :=
  ⟨fun h => by cases h with | changed seen => exact seen, .changed⟩

theorem exists_lastSeen (h : Seen start a b past n frame) :
    ∃ m ≤ n, ∃ g, LastSeen start a b past m g := by
  classical
  have hseen : ∃ m g, Seen start a b past m g := ⟨n, frame, h⟩
  obtain ⟨g, hg⟩ := Nat.find_spec hseen
  exact ⟨Nat.find hseen, Nat.find_min' hseen ⟨frame, h⟩, g, hg,
    fun m g' h' => Nat.find_min' hseen ⟨g', h'⟩⟩

theorem lastSeen_congr {past' : List (Happening K)}
    (h : ∀ m g, Seen start a b past' m g ↔ Seen start a b past m g) :
    LastSeen start a b past' n frame ↔ LastSeen start a b past n frame := by
  simp only [LastSeen, h]

theorem lastSeen_step_of_finds (run : outcome Happening.act start past = .ok (s, w))
    (found : s.Finds w order a b) : LastSeen start a b (.command (.step order) :: past) n frame ↔
      n = 0 ∧ frame = (s.step w order).1.frame := by
  constructor
  · rintro ⟨seen, least⟩
    obtain rfl : n = 0 := Nat.le_zero.1 (least 0 _ (.now run found))
    rcases (seen_step_iff run).1 seen with ⟨-, hframe, -⟩ | ⟨m, hm, -⟩
    · exact ⟨rfl, hframe⟩
    · exact nomatch hm
  · rintro ⟨rfl, rfl⟩
    exact ⟨.now run found, fun m _ _ => Nat.zero_le m⟩

theorem lastSeen_step_of_not_finds (run : outcome Happening.act start past = .ok (s, w))
    (missed : ¬ s.Finds w order a b) :
    LastSeen start a b (.command (.step order) :: past) n frame ↔
      ∃ m, n = m + 1 ∧ LastSeen start a b past m frame := by
  have hseen : ∀ m g, Seen start a b (.command (.step order) :: past) m g ↔
      ∃ i, m = i + 1 ∧ Seen start a b past i g := fun m g =>
    (seen_step_iff run).trans (or_iff_right fun h => missed h.2.2)
  constructor
  · rintro ⟨seen, least⟩
    obtain ⟨m, rfl, before⟩ := (hseen _ _).1 seen
    exact ⟨m, rfl, before, fun i g h => Nat.le_of_succ_le_succ (least (i + 1) g (.older h))⟩
  · rintro ⟨m, rfl, before, least⟩
    refine ⟨.older before, fun i g h => ?_⟩
    obtain ⟨j, rfl, hj⟩ := (hseen _ _).1 h
    exact Nat.succ_le_succ (least j g hj)

end

/-! ### What a table remembers -/

/-- The age of a frame, `n` steps after it, is `n`, even if frame numbers start over in between. -/
theorem toNat_age (now : UInt32) {n : Nat} (h : n < UInt32.size) :
    (now - (now - UInt32.ofNat n)).toNat = n := by
  have hage : now - (now - UInt32.ofNat n) = UInt32.ofNat n := by grind
  rw [hage, UInt32.toNat_ofNat_of_lt' h]

namespace Simulation

variable {s s' : Simulation K} {w w' : World K} {a b : ShapeId}

theorem finds_iff {order : StepOrder K} : s.Finds w order a b ↔
    ∃ k < (s.step w order).1.passes, ∃ hit ∈ (s.stepPass w order.dt k).sim.collisions.toList,
      hit.key? = some (.of a b) := by
  simp only [Finds, Collision.key?_eq_some_iff]

theorem frame_report (s : Simulation K) (w : World K) (order : StepOrder K) :
    (s.step w order).1.frame = s.frame + 1 :=
  s.frame_step w order

theorem frame?_step (hk : s.contacts.Keyed) (order : StepOrder K) :
    (s.step w order).2.1.contacts.frame? (.of a b) =
      ((s.beforeStepPass w order.dt (s.step w order).1.passes).1.contacts.frame? (.of a b)).filter
        fun f => s.frame + 1 - f ≤ s.config.contactLifetime := by
  obtain ⟨hsim, -, hframe⟩ := s.alike_beforeStepPass w order.dt (s.step w order).1.passes
  rw [sim_step]
  exact (keyed_beforeStepPass hk _ _).frame?_keep fun c => by rw [hframe, hsim.config]

/-- What a step finds colliding, it remembers as of now. -/
theorem frame?_step_of_finds {order : StepOrder K} (hk : s.contacts.Keyed)
    (found : s.Finds w order a b) :
    (s.step w order).2.1.contacts.frame? (.of a b) = some (s.step w order).1.frame := by
  have hage : s.frame + 1 - (s.frame + 1) ≤ s.config.contactLifetime := by
    rw [UInt32.sub_self]
    exact UInt32.zero_le
  rw [frame?_step hk, frame?_beforeStepPass, if_pos (finds_iff.1 found), Option.filter_some,
    if_pos (decide_eq_true hage), frame_report]

theorem frame?_step_of_not_finds {order : StepOrder K} (hk : s.contacts.Keyed)
    (missed : ¬ s.Finds w order a b) : (s.step w order).2.1.contacts.frame? (.of a b) =
      (s.contacts.frame? (.of a b)).filter fun f =>
        s.frame + 1 - f ≤ s.config.contactLifetime := by
  rw [frame?_step hk, frame?_beforeStepPass, if_neg fun h => missed (finds_iff.2 h)]

theorem frame?_perform {c : Command K} (hk : s.contacts.Keyed)
    (hfresh : ∀ f, s.contacts.frame? (.of a b) = some f →
      s.frame - f ≤ s.config.contactLifetime)
    (h : s.perform w c = .ok (s', w')) (hnote : c ≠ .noteContacts)
    (hstep : ∀ order, c ≠ .step order) : s'.contacts.frame? (.of a b) =
      if c.purges s w a = false ∧ c.purges s w b = false then s.contacts.frame? (.of a b)
      else none := by
  rw [ContactTable.frame?_congr (contacts_perform h hnote hstep).2, ContactTable.frame?,
    hk.find?_keep, ContactTable.frame?]
  cases hfind : s.contacts.find? (.of a b) with
  | none => simp
  | some k =>
    have hold : s.frame - k.frame ≤ s.config.contactLifetime :=
      hfresh _ (congrArg (Option.map Contact.frame) hfind)
    rw [Option.filter_some]
    simp only [Command.spares_iff (hk.find?_eq_some_iff.1 hfind).2 hold]
    split <;> rfl

end Simulation

/-! ### Whole histories -/

/-- What a simulation remembers is what its history has seen, until it is too old. -/
structure Faithful (start : Simulation K × World K) (past : List (Happening K)) (s : Simulation K) :
    Prop where
  keyed : s.contacts.Keyed
  frame_eq : ∀ a b n f, Seen start a b past n f → f = s.frame - UInt32.ofNat n
  remembered : ∀ a b f, s.contacts.frame? (.of a b) = some f ↔
    ∃ n ≤ s.config.contactLifetime.toNat, LastSeen start a b past n f

namespace Faithful

variable {start : Simulation K × World K} {past : List (Happening K)} {s s' : Simulation K}
  {w w' : World K} {a b : ShapeId}

theorem age_le (hs : Faithful start past s) {n : Nat} {f : UInt32} (hn : n < UInt32.size)
    (seen : Seen start a b past n f) :
    s.frame - f ≤ s.config.contactLifetime ↔ n ≤ s.config.contactLifetime.toNat := by
  rw [hs.frame_eq a b n f seen, UInt32.le_iff_toNat_le, toNat_age _ hn]

/-- Nothing that is remembered is too old. -/
theorem fresh (hs : Faithful start past s) {f : UInt32}
    (h : s.contacts.frame? (.of a b) = some f) : s.frame - f ≤ s.config.contactLifetime := by
  obtain ⟨n, hn, seen, -⟩ := (hs.remembered a b f).1 h
  have hlimit := s.config.contactLifetime.toNat_lt
  exact (hs.age_le (Nat.lt_of_le_of_lt hn hlimit) seen).2 hn

theorem step (hs : Faithful start past s)
    (hlife : s.config.contactLifetime.toNat + 1 < UInt32.size)
    (run : outcome Happening.act start past = .ok (s, w)) (order : StepOrder K) :
    Faithful start (.command (.step order) :: past) (s.step w order).2.1 := by
  have hframe := s.frame_step w order
  have hconfig : (s.step w order).2.1.config = s.config := (s.alike_step w order).1.config
  have hnext : ∀ m, s.frame - UInt32.ofNat m = s.frame + 1 - UInt32.ofNat (m + 1) := by
    intro m
    rw [UInt32.ofNat_add]
    grind
  refine ⟨?_, fun a b n f seen => ?_, fun a b f => ?_⟩
  · exact Simulation.keyed_step hs.keyed w order
  · rw [hframe]
    rcases (seen_step_iff run).1 seen with ⟨rfl, rfl, -⟩ | ⟨m, rfl, before⟩
    · rw [Simulation.frame_report]
      exact (UInt32.sub_zero _).symm
    · rw [hs.frame_eq a b m f before, hnext]
  · rw [hconfig]
    by_cases found : s.Finds w order a b
    · rw [Simulation.frame?_step_of_finds hs.keyed found]
      simp only [lastSeen_step_of_finds run found]
      constructor
      · intro h
        exact ⟨0, Nat.zero_le _, rfl, (Option.some.inj h).symm⟩
      · rintro ⟨n, -, -, rfl⟩
        rfl
    · have hage : ∀ m, m ≤ s.config.contactLifetime.toNat → Seen start a b past m f →
          (s.frame + 1 - f ≤ s.config.contactLifetime ↔
            m + 1 ≤ s.config.contactLifetime.toNat) := by
        intro m hm seen
        rw [hs.frame_eq a b m f seen, hnext, UInt32.le_iff_toNat_le, toNat_age _ (by omega)]
      rw [Simulation.frame?_step_of_not_finds hs.keyed found, Option.filter_eq_some_iff,
        hs.remembered, decide_eq_true_eq]
      simp only [lastSeen_step_of_not_finds run found]
      constructor
      · rintro ⟨⟨m, hm, last⟩, hold⟩
        exact ⟨m + 1, (hage m hm last.1).1 hold, m, rfl, last⟩
      · rintro ⟨-, hm, m, rfl, last⟩
        have hm' : m ≤ s.config.contactLifetime.toNat := Nat.le_of_succ_le hm
        exact ⟨⟨m, hm', last⟩, (hage m hm' last.1).2 hm⟩

theorem command (hs : Faithful start past s) {c : Command K}
    (run : outcome Happening.act start past = .ok (s, w)) (h : s.perform w c = .ok (s', w'))
    (hnote : c ≠ .noteContacts) (hstep : ∀ order, c ≠ .step order) :
    Faithful start (.command c :: past) s' := by
  obtain ⟨hframe, hout⟩ := Simulation.contacts_perform h hnote hstep
  have hconfig : s'.config = s.config := (Simulation.perform_lawful h).config
  refine ⟨(hs.keyed.keep _).congr hout, fun a b n f seen => ?_, fun a b f => ?_⟩
  · rw [hframe]
    exact hs.frame_eq a b n f ((seen_command_iff run hstep).1 seen).2
  · rw [Simulation.frame?_perform hs.keyed (fun f hf => hs.fresh hf) h hnote hstep, hconfig]
    split
    next hspared =>
      have hseen : ∀ m g, Seen start a b (.command c :: past) m g ↔ Seen start a b past m g :=
        fun m g => (seen_command_iff run hstep).trans (and_iff_right hspared)
      simp only [hs.remembered, lastSeen_congr hseen]
    next hpurged =>
      refine ⟨fun h => (nomatch h), fun ⟨n, _, seen, _⟩ => ?_⟩
      exact absurd ((seen_command_iff run hstep).1 seen).1 hpurged

theorem change (hs : Faithful start past s) (f : World.Change K) :
    Faithful start (.change f :: past) s := by
  refine ⟨hs.keyed, fun a b n g seen => hs.frame_eq a b n g (seen_change_iff.1 seen), fun a b g => ?_⟩
  rw [hs.remembered]
  simp only [lastSeen_congr fun m g => seen_change_iff]

end Faithful

namespace Simulation

variable {s : Simulation K} {w : World K}

theorem faithful_of_history {id : SimulationId} {config : Config K} {clock : Clock} {w₀ : World K}
    (hlife : config.contactLifetime.toNat + 1 < UInt32.size) {past : List (Happening K)}
    (hnote : ∀ e ∈ past, e ≠ .command .noteContacts)
    (run : outcome Happening.act (fresh id config clock, w₀) past = .ok (s, w)) :
    s.config = config ∧ Faithful (fresh id config clock, w₀) past s := by
  induction past generalizing s w with
  | nil =>
    obtain ⟨rfl, rfl⟩ := Prod.ext_iff.1 (Except.ok.inj run)
    have hunseen : ∀ a b n f, ¬ Seen (fresh id config clock, w₀) a b [] n f :=
      fun a b n f seen => nomatch seen
    exact ⟨rfl, ⟨List.nodup_nil, fun e he => (nomatch he)⟩,
      fun a b n f seen => absurd seen (hunseen a b n f),
      fun a b f => ⟨fun h => (nomatch h), fun ⟨n, _, seen, _⟩ => absurd seen (hunseen a b n f)⟩⟩
  | cons e past ih =>
    obtain ⟨⟨t, v⟩, hpast, hlast⟩ := outcome_cons_eq_ok.1 run
    obtain ⟨hconfig, ht⟩ := ih (fun e he => hnote e (List.mem_cons_of_mem _ he)) hpast
    cases e with
    | change f =>
      obtain ⟨rfl, rfl⟩ := Prod.ext_iff.1 (Except.ok.inj hlast)
      exact ⟨hconfig, ht.change f⟩
    | command c =>
      refine ⟨(perform_lawful hlast).config.trans hconfig, ?_⟩
      by_cases hstep : ∃ order, c = .step order
      · obtain ⟨order, rfl⟩ := hstep
        obtain ⟨rfl, rfl⟩ := Prod.ext_iff.1 (Except.ok.inj hlast)
        exact ht.step (hconfig ▸ hlife) hpast order
      · rw [not_exists] at hstep
        have hne : c ≠ .noteContacts := fun e => hnote _ List.mem_cons_self (congrArg _ e)
        exact ht.command hpast hlast hne hstep

/-- **The lifetime of contacts.**  After every history in which contacts are noted by steps alone,
there is a contact of two shapes exactly if one of the steps within its lifetime, the last one
included, found the two colliding and nothing has purged them since; and the contact is of the frame
of the latest such step. -/
theorem contact_lifetime (id : SimulationId) (config : Config K) (clock : Clock) (w₀ : World K)
    (hlife : config.contactLifetime.toNat + 1 < UInt32.size) (past : List (Happening K))
    (hnote : ∀ e ∈ past, e ≠ .command .noteContacts) (s : Simulation K) (w : World K)
    (run : outcome Happening.act (fresh id config clock, w₀) past = .ok (s, w)) (a b : ShapeId) :
    ((∃ c ∈ s.contacts.toList, c.Joins a b) ↔ ∃ n ≤ config.contactLifetime.toNat, ∃ f,
      Seen (fresh id config clock, w₀) a b past n f) ∧
    ∀ c ∈ s.contacts.toList, c.Joins a b → ∃ n ≤ config.contactLifetime.toNat,
      Seen (fresh id config clock, w₀) a b past n c.frame ∧
        ∀ m f, Seen (fresh id config clock, w₀) a b past m f → n ≤ m := by
  obtain ⟨hconfig, hs⟩ := faithful_of_history hlife hnote run
  have hlast : ∀ c ∈ s.contacts.toList, c.Joins a b → ∃ n ≤ config.contactLifetime.toNat,
      LastSeen (fresh id config clock, w₀) a b past n c.frame := by
    intro c hc hjoins
    have hframe : s.contacts.frame? (.of a b) = some c.frame := by
      rw [ContactTable.frame?, hs.keyed.find?_eq_some_iff.2 ⟨hc, hjoins⟩]
      rfl
    obtain ⟨n, hn, last⟩ := (hs.remembered a b c.frame).1 hframe
    exact ⟨n, hconfig ▸ hn, last⟩
  refine ⟨⟨?_, ?_⟩, hlast⟩
  · rintro ⟨c, hc, hjoins⟩
    obtain ⟨n, hn, seen, -⟩ := hlast c hc hjoins
    exact ⟨n, hn, c.frame, seen⟩
  · rintro ⟨n, hn, f, seen⟩
    obtain ⟨m, hm, g, last⟩ := exists_lastSeen seen
    have hframe : s.contacts.frame? (.of a b) = some g :=
      (hs.remembered a b g).2 ⟨m, hconfig ▸ Nat.le_trans hm hn, last⟩
    obtain ⟨c, hc, -⟩ := Option.map_eq_some_iff.1 hframe
    exact ⟨c, hs.keyed.find?_eq_some_iff.1 hc⟩

/-- The two balls of a jam collide in one step, and are far apart in the next one. -/
def parting : List (Happening Float32) :=
  [.command (.step ⟨0.01, 0, 1, 0⟩),
    .change (.onShapes fun shapes => shapes.modify ⟨1⟩ fun s => s.moveBy ⟨0, 10, 0⟩),
    .command (.step ⟨0.01, 0, 1, 0⟩), .command (.setEntity (some ⟨0⟩))]

/-- Their contact outlives the collision, with the frame of the step that found it. -/
theorem contact_lifetime_of_parting : ∃ s w,
    outcome Happening.act (fresh ⟨1⟩ .standard (.still 0), jam) parting = .ok (s, w) ∧
      s.frame = 2 ∧ ∃ n ≤ 2, Seen (fresh ⟨1⟩ .standard (.still 0), jam) ⟨0⟩ ⟨1⟩ parting n 1 ∧
        ∀ m f, Seen (fresh ⟨1⟩ .standard (.still 0), jam) ⟨0⟩ ⟨1⟩ parting m f → n ≤ m := by
  have hrun : (outcome Happening.act (fresh ⟨1⟩ .standard (.still 0), jam) parting).toOption.any
      (fun st => st.1.frame = 2 && st.1.contacts.toList.any fun c =>
        c.lower = ⟨0⟩ && c.upper = ⟨1⟩ && c.frame = 1) = true := by decide +kernel
  have hnote : ∀ e ∈ parting, e ≠ .command .noteContacts := by
    simp [parting]
  cases h : outcome Happening.act (fresh ⟨1⟩ .standard (.still 0), jam) parting with
  | error v => simp [h, Except.toOption] at hrun
  | ok st =>
    obtain ⟨s, w⟩ := st
    simp only [h, Except.toOption, Option.any_some, Bool.and_eq_true, decide_eq_true_eq,
      List.any_eq_true] at hrun
    obtain ⟨hframe, c, hc, ⟨hlower, hupper⟩, hlast⟩ := hrun
    have hlife := contact_lifetime ⟨1⟩ .standard (.still 0) jam (by decide) parting hnote s w h ⟨0⟩ ⟨1⟩
    exact ⟨s, w, rfl, hframe, hlast ▸ hlife.2 c hc (.inl ⟨hlower, hupper⟩)⟩

end Simulation

end RagdollDynamics
