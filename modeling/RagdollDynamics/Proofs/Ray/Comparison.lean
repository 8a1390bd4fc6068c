import Mathlib
import RagdollDynamics.Scalar

/-!
# Comparisons

How the tests of a number system belong together where some of its values are not numbers
(`Scalar.Ordered`), and that single precision meets this.  There a number has a place in a line,
given by its sign, its exponent and its digits in this order (`SinglePrecision.place?`), every test
compares places, and two values that are not the same share a place only if both are zeros.
-/

namespace RagdollDynamics

/-- The tests do not contradict each other, and they order the values that are at least zero. -/
class Scalar.Ordered (K : Type) [Scalar K] : Prop where
  lt_irrefl (a : K) : ¬a < a
  lt_trans {a b c : K} : a < b → b < c → a < c
  /-- A value at least zero lies beyond the lower or below the upper of two others. -/
  lt_or_lt {a b c : K} : 0 ≤ b → a < c → a < b ∨ b < c
  le_iff_not_lt {a b : K} : 0 ≤ a → 0 ≤ b → (a ≤ b ↔ ¬b < a)
  /-- Only zeros are different values of which neither is below the other. -/
  eq_or_zero {a b : K} : 0 ≤ a → 0 ≤ b → ¬a < b → ¬b < a → a = b ∨ a == 0 ∧ b == 0

namespace SinglePrecision

open Float.Model

/-! ### Places -/

/-- Where a number stands among the others: what comes first decides. -/
abbrev Place := ℤ ×ₗ ℤ ×ₗ ℤ

/-- The place with the given sign, exponent and digits. -/
def Place.of (sign exponent digits : ℤ) : Place := toLex (sign, toLex (exponent, digits))

theorem Place.compare_of (s e d s' e' d' : ℤ) :
    compare (of s e d) (of s' e' d') = (compare s s').then ((compare e e').then (compare d d')) :=
  rfl

theorem compare_neg (a b : ℤ) : compare (-a) (-b) = (compare a b).swap := by
  have hanti : StrictAnti fun x : ℤ => -x := fun _ _ => neg_lt_neg
  simp only [← cmp_eq_compare, cmp_swap]
  exact hanti.cmp_map_eq a b

theorem compare_natCast (m n : ℕ) : compare (m : ℤ) (n : ℤ) = compare m n := by
  simp only [← cmp_eq_compare]
  exact Int.natCast_strictMono.cmp_map_eq m n

/-- The place of a number in its parts; what is not a number has none. -/
def placeOfParts? : UnpackedFloat → Option Place
  | .notANumber => none
  | .infinity .negative => some (.of (-2) 0 0)
  | .finite .negative m e _ => some (.of (-1) (-e) (-m))
  | .zero _ => some (.of 0 0 0)
  | .finite .positive m e _ => some (.of 1 e m)
  | .infinity .positive => some (.of 2 0 0)

theorem compare_eq (x y : UnpackedFloat) :
    x.compare y = (placeOfParts? x).bind fun p => (placeOfParts? y).map (compare p) := by
  rcases x with (_ | _) | _ | _ | ⟨_ | _, m, e, hm⟩ <;>
    rcases y with (_ | _) | _ | _ | ⟨_ | _, n, f, hn⟩ <;>
      simp only [UnpackedFloat.compare, placeOfParts?, Place.compare_of, Ordering.swap_then,
        compare_neg, compare_natCast, Option.bind_none, Option.bind_some, Option.map_none,
        Option.map_some] <;>
      rfl

theorem Place.of_inj {s e d s' e' d' : ℤ} :
    of s e d = of s' e' d' ↔ s = s' ∧ e = e' ∧ d = d' := by
  simp only [of, toLex_inj, Prod.mk.injEq]

/-- Numbers that share a place have the same parts, zeros apart. -/
theorem parts_eq_or_zero {x y : UnpackedFloat} (hx : placeOfParts? x ≠ none)
    (h : placeOfParts? x = placeOfParts? y) : x = y ∨ (∃ s, x = .zero s) ∧ ∃ s, y = .zero s := by
  rcases x with (_ | _) | _ | s | ⟨_ | _, m, e, hm⟩ <;>
    rcases y with (_ | _) | _ | t | ⟨_ | _, n, f, hn⟩ <;>
      simp_all [placeOfParts?, Place.of_inj]

/-! ### Bits -/

open Float.Model.UnpackedFloat (Sign unpackSign unpackExponent unpackMantissa)

variable {a b : BitVec Format.binary32.numBits}

/-- The sign, the exponent field and the digit field of the bits of a number with given parts. -/
def fields? : UnpackedFloat → Option (Sign × ℕ × ℕ)
  | .notANumber => none
  | .infinity s => some (s, 255, 0)
  | .zero s => some (s, 0, 0)
  | .finite s m e _ => some (s, if m < 2 ^ 23 then 0 else (e + 150).toNat, m % 2 ^ 23)

theorem fields?_unpack (h : UnpackedFloat.unpack Format.binary32 a ≠ .notANumber) :
    fields? (UnpackedFloat.unpack Format.binary32 a) =
      some (Sign.ofBitVec (unpackSign a), (unpackExponent a).toNat, (unpackMantissa a).toNat) := by
  have hmantissa : (unpackMantissa a).toNat < 2 ^ 23 := (unpackMantissa a).isLt
  have hbias : (Format.binary32.exponentBias : ℤ) = 127 := rfl
  unfold UnpackedFloat.unpack at h ⊢
  simp only at h ⊢
  split at h
  next top =>
    -- an infinity, or not a number
    split at h
    next none => simp [top, none, fields?]
    next => exact absurd rfl h
  next top =>
    rw [if_neg top]
    split
    next bottom =>
      -- zero, or a subnormal number, whose digits are those of the field
      split
      next none => simp [bottom, none, fields?]
      next =>
        rw [fields?, if_pos hmantissa, Nat.mod_eq_of_lt hmantissa, bottom]
        rfl
    next =>
      -- a normal number, whose first digit is not in the field
      have hdigits : (1#1 ++ unpackMantissa a).toNat = 2 ^ 23 + (unpackMantissa a).toNat := by
        rw [BitVec.toNat_append, ← Nat.shiftLeft_add_eq_or_of_lt hmantissa]
        rfl
      rw [fields?, hdigits, if_neg (by omega), hbias, Nat.add_mod_left, Nat.mod_eq_of_lt hmantissa]
      congr 3
      omega

theorem bits_eq (hsign : Sign.ofBitVec (unpackSign a) = Sign.ofBitVec (unpackSign b))
    (hexponent : (unpackExponent a).toNat = (unpackExponent b).toNat)
    (hmantissa : (unpackMantissa a).toNat = (unpackMantissa b).toNat) : a = b := by
  have hbit : Function.Injective Sign.ofBitVec := by
    intro u v h
    obtain rfl | rfl := BitVec.eq_zero_or_eq_one u <;>
      obtain rfl | rfl := BitVec.eq_zero_or_eq_one v <;> first | rfl | cases h
  have whole : ∀ c : BitVec Format.binary32.numBits,
      unpackSign c ++ unpackExponent c ++ unpackMantissa c = c := by
    intro c
    simp only [unpackSign, unpackExponent, unpackMantissa, BitVec.extractLsb]
    ext i hi
    grind
  rw [← whole a, ← whole b, hbit hsign, BitVec.eq_of_toNat_eq hexponent,
    BitVec.eq_of_toNat_eq hmantissa]

theorem bits_eq_of_unpack (h : UnpackedFloat.unpack Format.binary32 a ≠ .notANumber)
    (heq : UnpackedFloat.unpack Format.binary32 a = UnpackedFloat.unpack Format.binary32 b) :
    a = b := by
  have hfields := fields?_unpack h
  rw [heq, fields?_unpack (heq ▸ h)] at hfields
  simp only [Option.some.injEq, Prod.mk.injEq] at hfields
  exact bits_eq hfields.1.symm hfields.2.1.symm hfields.2.2.symm

/-! ### The tests -/

def place? (x : Float32) : Option Place := placeOfParts? x.toModel.unpack

variable {x y : Float32}

theorem lt_iff_place : x < y ↔ ∃ p, place? x = some p ∧ ∃ q, place? y = some q ∧ p < q := by
  have hparts : x < y ↔ x.toModel.unpack.compare y.toModel.unpack = some .lt :=
    decide_eq_true_iff.trans beq_iff_eq
  simp only [hparts, compare_eq, Option.bind_eq_some_iff, Option.map_eq_some_iff,
    compare_lt_iff_lt, place?]

theorem le_iff_place : x ≤ y ↔ ∃ p, place? x = some p ∧ ∃ q, place? y = some q ∧ p ≤ q := by
  have hparts : x ≤ y ↔ (x.toModel.unpack.compare y.toModel.unpack).any (·.isLE) = true :=
    decide_eq_true_iff
  rw [hparts, compare_eq]
  simp only [place?]
  cases placeOfParts? x.toModel.unpack <;> cases placeOfParts? y.toModel.unpack <;>
    simp [Ordering.isLE_iff_ne_gt, compare_le_iff_le]

theorem eq_of_unpack (hnumber : x.toModel.unpack ≠ .notANumber)
    (h : x.toModel.unpack = y.toModel.unpack) : x = y := by
  have hbits := bits_eq_of_unpack hnumber h
  obtain ⟨⟨⟨u⟩, hu⟩⟩ := x
  obtain ⟨⟨⟨v⟩, hv⟩⟩ := y
  obtain rfl : u = v := hbits
  rfl

theorem eq_or_zero_of_place (hx : place? x ≠ none) (h : place? x = place? y) :
    x = y ∨ x == 0 ∧ y == 0 := by
  have hzero : ∀ {z : Float32} {s : Sign}, z.toModel.unpack = .zero s → z == 0 := by
    intro z s hz
    change (z.toModel.unpack.compare (0 : Float32).toModel.unpack == some .eq) = true
    rw [hz]
    rfl
  rcases parts_eq_or_zero hx h with h | ⟨⟨s, hs⟩, t, ht⟩
  · exact .inl (eq_of_unpack (fun hnan => hx (by rw [place?, hnan]; rfl)) h)
  · exact .inr ⟨hzero hs, hzero ht⟩

instance : Scalar.Ordered Float32 where
  lt_irrefl a h := by
    obtain ⟨p, hp, q, hq, hlt⟩ := lt_iff_place.1 h
    rw [hp, Option.some.injEq] at hq
    exact absurd hq hlt.ne
  lt_trans hab hbc := by
    obtain ⟨p, hp, q, hq, hpq⟩ := lt_iff_place.1 hab
    obtain ⟨q', hq', r, hr, hqr⟩ := lt_iff_place.1 hbc
    rw [hq, Option.some.injEq] at hq'
    exact lt_iff_place.2 ⟨p, hp, r, hr, hpq.trans (hq' ▸ hqr)⟩
  lt_or_lt hb hac := by
    obtain ⟨-, -, q, hq, -⟩ := le_iff_place.1 hb
    obtain ⟨p, hp, r, hr, hpr⟩ := lt_iff_place.1 hac
    exact (lt_or_ge p q).imp (fun hpq => lt_iff_place.2 ⟨p, hp, q, hq, hpq⟩)
      fun hqp => lt_iff_place.2 ⟨q, hq, r, hr, hqp.trans_lt hpr⟩
  le_iff_not_lt ha hb := by
    obtain ⟨-, -, p, hp, -⟩ := le_iff_place.1 ha
    obtain ⟨-, -, q, hq, -⟩ := le_iff_place.1 hb
    rw [le_iff_place, lt_iff_place]
    simp only [hp, hq, Option.some.injEq, exists_eq_left', not_lt]
  eq_or_zero ha hb hab hba := by
    obtain ⟨-, -, p, hp, -⟩ := le_iff_place.1 ha
    obtain ⟨-, -, q, hq, -⟩ := le_iff_place.1 hb
    rw [lt_iff_place] at hab hba
    simp only [hp, hq, Option.some.injEq, exists_eq_left', not_lt] at hab hba
    refine eq_or_zero_of_place (by rw [hp]; nofun) ?_
    rw [hp, hq, le_antisymm hba hab]

end SinglePrecision

end RagdollDynamics
