import Mathlib.Algebra.Order.Ring.Int
import Pogocache.Binary64

namespace Pogocache

def intMin : Int := -2 ^ 31

def intMax : Int := 2 ^ 31 - 1

/-- Largest value of `size_t` and of `rlim_t`. -/
def sizeMax : Nat := 2 ^ 64 - 1

/-- `v` is a value of the C `int` type. -/
def IntRange (v : Int) : Prop := intMin ≤ v ∧ v ≤ intMax

instance (v : Int) : Decidable (IntRange v) := inferInstanceAs (Decidable (_ ∧ _))

/-- `(int)v` for a value of an unsigned type. C leaves it to the implementation; gcc and
clang reduce modulo `2 ^ 32`. -/
def wrapInt (v : Int) : Int := (v + 2 ^ 31) % 2 ^ 32 - 2 ^ 31

/-- A `double` literal of the source, as its exact binary64 value `mant / 2 ^ exp`. -/
structure DoubleLit where
  mant : Nat
  exp : Nat

def dbl0_5 : DoubleLit := ⟨1, 1⟩
def dbl0_65 : DoubleLit := ⟨5854679515581645, 53⟩
def dbl0_75 : DoubleLit := ⟨3, 2⟩
def dbl0_85 : DoubleLit := ⟨7656119366529843, 53⟩
def dbl1_1 : DoubleLit := ⟨2476979795053773, 51⟩
def dbl1_15 : DoubleLit := ⟨2589569785738035, 51⟩
def dbl1_2 : DoubleLit := ⟨5404319552844595, 52⟩
def dbl1_25 : DoubleLit := ⟨5, 2⟩
def dbl1_3 : DoubleLit := ⟨5854679515581645, 52⟩
def dbl1_5 : DoubleLit := ⟨3, 1⟩

/-- How the planner's C expressions are evaluated. The code is translated once, over an
`Arith`; `lp64` is the compiled program, `exact` the same code over unbounded integers. -/
structure Arith where
  /-- An `int` result: `some v` when the type holds `v`, `none` (undefined behaviour) when not. -/
  int : Int → Option Int
  /-- `(int)v` for a value of an unsigned type. -/
  toInt : Int → Int
  /-- `(size_t)v` for an `int` value. -/
  toSizeT : Int → Int
  /-- The `double` nearest an exact nonnegative integer product. -/
  toDouble : Nat → Nat
  /-- `(int)d` for a `double` `d` already truncated: undefined when `int` does not hold it. -/
  ofDouble : Int → Option Int

/-- 32-bit `int`, 64-bit `size_t` and binary64 `double`, as gcc compiles the source. -/
def Arith.lp64 : Arith where
  int v := if IntRange v then some v else none
  toInt := wrapInt
  toSizeT v := v % 2 ^ 64
  toDouble := roundDouble
  ofDouble v := if IntRange v then some v else none

/-- Unbounded integers, exact products, conversions that change nothing. -/
def Arith.exact : Arith where
  int := some
  toInt := id
  toSizeT := id
  toDouble := id
  ofDouble := some

/-- The same machine as `gcc -fwrapv` compiles it: `int` arithmetic wraps modulo `2 ^ 32`,
while a `double` converted to `int` out of range stays undefined. -/
def Arith.wrap : Arith where
  int v := some (wrapInt v)
  toInt := wrapInt
  toSizeT v := v % 2 ^ 64
  toDouble := roundDouble
  ofDouble v := if IntRange v then some v else none

/-- `x * c` in `double`, scaled by `2 ^ c.exp` to an integer. -/
def Arith.mulDouble (A : Arith) (x : Int) (c : DoubleLit) : Int :=
  x.sign * A.toDouble (x.natAbs * c.mant)

/-- `(int)(x * c)`: the `double` product truncated toward zero, if `int` holds it. -/
def Arith.truncMul (A : Arith) (x : Int) (c : DoubleLit) : Option Int :=
  A.ofDouble ((A.mulDouble x c).tdiv (2 ^ c.exp))

/-- `(int)(x * c)` for a nonnegative `x`, as the compiled code computes it: the product
rounded to the nearest `double`, then truncated. -/
def scaleBy (c : DoubleLit) (x : Nat) : Nat := roundDouble (x * c.mant) / 2 ^ c.exp

theorem wrapInt_range (v : Int) : IntRange (wrapInt v) := by
  unfold IntRange wrapInt intMin intMax
  omega

@[simp] theorem wrapInt_of_range {v : Int} (h : IntRange v) : wrapInt v = v := by
  unfold IntRange intMin intMax at h
  unfold wrapInt
  omega

theorem lp64_int (v : Int) : Arith.lp64.int v = if IntRange v then some v else none := rfl

@[simp] theorem lp64_int_of_range {v : Int} (h : IntRange v) : Arith.lp64.int v = some v :=
  if_pos h

@[simp] theorem lp64_int_of_not_range {v : Int} (h : ¬IntRange v) : Arith.lp64.int v = none :=
  if_neg h

@[simp] theorem lp64_toInt : Arith.lp64.toInt = wrapInt := rfl

@[simp] theorem lp64_toSizeT (v : Int) : Arith.lp64.toSizeT v = v % 2 ^ 64 := rfl

@[simp] theorem lp64_toDouble : Arith.lp64.toDouble = roundDouble := rfl

@[simp] theorem lp64_ofDouble : Arith.lp64.ofDouble = Arith.lp64.int := rfl

@[simp] theorem exact_int (v : Int) : Arith.exact.int v = some v := rfl

@[simp] theorem exact_toInt (v : Int) : Arith.exact.toInt v = v := rfl

@[simp] theorem exact_toSizeT (v : Int) : Arith.exact.toSizeT v = v := rfl

@[simp] theorem exact_toDouble (n : Nat) : Arith.exact.toDouble n = n := rfl

@[simp] theorem exact_ofDouble (v : Int) : Arith.exact.ofDouble v = some v := rfl

@[simp] theorem exact_mulDouble (x : Int) (c : DoubleLit) :
    Arith.exact.mulDouble x c = x * c.mant := by
  simp only [Arith.mulDouble, exact_toDouble, Int.natCast_mul, ← Int.mul_assoc,
    Int.sign_mul_natAbs]

/-- Below `2 ^ 53` the compiled product is exact. -/
theorem lp64_mulDouble {x : Int} {c : DoubleLit} (h : x.natAbs * c.mant < 2 ^ 53) :
    Arith.lp64.mulDouble x c = x * c.mant := by
  simp only [Arith.mulDouble, lp64_toDouble, roundDouble_of_lt h, Int.natCast_mul,
    ← Int.mul_assoc, Int.sign_mul_natAbs]

theorem exact_truncMul (x : Int) (c : DoubleLit) :
    Arith.exact.truncMul x c = some ((x * c.mant).tdiv (2 ^ c.exp)) := by
  simp [Arith.truncMul]

theorem lp64_int_of_bounds {v : Int} (h1 : -2 ^ 31 ≤ v) (h2 : v < 2 ^ 31) :
    Arith.lp64.int v = some v :=
  lp64_int_of_range (by unfold IntRange intMin intMax; omega)

theorem lp64_int_eq_none_iff (v : Int) :
    Arith.lp64.int v = none ↔ v < -2 ^ 31 ∨ 2 ^ 31 ≤ v := by
  rw [lp64_int]
  unfold IntRange intMin intMax
  split <;> simp only [reduceCtorEq, false_iff, true_iff] <;> omega

theorem lp64_truncMul_of_nonneg {x : Int} {m e : Nat} (h0 : 0 ≤ x) (h : x * m < 2 ^ 53) :
    Arith.lp64.truncMul x ⟨m, e⟩ = Arith.lp64.int (x * m / 2 ^ e) := by
  have hx : x.natAbs * m < 2 ^ 53 := by
    have : ((x.natAbs * m : Nat) : Int) = x * m := by rw [Int.natCast_mul, Int.natAbs_of_nonneg h0]
    omega
  rw [Arith.truncMul, lp64_ofDouble, lp64_mulDouble hx, Int.tdiv_eq_ediv (Int.mul_nonneg h0 (Int.ofNat_nonneg m))
    (Int.le_of_lt (pow_pos (by decide) e))]

/-- A conditional choice of two defined results is a defined result. -/
theorem ite_some {α : Type} {p : Prop} [Decidable p] (a b : α) :
    (if p then some a else some b) = some (if p then a else b) :=
  (apply_ite some p a b).symm

@[simp] theorem wrap_int (v : Int) : Arith.wrap.int v = some (wrapInt v) := rfl

/-- The compiled `(int)(x * c)` rounds and truncates the magnitude and keeps the sign. -/
theorem lp64_truncMul (x : Int) (c : DoubleLit) :
    Arith.lp64.truncMul x c = Arith.lp64.int (x.sign * scaleBy c x.natAbs) := by
  unfold Arith.truncMul Arith.mulDouble scaleBy
  rw [lp64_ofDouble, lp64_toDouble, show (2 : Int) ^ c.exp = ((2 ^ c.exp : Nat) : Int) by simp]
  congr 1
  rcases Int.lt_trichotomy x 0 with h | rfl | h
  · rw [Int.sign_eq_neg_one_of_neg h, neg_one_mul, neg_one_mul, Int.neg_tdiv, Int.ofNat_tdiv]
  · simp
  · rw [Int.sign_eq_one_of_pos h, Int.one_mul, Int.one_mul, Int.ofNat_tdiv]

@[simp] theorem scaleBy_zero (c : DoubleLit) : scaleBy c 0 = 0 := by
  simp [scaleBy]

theorem lp64_truncMul_natCast (x : Nat) (c : DoubleLit) :
    Arith.lp64.truncMul x c = Arith.lp64.int (scaleBy c x) := by
  rw [lp64_truncMul]
  rcases Nat.eq_zero_or_pos x with rfl | hx
  · simp
  · rw [Int.sign_natCast_of_ne_zero (by omega), Int.one_mul, Int.natAbs_ofNat]

theorem scaleBy_mono (c : DoubleLit) {x y : Nat} (h : x ≤ y) : scaleBy c x ≤ scaleBy c y :=
  Nat.div_le_div_right (roundDouble_mono (Nat.mul_le_mul_right _ h))

/-- A factor at least the dyadic `a / 2 ^ k` scales `x` to at least `x * a / 2 ^ k`, which
is exact. -/
theorem le_scaleBy {c : DoubleLit} {a k x : Nat} (hk : k ≤ c.exp)
    (hc : a * 2 ^ c.exp ≤ c.mant * 2 ^ k) (hx : x * a < 2 ^ 53) :
    x * a / 2 ^ k ≤ scaleBy c x := by
  have ha : a * 2 ^ (c.exp - k) ≤ c.mant := by
    refine Nat.le_of_mul_le_mul_right ?_ (Nat.two_pow_pos k)
    rwa [Nat.mul_assoc, Nat.mul_comm (2 ^ _), pow_mul_pow_sub 2 hk]
  calc x * a / 2 ^ k = x * a * 2 ^ (c.exp - k) / 2 ^ c.exp := by
        rw [← pow_mul_pow_sub 2 hk, Nat.mul_div_mul_right _ _ (Nat.two_pow_pos _)]
    _ ≤ scaleBy c x := by
        refine Nat.div_le_div_right ?_
        rw [← roundDouble_mul_pow (c.exp - k) hx, Nat.mul_assoc]
        exact roundDouble_mono (Nat.mul_le_mul_left x ha)

/-- A factor at most the dyadic `a / 2 ^ k` scales `x` to at most `x * a / 2 ^ k`. -/
theorem scaleBy_le {c : DoubleLit} {a k x : Nat} (hk : k ≤ c.exp)
    (hc : c.mant * 2 ^ k ≤ a * 2 ^ c.exp) (hx : x * a < 2 ^ 53) :
    scaleBy c x ≤ x * a / 2 ^ k := by
  have ha : c.mant ≤ a * 2 ^ (c.exp - k) := by
    refine Nat.le_of_mul_le_mul_right ?_ (Nat.two_pow_pos k)
    rwa [Nat.mul_assoc, Nat.mul_comm (2 ^ _), pow_mul_pow_sub 2 hk]
  calc scaleBy c x ≤ x * a * 2 ^ (c.exp - k) / 2 ^ c.exp := by
        refine Nat.div_le_div_right ?_
        rw [← roundDouble_mul_pow (c.exp - k) hx, Nat.mul_assoc]
        exact roundDouble_mono (Nat.mul_le_mul_left x ha)
    _ = x * a / 2 ^ k := by
        rw [← pow_mul_pow_sub 2 hk, Nat.mul_div_mul_right _ _ (Nat.two_pow_pos _)]

/-- A factor of at least one never scales down. -/
theorem self_le_scaleBy {c : DoubleLit} {x : Nat} (hc : 2 ^ c.exp ≤ c.mant) (hx : x < 2 ^ 53) :
    x ≤ scaleBy c x := by
  simpa using le_scaleBy (a := 1) (k := 0) (Nat.zero_le _) (by simpa using hc) (by simpa using hx)

end Pogocache
