import Pogocache.Planner

namespace Pogocache

/-- `if (b) optimal = (int)(optimal * c);` on a nonnegative `optimal`, compiled. -/
def scaleIf (b : Bool) (c : DoubleLit) (x : Nat) : Nat := if b then scaleBy c x else x

@[simp] theorem scaleIf_true (c : DoubleLit) (x : Nat) : scaleIf true c x = scaleBy c x := rfl

@[simp] theorem scaleIf_false (c : DoubleLit) (x : Nat) : scaleIf false c x = x := rfl

theorem lp64_scaleIf {p : Prop} [Decidable p] {c : DoubleLit} {x : Nat}
    (h : scaleIf (decide p) c x < 2 ^ 31) :
    (if p then Arith.lp64.truncMul x c else pure x) = some (scaleIf (decide p) c x : Int) := by
  by_cases hp : p
  · rw [decide_eq_true hp, scaleIf_true] at h ⊢
    rw [if_pos hp, lp64_truncMul_natCast, lp64_int_of_bounds (by omega) (by omega)]
  · rw [decide_eq_false hp, scaleIf_false, if_neg hp]
    rfl

/-- `if (b) optimal = (int)(optimal * c);` on an `int` `optimal = x`: an `int` or an
overflow. -/
theorem lp64_scaleIf_int {p : Prop} [Decidable p] {c : DoubleLit} {x : Nat} (hx : x < 2 ^ 31) :
    (if p then Arith.lp64.truncMul x c else pure x) =
      Arith.lp64.int (scaleIf (decide p) c x : Int) := by
  by_cases hp : p
  · rw [if_pos hp, decide_eq_true hp, scaleIf_true, lp64_truncMul_natCast]
  · rw [if_neg hp, decide_eq_false hp, scaleIf_false, lp64_int_of_bounds (by omega) (by omega)]
    rfl

/-- `(int)(-x * c)` truncates toward zero: it is `-(int)(x * c)`. -/
theorem lp64_truncMul_neg (x : Nat) (c : DoubleLit) :
    Arith.lp64.truncMul (-(x : Int)) c = Arith.lp64.int (-(scaleBy c x : Int)) := by
  rw [lp64_truncMul, Int.natAbs_neg, Int.natAbs_ofNat]
  rcases Nat.eq_zero_or_pos x with rfl | hx
  · simp
  · rw [Int.sign_eq_neg_one_of_neg (by omega), neg_one_mul]

/-- `if (b) optimal = (int)(optimal * c);` on a nonpositive `optimal = -x`. -/
theorem lp64_scaleIf_neg {p : Prop} [Decidable p] {c : DoubleLit} {x : Nat} (hx : x ≤ 2 ^ 31) :
    (if p then Arith.lp64.truncMul (-(x : Int)) c else pure (-(x : Int))) =
      Arith.lp64.int (-(scaleIf (decide p) c x : Int)) := by
  by_cases hp : p
  · rw [if_pos hp, decide_eq_true hp, scaleIf_true, lp64_truncMul_neg]
  · rw [if_neg hp, decide_eq_false hp, scaleIf_false, lp64_int_of_bounds (by omega) (by omega)]
    rfl

theorem scaleIf_mono {b b' : Bool} {c : DoubleLit} {x y : Nat} (hb : b = true → b' = true)
    (hxy : x ≤ y) (hy : y ≤ scaleBy c y) : scaleIf b c x ≤ scaleIf b' c y := by
  cases b <;> cases b' <;> simp_all [scaleIf, scaleBy_mono]
  omega

theorem scaleIf_le {b : Bool} {c : DoubleLit} {a k x : Nat} (hk : k ≤ c.exp)
    (hc : c.mant * 2 ^ k ≤ a * 2 ^ c.exp) (ha : 2 ^ k ≤ a) (hx : x * a < 2 ^ 53) :
    scaleIf b c x ≤ x * a / 2 ^ k := by
  cases b
  · exact (Nat.le_div_iff_mul_le (Nat.two_pow_pos k)).2 (Nat.mul_le_mul_left x ha)
  · exact scaleBy_le hk hc hx

/-- A boost by a factor of at least one never scales down. -/
theorem self_le_scaleIf (b : Bool) {c : DoubleLit} {x : Nat} (hc : 2 ^ c.exp ≤ c.mant)
    (hx : x < 2 ^ 53) : x ≤ scaleIf b c x := by
  cases b
  · exact Nat.le_refl x
  · exact self_le_scaleBy hc hx

/-- The boost by the `double` nearest 1.1 stays below 9/8. -/
theorem scaleIf_dbl1_1_le (b : Bool) (x : Nat) (hx : x < 2 ^ 49) :
    scaleIf b dbl1_1 x ≤ x * 9 / 2 ^ 3 :=
  scaleIf_le (by decide) (by decide) (by decide) (by omega)

/-- The boost by the `double` nearest 1.2 stays below 5/4. -/
theorem scaleIf_dbl1_2_le (b : Bool) (x : Nat) (hx : x < 2 ^ 50) :
    scaleIf b dbl1_2 x ≤ x * 5 / 2 ^ 2 :=
  scaleIf_le (by decide) (by decide) (by decide) (by omega)

/-- Backlog per core before the many-core boost: 256, times 3/2 above 4 GiB or 3/4 below
2 GiB. -/
def backlogRate (r : SystemResources) : Int :=
  if r.hasHighMemory then 384 else if r.totalMemory < perfMediumMemoryThreshold then 192 else 256

/-- Backlog per core: the rate, times 5/4 above four cores. The factors are exact in
`double`, and every product stays whole. -/
def backlogPerCore (r : SystemResources) : Int :=
  if r.hasManyCores then backlogRate r * 5 / 4 else backlogRate r

/-- Up to `2 ^ 22` cores the compiled backlog is the per-core rate times the cores,
clamped. -/
theorem perfCalcOptimalBacklog_lp64 (r : SystemResources) (h0 : 0 ≤ r.cpuCores)
    (h1 : r.cpuCores ≤ 2 ^ 22) : perfCalcOptimalBacklog .lp64 r =
      some (clampBounds perfMinBacklog perfMaxBacklog (backlogPerCore r * r.cpuCores)) := by
  have hmem : (if r.hasHighMemory then Arith.lp64.truncMul (256 * r.cpuCores) dbl1_5
      else if r.totalMemory < perfMediumMemoryThreshold then
        Arith.lp64.truncMul (256 * r.cpuCores) dbl0_75
      else pure (256 * r.cpuCores)) = some (backlogRate r * r.cpuCores) := by
    unfold backlogRate
    split_ifs
    · rw [dbl1_5, @lp64_truncMul_of_nonneg _ 3 1 (by omega) (by omega),
        lp64_int_of_bounds (by omega) (by omega)]
      congr 1
      omega
    · rw [dbl0_75, @lp64_truncMul_of_nonneg _ 3 2 (by omega) (by omega),
        lp64_int_of_bounds (by omega) (by omega)]
      congr 1
      omega
    · exact congrArg some (by omega)
  have hR : 0 ≤ backlogRate r ∧ backlogRate r ≤ 384 ∧ 4 ∣ backlogRate r := by
    unfold backlogRate
    split_ifs <;> decide
  have hx0 : 0 ≤ backlogRate r * r.cpuCores := Int.mul_nonneg hR.1 h0
  have hx1 : backlogRate r * r.cpuCores ≤ 384 * 2 ^ 22 := Int.mul_le_mul hR.2.1 h1 h0 (by decide)
  simp only [perfCalcOptimalBacklog, backlogScaled, Option.bind_eq_bind,
    lp64_int_of_bounds (show -2 ^ 31 ≤ 256 * r.cpuCores by omega) (by omega), Option.some_bind,
    hmem]
  unfold backlogPerCore
  split
  · -- the boost by 5/4 is exact: every rate is a multiple of 4
    rw [dbl1_25, @lp64_truncMul_of_nonneg _ 5 2 hx0 (by omega),
      lp64_int_of_bounds (by omega) (by omega), Option.some_bind]
    simp only [Nat.cast_ofNat, Int.reducePow]
    rw [Int.mul_right_comm, Int.mul_ediv_assoc' _ (dvd_mul_of_dvd_left hR.2.2 5)]
    rfl
  · rfl

/-- The queue size before the core boosts: 64 per core, 128 above 4 GiB, 32 below 2 GiB. -/
def queuesizeBase (r : SystemResources) : Int :=
  if r.hasHighMemory then r.cpuCores * 128
  else if r.totalMemory < perfMediumMemoryThreshold then r.cpuCores * 32
  else r.cpuCores * 64

/-- Up to `2 ^ 20` cores the compiled queue size is the base, boosted through `double` by
1.2 from 8 cores and by 1.3 from 16, clamped. -/
theorem perfCalcOptimalQueuesize_lp64 (r : SystemResources) (h0 : 0 ≤ r.cpuCores)
    (h1 : r.cpuCores ≤ 2 ^ 20) : perfCalcOptimalQueuesize .lp64 r =
      some (clampBounds perfMinQueuesize perfMaxQueuesize
        (scaleIf (decide (16 ≤ r.cpuCores)) dbl1_3
          (scaleIf (decide (8 ≤ r.cpuCores)) dbl1_2 (queuesizeBase r).toNat))) := by
  have hmem : (if r.hasHighMemory then Arith.lp64.int (r.cpuCores * 128)
      else if r.totalMemory < perfMediumMemoryThreshold then Arith.lp64.int (r.cpuCores * 32)
      else pure (r.cpuCores * 64)) = some (queuesizeBase r) := by
    unfold queuesizeBase
    split_ifs <;> first | exact lp64_int_of_bounds (by omega) (by omega) | rfl
  have hb : 0 ≤ queuesizeBase r ∧ queuesizeBase r ≤ 2 ^ 27 := by
    unfold queuesizeBase
    split_ifs <;> omega
  generalize hX : (queuesizeBase r).toNat = X
  have hbase : queuesizeBase r = X := by omega
  have hs1 := scaleIf_dbl1_2_le (decide (8 ≤ r.cpuCores)) X (by omega)
  have hs2 : scaleIf (decide (16 ≤ r.cpuCores)) dbl1_3
      (scaleIf (decide (8 ≤ r.cpuCores)) dbl1_2 X) ≤
        scaleIf (decide (8 ≤ r.cpuCores)) dbl1_2 X * 3 / 2 ^ 1 :=
    scaleIf_le (by decide) (by decide) (by decide) (by omega)
  rw [perfCalcOptimalQueuesize, queuesizeScaled, lp64_int_of_bounds (by omega) (by omega)]
  simp only [Option.bind_eq_bind, Option.some_bind, hmem, hbase]
  rw [lp64_scaleIf (by omega), Option.some_bind, lp64_scaleIf (by omega), Option.some_bind]
  rfl

/-- The factor `perf_calc_optimal_maxconns` picks from the two flags. -/
def maxconnsFactor (r : SystemResources) : DoubleLit :=
  if r.hasHighMemory && r.hasManyCores then dbl0_85
  else if r.hasHighMemory || r.hasManyCores then dbl0_75 else dbl0_65

theorem truncMul_maxconnsFactor (A : Arith) (r : SystemResources) (x : Int) :
    (if r.hasHighMemory && r.hasManyCores then A.truncMul x dbl0_85
      else if r.hasHighMemory || r.hasManyCores then A.truncMul x dbl0_75
      else A.truncMul x dbl0_65) = A.truncMul x (maxconnsFactor r) := by
  unfold maxconnsFactor
  split_ifs <;> rfl

/-- The flag factor scales by at most 7/8, and by at most 3/4 unless it is the 0.85 of a
high-memory many-core machine. -/
theorem scaleBy_maxconnsFactor_le (r : SystemResources) {n : Nat} (hn : n < 2 ^ 50) :
    scaleBy (maxconnsFactor r) n ≤ n * 7 / 2 ^ 3 ∧
      ((r.hasHighMemory && r.hasManyCores) = false →
        scaleBy (maxconnsFactor r) n ≤ n * 3 / 2 ^ 2) := by
  unfold maxconnsFactor
  split_ifs with h85
  · exact ⟨scaleBy_le (by decide) (by decide) (by omega),
      fun h => absurd (h.symm.trans h85) Bool.false_ne_true⟩
  · have h75 : scaleBy dbl0_75 n ≤ n * 3 / 2 ^ 2 := scaleBy_le (by decide) (by decide) (by omega)
    exact ⟨by omega, fun _ => h75⟩
  · have h65 : scaleBy dbl0_65 n ≤ n * 3 / 2 ^ 2 := scaleBy_le (by decide) (by decide) (by omega)
    exact ⟨by omega, fun _ => h65⟩

/-- Below 12 TiB the memory limit is below `2 ^ 30` connections. -/
theorem memoryLimit_lt {m : Nat} (hm : m < perfMemoryPerConnection * 2 ^ 30) :
    m / perfMemoryPerConnection < 2 ^ 30 :=
  (Nat.div_lt_iff_lt_mul (by decide)).2 (by rwa [Nat.mul_comm])

/-- Below `INT_MIN + 256`, `max_file_descriptors - 256` overflows. -/
theorem maxconnsScaled_lp64_of_fd_lt (r : SystemResources)
    (hf : r.maxFileDescriptors < -2 ^ 31 + 256) : maxconnsScaled .lp64 r = none := by
  rw [maxconnsScaled, lp64_int_of_not_range (by unfold IntRange intMin intMax; omega)]
  rfl

/-- From `INT_MIN + 256` up the descriptor limit does not overflow, and the smaller limit,
the memory one taken modulo `2 ^ 32`, is scaled. -/
theorem maxconnsScaled_lp64_wrap (r : SystemResources)
    (hf : -2 ^ 31 + 256 ≤ r.maxFileDescriptors) : maxconnsScaled .lp64 r =
      (Arith.lp64.truncMul (min (wrapInt (r.availableMemory / perfMemoryPerConnection : Nat))
        (r.maxFileDescriptors - 256)) (maxconnsFactor r)).bind fun o =>
      (if 8 ≤ r.cpuCores then Arith.lp64.truncMul o dbl1_1 else pure o).bind fun o =>
        if 16 ≤ r.cpuCores then Arith.lp64.truncMul o dbl1_15 else pure o := by
  have hfd : r.maxFileDescriptors ≤ 2 ^ 31 - 1 := r.maxFileDescriptors_range.2
  have hmin : ∀ a b : Int, (if a < b then a else b) = min a b := fun a b => by
    split <;> omega
  simp only [maxconnsScaled, lp64_toInt, hmin, Option.bind_eq_bind, Option.some_bind,
    lp64_int_of_bounds (show -2 ^ 31 ≤ r.maxFileDescriptors - 256 by omega) (by omega),
    truncMul_maxconnsFactor]

/-- Below 12 TiB the memory limit converts to `int` exactly. -/
theorem maxconnsScaled_lp64 (r : SystemResources)
    (hm : r.availableMemory < perfMemoryPerConnection * 2 ^ 30)
    (hf : -2 ^ 31 + 256 ≤ r.maxFileDescriptors) : maxconnsScaled .lp64 r =
      (Arith.lp64.truncMul (min ((r.availableMemory / perfMemoryPerConnection : Nat) : Int)
        (r.maxFileDescriptors - 256)) (maxconnsFactor r)).bind fun o =>
      (if 8 ≤ r.cpuCores then Arith.lp64.truncMul o dbl1_1 else pure o).bind fun o =>
        if 16 ≤ r.cpuCores then Arith.lp64.truncMul o dbl1_15 else pure o := by
  have hmem := memoryLimit_lt hm
  rw [maxconnsScaled_lp64_wrap r hf]
  generalize r.availableMemory / perfMemoryPerConnection = q at hmem ⊢
  rw [wrapInt_of_range (by unfold IntRange intMin intMax; omega)]

/-- A limit `n < 2 ^ 31` stays in range through the flag factor (at most 7/8) and 1.1
(below 9/8); the last rounding gives the scaled `n`, an `int` or an overflow. -/
theorem maxconnsScale_lp64_of_lt (r : SystemResources) {n : Nat} (hn : n < 2 ^ 31) :
    ((Arith.lp64.truncMul n (maxconnsFactor r)).bind fun o =>
      (if 8 ≤ r.cpuCores then Arith.lp64.truncMul o dbl1_1 else pure o).bind fun o =>
        if 16 ≤ r.cpuCores then Arith.lp64.truncMul o dbl1_15 else pure o) =
      Arith.lp64.int (scaleIf (decide (16 ≤ r.cpuCores)) dbl1_15
        (scaleIf (decide (8 ≤ r.cpuCores)) dbl1_1 (scaleBy (maxconnsFactor r) n)) : Int) := by
  have hs1 := (scaleBy_maxconnsFactor_le r (show n < 2 ^ 50 by omega)).1
  have hs2 := scaleIf_dbl1_1_le (decide (8 ≤ r.cpuCores)) (scaleBy (maxconnsFactor r) n) (by omega)
  rw [lp64_truncMul_natCast, lp64_int_of_bounds (by omega) (by omega), Option.some_bind,
    lp64_scaleIf_int (by omega), lp64_int_of_bounds (by omega) (by omega), Option.some_bind,
    lp64_scaleIf_int (by omega)]

/-- A nonnegative limit below `2 ^ 30` goes through the three roundings without overflow:
the flag factor is below 1, 1.1 below 9/8 and 1.15 below 5/4. -/
theorem maxconnsScale_lp64 (r : SystemResources) {n : Nat} (hn : n < 2 ^ 30) :
    ((Arith.lp64.truncMul n (maxconnsFactor r)).bind fun o =>
      (if 8 ≤ r.cpuCores then Arith.lp64.truncMul o dbl1_1 else pure o).bind fun o =>
        if 16 ≤ r.cpuCores then Arith.lp64.truncMul o dbl1_15 else pure o) =
      some (scaleIf (decide (16 ≤ r.cpuCores)) dbl1_15
        (scaleIf (decide (8 ≤ r.cpuCores)) dbl1_1 (scaleBy (maxconnsFactor r) n)) : Int) := by
  have hs1 := (scaleBy_maxconnsFactor_le r (show n < 2 ^ 50 by omega)).1
  have hs2 := scaleIf_dbl1_1_le (decide (8 ≤ r.cpuCores)) (scaleBy (maxconnsFactor r) n) (by omega)
  have hs3 : scaleIf (decide (16 ≤ r.cpuCores)) dbl1_15
      (scaleIf (decide (8 ≤ r.cpuCores)) dbl1_1 (scaleBy (maxconnsFactor r) n)) ≤
        scaleIf (decide (8 ≤ r.cpuCores)) dbl1_1 (scaleBy (maxconnsFactor r) n) * 5 / 2 ^ 2 :=
    scaleIf_le (by decide) (by decide) (by decide) (by omega)
  rw [maxconnsScale_lp64_of_lt r (by omega), lp64_int_of_bounds (by omega) (by omega)]

/-- A limit `-n` with `n ≤ 2 ^ 31` stays in range through the flag factor (at most 7/8) and
1.1 (below 9/8); the last rounding gives minus the scaled `n`, an `int` or an overflow. -/
theorem maxconnsScale_lp64_neg (r : SystemResources) {n : Nat} (hn : n ≤ 2 ^ 31) :
    ((Arith.lp64.truncMul (-(n : Int)) (maxconnsFactor r)).bind fun o =>
      (if 8 ≤ r.cpuCores then Arith.lp64.truncMul o dbl1_1 else pure o).bind fun o =>
        if 16 ≤ r.cpuCores then Arith.lp64.truncMul o dbl1_15 else pure o) =
      Arith.lp64.int (-(scaleIf (decide (16 ≤ r.cpuCores)) dbl1_15
        (scaleIf (decide (8 ≤ r.cpuCores)) dbl1_1 (scaleBy (maxconnsFactor r) n)) : Int)) := by
  have hs1 := (scaleBy_maxconnsFactor_le r (show n < 2 ^ 50 by omega)).1
  have hs2 := scaleIf_dbl1_1_le (decide (8 ≤ r.cpuCores)) (scaleBy (maxconnsFactor r) n) (by omega)
  rw [lp64_truncMul_neg, lp64_int_of_bounds (by omega) (by omega), Option.some_bind,
    lp64_scaleIf_neg (by omega), lp64_int_of_bounds (by omega) (by omega), Option.some_bind,
    lp64_scaleIf_neg (by omega)]

/-- A monotone chain of roundings reaches a level `t` from the first limit at which it does. -/
theorem reach_iff_of_monotone {f : Nat → Nat} (hf : Monotone f) {a t : Nat} (ha : f a < t)
    (hb : t ≤ f (a + 1)) (n : Nat) : t ≤ f n ↔ a + 1 ≤ n :=
  ⟨fun h => Nat.le_of_not_lt fun hn => absurd (hf (Nat.le_of_lt_succ hn)) (by omega),
    fun h => hb.trans (hf h)⟩

theorem scaleBy_boosted_mono :
    Monotone fun n => scaleBy dbl1_15 (scaleBy dbl1_1 (scaleBy dbl0_85 n)) :=
  fun _ _ h => scaleBy_mono dbl1_15 (scaleBy_mono dbl1_1 (scaleBy_mono dbl0_85 h))

/-- Through 0.85, 1.1 and 1.15, `-1997194745` reaches `INT_MIN` itself, and every limit
below it leaves the `int` range. -/
theorem scaleBy_boosted_overflow_iff {n : Nat} :
    2 ^ 31 < scaleBy dbl1_15 (scaleBy dbl1_1 (scaleBy dbl0_85 n)) ↔ 1997194746 ≤ n :=
  reach_iff_of_monotone (a := 1997194745) (t := 2 ^ 31 + 1) scaleBy_boosted_mono (by decide)
    (by decide) n

/-- Through 0.85, 1.1 and 1.15, `1997194744` reaches `INT_MAX` itself, and every limit above
it leaves the `int` range. -/
theorem scaleBy_boosted_reach_iff {n : Nat} :
    2 ^ 31 ≤ scaleBy dbl1_15 (scaleBy dbl1_1 (scaleBy dbl0_85 n)) ↔ 1997194745 ≤ n :=
  reach_iff_of_monotone (a := 1997194744) scaleBy_boosted_mono (by decide) (by decide) n

/-- With 16 cores or more on a high-memory many-core machine the three roundings are 0.85,
1.1 and 1.15. -/
theorem maxconnsScale_boosted (r : SystemResources) (h16 : 16 ≤ r.cpuCores)
    (hf : (r.hasHighMemory && r.hasManyCores) = true) (n : Nat) :
    scaleIf (decide (16 ≤ r.cpuCores)) dbl1_15
        (scaleIf (decide (8 ≤ r.cpuCores)) dbl1_1 (scaleBy (maxconnsFactor r) n)) =
      scaleBy dbl1_15 (scaleBy dbl1_1 (scaleBy dbl0_85 n)) := by
  rw [decide_eq_true h16, decide_eq_true (by omega : 8 ≤ r.cpuCores), scaleIf_true,
    scaleIf_true, show maxconnsFactor r = dbl0_85 from if_pos hf]

/-- Any other machine shrinks the limit: 7/8 times 9/8 is below 1, and so is 3/4 times 9/8
times 37/32. -/
theorem maxconnsScale_le_self (r : SystemResources) {n : Nat} (hn : n ≤ 2 ^ 31)
    (hb : ¬(16 ≤ r.cpuCores ∧ (r.hasHighMemory && r.hasManyCores) = true)) :
    scaleIf (decide (16 ≤ r.cpuCores)) dbl1_15
        (scaleIf (decide (8 ≤ r.cpuCores)) dbl1_1 (scaleBy (maxconnsFactor r) n)) ≤ n := by
  obtain ⟨hs78, hs34⟩ := scaleBy_maxconnsFactor_le r (show n < 2 ^ 50 by omega)
  have hs2 := scaleIf_dbl1_1_le (decide (8 ≤ r.cpuCores)) (scaleBy (maxconnsFactor r) n) (by omega)
  by_cases h16 : 16 ≤ r.cpuCores
  · have := hs34 (Bool.eq_false_iff.2 fun hf => hb ⟨h16, hf⟩)
    have hs3 : scaleIf (decide (16 ≤ r.cpuCores)) dbl1_15
        (scaleIf (decide (8 ≤ r.cpuCores)) dbl1_1 (scaleBy (maxconnsFactor r) n)) ≤
          scaleIf (decide (8 ≤ r.cpuCores)) dbl1_1 (scaleBy (maxconnsFactor r) n) * 37 / 2 ^ 5 :=
      scaleIf_le (by decide) (by decide) (by decide) (by omega)
    omega
  · rw [decide_eq_false h16, scaleIf_false]
    omega

/-- The three roundings of a limit `-n`, `n ≤ 2 ^ 31`, overflow exactly with both core
boosts, the factor 0.85 and `n` at least 1997194746. -/
theorem maxconnsScale_overflow_iff (r : SystemResources) {n : Nat} (hn : n ≤ 2 ^ 31) :
    2 ^ 31 < scaleIf (decide (16 ≤ r.cpuCores)) dbl1_15
        (scaleIf (decide (8 ≤ r.cpuCores)) dbl1_1 (scaleBy (maxconnsFactor r) n)) ↔
      16 ≤ r.cpuCores ∧ (r.hasHighMemory && r.hasManyCores) = true ∧ 1997194746 ≤ n := by
  by_cases hb : 16 ≤ r.cpuCores ∧ (r.hasHighMemory && r.hasManyCores) = true
  · rw [maxconnsScale_boosted r hb.1 hb.2, scaleBy_boosted_overflow_iff]
    exact ⟨fun h => ⟨hb.1, hb.2, h⟩, fun h => h.2.2⟩
  · have := maxconnsScale_le_self r hn hb
    exact iff_of_false (by omega) fun h => hb ⟨h.1, h.2.1⟩

/-- The three roundings of a limit `n < 2 ^ 31` reach `2 ^ 31` exactly with both core
boosts, the factor 0.85 and `n` at least 1997194745. -/
theorem maxconnsScale_reach_iff (r : SystemResources) {n : Nat} (hn : n < 2 ^ 31) :
    2 ^ 31 ≤ scaleIf (decide (16 ≤ r.cpuCores)) dbl1_15
        (scaleIf (decide (8 ≤ r.cpuCores)) dbl1_1 (scaleBy (maxconnsFactor r) n)) ↔
      16 ≤ r.cpuCores ∧ (r.hasHighMemory && r.hasManyCores) = true ∧ 1997194745 ≤ n := by
  by_cases hb : 16 ≤ r.cpuCores ∧ (r.hasHighMemory && r.hasManyCores) = true
  · rw [maxconnsScale_boosted r hb.1 hb.2, scaleBy_boosted_reach_iff]
    exact ⟨fun h => ⟨hb.1, hb.2, h⟩, fun h => h.2.2⟩
  · have := maxconnsScale_le_self r hn.le hb
    exact iff_of_false (by omega) fun h => hb ⟨h.1, h.2.1⟩

/-- The connection count is undefined exactly when its scaling is. -/
theorem perfCalcOptimalMaxconns_eq_none_iff_scaled (r : SystemResources) :
    perfCalcOptimalMaxconns .lp64 r = none ↔ maxconnsScaled .lp64 r = none := by
  unfold perfCalcOptimalMaxconns
  cases maxconnsScaled .lp64 r <;> simp

/-- From `INT_MIN + 256` up, the scaling fails exactly when a high-memory many-core machine
with 16 cores takes the smaller limit, the memory one reduced modulo `2 ^ 32`, out of range. -/
theorem maxconnsScaled_lp64_eq_none_iff (r : SystemResources)
    (hf : -2 ^ 31 + 256 ≤ r.maxFileDescriptors) :
    maxconnsScaled .lp64 r = none ↔
      16 ≤ r.cpuCores ∧ (r.hasHighMemory && r.hasManyCores) = true ∧
        (min (wrapInt (r.availableMemory / perfMemoryPerConnection : Nat))
            (r.maxFileDescriptors - 256) ≤ -1997194746 ∨
          1997194745 ≤ min (wrapInt (r.availableMemory / perfMemoryPerConnection : Nat))
            (r.maxFileDescriptors - 256)) := by
  have hfd := r.maxFileDescriptors_range
  have hw := wrapInt_range (r.availableMemory / perfMemoryPerConnection : Nat)
  unfold IntRange intMin intMax at hfd hw
  rw [maxconnsScaled_lp64_wrap r hf]
  generalize wrapInt (r.availableMemory / perfMemoryPerConnection : Nat) = w at hw ⊢
  generalize hL : min w (r.maxFileDescriptors - 256) = L
  rcases Int.lt_or_le L 0 with hneg | hpos
  · -- a negative limit overflows below `INT_MIN`
    obtain ⟨n, rfl⟩ : ∃ n : Nat, L = -(n : Int) := ⟨(-L).toNat, by omega⟩
    have hT : (-(n : Int) ≤ -1997194746 ∨ 1997194745 ≤ -(n : Int)) ↔ 1997194746 ≤ n := by
      omega
    rw [maxconnsScale_lp64_neg r (by omega), lp64_int_eq_none_iff, hT,
      ← maxconnsScale_overflow_iff r (by omega)]
    omega
  · -- a nonnegative one overflows above `INT_MAX`
    obtain ⟨n, rfl⟩ : ∃ n : Nat, L = n := ⟨L.toNat, by omega⟩
    have hT : ((n : Int) ≤ -1997194746 ∨ 1997194745 ≤ (n : Int)) ↔ 1997194745 ≤ n := by omega
    rw [maxconnsScale_lp64_of_lt r (by omega), lp64_int_eq_none_iff, hT,
      ← maxconnsScale_reach_iff r (by omega)]
    omega

/-- Below 12 TiB the connection count is undefined exactly when `max_file_descriptors - 256`
overflows, or 16 cores or more take a descriptor limit of at most `-1997194490` out of range. -/
theorem perfCalcOptimalMaxconns_eq_none_iff (r : SystemResources)
    (hm : r.availableMemory < perfMemoryPerConnection * 2 ^ 30) :
    perfCalcOptimalMaxconns .lp64 r = none ↔
      r.maxFileDescriptors < -2 ^ 31 + 256 ∨
        16 ≤ r.cpuCores ∧ (r.hasHighMemory && r.hasManyCores) = true ∧
          r.maxFileDescriptors ≤ -1997194490 := by
  have hmem := memoryLimit_lt hm
  rw [perfCalcOptimalMaxconns_eq_none_iff_scaled]
  rcases Int.lt_or_le r.maxFileDescriptors (-2 ^ 31 + 256) with hlow | hf
  · exact iff_of_true (maxconnsScaled_lp64_of_fd_lt r hlow) (.inl hlow)
  rw [maxconnsScaled_lp64_eq_none_iff r hf, or_iff_right (not_lt.2 hf)]
  generalize r.availableMemory / perfMemoryPerConnection = q at hmem
  -- the memory limit is below `2 ^ 30`, so only a negative descriptor limit can overflow
  have hT : (min (q : Int) (r.maxFileDescriptors - 256) ≤ -1997194746 ∨
      1997194745 ≤ min (q : Int) (r.maxFileDescriptors - 256)) ↔
        r.maxFileDescriptors ≤ -1997194490 := by
    omega
  rw [wrapInt_of_range (by unfold IntRange intMin intMax; omega), hT]

/-- Below 12 TiB, and above `-1997194490` descriptors, the connection count is the smaller
limit scaled through `double`, at least 2048, clamped. -/
theorem perfCalcOptimalMaxconns_lp64 (r : SystemResources)
    (hm : r.availableMemory < perfMemoryPerConnection * 2 ^ 30)
    (hf : -1997194490 < r.maxFileDescriptors) : perfCalcOptimalMaxconns .lp64 r =
      some (clampBounds perfMinMaxconns perfMaxMaxconns (max 2048
        (scaleIf (decide (16 ≤ r.cpuCores)) dbl1_15 (scaleIf (decide (8 ≤ r.cpuCores)) dbl1_1
          (scaleBy (maxconnsFactor r) (min ((r.availableMemory / perfMemoryPerConnection : Nat) :
            Int) (r.maxFileDescriptors - 256)).toNat)) : Int))) := by
  have hmem := memoryLimit_lt hm
  rw [perfCalcOptimalMaxconns, Option.bind_eq_bind, maxconnsScaled_lp64 r hm (by omega)]
  generalize r.availableMemory / perfMemoryPerConnection = q at hmem ⊢
  generalize hL : min (q : Int) (r.maxFileDescriptors - 256) = L
  have hLb : -1997194746 < L ∧ L < 2 ^ 30 := by
    rw [← hL]
    omega
  rcases Int.lt_or_le L 0 with hneg | hpos
  · -- a negative limit scales to a nonpositive count, which the floor of 2048 replaces
    obtain ⟨n, rfl⟩ : ∃ n : Nat, L = -(n : Int) := ⟨(-L).toNat, by omega⟩
    have hno := (maxconnsScale_overflow_iff r (n := n) (by omega)).not.2 (by omega)
    rw [maxconnsScale_lp64_neg r (by omega), lp64_int_of_bounds (by omega) (by omega),
      Option.some_bind, Int.toNat_eq_zero.2 hneg.le]
    simp only [scaleBy_zero, scaleIf, ite_self, Option.pure_def, Option.some.injEq]
    refine congrArg (clampBounds perfMinMaxconns perfMaxMaxconns) ?_
    split <;> omega
  · obtain ⟨n, rfl⟩ : ∃ n : Nat, L = n := ⟨L.toNat, by omega⟩
    rw [maxconnsScale_lp64 r (by omega), Option.some_bind, Int.toNat_natCast]
    refine congrArg (some ∘ clampBounds perfMinMaxconns perfMaxMaxconns) ?_
    split <;> omega

end Pogocache
