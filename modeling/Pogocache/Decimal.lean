import Mathlib.Tactic.Ring
import Pogocache.Scaling
import Pogocache.Shards

namespace Pogocache

/-- `(int)(x * num / den)` over exact decimals: the product truncated toward zero. -/
def truncDecimal (x : Int) (num den : Nat) : Int := (x * num).tdiv den

/-- `perf_calc_optimal_queuesize` over exact decimals: the base, a 20% boost from 8 cores
and a 30% boost from 16, each truncated, then clamped. -/
def queuesizeDecimal (r : SystemResources) : Int :=
  let optimal := queuesizeBase r
  let optimal := if 8 ≤ r.cpuCores then truncDecimal optimal 6 5 else optimal
  let optimal := if 16 ≤ r.cpuCores then truncDecimal optimal 13 10 else optimal
  clampBounds perfMinQueuesize perfMaxQueuesize optimal

/-- Lines 115-129 of `perf_calc_optimal_maxconns` over exact decimals: 0.85, 0.75 or 0.65,
then 10% from 8 cores and 15% from 16, each truncated. -/
def maxconnsScaleDecimal (r : SystemResources) (calculatedLimit : Int) : Int :=
  let optimal :=
    if r.hasHighMemory && r.hasManyCores then truncDecimal calculatedLimit 17 20
    else if r.hasHighMemory || r.hasManyCores then truncDecimal calculatedLimit 3 4
    else truncDecimal calculatedLimit 13 20
  let optimal := if 8 ≤ r.cpuCores then truncDecimal optimal 11 10 else optimal
  if 16 ≤ r.cpuCores then truncDecimal optimal 23 20 else optimal

/-- `perf_calc_optimal_maxconns` over exact decimals: the scaled smaller of the memory and
descriptor limits, raised to 2048 and clamped. -/
def maxconnsDecimal (r : SystemResources) : Int :=
  let memoryLimit : Int := (r.availableMemory / perfMemoryPerConnection : Nat)
  let fdLimit := r.maxFileDescriptors - 256
  let optimal := maxconnsScaleDecimal r (min memoryLimit fdLimit)
  clampBounds perfMinMaxconns perfMaxMaxconns (if optimal < 2048 then 2048 else optimal)

theorem truncDecimal_natCast (n num den : Nat) :
    truncDecimal n num den = ((n * num / den : Nat) : Int) := by
  rw [truncDecimal, ← Int.natCast_mul, ← Int.ofNat_tdiv]

theorem truncDecimal_nonpos {x : Int} (num den : Nat) (hx : x ≤ 0) :
    truncDecimal x num den ≤ 0 := by
  have h : 0 ≤ (-x * num).tdiv den :=
    Int.tdiv_nonneg (Int.mul_nonneg (by omega) (Int.ofNat_zero_le num)) (Int.ofNat_zero_le den)
  rw [Int.neg_mul, Int.neg_tdiv] at h
  exact Int.neg_nonneg.1 h

/-- `(int)(y * m / 2 ^ e)` is at least `k` when `k * 2 ^ e` is at most the product, or
above it by less than half a unit in the last place. -/
theorem le_scaleBy_of_near {m e y k : Nat} (hk : k < 2 ^ 53) (hy : y * m < 2 ^ (53 + e))
    (hnear : 2 * (k * 2 ^ e - y * m) * 2 ^ 53 ≤ y * m) : k ≤ scaleBy ⟨m, e⟩ y :=
  (Nat.le_div_iff_mul_le (Nat.two_pow_pos _)).2 (le_roundDouble_of_near hk hy hnear)

/-- `(int)(y * m / 2 ^ e)` is at most `k` when the product, moved by its largest rounding
error, stays below `(k + 1) * 2 ^ e`. -/
theorem scaleBy_le_of_near {m e y k : Nat} (h : y * m + y * m / 2 ^ 53 < (k + 1) * 2 ^ e) :
    scaleBy ⟨m, e⟩ y ≤ k :=
  Nat.le_of_lt_succ ((Nat.div_lt_iff_lt_mul (Nat.two_pow_pos _)).2
    (lt_of_le_of_lt (roundDouble_near _).1 h))

/-- The `double` `m / 2 ^ e` is near `num / den`: above it by less than the gap below the
next integer, or below it by less than half a unit in the last place of a product. -/
def DecimalNear (c : DoubleLit) (num den : Nat) : Prop :=
  num < 2 ^ 21 * den ∧ c.mant ≤ 2 ^ (21 + c.exp) ∧
    2 ^ 54 * (num * 2 ^ c.exp - c.mant * den) ≤ c.mant * den ∧
    2 ^ 32 * (c.mant * den - num * 2 ^ c.exp) + den * (c.mant / 2 ^ 21) < 2 ^ c.exp

instance (c : DoubleLit) (num den : Nat) : Decidable (DecimalNear c num den) :=
  inferInstanceAs (Decidable (_ ∧ _ ∧ _ ∧ _))

/-- A literal near its decimal truncates every product below `2 ^ 32` like the decimal. -/
theorem scaleBy_eq_decimal (c : DoubleLit) (num den : Nat) (hc : DecimalNear c num den)
    {y : Nat} (hy : y < 2 ^ 32) : scaleBy c y = y * num / den := by
  obtain ⟨m, e⟩ := c
  obtain ⟨hnum, hm, hlo, hhi⟩ := hc
  dsimp only at hnum hm hlo hhi
  have hden : 0 < den := by omega
  have hk1 : y * num / den * den ≤ y * num := Nat.div_mul_le_self _ _
  have hk2 : y * num < den * (y * num / den + 1) := Nat.lt_mul_div_succ _ hden
  generalize y * num / den = k at hk1 hk2 ⊢
  have hX : y * (m * den) ≤ y * (num * 2 ^ e) + y * (m * den - num * 2 ^ e) := by
    rw [← Nat.mul_add]
    exact Nat.mul_le_mul_left y (by omega)
  have hY : y * (num * 2 ^ e) ≤ y * (m * den) + y * (num * 2 ^ e - m * den) := by
    rw [← Nat.mul_add]
    exact Nat.mul_le_mul_left y (by omega)
  have hD : y * (m * den - num * 2 ^ e) ≤ 2 ^ 32 * (m * den - num * 2 ^ e) :=
    Nat.mul_le_mul_right _ hy.le
  have hE : y * (num * 2 ^ e - m * den) * 2 ^ 54 ≤ y * (m * den) := by
    rw [Nat.mul_assoc, Nat.mul_comm _ (2 ^ 54)]
    exact Nat.mul_le_mul_left y hlo
  have hP : y * m / 2 ^ 53 ≤ m / 2 ^ 21 :=
    calc y * m / 2 ^ 53 ≤ 2 ^ 32 * m / (2 ^ 32 * 2 ^ 21) :=
          Nat.div_le_div_right (Nat.mul_le_mul_right m hy.le)
      _ = m / 2 ^ 21 := Nat.mul_div_mul_left _ _ (Nat.two_pow_pos _)
  apply Nat.le_antisymm
  · -- the product, moved by its rounding error, stays below `(k + 1) * 2 ^ e`
    refine scaleBy_le_of_near (Nat.lt_of_mul_lt_mul_left (a := den) ?_)
    have hq := Nat.mul_le_mul_left den hP
    have hk : (y * num + 1) * 2 ^ e ≤ den * (k + 1) * 2 ^ e := Nat.mul_le_mul_right _ hk2
    calc den * (y * m + y * m / 2 ^ 53) = y * (m * den) + den * (y * m / 2 ^ 53) := by ring
      _ < y * (num * 2 ^ e) + 2 ^ e := by omega
      _ = (y * num + 1) * 2 ^ e := by ring
      _ ≤ den * ((k + 1) * 2 ^ e) := by rw [← Nat.mul_assoc]; exact hk
  · -- `k * 2 ^ e` is below the product, or above it by less than half a unit
    have hkd : k * den < 2 ^ 53 * den :=
      calc k * den ≤ y * num := hk1
        _ ≤ 2 ^ 32 * num := Nat.mul_le_mul_right num hy.le
        _ < 2 ^ 32 * (2 ^ 21 * den) := Nat.mul_lt_mul_of_pos_left hnum (Nat.two_pow_pos _)
        _ = 2 ^ 53 * den := by ring
    refine le_scaleBy_of_near (Nat.lt_of_mul_lt_mul_right hkd) ?_ ?_
    · calc y * m ≤ y * 2 ^ (21 + e) := Nat.mul_le_mul_left y hm
        _ < 2 ^ 32 * 2 ^ (21 + e) := Nat.mul_lt_mul_of_pos_right hy (Nat.two_pow_pos _)
        _ = 2 ^ (53 + e) := by rw [← Nat.pow_add, ← Nat.add_assoc]
    · have h1 : den * (k * 2 ^ e) ≤ den * (y * m) + y * (num * 2 ^ e - m * den) :=
        calc den * (k * 2 ^ e) = k * den * 2 ^ e := by ring
          _ ≤ y * num * 2 ^ e := Nat.mul_le_mul_right _ hk1
          _ = y * (num * 2 ^ e) := by ring
          _ ≤ y * (m * den) + y * (num * 2 ^ e - m * den) := hY
          _ = den * (y * m) + y * (num * 2 ^ e - m * den) := by ring
      refine Nat.le_of_mul_le_mul_left ?_ hden
      calc den * (2 * (k * 2 ^ e - y * m) * 2 ^ 53)
          = (den * (k * 2 ^ e) - den * (y * m)) * 2 ^ 54 := by
            rw [← Nat.mul_sub, pow_succ]; ring
        _ ≤ y * (num * 2 ^ e - m * den) * 2 ^ 54 := Nat.mul_le_mul_right _ (by omega)
        _ ≤ y * (m * den) := hE
        _ = den * (y * m) := by ring

/-- 1.15 is a `double` below 23/20 by more than half a unit in the last place of some
products: the truncation gives the decimal one or one less. -/
theorem scaleBy_dbl1_15 {y : Nat} (hy : y < 2 ^ 32) :
    y * 23 / 20 - 1 ≤ scaleBy dbl1_15 y ∧ scaleBy dbl1_15 y ≤ y * 23 / 20 :=
  ⟨le_scaleBy_of_near (by omega) (by omega) (by omega), scaleBy_le_of_near (by omega)⟩

/-- A boost by a factor that truncates like its decimal is the decimal boost. -/
theorem scaleIf_decimal {p : Prop} [Decidable p] {c : DoubleLit} {num den y : Nat}
    (hc : scaleBy c y = y * num / den) :
    (scaleIf (decide p) c y : Int) = if p then truncDecimal y num den else y := by
  by_cases hp : p
  · rw [decide_eq_true hp, scaleIf_true, hc, if_pos hp, truncDecimal_natCast]
  · rw [decide_eq_false hp, scaleIf_false, if_neg hp]

/-- Up to `2 ^ 20` cores the compiled queue size is the decimal one: the `double`s nearest
1.2 and 1.3 never change a truncation. -/
theorem queuesize_decimal_exact (r : SystemResources) (h0 : 0 ≤ r.cpuCores)
    (h1 : r.cpuCores ≤ 2 ^ 20) :
    perfCalcOptimalQueuesize .lp64 r = some (queuesizeDecimal r) := by
  have hb : 0 ≤ queuesizeBase r ∧ queuesizeBase r ≤ 2 ^ 27 := by
    unfold queuesizeBase
    split_ifs <;> omega
  obtain ⟨y, hy⟩ : ∃ y : Nat, queuesizeBase r = y := ⟨_, (Int.toNat_of_nonneg hb.1).symm⟩
  have hz := scaleIf_dbl1_2_le (decide (8 ≤ r.cpuCores)) y (by omega)
  rw [perfCalcOptimalQueuesize_lp64 r h0 h1, queuesizeDecimal, hy, Int.toNat_natCast,
    scaleIf_decimal (scaleBy_eq_decimal dbl1_3 13 10 (by decide) (by omega)),
    scaleIf_decimal (scaleBy_eq_decimal dbl1_2 6 5 (by decide) (by omega))]

/-- At 16 cores both boosts apply: 1024 becomes 1228, then 1596, in `double` as in decimal. -/
theorem queuesize_decimal_exact_sixteen_cores :
    0 ≤ (perfDetectSystemResources sixteenCoreHost).cpuCores ∧
      (perfDetectSystemResources sixteenCoreHost).cpuCores ≤ 2 ^ 20 ∧
      perfCalcOptimalQueuesize .lp64 (perfDetectSystemResources sixteenCoreHost) =
        some (queuesizeDecimal (perfDetectSystemResources sixteenCoreHost)) ∧
      queuesizeDecimal (perfDetectSystemResources sixteenCoreHost) = 1596 :=
  ⟨by decide, by decide, queuesize_decimal_exact _ (by decide) (by decide), by decide⟩

theorem scaleBy_maxconnsFactor_decimal (r : SystemResources) {n : Nat} (hn : n < 2 ^ 32) :
    (if r.hasHighMemory && r.hasManyCores then truncDecimal n 17 20
      else if r.hasHighMemory || r.hasManyCores then truncDecimal n 3 4
      else truncDecimal n 13 20) = (scaleBy (maxconnsFactor r) n : Int) := by
  unfold maxconnsFactor
  split_ifs
  · rw [truncDecimal_natCast, scaleBy_eq_decimal dbl0_85 17 20 (by decide) hn]
  · rw [truncDecimal_natCast, scaleBy_eq_decimal dbl0_75 3 4 (by decide) hn]
  · rw [truncDecimal_natCast, scaleBy_eq_decimal dbl0_65 13 20 (by decide) hn]

/-- The flag factor keeps at least 65% of a limit below `2 ^ 32`. -/
theorem le_scaleBy_maxconnsFactor (r : SystemResources) {n : Nat} (hn : n < 2 ^ 32) :
    n * 13 / 20 ≤ scaleBy (maxconnsFactor r) n := by
  unfold maxconnsFactor
  split_ifs
  · rw [scaleBy_eq_decimal dbl0_85 17 20 (by decide) hn]
    omega
  · rw [scaleBy_eq_decimal dbl0_75 3 4 (by decide) hn]
    omega
  · rw [scaleBy_eq_decimal dbl0_65 13 20 (by decide) hn]

theorem ite_truncDecimal_nonpos {p : Prop} [Decidable p] {o : Int} (num den : Nat)
    (ho : o ≤ 0) : (if p then truncDecimal o num den else o) ≤ 0 := by
  split
  · exact truncDecimal_nonpos num den ho
  · exact ho

theorem maxconnsScaleDecimal_nonpos (r : SystemResources) {L : Int} (hL : L ≤ 0) :
    maxconnsScaleDecimal r L ≤ 0 := by
  refine ite_truncDecimal_nonpos 23 20 (ite_truncDecimal_nonpos 11 10 ?_)
  split_ifs <;> exact truncDecimal_nonpos _ _ hL

/-- From a limit `n` below `2 ^ 30` the decimal scaling is the compiled one, or one more. -/
theorem maxconnsScaleDecimal_natCast (r : SystemResources) {n : Nat} (hn : n < 2 ^ 30) :
    (scaleIf (decide (16 ≤ r.cpuCores)) dbl1_15 (scaleIf (decide (8 ≤ r.cpuCores)) dbl1_1
        (scaleBy (maxconnsFactor r) n)) : Int) ≤ maxconnsScaleDecimal r n ∧
      maxconnsScaleDecimal r n ≤ (scaleIf (decide (16 ≤ r.cpuCores)) dbl1_15
        (scaleIf (decide (8 ≤ r.cpuCores)) dbl1_1 (scaleBy (maxconnsFactor r) n)) : Int) + 1 := by
  have hs1 := (scaleBy_maxconnsFactor_le r (show n < 2 ^ 50 by omega)).1
  have hs2 := scaleIf_dbl1_1_le (decide (8 ≤ r.cpuCores)) (scaleBy (maxconnsFactor r) n) (by omega)
  unfold maxconnsScaleDecimal
  dsimp only
  rw [scaleBy_maxconnsFactor_decimal r (by omega),
    ← scaleIf_decimal (p := 8 ≤ r.cpuCores) (scaleBy_eq_decimal dbl1_1 11 10 (by decide) (by omega))]
  generalize scaleIf (decide (8 ≤ r.cpuCores)) dbl1_1 (scaleBy (maxconnsFactor r) n) = y at hs2
  by_cases h16 : 16 ≤ r.cpuCores
  · have := scaleBy_dbl1_15 (y := y) (by omega)
    rw [decide_eq_true h16, scaleIf_true, if_pos h16, truncDecimal_natCast]
    omega
  · rw [decide_eq_false h16, scaleIf_false, if_neg h16]
    omega

/-- Below 12 TiB the compiled connection count is the decimal one or one less: only the
`double` nearest 1.15, below 23/20, can lose one. -/
theorem maxconns_decimal_within_one (r : SystemResources)
    (hm : r.availableMemory < perfMemoryPerConnection * 2 ^ 30)
    (hf : -1997194490 < r.maxFileDescriptors) :
    ∃ v, perfCalcOptimalMaxconns .lp64 r = some v ∧
      maxconnsDecimal r - 1 ≤ v ∧ v ≤ maxconnsDecimal r := by
  refine ⟨_, perfCalcOptimalMaxconns_lp64 r hm hf, ?_⟩
  have hmem := memoryLimit_lt hm
  unfold maxconnsDecimal
  dsimp only
  rw [clampBounds_eq (by decide), clampBounds_eq (by decide)]
  unfold perfMinMaxconns perfMaxMaxconns
  generalize r.availableMemory / perfMemoryPerConnection = q at hmem ⊢
  generalize hL : min (q : Int) (r.maxFileDescriptors - 256) = L
  rcases Int.lt_or_le L 0 with hneg | hpos
  · -- both counts fall to the floor of 2048
    have hD := maxconnsScaleDecimal_nonpos r hneg.le
    rw [Int.toNat_eq_zero.2 hneg.le]
    simp only [scaleBy_zero, scaleIf, ite_self]
    split <;> omega
  · obtain ⟨n, rfl⟩ : ∃ n : Nat, L = n := ⟨L.toNat, by omega⟩
    have hD := maxconnsScaleDecimal_natCast r (n := n) (by omega)
    rw [Int.toNat_natCast]
    split <;> omega

/-- At 16 cores, 8 GiB and a descriptor hard limit of 3038 the limit 2782 scales to 2600
before the last boost, and `(int)(2600 * 1.15)` is 2989 in `double`, against 2990. -/
theorem maxconns_decimal_within_one_fd_limited :
    (perfDetectSystemResources fdLimitedHost).availableMemory <
        perfMemoryPerConnection * 2 ^ 30 ∧
      -1997194490 < (perfDetectSystemResources fdLimitedHost).maxFileDescriptors ∧
      (∃ v, perfCalcOptimalMaxconns .lp64 (perfDetectSystemResources fdLimitedHost) = some v ∧
        maxconnsDecimal (perfDetectSystemResources fdLimitedHost) - 1 ≤ v ∧
          v ≤ maxconnsDecimal (perfDetectSystemResources fdLimitedHost)) ∧
      perfCalcOptimalMaxconns .lp64 (perfDetectSystemResources fdLimitedHost) = some 2989 ∧
      maxconnsDecimal (perfDetectSystemResources fdLimitedHost) = 2990 :=
  ⟨by decide, by decide, maxconns_decimal_within_one _ (by decide) (by decide), by decide,
    by decide⟩

end Pogocache
