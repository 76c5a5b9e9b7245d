import Mathlib.Algebra.Order.Ring.Int
import Mathlib.Algebra.Order.GroupWithZero.Unbundled
import Pogocache.Planner

namespace Pogocache

/-- The target before the memory check: `nthreads * 128`, doubled above 4 GiB or halved below
2 GiB, then times 3/2 from 16 cores or 5/4 from 8, truncated. -/
def shardBase (r : SystemResources) (nthreads : Int) : Int :=
  let b := nthreads * 128
  let b :=
    if r.hasHighMemory then b * 2
    else if r.totalMemory < perfMediumMemoryThreshold then b.tdiv 2
    else b
  if 16 ≤ r.cpuCores then (b * 3).tdiv 2
  else if 8 ≤ r.cpuCores then (b * 5).tdiv 4
  else b

/-- The memory-capped target `t = min(b, available_memory / 4 / 2048)`. -/
def shardCap (r : SystemResources) (nthreads : Int) : Int :=
  min (shardBase r nthreads) (r.availableMemory / 4 / perfMemoryPerShard : Nat)

/-- `2 ^ k` is the least power of two `p` with `num ≤ den * p`. -/
def IsLeastPowTwo (num den : Int) (k : Nat) : Prop :=
  num ≤ den * 2 ^ k ∧ ∀ j : Nat, num ≤ den * 2 ^ j → k ≤ j

theorem powerOfTwoLoop_succ (A : Arith) (optimal : Int) (fuel : Nat) (p : Int) :
    powerOfTwoLoop A optimal (fuel + 1) p =
      if p < optimal then A.int (p * 2) >>= powerOfTwoLoop A optimal fuel else some p :=
  rfl

/-- Over exact integers the loop stops at the first `p * 2 ^ k` that reaches `optimal`. -/
theorem powerOfTwoLoop_exact (optimal : Int) : ∀ (fuel : Nat) (p : Int), 0 < p →
    optimal ≤ p * 2 ^ fuel → ∃ k : Nat,
      powerOfTwoLoop .exact optimal (fuel + 1) p = some (p * 2 ^ k) ∧
      optimal ≤ p * 2 ^ k ∧ (k = 0 ∨ p * 2 ^ k < 2 * optimal)
  | 0, p, _, h => ⟨0, by simp_all [powerOfTwoLoop_succ]⟩
  | fuel + 1, p, hp, h => by
    rw [powerOfTwoLoop_succ]
    by_cases hlt : p < optimal
    · obtain ⟨k, he, hge, hmin⟩ := powerOfTwoLoop_exact optimal fuel (p * 2) (by omega)
        (by rw [Int.mul_assoc, ← pow_succ']; exact h)
      have hpow : p * 2 * 2 ^ k = p * 2 ^ (k + 1) := by rw [Int.mul_assoc, ← pow_succ']
      refine ⟨k + 1, ?_, hpow ▸ hge, .inr ?_⟩
      · simpa [hlt, hpow] using he
      · rcases hmin with rfl | hmin
        · simp only [zero_add, pow_one]; omega
        · omega
    · exact ⟨0, by simp [hlt], by rw [pow_zero]; omega, .inl rfl⟩

/-- Below `2 ^ 30` no doubling overflows, so the compiled loop is the exact one. -/
theorem powerOfTwoLoop_lp64 {optimal : Int} (h : optimal ≤ 2 ^ 30) : ∀ (fuel : Nat) (p : Int),
    0 < p → powerOfTwoLoop .lp64 optimal fuel p = powerOfTwoLoop .exact optimal fuel p
  | 0, _, _ => rfl
  | fuel + 1, p, hp => by
    simp only [powerOfTwoLoop_succ]
    split
    · have hr : IntRange (p * 2) := by unfold IntRange intMin intMax; omega
      simp only [lp64_int_of_range hr, exact_int, Option.bind_eq_bind, Option.some_bind]
      exact powerOfTwoLoop_lp64 h fuel (p * 2) (by omega)
    · rfl

theorem clampBounds_eq {lo hi : Int} (h : lo ≤ hi) (v : Int) :
    clampBounds lo hi v = min hi (max lo v) := by
  simp only [clampBounds]
  split_ifs <;> omega

theorem shardTarget_exact (r : SystemResources) (nthreads : Int) :
    shardTarget .exact r nthreads = some (shardBase r nthreads) := by
  simp only [shardTarget, shardBase, exact_int, exact_truncMul, Option.bind_eq_bind,
    Option.some_bind, Option.pure_def, dbl1_5, dbl1_25, ite_some, Nat.cast_ofNat, Int.reducePow,
    pow_one]

theorem shardMemoryCap_exact (r : SystemResources) (b : Int) :
    shardMemoryCap .exact r b =
      some (min b (r.availableMemory / 4 / perfMemoryPerShard : Nat)) := by
  simp only [shardMemoryCap, exact_int, exact_toSizeT, exact_toInt, Option.bind_eq_bind,
    Option.some_bind, Option.pure_def, perfMemoryPerShard]
  split <;> (congr 1; omega)

theorem perfCalcOptimalShards_exact_eq (r : SystemResources) (nthreads : Int) :
    perfCalcOptimalShards .exact r nthreads =
      (powerOfTwoLoop .exact (shardCap r nthreads) ((shardCap r nthreads).toNat + 1) 1).bind
        fun q => some (clampBounds perfMinShards perfMaxShards
          (if shardCap r nthreads * 3 ≤ q.tdiv 2 * 4 then q.tdiv 2 else q)) := by
  simp only [perfCalcOptimalShards, shardTarget_exact, shardMemoryCap_exact, shardCap,
    Option.bind_eq_bind, Option.some_bind, Option.pure_def, Arith.geMul, exact_mulDouble, dbl0_75,
    decide_eq_true_eq, Nat.cast_ofNat]
  rfl

theorem mul_128_tdiv_two {m : Int} (hm : 0 ≤ m) : (m * 128).tdiv 2 = m * 64 := by
  rw [Int.tdiv_eq_ediv (by omega) (by decide)]
  omega

/-- For a nonnegative thread count every truncation in `shardBase` is a floor. -/
theorem shardBase_eq (r : SystemResources) {nthreads : Int} (hn : 0 ≤ nthreads) :
    shardBase r nthreads =
      let b := if r.hasHighMemory then nthreads * 256
        else if r.totalMemory < perfMediumMemoryThreshold then nthreads * 64 else nthreads * 128
      if 16 ≤ r.cpuCores then b * 3 / 2 else if 8 ≤ r.cpuCores then b * 5 / 4 else b := by
  have hb : 0 ≤ if r.hasHighMemory then nthreads * 256
      else if r.totalMemory < perfMediumMemoryThreshold then nthreads * 64 else nthreads * 128 := by
    split_ifs <;> omega
  simp only [shardBase, mul_128_tdiv_two hn, show nthreads * 128 * 2 = nthreads * 256 by omega]
  rw [Int.tdiv_eq_ediv (by omega) (by decide), Int.tdiv_eq_ediv (by omega) (by decide)]

/-- The pre-cap target is between 64 and 384 shards per thread, and at most 320 below
16 cores. -/
theorem shardBase_bounds (r : SystemResources) {nthreads : Int} (hn : 0 ≤ nthreads) :
    64 * nthreads ≤ shardBase r nthreads ∧ shardBase r nthreads ≤ 384 * nthreads ∧
      (r.cpuCores < 16 → shardBase r nthreads ≤ 320 * nthreads) := by
  rw [shardBase_eq r hn]
  generalize hb : (if r.hasHighMemory then nthreads * 256
    else if r.totalMemory < perfMediumMemoryThreshold then nthreads * 64 else nthreads * 128) = b
  have : 64 * nthreads ≤ b ∧ b ≤ 256 * nthreads := by
    rw [← hb]
    split_ifs <;> omega
  dsimp only
  split_ifs <;> omega

theorem shardCap_nonneg (r : SystemResources) {nthreads : Int} (hn : 1 ≤ nthreads) :
    0 ≤ shardCap r nthreads := by
  have := (shardBase_bounds r (by omega : 0 ≤ nthreads)).1
  unfold shardCap perfMemoryPerShard
  omega

/-- Lines 175-179 turn the least power of two at or above `t` into the least one at or
above `3t/4`. -/
theorem halving_choice {t : Int} {k : Nat} (ht : 1 ≤ t) (hk : t ≤ 2 ^ k)
    (hmin : k = 0 ∨ 2 ^ k < 2 * t) : ∃ j, IsLeastPowTwo (3 * t) 4 j ∧
      (if t * 3 ≤ (2 ^ k : Int).tdiv 2 * 4 then (2 ^ k : Int).tdiv 2 else 2 ^ k) = 2 ^ j := by
  cases k with
  | zero =>
    have h1 : (2 ^ 0 : Int).tdiv 2 = 0 := by decide
    rw [pow_zero] at hk
    exact ⟨0, ⟨by rw [pow_zero]; omega, fun j _ => Nat.zero_le j⟩, by rw [h1, if_neg (by omega)]⟩
  | succ k =>
    have hlt : (2 : Int) ^ (k + 1) < 2 * t := hmin.resolve_left (Nat.succ_ne_zero k)
    have hpow : (2 : Int) ^ (k + 1) = 2 ^ k * 2 := pow_succ 2 k
    have hhalf : (2 ^ (k + 1) : Int).tdiv 2 = 2 ^ k := by
      rw [hpow, Int.mul_tdiv_cancel _ (by decide)]
    rw [hhalf]
    split
    · refine ⟨k, ⟨by omega, fun j hj => Nat.le_of_not_lt fun hjk => ?_⟩, rfl⟩
      have : (2 : Int) ^ (j + 1) ≤ 2 ^ k := pow_le_pow_right₀ (by decide) hjk
      rw [pow_succ] at this
      omega
    · refine ⟨k + 1, ⟨by omega, fun j hj => Nat.le_of_not_lt fun hjk => ?_⟩, rfl⟩
      have : (2 : Int) ^ j ≤ 2 ^ k := pow_le_pow_right₀ (by decide) (by omega)
      omega

/-- Over exact integers the shard count is the least power of two at or above `3t/4`,
clamped to the shard bounds. -/
theorem perfCalcOptimalShards_exact (r : SystemResources) {nthreads : Int}
    (hn : 1 ≤ nthreads) : ∃ k : Nat, IsLeastPowTwo (3 * shardCap r nthreads) 4 k ∧
      perfCalcOptimalShards .exact r nthreads =
        some (clampBounds perfMinShards perfMaxShards (2 ^ k)) := by
  have ht := shardCap_nonneg r hn
  generalize hT : shardCap r nthreads = t at ht
  have hfuel : t ≤ 1 * 2 ^ t.toNat := by
    have := Nat.lt_two_pow t.toNat
    have : ((2 ^ t.toNat : Nat) : Int) = 2 ^ t.toNat := by simp
    omega
  obtain ⟨k, hloop, hge, hmin⟩ := powerOfTwoLoop_exact t t.toNat 1 (by decide) hfuel
  rw [perfCalcOptimalShards_exact_eq, hT, hloop, Option.some_bind, Int.one_mul]
  rw [Int.one_mul] at hge hmin
  rcases Int.lt_or_le 0 t with hpos | hzero
  · obtain ⟨j, hj, he⟩ := halving_choice hpos hge hmin
    exact ⟨j, hj, by rw [he]⟩
  · have hk : k = 0 := hmin.resolve_right (by have := pow_pos (by decide : (0 : Int) < 2) k; omega)
    subst hk
    have h1 : (2 ^ 0 : Int).tdiv 2 = 0 := by decide
    refine ⟨0, ⟨by omega, fun j _ => Nat.zero_le j⟩, ?_⟩
    rw [h1, if_pos (by omega)]
    decide

/-- The clamped power of two is again a power of two, and when no clamp fires it lies in
`[3t/4, 3t/2)`. -/
theorem clamped_pow_two {t : Int} {k : Nat} (hk : IsLeastPowTwo (3 * t) 4 k) :
    (∃ j : Nat, min perfMaxShards (max perfMinShards (2 ^ k)) = 2 ^ j) ∧
      (perfMinShards ≤ 2 ^ k → 2 ^ k ≤ perfMaxShards → 2 * 2 ^ k < 3 * t) := by
  unfold perfMinShards perfMaxShards
  refine ⟨?_, fun hlo _ => ?_⟩
  · by_cases hs : (2 : Int) ^ k < 32
    · exact ⟨5, by omega⟩
    · by_cases hl : (2 : Int) ^ k ≤ 131072
      · exact ⟨k, by omega⟩
      · exact ⟨17, by omega⟩
  · cases k with
    | zero => simp at hlo
    | succ k =>
      have hpow : (2 : Int) ^ (k + 1) = 2 ^ k * 2 := pow_succ 2 k
      by_contra hge
      have := hk.2 k (by omega)
      omega

/-- `perf_calc_optimal_shards` over unbounded integers: the least power of two at or above
three quarters of the capped target, clamped. -/
theorem shards_closed_form (r : SystemResources) (nthreads : Int) (hn : 1 ≤ nthreads) :
    ∃ (k : Nat) (s : Int), IsLeastPowTwo (3 * shardCap r nthreads) 4 k ∧
      s = min perfMaxShards (max perfMinShards (2 ^ k)) ∧
      perfCalcOptimalShards .exact r nthreads = some s ∧
      (∃ j : Nat, s = 2 ^ j) ∧ perfMinShards ≤ s ∧ s ≤ perfMaxShards ∧
      (perfMinShards ≤ 2 ^ k → 2 ^ k ≤ perfMaxShards →
        3 * shardCap r nthreads ≤ 4 * s ∧ 2 * s < 3 * shardCap r nthreads) := by
  obtain ⟨k, hk, he⟩ := perfCalcOptimalShards_exact r hn
  obtain ⟨hpow, hrange⟩ := clamped_pow_two hk
  rw [clampBounds_eq (by decide)] at he
  refine ⟨k, _, hk, rfl, he, hpow, by unfold perfMinShards perfMaxShards; omega,
    by unfold perfMinShards perfMaxShards; omega, fun hlo hhi => ?_⟩
  have hs : min perfMaxShards (max perfMinShards (2 ^ k)) = 2 ^ k := by omega
  rw [hs]
  exact ⟨hk.1, hrange hlo hhi⟩

theorem shards_closed_form_small_host :
    (1 : Int) ≤ 1 ∧ ∃ (k : Nat) (s : Int),
      IsLeastPowTwo (3 * shardCap (perfDetectSystemResources smallHost) 1) 4 k ∧
      s = min perfMaxShards (max perfMinShards (2 ^ k)) ∧
      perfCalcOptimalShards .exact (perfDetectSystemResources smallHost) 1 = some s ∧
      (∃ j : Nat, s = 2 ^ j) ∧ perfMinShards ≤ s ∧ s ≤ perfMaxShards ∧
      (perfMinShards ≤ 2 ^ k → 2 ^ k ≤ perfMaxShards →
        3 * shardCap (perfDetectSystemResources smallHost) 1 ≤ 4 * s ∧
          2 * s < 3 * shardCap (perfDetectSystemResources smallHost) 1) :=
  ⟨by decide, shards_closed_form _ 1 (by decide)⟩

theorem shardTarget_lp64 (r : SystemResources) {nthreads : Int} (h0 : 0 ≤ nthreads)
    (h1 : nthreads ≤ 8192) : shardTarget .lp64 r nthreads = some (shardBase r nthreads) := by
  simp only [shardTarget, shardBase, mul_128_tdiv_two h0,
    lp64_int_of_bounds (show -2 ^ 31 ≤ nthreads * 128 by omega) (by omega),
    lp64_int_of_bounds (show -2 ^ 31 ≤ nthreads * 128 * 2 by omega) (by omega),
    lp64_int_of_bounds (show -2 ^ 31 ≤ nthreads * 64 by omega) (by omega),
    Option.bind_eq_bind, Option.some_bind, Option.pure_def, ite_some]
  generalize hb : (if r.hasHighMemory = true then nthreads * 128 * 2
    else if r.totalMemory < perfMediumMemoryThreshold then nthreads * 64 else nthreads * 128) = b
  have hb' : 0 ≤ b ∧ b ≤ 2 ^ 21 := by
    rw [← hb]
    split_ifs <;> omega
  rw [dbl1_5, dbl1_25, @lp64_truncMul_of_nonneg b 3 1 hb'.1 (by omega),
    @lp64_truncMul_of_nonneg b 5 2 hb'.1 (by omega), lp64_int_of_bounds (by omega) (by omega),
    lp64_int_of_bounds (by omega) (by omega), Int.tdiv_eq_ediv (by omega) (by decide),
    Int.tdiv_eq_ediv (by omega) (by decide), ite_some, ite_some]
  rfl

/-- The memory check is defined exactly when `optimal * PERF_MEMORY_PER_SHARD` fits an
`int`; then it computes what the exact check does. -/
theorem shardMemoryCap_lp64 (r : SystemResources) {b : Int} (h0 : 0 ≤ b) :
    shardMemoryCap .lp64 r b = if b < 2 ^ 20 then shardMemoryCap .exact r b else none := by
  simp only [shardMemoryCap, perfMemoryPerShard, Nat.cast_ofNat, exact_int, Option.bind_eq_bind,
    Option.some_bind, lp64_toSizeT, lp64_toInt, exact_toSizeT, exact_toInt]
  split
  · rw [lp64_int_of_bounds (by omega) (by omega), Option.some_bind]
    have hm : b * 2048 % 2 ^ 64 = b * 2048 := by omega
    rw [hm]
    split
    · rw [wrapInt_of_range (by unfold IntRange intMin intMax; omega)]
    · rfl
  · rw [lp64_int_of_not_range (by unfold IntRange intMin intMax; omega), Option.none_bind]

/-- The compiled shard calculation computes the exact one, or overflows in
`optimal * PERF_MEMORY_PER_SHARD` exactly when the pre-cap target reaches `2 ^ 20`. -/
theorem perfCalcOptimalShards_lp64 (r : SystemResources) {nthreads : Int} (h0 : 0 ≤ nthreads)
    (h1 : nthreads ≤ 8192) : perfCalcOptimalShards .lp64 r nthreads =
      if shardBase r nthreads < 2 ^ 20 then perfCalcOptimalShards .exact r nthreads else none := by
  have hb0 : 0 ≤ shardBase r nthreads := by have := (shardBase_bounds r h0).1; omega
  simp only [perfCalcOptimalShards, shardTarget_lp64 r h0 h1, shardTarget_exact,
    Option.bind_eq_bind, Option.some_bind, shardMemoryCap_lp64 r hb0, shardMemoryCap_exact]
  split
  · have ht : (shardCap r nthreads).natAbs * 3 < 2 ^ 53 := by
      have := (shardBase_bounds r h0).2.1
      unfold shardCap perfMemoryPerShard
      omega
    rw [Option.some_bind, powerOfTwoLoop_lp64 (by omega) _ _ (by decide)]
    simp only [shardCap] at ht
    simp only [dbl0_75, lp64_geMul ht]
  · rfl

end Pogocache
