import Mathlib.Algebra.Order.GroupWithZero.Unbundled
import Pogocache.Shards
import Pogocache.Scaling

namespace Pogocache

/-- From 1 to 8192 cores the pre-cap target reaches `2 ^ 20` exactly above 2730 cores with
more than 4 GiB, or above 5461 cores with at least 2 GiB. -/
theorem shardBase_overflow_iff (h : Host) (h0 : 0 ≤ h.nprocs) (h1 : h.nprocs ≤ 8192) :
    2 ^ 20 ≤ shardBase (perfDetectSystemResources h) h.nprocs ↔
      2731 ≤ h.nprocs ∧ perfHighMemoryThreshold < h.memory ∨
        5462 ≤ h.nprocs ∧ perfMediumMemoryThreshold ≤ h.memory := by
  rw [shardBase_eq _ h0]
  simp only [perfDetectSystemResources_hasHighMemory, perfDetectSystemResources_totalMemory,
    perfDetectSystemResources_cpuCores, decide_eq_true_eq, perfHighMemoryThreshold,
    perfMediumMemoryThreshold]
  split_ifs <;> omega

/-- Under the 8192-thread bound the compiled shard count is undefined exactly when the
pre-cap target reaches `2 ^ 20`. -/
theorem perfCalcOptimalShards_eq_none_iff_base (h : Host) (h1 : 1 ≤ h.nprocs)
    (h2 : h.nprocs ≤ 8192) :
    perfCalcOptimalShards .lp64 (perfDetectSystemResources h) h.nprocs = none ↔
      2 ^ 20 ≤ shardBase (perfDetectSystemResources h) h.nprocs := by
  rw [perfCalcOptimalShards_lp64 _ (by omega) h2]
  by_cases hb : shardBase (perfDetectSystemResources h) h.nprocs < 2 ^ 20
  · obtain ⟨k, -, he⟩ := perfCalcOptimalShards_exact (perfDetectSystemResources h) h1
    rw [if_pos hb, he]
    simp only [reduceCtorEq, false_iff]
    omega
  · rw [if_neg hb]
    simp only [true_iff]
    omega

/-- The compiled shard calculation is undefined exactly above 2730 cores and 4 GiB, or above
5461 cores from 2 GiB. -/
theorem shards_overflow_iff (h : Host) (h1 : 1 ≤ h.nprocs) (h2 : h.nprocs ≤ 8192) :
    perfCalcOptimalShards .lp64 (perfDetectSystemResources h) h.nprocs = none ↔
      2731 ≤ h.nprocs ∧ perfHighMemoryThreshold < h.memory ∨
        5462 ≤ h.nprocs ∧ perfMediumMemoryThreshold ≤ h.memory := by
  rw [perfCalcOptimalShards_eq_none_iff_base h h1 h2, shardBase_overflow_iff h (by omega) h2]

theorem shards_overflow_iff_many_cores :
    1 ≤ manyCoreHost.nprocs ∧ manyCoreHost.nprocs ≤ 8192 ∧
      (perfCalcOptimalShards .lp64 (perfDetectSystemResources manyCoreHost) manyCoreHost.nprocs =
          none ↔
        2731 ≤ manyCoreHost.nprocs ∧ perfHighMemoryThreshold < manyCoreHost.memory ∨
          5462 ≤ manyCoreHost.nprocs ∧ perfMediumMemoryThreshold ≤ manyCoreHost.memory) :=
  ⟨by decide, by decide, shards_overflow_iff manyCoreHost (by decide) (by decide)⟩

/-- At 4096 cores and 8 GiB `1572864 * 2048` leaves the `int` range, where exact arithmetic
gives `PERF_MAX_SHARDS`. -/
theorem shards_overflow_many_cores :
    shardBase (perfDetectSystemResources manyCoreHost) 4096 = 1572864 ∧
      ¬IntRange (1572864 * 2048) ∧
      perfCalcOptimalShards .lp64 (perfDetectSystemResources manyCoreHost) 4096 = none ∧
      perfCalcOptimalShards .exact (perfDetectSystemResources manyCoreHost) 4096 = some 131072 := by
  decide

/-- Below `2 ^ 30` the compiled doubling loop tests `power_of_2 < optimal` at most 31
times: it stops at the least power of two at or above `optimal`, `2 ^ 30` at most. -/
theorem doubling_loop_ends {optimal : Int} (h : optimal ≤ 2 ^ 30) :
    ∃ k : Nat, k ≤ 30 ∧ powerOfTwoLoop .lp64 optimal 31 1 = some (2 ^ k) ∧
      optimal ≤ 2 ^ k ∧ (k = 0 ∨ 2 ^ k < 2 * optimal) := by
  obtain ⟨k, he, hge, hmin⟩ := powerOfTwoLoop_exact optimal 30 1 (by decide) (by omega)
  rw [Int.one_mul] at he hge hmin
  refine ⟨k, Nat.le_of_not_lt fun hk => ?_, by rw [powerOfTwoLoop_lp64 h 31 1 (by decide), he],
    hge, hmin⟩
  have : (2 : Int) ^ 31 ≤ 2 ^ k := pow_le_pow_right₀ (by decide) hk
  rcases hmin with rfl | hlt <;> omega

theorem doubling_loop_ends_thousand :
    (1000 : Int) ≤ 2 ^ 30 ∧ ∃ k : Nat, k ≤ 30 ∧ powerOfTwoLoop .lp64 1000 31 1 = some (2 ^ k) ∧
      (1000 : Int) ≤ 2 ^ k ∧ (k = 0 ∨ (2 : Int) ^ k < 2 * 1000) :=
  ⟨by decide, @doubling_loop_ends 1000 (by decide)⟩

/-- The values `power_of_2` takes when its doubling from 1 wraps modulo `2 ^ 32`. -/
def WrapOrbit (p : Int) : Prop := p = 0 ∨ p = -2 ^ 31 ∨ ∃ j : Nat, j ≤ 30 ∧ p = 2 ^ j

theorem WrapOrbit.le_pow {p : Int} (hp : WrapOrbit p) : p ≤ 2 ^ 30 := by
  rcases hp with rfl | rfl | ⟨j, hj, rfl⟩
  · decide
  · decide
  · exact pow_le_pow_right₀ (by decide) hj

/-- Doubling with wraparound stays in the orbit: `2 ^ 30 * 2` wraps to `INT_MIN`, and
`INT_MIN * 2` to 0. -/
theorem WrapOrbit.double {p : Int} (hp : WrapOrbit p) : WrapOrbit (wrapInt (p * 2)) := by
  rcases hp with rfl | rfl | ⟨j, hj, rfl⟩
  · exact .inl (by decide)
  · exact .inl (by decide)
  · rcases Nat.lt_or_ge j 30 with hlt | hge
    · have hpow : (2 : Int) ^ (j + 1) ≤ 2 ^ 30 := pow_le_pow_right₀ (by decide) hlt
      have hpos : (0 : Int) < 2 ^ (j + 1) := pow_pos (by decide) _
      refine .inr (.inr ⟨j + 1, hlt, ?_⟩)
      rw [← pow_succ, wrapInt_of_range (by unfold IntRange intMin intMax; omega)]
    · obtain rfl : j = 30 := by omega
      exact .inr (.inl (by decide))

/-- Once `optimal` exceeds `2 ^ 30`, every value of the orbit stays below it, so the loop
never exits, whatever the fuel. -/
theorem powerOfTwoLoop_wrap {optimal : Int} (h : 2 ^ 30 < optimal) :
    ∀ (fuel : Nat) (p : Int), WrapOrbit p → powerOfTwoLoop .wrap optimal fuel p = none
  | 0, _, _ => rfl
  | fuel + 1, p, hp => by
    have := hp.le_pow
    rw [powerOfTwoLoop_succ, if_pos (by omega), wrap_int, Option.bind_eq_bind, Option.some_bind]
    exact powerOfTwoLoop_wrap h fuel _ hp.double

/-- Compiled with wrapping `int` arithmetic, the doubling loop of `perf_calc_optimal_shards`
never ends once the capped target exceeds `2 ^ 30`. -/
theorem wrapping_doubling_diverges {optimal : Int} (h : 2 ^ 30 < optimal) (fuel : Nat) :
    powerOfTwoLoop .wrap optimal fuel 1 = none :=
  powerOfTwoLoop_wrap h fuel 1 (.inr (.inr ⟨0, by omega, by decide⟩))

/-- At 4096 cores and 12 TiB the wrapped product `1572864 * 2048` is negative, so the cap
takes `available_memory / 8192 = 1610612736`, above `2 ^ 30`. -/
theorem wrapping_doubling_diverges_huge_host :
    shardTarget .wrap (perfDetectSystemResources hugeHost) 4096 = some 1572864 ∧
      shardMemoryCap .wrap (perfDetectSystemResources hugeHost) 1572864 = some 1610612736 ∧
      2 ^ 30 < (1610612736 : Int) ∧ ∀ fuel, powerOfTwoLoop .wrap 1610612736 fuel 1 = none :=
  ⟨by decide, by decide, by decide, fun fuel => wrapping_doubling_diverges (by decide) fuel⟩

/-- `perf_calc_optimal_maxconns` is undefined exactly when `max_file_descriptors - 256`
overflows, or 0.85, 1.1 and 1.15 take the smaller limit out of the `int` range. -/
theorem maxconns_undefined_iff (r : SystemResources) :
    perfCalcOptimalMaxconns .lp64 r = none ↔
      r.maxFileDescriptors < -2 ^ 31 + 256 ∨
        16 ≤ r.cpuCores ∧ (r.hasHighMemory && r.hasManyCores) = true ∧
          (min (wrapInt (r.availableMemory / perfMemoryPerConnection : Nat))
              (r.maxFileDescriptors - 256) ≤ -1997194746 ∨
            1997194745 ≤ min (wrapInt (r.availableMemory / perfMemoryPerConnection : Nat))
              (r.maxFileDescriptors - 256)) := by
  rw [perfCalcOptimalMaxconns_eq_none_iff_scaled]
  rcases Int.lt_or_le r.maxFileDescriptors (-2 ^ 31 + 256) with hlow | hf
  · exact iff_of_true (maxconnsScaled_lp64_of_fd_lt r hlow) (.inl hlow)
  rw [maxconnsScaled_lp64_eq_none_iff r hf, or_iff_right (not_lt.2 hf)]

/-- 16 cores, 23 TiB and 2147483584 descriptors: both limits are above 1997194744, and
`(int)(optimal * 1.15)` leaves the `int` range upwards. -/
theorem maxconns_undefined_iff_huge_descriptors :
    perfCalcOptimalMaxconns .lp64 (perfDetectSystemResources hugeDescriptorHost) = none :=
  (maxconns_undefined_iff _).2 (.inr ⟨by decide, by decide, .inr (by decide)⟩)

/-- From 24 TiB to 48 TiB the memory limit wraps negative and the connection count falls to
2048, unless 16 cores take it through 0.85, 1.1 and 1.15 below `INT_MIN`. -/
theorem maxconns_wrapped_memory (h : Host) (hlo : 2 ^ 31 * perfMemoryPerConnection ≤ h.memory)
    (hhi : h.memory < 2 ^ 32 * perfMemoryPerConnection) (hf : -2 ^ 31 + 256 ≤ h.maxFd) :
    perfCalcOptimalMaxconns .lp64 (perfDetectSystemResources h) =
      if 16 ≤ h.nprocs ∧ min ((h.memory / perfMemoryPerConnection : Nat) - 2 ^ 32 : Int)
          (h.maxFd - 256) ≤ -1997194746 then none
      else some 2048 := by
  have hfd := h.maxFd_range
  unfold IntRange intMin intMax at hfd
  have hhigh : (perfDetectSystemResources h).hasHighMemory = true :=
    decide_eq_true (by unfold perfHighMemoryThreshold perfMemoryPerConnection at *; omega)
  have hq : 2 ^ 31 ≤ h.memory / perfMemoryPerConnection ∧
      h.memory / perfMemoryPerConnection < 2 ^ 32 :=
    ⟨(Nat.le_div_iff_mul_le (by decide)).2 (by rwa [Nat.mul_comm] at hlo),
      (Nat.div_lt_iff_lt_mul (by decide)).2 (by rwa [Nat.mul_comm] at hhi)⟩
  rw [perfCalcOptimalMaxconns, Option.bind_eq_bind, maxconnsScaled_lp64_wrap _ hf]
  simp only [perfDetectSystemResources_availableMemory,
    perfDetectSystemResources_maxFileDescriptors]
  generalize h.memory / perfMemoryPerConnection = q at hq ⊢
  have hw : wrapInt q = q - 2 ^ 32 := by
    unfold wrapInt
    omega
  obtain ⟨n, hn⟩ : ∃ n : Nat, min ((q : Int) - 2 ^ 32) (h.maxFd - 256) = -(n : Int) :=
    ⟨(-min ((q : Int) - 2 ^ 32) (h.maxFd - 256)).toNat, by omega⟩
  rw [hw, hn, maxconnsScale_lp64_neg _ (by omega)]
  have hT := maxconnsScale_overflow_iff (perfDetectSystemResources h) (n := n) (by omega)
  simp only [hhigh, Bool.true_and, perfDetectSystemResources_hasManyCores,
    perfDetectSystemResources_cpuCores, decide_eq_true_eq] at hT ⊢
  by_cases hc : 16 ≤ h.nprocs ∧ 1997194746 ≤ n
  · have hov := hT.2 ⟨hc.1, by omega, hc.2⟩
    rw [lp64_int_of_not_range (by unfold IntRange intMin intMax; omega), if_pos (by omega)]
    rfl
  · have hov : ¬2 ^ 31 < _ := fun hov => hc (by have := hT.1 hov; omega)
    have hc' : ¬(16 ≤ h.nprocs ∧ -(n : Int) ≤ -1997194746) := fun h' => hc ⟨h'.1, by omega⟩
    rw [lp64_int_of_bounds (by omega) (by omega), Option.some_bind, if_neg hc',
      if_pos (by omega)]
    rfl

/-- One core and descriptors to spare: one connection's memory below 24 TiB the
recommendation is 131072 connections, at 24 TiB it is 2048. -/
theorem maxconns_wrapped_memory_one_core :
    2 ^ 31 * perfMemoryPerConnection ≤ wrappedMemoryHost.memory ∧
      wrappedMemoryHost.memory < 2 ^ 32 * perfMemoryPerConnection ∧
      -2 ^ 31 + 256 ≤ wrappedMemoryHost.maxFd ∧
      perfCalcOptimalMaxconns .lp64 (perfDetectSystemResources wrappedMemoryHost) =
        (if 16 ≤ wrappedMemoryHost.nprocs ∧
            min ((wrappedMemoryHost.memory / perfMemoryPerConnection : Nat) - 2 ^ 32 : Int)
              (wrappedMemoryHost.maxFd - 256) ≤ -1997194746 then none
          else some 2048) ∧
      perfCalcOptimalMaxconns .lp64 (perfDetectSystemResources belowWrapHost) = some 131072 :=
  ⟨by decide, by decide, by decide,
    maxconns_wrapped_memory wrappedMemoryHost (by decide) (by decide) (by decide), by decide⟩

/-- Four calculations in sequence, whatever their results are combined into, fail exactly
when one of them fails. -/
theorem bind_four_eq_none {α : Type} {b q m s : Option Int} (f : Int → Int → Int → Int → α) :
    (b.bind fun b => q.bind fun q => m.bind fun m => s.bind fun s => some (f b q m s)) = none ↔
      b = none ∨ q = none ∨ m = none ∨ s = none := by
  cases b <;> cases q <;> cases m <;> cases s <;> simp

/-- `perf_optimize_defaults` fails exactly when one of its four calculations does. -/
theorem perfOptimizeDefaults_eq_none_iff (h : Host) :
    perfOptimizeDefaults h = none ↔
      perfCalcOptimalBacklog .lp64 (perfDetectSystemResources h) = none ∨
        perfCalcOptimalQueuesize .lp64 (perfDetectSystemResources h) = none ∨
        perfCalcOptimalMaxconns .lp64 (perfDetectSystemResources h) = none ∨
        perfCalcOptimalShards .lp64 (perfDetectSystemResources h) h.nprocs = none := by
  simp only [perfOptimizeDefaults, perfDetectSystemResources_cpuCores, Option.bind_eq_bind,
    Option.pure_def]
  exact bind_four_eq_none _

/-- Below 12 TiB `perf_optimize_defaults` is undefined exactly where the shard target
overflows, or the descriptor limit converts to an `int` near `INT_MIN`. -/
theorem optimize_defaults_undefined_iff (h : Host) (h1 : 1 ≤ h.nprocs) (h2 : h.nprocs ≤ 8192)
    (hm : h.memory < perfMemoryPerConnection * 2 ^ 30) :
    perfOptimizeDefaults h = none ↔
      (2731 ≤ h.nprocs ∧ perfHighMemoryThreshold < h.memory ∨
        5462 ≤ h.nprocs ∧ perfMediumMemoryThreshold ≤ h.memory) ∨
      h.maxFd < -2 ^ 31 + 256 ∨
        16 ≤ h.nprocs ∧ perfHighMemoryThreshold < h.memory ∧ h.maxFd ≤ -1997194490 := by
  have hmc := perfCalcOptimalMaxconns_eq_none_iff (perfDetectSystemResources h) hm
  simp only [perfDetectSystemResources_maxFileDescriptors, perfDetectSystemResources_cpuCores,
    perfDetectSystemResources_hasHighMemory, perfDetectSystemResources_hasManyCores,
    Bool.and_eq_true, decide_eq_true_eq] at hmc
  rw [perfOptimizeDefaults_eq_none_iff,
    perfCalcOptimalBacklog_lp64 _ (show 0 ≤ h.nprocs by omega) (show h.nprocs ≤ 2 ^ 22 by omega),
    perfCalcOptimalQueuesize_lp64 _ (show 0 ≤ h.nprocs by omega)
      (show h.nprocs ≤ 2 ^ 20 by omega),
    hmc, perfCalcOptimalShards_eq_none_iff_base h h1 h2,
    shardBase_overflow_iff h (by omega) h2]
  simp only [reduceCtorEq, false_or]
  omega

theorem optimize_defaults_undefined_iff_wrapped_limit :
    1 ≤ wrappedLimitHost.nprocs ∧ wrappedLimitHost.nprocs ≤ 8192 ∧
      wrappedLimitHost.memory < perfMemoryPerConnection * 2 ^ 30 ∧
      (perfOptimizeDefaults wrappedLimitHost = none ↔
        (2731 ≤ wrappedLimitHost.nprocs ∧ perfHighMemoryThreshold < wrappedLimitHost.memory ∨
          5462 ≤ wrappedLimitHost.nprocs ∧
            perfMediumMemoryThreshold ≤ wrappedLimitHost.memory) ∨
        wrappedLimitHost.maxFd < -2 ^ 31 + 256 ∨
          16 ≤ wrappedLimitHost.nprocs ∧ perfHighMemoryThreshold < wrappedLimitHost.memory ∧
            wrappedLimitHost.maxFd ≤ -1997194490) ∧
      perfOptimizeDefaults wrappedLimitHost = none :=
  have hu := optimize_defaults_undefined_iff wrappedLimitHost (by decide) (by decide)
    (by decide)
  ⟨by decide, by decide, by decide, hu, hu.2 (.inr (.inr (by decide)))⟩

end Pogocache
