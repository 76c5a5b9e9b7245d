import Pogocache.Decimal

namespace Pogocache

theorem clampBounds_mem {lo hi : Int} (h : lo ≤ hi) (v : Int) :
    lo ≤ clampBounds lo hi v ∧ clampBounds lo hi v ≤ hi := by
  rw [clampBounds_eq h]
  omega

/-- Every connection count the calculation returns is its floor of 2048, clamped. -/
theorem perfCalcOptimalMaxconns_some {A : Arith} {r : SystemResources} {v : Int}
    (h : perfCalcOptimalMaxconns A r = some v) :
    ∃ o, v = clampBounds perfMinMaxconns perfMaxMaxconns (if o < 2048 then 2048 else o) := by
  simp only [perfCalcOptimalMaxconns, Option.bind_eq_bind, Option.pure_def,
    Option.bind_eq_some, Option.some.injEq] at h
  obtain ⟨o, -, rfl⟩ := h
  exact ⟨o, rfl⟩

theorem maxconns_range {A : Arith} {r : SystemResources} {v : Int}
    (h : perfCalcOptimalMaxconns A r = some v) : 2048 ≤ v ∧ v ≤ perfMaxMaxconns := by
  obtain ⟨o, rfl⟩ := perfCalcOptimalMaxconns_some h
  rw [clampBounds_eq (by decide)]
  unfold perfMinMaxconns perfMaxMaxconns
  omega

@[simp] theorem validateRange_iff (lo hi v : Int) :
    validateRange lo hi v = true ↔ lo ≤ v ∧ v ≤ hi := by
  simp [validateRange]

/-- `perf_validate_maxconns` decides what it says: converting the memory to `double` never
changes the verdict. -/
theorem perfValidateMaxconns_iff (v : Int) (m : Nat) :
    perfValidateMaxconns v m = true ↔
      perfMinMaxconns ≤ v ∧ v ≤ perfMaxMaxconns ∧ 2 * (v * perfMemoryPerConnection) < m := by
  unfold perfValidateMaxconns perfMinMaxconns perfMaxMaxconns perfMemoryPerConnection
  split
  · simp only [Bool.false_eq_true, false_iff]
    simp only [Bool.or_eq_true, decide_eq_true_eq] at *
    omega
  · simp only [Bool.or_eq_true, decide_eq_true_eq, not_or] at *
    have hx : v.toNat * 12288 < 2 ^ 53 := by omega
    have hreq : (v % 2 ^ 64).toNat * 12288 % 2 ^ 64 = v.toNat * 12288 := by omega
    rw [hreq]
    clear hreq
    simp only [roundDouble_of_lt hx]
    rw [lt_roundDouble_iff (by omega)]
    omega

/-- Above 3 GiB the memory test of `perf_validate_maxconns` holds for every count in
`[2048, PERF_MAX_MAXCONNS]`: `131072 * 12288` is half of 3 GiB. -/
theorem perfValidateMaxconns_of_memory {v : Int} {m : Nat} (h1 : 2048 ≤ v)
    (h2 : v ≤ perfMaxMaxconns) (hm : 3 * 2 ^ 30 < m) : perfValidateMaxconns v m = true := by
  rw [perfValidateMaxconns_iff]
  unfold perfMinMaxconns perfMaxMaxconns perfMemoryPerConnection at *
  omega

/-- When memory decides it, an unclamped recommendation above 2048 keeps at least 65% of the
memory limit and fails the 50% test of `perf_validate_maxconns`. -/
theorem maxconns_recommendation_exceeds_half_memory (r : SystemResources)
    (hm : r.availableMemory < perfMemoryPerConnection * 2 ^ 30)
    (hlim : ((r.availableMemory / perfMemoryPerConnection : Nat) : Int) ≤
      r.maxFileDescriptors - 256) {v : Int} (hv : perfCalcOptimalMaxconns .lp64 r = some v)
    (h1 : 2048 < v) (h2 : v < perfMaxMaxconns) :
    perfValidateMaxconns v r.availableMemory = false := by
  have hmem := memoryLimit_lt hm
  have hfd : -1997194490 < r.maxFileDescriptors := by
    unfold perfMemoryPerConnection at hlim
    omega
  rw [perfCalcOptimalMaxconns_lp64 r hm hfd, min_eq_left hlim, Int.toNat_natCast,
    Option.some.injEq, clampBounds_eq (by decide)] at hv
  have hf := le_scaleBy_maxconnsFactor r (n := r.availableMemory / perfMemoryPerConnection)
    (by omega)
  have hs1 := (scaleBy_maxconnsFactor_le r (n := r.availableMemory / perfMemoryPerConnection)
    (by omega)).1
  generalize scaleBy (maxconnsFactor r) (r.availableMemory / perfMemoryPerConnection) = a
    at hf hs1 hv
  have hb1 := self_le_scaleIf (decide (8 ≤ r.cpuCores)) (c := dbl1_1) (x := a) (by decide)
    (by omega)
  have hs2 := scaleIf_dbl1_1_le (decide (8 ≤ r.cpuCores)) a (by omega)
  generalize scaleIf (decide (8 ≤ r.cpuCores)) dbl1_1 a = b at hb1 hs2 hv
  have hb2 := self_le_scaleIf (decide (16 ≤ r.cpuCores)) (c := dbl1_15) (x := b) (by decide)
    (by omega)
  generalize scaleIf (decide (16 ≤ r.cpuCores)) dbl1_15 b = o at hb2 hv
  rw [Bool.eq_false_iff, ne_eq, perfValidateMaxconns_iff]
  unfold perfMinMaxconns perfMaxMaxconns perfMemoryPerConnection at *
  omega

/-- Two cores and 2 GiB: 113595 connections need 1.3 GiB. -/
theorem maxconns_recommendation_exceeds_half_memory_two_cores :
    (perfDetectSystemResources twoCoreHost).availableMemory < perfMemoryPerConnection * 2 ^ 30 ∧
      (((perfDetectSystemResources twoCoreHost).availableMemory / perfMemoryPerConnection : Nat) :
        Int) ≤ (perfDetectSystemResources twoCoreHost).maxFileDescriptors - 256 ∧
      perfCalcOptimalMaxconns .lp64 (perfDetectSystemResources twoCoreHost) = some 113595 ∧
      2048 < (113595 : Int) ∧ (113595 : Int) < perfMaxMaxconns ∧
      perfValidateMaxconns 113595 (perfDetectSystemResources twoCoreHost).availableMemory =
        false :=
  have hv : perfCalcOptimalMaxconns .lp64 (perfDetectSystemResources twoCoreHost) =
      some 113595 := by decide
  ⟨by decide, by decide, hv, by decide, by decide,
    maxconns_recommendation_exceeds_half_memory _ (by decide) (by decide) hv (by decide)
      (by decide)⟩

/-- One core and 1 GiB: `perf_optimize_defaults` recommends 56797 connections, which need
665 MiB, and `perf_validate_config` rejects the recommended configuration. -/
theorem maxconns_rejected_small_host :
    perfOptimizeDefaults smallHost = some ⟨256, 64, 56797, 64, true⟩ ∧
      perfValidateMaxconns 56797 smallHost.memory = false ∧
      perfValidateConfig smallHost 256 64 56797 64 = some (false, []) := by
  decide

/-- For a count in the shard bounds that gives each of the `n` threads fewer than 8193
shards, `perf_validate_shards` checks only that each gets at least 4. -/
theorem perfValidateShards_eq {s n : Int} (hn : 0 < n) (h1 : perfMinShards ≤ s)
    (h2 : s ≤ perfMaxShards) (hhi : s < 8193 * n) :
    perfValidateShards s n = some (decide (4 * n ≤ s)) := by
  unfold perfMinShards at h1
  unfold perfMaxShards at h2
  have hq : s.tdiv n = s / n := Int.tdiv_eq_ediv (by omega) hn.le
  have hq1 : 4 ≤ s / n ↔ 4 * n ≤ s := Int.le_ediv_iff_mul_le hn
  have hq2 : s / n < 8193 := (Int.ediv_lt_iff_lt_mul hn).2 (by omega)
  simp only [perfValidateShards, perfMinShards, perfMaxShards, Bool.or_eq_true,
    decide_eq_true_eq, hq]
  rw [if_neg (by omega), if_neg (by omega), Option.some.injEq, Bool.eq_iff_iff]
  simp only [Bool.and_eq_true, decide_eq_true_eq, hq1]
  exact ⟨And.left, fun h => ⟨h, by omega⟩⟩

theorem perfCalcOptimalShards_range {A : Arith} {r : SystemResources} {n v : Int}
    (h : perfCalcOptimalShards A r n = some v) : perfMinShards ≤ v ∧ v ≤ perfMaxShards := by
  simp only [perfCalcOptimalShards, Option.bind_eq_bind, Option.pure_def, Option.bind_eq_some,
    Option.some.injEq] at h
  obtain ⟨-, -, -, -, -, -, rfl⟩ := h
  exact clampBounds_mem (by decide) _

/-- A least power of two at or above `3t/4` other than 1 is below `3t/2`. -/
theorem IsLeastPowTwo.two_mul_lt {t : Int} {k : Nat} (hk : IsLeastPowTwo (3 * t) 4 k)
    (hk0 : 0 < k) : 2 * 2 ^ k < 3 * t := by
  obtain ⟨j, rfl⟩ : ∃ j, k = j + 1 := ⟨k - 1, by omega⟩
  have hpow : (2 : Int) ^ (j + 1) = 2 ^ j * 2 := pow_succ 2 j
  have : ¬3 * t ≤ 4 * 2 ^ j := fun hj => by have := hk.2 j hj; omega
  omega

/-- Under the 8192-thread bound every count the compiled calculation returns is the clamped
least power of two at or above three quarters of the capped target. -/
theorem perfCalcOptimalShards_lp64_some (h : Host) (h1 : 1 ≤ h.nprocs) (h2 : h.nprocs ≤ 8192)
    {s : Int} (hs : perfCalcOptimalShards .lp64 (perfDetectSystemResources h) h.nprocs = some s) :
    ∃ k, IsLeastPowTwo (3 * shardCap (perfDetectSystemResources h) h.nprocs) 4 k ∧
      s = min perfMaxShards (max perfMinShards (2 ^ k)) := by
  rw [perfCalcOptimalShards_lp64 _ (by omega) h2] at hs
  split at hs
  · obtain ⟨k, hk, he⟩ := perfCalcOptimalShards_exact _ h1
    rw [he, Option.some.injEq, clampBounds_eq (by decide)] at hs
    exact ⟨k, hk, hs.symm⟩
  · cases hs

/-- The compiled shard count gives each thread fewer than 8193 shards: the power of two is
below `3t/2`, at most 576 per thread, and the clamps are 32 and 131072. -/
theorem perfCalcOptimalShards_lt (h : Host) (h1 : 1 ≤ h.nprocs) (h2 : h.nprocs ≤ 8192)
    {s : Int} (hs : perfCalcOptimalShards .lp64 (perfDetectSystemResources h) h.nprocs = some s) :
    s < 8193 * h.nprocs := by
  obtain ⟨k, hk, rfl⟩ := perfCalcOptimalShards_lp64_some h h1 h2 hs
  have ht : shardCap (perfDetectSystemResources h) h.nprocs ≤ 384 * h.nprocs := by
    have := (shardBase_bounds (perfDetectSystemResources h) (by omega : 0 ≤ h.nprocs)).2.1
    unfold shardCap
    omega
  unfold perfMinShards perfMaxShards
  rcases Nat.eq_zero_or_pos k with rfl | hk0
  · simp only [pow_zero]
    omega
  · have := hk.two_mul_lt hk0
    omega

/-- With at least 48 KiB of memory per core the shard target is at least 6 per thread, so
the recommended count gives each thread at least 4. -/
theorem perfCalcOptimalShards_ge (h : Host) (h1 : 1 ≤ h.nprocs) (h2 : h.nprocs ≤ 8192)
    (hm : 49152 * h.nprocs ≤ h.memory) {s : Int}
    (hs : perfCalcOptimalShards .lp64 (perfDetectSystemResources h) h.nprocs = some s) :
    4 * h.nprocs ≤ s := by
  obtain ⟨k, hk, rfl⟩ := perfCalcOptimalShards_lp64_some h h1 h2 hs
  have hcap : 6 * h.nprocs ≤ shardCap (perfDetectSystemResources h) h.nprocs := by
    have := (shardBase_bounds (perfDetectSystemResources h) (by omega : 0 ≤ h.nprocs)).1
    have hav : (perfDetectSystemResources h).availableMemory = h.memory := rfl
    unfold shardCap perfMemoryPerShard
    rw [hav]
    omega
  have hk1 := hk.1
  unfold perfMinShards perfMaxShards
  omega

/-- With 48 KiB per core every computed shard count validates; the bound is sufficient, not
necessary, since up to 8 cores the floor of 32 passes at any memory size. -/
theorem shards_recommendation_validates (h : Host) (h1 : 1 ≤ h.nprocs) (h2 : h.nprocs ≤ 8192)
    (hm : 49152 * h.nprocs ≤ h.memory) (s : Int)
    (hs : perfCalcOptimalShards .lp64 (perfDetectSystemResources h) h.nprocs = some s) :
    perfValidateShards s h.nprocs = some true := by
  have hr := perfCalcOptimalShards_range hs
  rw [perfValidateShards_eq (by omega) hr.1 hr.2 (perfCalcOptimalShards_lt h h1 h2 hs),
    decide_eq_true (perfCalcOptimalShards_ge h h1 h2 hm hs)]

/-- 64 cores and 3 MiB: the memory cap binds and leaves 512 shards, 8 per thread. -/
theorem shards_recommendation_validates_capped_host :
    1 ≤ cappedHost.nprocs ∧ cappedHost.nprocs ≤ 8192 ∧
      49152 * cappedHost.nprocs ≤ cappedHost.memory ∧
      perfCalcOptimalShards .lp64 (perfDetectSystemResources cappedHost) cappedHost.nprocs =
        some 512 ∧
      perfValidateShards 512 cappedHost.nprocs = some true :=
  have hs : perfCalcOptimalShards .lp64 (perfDetectSystemResources cappedHost)
      cappedHost.nprocs = some 512 := by decide
  ⟨by decide, by decide, by decide, hs,
    shards_recommendation_validates cappedHost (by decide) (by decide) (by decide) 512 hs⟩

/-- 64 cores and 1 MiB: the memory cap leaves 128 shards, two per thread, and
`perf_validate_shards` wants at least four. -/
theorem shards_rejected_tiny_memory :
    perfCalcOptimalShards .lp64 (perfDetectSystemResources tinyMemoryHost) 64 = some 128 ∧
      perfValidateShards 128 64 = some false := by
  decide

end Pogocache
