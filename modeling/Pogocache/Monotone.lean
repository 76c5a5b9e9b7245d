import Pogocache.Config
import Pogocache.Scaling

namespace Pogocache

/-- `h'` has at least the cores, the memory and the descriptor hard limit of `h`; a failed
`getrlimit` counts as its fallback of 1024. -/
structure Host.Le (h h' : Host) : Prop where
  nprocs_le : h.nprocs ≤ h'.nprocs
  memory_le : h.memory ≤ h'.memory
  nofile_le : h.nofile.getD 1024 ≤ h'.nofile.getD 1024

/-- Below `2 ^ 31` the `(int)` conversion keeps the descriptor limit. -/
theorem Host.maxFd_of_lt (h : Host) (hf : h.nofile.getD 1024 < 2 ^ 31) :
    h.maxFd = h.nofile.getD 1024 := by
  unfold Host.maxFd
  cases hn : h.nofile with
  | none => rfl
  | some f =>
    rw [hn, Option.getD_some] at hf
    exact wrapInt_of_range (by unfold IntRange intMin intMax; omega)

theorem clampBounds_mono {lo hi v v' : Int} (h : lo ≤ hi) (hv : v ≤ v') :
    clampBounds lo hi v ≤ clampBounds lo hi v' := by
  rw [clampBounds_eq h, clampBounds_eq h]
  omega

theorem IsLeastPowTwo.mono {a a' d : Int} {k k' : Nat} (hk : IsLeastPowTwo a d k)
    (hk' : IsLeastPowTwo a' d k') (ha : a ≤ a') : k ≤ k' :=
  hk.2 k' (le_trans ha hk'.1)

/-- The many-core boost of the backlog keeps the order of the rates. -/
theorem boost_mono {b b' : Bool} {R R' : Int} (hb : b = true → b' = true) (hR : 0 ≤ R)
    (hRR : R ≤ R') : (if b then R * 5 / 4 else R) ≤ (if b' then R' * 5 / 4 else R') := by
  cases b <;> cases b'
  · exact hRR
  · show R ≤ R' * 5 / 4
    omega
  · exact absurd (hb rfl) Bool.false_ne_true
  · show R * 5 / 4 ≤ R' * 5 / 4
    omega

section Hosts

variable {h h' : Host}

theorem backlogPerCore_mono (hle : h.Le h') :
    backlogPerCore (perfDetectSystemResources h) ≤
      backlogPerCore (perfDetectSystemResources h') := by
  have hn := hle.nprocs_le
  have hm := hle.memory_le
  refine boost_mono ?_ (by unfold backlogRate; split_ifs <;> decide) ?_
  · simp only [perfDetectSystemResources_hasManyCores, decide_eq_true_eq]
    omega
  · simp only [backlogRate, perfDetectSystemResources_hasHighMemory,
      perfDetectSystemResources_totalMemory, decide_eq_true_eq, perfHighMemoryThreshold,
      perfMediumMemoryThreshold]
    split_ifs <;> omega

theorem queuesizeBase_mono (hle : h.Le h') :
    (queuesizeBase (perfDetectSystemResources h)).toNat ≤
      (queuesizeBase (perfDetectSystemResources h')).toNat := by
  have := hle.nprocs_le
  have := hle.memory_le
  simp only [queuesizeBase, perfDetectSystemResources_hasHighMemory,
    perfDetectSystemResources_cpuCores, perfDetectSystemResources_totalMemory,
    decide_eq_true_eq, perfHighMemoryThreshold, perfMediumMemoryThreshold]
  split_ifs <;> omega

/-- The flag factor of the connection count grows with the flags: 0.65, then 0.75, then
0.85, each compared through the exact 3/4. -/
theorem scaleBy_maxconnsFactor_mono (hle : h.Le h') {x y : Nat} (hxy : x ≤ y)
    (hy : y < 2 ^ 50) : scaleBy (maxconnsFactor (perfDetectSystemResources h)) x ≤
      scaleBy (maxconnsFactor (perfDetectSystemResources h')) y := by
  have h65 : scaleBy dbl0_65 y ≤ y * 3 / 2 ^ 2 := scaleBy_le (by decide) (by decide) (by omega)
  have h75 : scaleBy dbl0_75 y = y * 3 / 2 ^ 2 := by
    simp only [scaleBy, dbl0_75, roundDouble_of_lt (show y * 3 < 2 ^ 53 by omega)]
  have h85 : y * 3 / 2 ^ 2 ≤ scaleBy dbl0_85 y := le_scaleBy (by decide) (by decide) (by omega)
  have hn := hle.nprocs_le
  have hm := hle.memory_le
  refine le_trans (scaleBy_mono _ hxy) ?_
  simp only [maxconnsFactor, perfDetectSystemResources_hasHighMemory,
    perfDetectSystemResources_hasManyCores, Bool.and_eq_true, Bool.or_eq_true,
    decide_eq_true_eq]
  split_ifs <;> omega

/-- The memory stage of `shardBase` grows with the memory and the threads. -/
theorem shardMemoryStage_mono (hle : h.Le h') {n n' : Int} (hn : 0 ≤ n) (hnn : n ≤ n') :
    (if (perfDetectSystemResources h).hasHighMemory then n * 128 * 2
      else if (perfDetectSystemResources h).totalMemory < perfMediumMemoryThreshold then
        (n * 128).tdiv 2 else n * 128) ≤
    (if (perfDetectSystemResources h').hasHighMemory then n' * 128 * 2
      else if (perfDetectSystemResources h').totalMemory < perfMediumMemoryThreshold then
        (n' * 128).tdiv 2 else n' * 128) := by
  have := hle.memory_le
  simp only [perfDetectSystemResources_hasHighMemory, perfDetectSystemResources_totalMemory,
    decide_eq_true_eq, perfHighMemoryThreshold, perfMediumMemoryThreshold, mul_128_tdiv_two hn,
    mul_128_tdiv_two (le_trans hn hnn)]
  split_ifs <;> omega

/-- The core stage of `shardBase` grows with the cores and with its input. -/
theorem shardCoreStage_mono {c c' b b' : Int} (hc : c ≤ c') (hb : 0 ≤ b) (hbb : b ≤ b') :
    (if 16 ≤ c then (b * 3).tdiv 2 else if 8 ≤ c then (b * 5).tdiv 4 else b) ≤
      (if 16 ≤ c' then (b' * 3).tdiv 2 else if 8 ≤ c' then (b' * 5).tdiv 4 else b') := by
  rw [Int.tdiv_eq_ediv (by omega) (by decide), Int.tdiv_eq_ediv (by omega) (by decide),
    Int.tdiv_eq_ediv (by omega) (by decide), Int.tdiv_eq_ediv (by omega) (by decide)]
  split_ifs <;> omega

theorem shardBase_mono (hle : h.Le h') (h0 : 0 ≤ h.nprocs) :
    shardBase (perfDetectSystemResources h) h.nprocs ≤
      shardBase (perfDetectSystemResources h') h'.nprocs := by
  refine shardCoreStage_mono hle.nprocs_le ?_ (shardMemoryStage_mono hle h0 hle.nprocs_le)
  simp only [mul_128_tdiv_two h0]
  split_ifs <;> omega

theorem shardCap_mono (hle : h.Le h') (h0 : 0 ≤ h.nprocs) :
    shardCap (perfDetectSystemResources h) h.nprocs ≤
      shardCap (perfDetectSystemResources h') h'.nprocs := by
  have hb := shardBase_mono hle h0
  have hm : h.memory / 4 / perfMemoryPerShard ≤ h'.memory / 4 / perfMemoryPerShard :=
    Nat.div_le_div_right (Nat.div_le_div_right hle.memory_le)
  simp only [shardCap, perfDetectSystemResources_availableMemory]
  omega

theorem backlog_mono (hle : h.Le h') (h1 : 1 ≤ h.nprocs) (h2 : h'.nprocs ≤ 8192) :
    ∃ v v', perfCalcOptimalBacklog .lp64 (perfDetectSystemResources h) = some v ∧
      perfCalcOptimalBacklog .lp64 (perfDetectSystemResources h') = some v' ∧ v ≤ v' := by
  have hn := hle.nprocs_le
  have hr : 0 ≤ backlogPerCore (perfDetectSystemResources h') := by
    simp only [backlogPerCore, backlogRate]
    split_ifs <;> decide
  refine ⟨_, _, perfCalcOptimalBacklog_lp64 _ (show 0 ≤ h.nprocs by omega)
      (show h.nprocs ≤ 2 ^ 22 by omega),
    perfCalcOptimalBacklog_lp64 _ (show 0 ≤ h'.nprocs by omega)
      (show h'.nprocs ≤ 2 ^ 22 by omega),
    clampBounds_mono (by decide) ?_⟩
  exact Int.mul_le_mul (backlogPerCore_mono hle) hn (show 0 ≤ h.nprocs by omega) hr

theorem queuesize_mono (hle : h.Le h') (h1 : 1 ≤ h.nprocs) (h2 : h'.nprocs ≤ 8192) :
    ∃ v v', perfCalcOptimalQueuesize .lp64 (perfDetectSystemResources h) = some v ∧
      perfCalcOptimalQueuesize .lp64 (perfDetectSystemResources h') = some v' ∧ v ≤ v' := by
  have hn := hle.nprocs_le
  have hb : (queuesizeBase (perfDetectSystemResources h')).toNat ≤ 2 ^ 20 := by
    simp only [queuesizeBase, perfDetectSystemResources_cpuCores]
    split_ifs <;> omega
  have hs := scaleIf_dbl1_2_le (decide (8 ≤ h'.nprocs))
    (queuesizeBase (perfDetectSystemResources h')).toNat (by omega)
  refine ⟨_, _, perfCalcOptimalQueuesize_lp64 _ (show 0 ≤ h.nprocs by omega)
      (show h.nprocs ≤ 2 ^ 20 by omega),
    perfCalcOptimalQueuesize_lp64 _ (show 0 ≤ h'.nprocs by omega)
      (show h'.nprocs ≤ 2 ^ 20 by omega),
    clampBounds_mono (by decide) (Int.ofNat_le.2 ?_)⟩
  simp only [perfDetectSystemResources_cpuCores]
  refine scaleIf_mono (by simp only [decide_eq_true_eq]; omega) ?_
    (self_le_scaleBy (by decide) (by omega))
  exact scaleIf_mono (by simp only [decide_eq_true_eq]; omega) (queuesizeBase_mono hle)
    (self_le_scaleBy (by decide) (by omega))

/-- The three roundings of the connection count keep the order of the limits. -/
theorem maxconnsScale_mono (hle : h.Le h') {x x' : Nat} (hxx : x ≤ x') (hx' : x' < 2 ^ 30) :
    scaleIf (decide (16 ≤ h.nprocs)) dbl1_15 (scaleIf (decide (8 ≤ h.nprocs)) dbl1_1
        (scaleBy (maxconnsFactor (perfDetectSystemResources h)) x)) ≤
      scaleIf (decide (16 ≤ h'.nprocs)) dbl1_15 (scaleIf (decide (8 ≤ h'.nprocs)) dbl1_1
        (scaleBy (maxconnsFactor (perfDetectSystemResources h')) x')) := by
  have hs1 := (scaleBy_maxconnsFactor_le (perfDetectSystemResources h') (n := x') (by omega)).1
  have hs2 := scaleIf_dbl1_1_le (decide (8 ≤ h'.nprocs))
    (scaleBy (maxconnsFactor (perfDetectSystemResources h')) x') (by omega)
  have hn := hle.nprocs_le
  refine scaleIf_mono (by simp only [decide_eq_true_eq]; omega) ?_
    (self_le_scaleBy (by decide) (by omega))
  refine scaleIf_mono (by simp only [decide_eq_true_eq]; omega) ?_
    (self_le_scaleBy (by decide) (by omega))
  exact scaleBy_maxconnsFactor_mono hle hxx (by omega)

theorem maxconns_mono (hle : h.Le h') (hf : h'.nofile.getD 1024 < 2 ^ 31)
    (hm : h'.memory < perfMemoryPerConnection * 2 ^ 30) :
    ∃ v v', perfCalcOptimalMaxconns .lp64 (perfDetectSystemResources h) = some v ∧
      perfCalcOptimalMaxconns .lp64 (perfDetectSystemResources h') = some v' ∧ v ≤ v' := by
  have hfd := h.maxFd_of_lt (lt_of_le_of_lt hle.nofile_le hf)
  have hfd' := h'.maxFd_of_lt hf
  refine ⟨_, _, perfCalcOptimalMaxconns_lp64 _ (lt_of_le_of_lt hle.memory_le hm)
      (by rw [perfDetectSystemResources_maxFileDescriptors, hfd]; omega),
    perfCalcOptimalMaxconns_lp64 _ hm
      (by rw [perfDetectSystemResources_maxFileDescriptors, hfd']; omega),
    clampBounds_mono (by decide) (max_le_max le_rfl (Int.ofNat_le.2 ?_))⟩
  have hq : h.memory / perfMemoryPerConnection ≤ h'.memory / perfMemoryPerConnection :=
    Nat.div_le_div_right hle.memory_le
  have hq' := memoryLimit_lt hm
  have hfl := hle.nofile_le
  simp only [perfDetectSystemResources_cpuCores, perfDetectSystemResources_availableMemory,
    perfDetectSystemResources_maxFileDescriptors, hfd, hfd']
  generalize h'.memory / perfMemoryPerConnection = q' at hq hq' ⊢
  generalize h.memory / perfMemoryPerConnection = q at hq ⊢
  exact maxconnsScale_mono hle (by omega) (by omega)

theorem shards_mono (hle : h.Le h') (h1 : 1 ≤ h.nprocs) (h2 : h'.nprocs ≤ 8192)
    (hs : shardBase (perfDetectSystemResources h') h'.nprocs < 2 ^ 20) :
    ∃ v v', perfCalcOptimalShards .lp64 (perfDetectSystemResources h) h.nprocs = some v ∧
      perfCalcOptimalShards .lp64 (perfDetectSystemResources h') h'.nprocs = some v' ∧
      v ≤ v' := by
  have hn := hle.nprocs_le
  have hb := shardBase_mono hle (by omega)
  obtain ⟨k, hk, he⟩ := perfCalcOptimalShards_exact (perfDetectSystemResources h) h1
  obtain ⟨k', hk', he'⟩ := perfCalcOptimalShards_exact (perfDetectSystemResources h')
    (by omega : 1 ≤ h'.nprocs)
  have hkk : k ≤ k' := hk.mono hk' (by have := shardCap_mono hle (by omega); omega)
  rw [perfCalcOptimalShards_lp64 _ (by omega) (by omega), if_pos (by omega), he,
    perfCalcOptimalShards_lp64 _ (by omega) h2, if_pos hs, he']
  exact ⟨_, _, rfl, rfl, clampBounds_mono (by decide) (pow_le_pow_right₀ (by decide) hkk)⟩

/-- Where no conversion truncates and no `int` overflows, a larger host is recommended at
least as large a backlog, queue size, connection count and shard count. -/
theorem optimize_defaults_monotone (hle : h.Le h') (h1 : 1 ≤ h.nprocs)
    (h2 : h'.nprocs ≤ 8192) (hf : h'.nofile.getD 1024 < 2 ^ 31)
    (hm : h'.memory < perfMemoryPerConnection * 2 ^ 30)
    (hs : shardBase (perfDetectSystemResources h') h'.nprocs < 2 ^ 20) :
    ∃ c c', perfOptimizeDefaults h = some c ∧ perfOptimizeDefaults h' = some c' ∧
      c.optimalBacklog ≤ c'.optimalBacklog ∧ c.optimalQueuesize ≤ c'.optimalQueuesize ∧
      c.optimalMaxconns ≤ c'.optimalMaxconns ∧ c.optimalNshards ≤ c'.optimalNshards := by
  obtain ⟨b, b', hb, hb', hbb⟩ := backlog_mono hle h1 h2
  obtain ⟨q, q', hq, hq', hqq⟩ := queuesize_mono hle h1 h2
  obtain ⟨m, m', hc, hc', hmm⟩ := maxconns_mono hle hf hm
  obtain ⟨s, s', hsh, hsh', hss⟩ := shards_mono hle h1 h2 hs
  exact ⟨_, _, perfOptimizeDefaults_eq hb hq hc hsh, perfOptimizeDefaults_eq hb' hq' hc' hsh',
    hbb, hqq, hmm, hss⟩

end Hosts

theorem optimize_defaults_monotone_small_limited :
    smallHost.Le limitedHost ∧ 1 ≤ smallHost.nprocs ∧ limitedHost.nprocs ≤ 8192 ∧
      limitedHost.nofile.getD 1024 < 2 ^ 31 ∧
      limitedHost.memory < perfMemoryPerConnection * 2 ^ 30 ∧
      shardBase (perfDetectSystemResources limitedHost) limitedHost.nprocs < 2 ^ 20 ∧
      ∃ c c', perfOptimizeDefaults smallHost = some c ∧ perfOptimizeDefaults limitedHost = some c' ∧
        c.optimalBacklog ≤ c'.optimalBacklog ∧ c.optimalQueuesize ≤ c'.optimalQueuesize ∧
        c.optimalMaxconns ≤ c'.optimalMaxconns ∧ c.optimalNshards ≤ c'.optimalNshards :=
  have hle : smallHost.Le limitedHost := ⟨by decide, by decide, by decide⟩
  ⟨hle, by decide, by decide, by decide, by decide, by decide,
    optimize_defaults_monotone hle (by decide) (by decide) (by decide) (by decide) (by decide)⟩

/-- Raising the 8 GiB one-core host's descriptor hard limit from 1048576 to Linux's
`RLIM_INFINITY` lowers the recommended connection count from 131072 to 2048: `(int)` makes -1. -/
theorem maxconns_drops_with_unlimited_descriptors :
    limitedHost.nofile = some 1048576 ∧ unlimitedHost.nofile = some sizeMax ∧
      (perfDetectSystemResources unlimitedHost).maxFileDescriptors = -1 ∧
      perfCalcOptimalMaxconns .lp64 (perfDetectSystemResources limitedHost) = some 131072 ∧
      perfCalcOptimalMaxconns .lp64 (perfDetectSystemResources unlimitedHost) = some 2048 := by
  decide

end Pogocache
