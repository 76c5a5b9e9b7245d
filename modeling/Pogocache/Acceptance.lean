import Pogocache.Config
import Pogocache.Overflow

namespace Pogocache

/-- The three settings `perf_validate_config` checks before it divides by the thread count,
over exact integers. -/
def SettingsAccepted (h : Host) (backlog queuesize maxconns : Int) : Prop :=
  (perfMinBacklog ≤ backlog ∧ backlog ≤ perfMaxBacklog) ∧
    (perfMinQueuesize ≤ queuesize ∧ queuesize ≤ perfMaxQueuesize) ∧
    (perfMinMaxconns ≤ maxconns ∧ maxconns ≤ perfMaxMaxconns ∧
      2 * (maxconns * perfMemoryPerConnection) < h.memory)

instance (h : Host) (backlog queuesize maxconns : Int) :
    Decidable (SettingsAccepted h backlog queuesize maxconns) :=
  inferInstanceAs (Decidable (_ ∧ _ ∧ _))

/-- The configurations `perf_validate_config` accepts on a host, over exact integers: the
three settings, then the shards in their bounds with 4 to 8192 per thread. -/
def ConfigAccepted (h : Host) (backlog queuesize maxconns nshards : Int) : Prop :=
  SettingsAccepted h backlog queuesize maxconns ∧
    (perfMinShards ≤ nshards ∧ nshards ≤ perfMaxShards ∧
      4 * h.nprocs ≤ nshards ∧ nshards < 8193 * h.nprocs)

instance (h : Host) (backlog queuesize maxconns nshards : Int) :
    Decidable (ConfigAccepted h backlog queuesize maxconns nshards) :=
  inferInstanceAs (Decidable (_ ∧ _))

/-- The warning for one setting below half its recommendation, over exact integers. -/
def belowHalf (setting : String) (value optimal : Int) : List PerfWarning :=
  if 2 * value < optimal then [⟨setting, value, optimal⟩] else []

/-- The warnings for a configuration against the recommendations, in the source's order. -/
def configWarnings (c : PerfConfig) (backlog queuesize maxconns nshards : Int) :
    List PerfWarning :=
  belowHalf "backlog" backlog c.optimalBacklog ++
    belowHalf "queuesize" queuesize c.optimalQueuesize ++
    belowHalf "maxconns" maxconns c.optimalMaxconns ++
    belowHalf "shards" nshards c.optimalNshards

/-- `value < optimal * 0.5` is exact in `double` for a recommendation below `2 ^ 52`. -/
theorem warnBelowHalf_eq (setting : String) (value : Int) {optimal : Int}
    (h : optimal.natAbs < 2 ^ 52) :
    warnBelowHalf setting value optimal = belowHalf setting value optimal := by
  have hm : optimal.natAbs * dbl0_5.mant < 2 ^ 53 := by
    simp only [dbl0_5]
    omega
  simp only [warnBelowHalf, belowHalf, Arith.geMul, lp64_mulDouble hm]
  simp only [dbl0_5]
  by_cases hv : 2 * value < optimal
  · rw [if_pos hv, if_neg (by simp only [decide_eq_true_eq]; omega)]
  · rw [if_neg hv, if_pos (by simp only [decide_eq_true_eq]; omega)]

/-- Away from 0 threads `perf_validate_shards` checks the bounds and 4 to 8192 shards per
thread; a negative thread count fails the ratio. -/
theorem perfValidateShards_of_ne_zero {s n : Int} (hn : n ≠ 0) :
    perfValidateShards s n = some (decide (perfMinShards ≤ s ∧ s ≤ perfMaxShards ∧
      4 * n ≤ s ∧ s < 8193 * n)) := by
  unfold perfValidateShards
  split_ifs with hb
  · simp only [Bool.or_eq_true, decide_eq_true_eq] at hb
    rw [Option.some.injEq, eq_comm, decide_eq_false_iff_not]
    omega
  · simp only [Bool.or_eq_true, decide_eq_true_eq, not_or] at hb
    unfold perfMinShards perfMaxShards at hb ⊢
    rw [Option.some.injEq, Bool.eq_iff_iff]
    simp only [Bool.and_eq_true, decide_eq_true_eq]
    rcases Int.lt_or_lt_of_ne hn with hneg | hpos
    · -- the quotient of a positive count by a negative one is at most 0
      have hq : s.tdiv n ≤ 0 := by
        rw [show n = -(-n) by omega, Int.tdiv_neg, Int.tdiv_eq_ediv (by omega) (by omega)]
        have := Int.ediv_nonneg (by omega : 0 ≤ s) (by omega : 0 ≤ -n)
        omega
      omega
    · have hlo : 4 ≤ s / n ↔ 4 * n ≤ s := Int.le_ediv_iff_mul_le hpos
      have hhi : s / n < 8193 ↔ s < 8193 * n := Int.ediv_lt_iff_lt_mul hpos
      rw [Int.tdiv_eq_ediv (by omega) hpos.le]
      omega

/-- At 0 threads `nshards / nthreads` divides by zero once the count is in its bounds. -/
theorem perfValidateShards_zero (s : Int) :
    perfValidateShards s 0 =
      if perfMinShards ≤ s ∧ s ≤ perfMaxShards then none else some false := by
  by_cases hb : perfMinShards ≤ s ∧ s ≤ perfMaxShards
  · rw [if_pos hb, perfValidateShards,
      if_neg (by simp only [Bool.or_eq_true, decide_eq_true_eq]; omega), if_pos rfl]
  · rw [if_neg hb, perfValidateShards,
      if_pos (by simp only [Bool.or_eq_true, decide_eq_true_eq]; omega)]

/-- The verdict of `perf_validate_config`: the four validators, the shards checked only after
the other three, are the exact acceptance, except that 0 threads divide by zero. -/
theorem perfValidateConfig_verdict (h : Host) (b q m s : Int) :
    (if perfValidateBacklog b && perfValidateQueuesize q &&
        perfValidateMaxconns m (perfDetectSystemResources h).availableMemory then
      perfValidateShards s (perfDetectSystemResources h).cpuCores
    else pure false) =
      if h.nprocs = 0 ∧ SettingsAccepted h b q m ∧ perfMinShards ≤ s ∧ s ≤ perfMaxShards then
        none
      else some (decide (ConfigAccepted h b q m s)) := by
  have hvm : perfValidateMaxconns m h.memory = decide (perfMinMaxconns ≤ m ∧
      m ≤ perfMaxMaxconns ∧ 2 * (m * perfMemoryPerConnection) < h.memory) :=
    Bool.eq_iff_iff.2 ((perfValidateMaxconns_iff m h.memory).trans decide_eq_true_iff.symm)
  have hv : (perfValidateBacklog b && perfValidateQueuesize q && perfValidateMaxconns m h.memory)
      = decide (SettingsAccepted h b q m) := by
    rw [Bool.eq_iff_iff, decide_eq_true_iff]
    simp only [Bool.and_eq_true, hvm, perfValidateBacklog, perfValidateQueuesize,
      validateRange_iff, decide_eq_true_eq, SettingsAccepted, and_assoc]
  simp only [perfDetectSystemResources_availableMemory, perfDetectSystemResources_cpuCores, hv]
  by_cases hn : h.nprocs = 0
  · have hA : ¬ConfigAccepted h b q m s := fun hA => by
      have := hA.2
      omega
    simp only [hn, perfValidateShards_zero, decide_eq_true_eq, true_and, hA, decide_False]
    by_cases hS : SettingsAccepted h b q m
    · simp only [hS, if_true, true_and]
    · simp only [hS, if_false, false_and, Option.pure_def]
  · simp only [hn, false_and, if_false, perfValidateShards_of_ne_zero hn, ConfigAccepted,
      decide_eq_true_eq]
    split_ifs with hS
    · simp only [hS, true_and]
    · rw [Option.pure_def, Option.some.injEq, eq_comm, decide_eq_false_iff_not]
      exact fun hA => hS hA.1

/-- With 0 threads `perf_validate_config` divides by zero once the three settings pass and the
shard count is in its bounds. -/
theorem perfValidateConfig_zero {h : Host} {b q m s : Int} (hz : h.nprocs = 0)
    (hS : SettingsAccepted h b q m) (hs : perfMinShards ≤ s ∧ s ≤ perfMaxShards) :
    perfValidateConfig h b q m s = none := by
  rw [perfValidateConfig, Option.bind_eq_bind, perfValidateConfig_verdict, if_pos ⟨hz, hS, hs⟩]
  rfl

/-- Short of that division, a configuration `ConfigAccepted` excludes is rejected without a
warning. -/
theorem perfValidateConfig_rejected {h : Host} {b q m s : Int}
    (hz : ¬(h.nprocs = 0 ∧ SettingsAccepted h b q m ∧ perfMinShards ≤ s ∧ s ≤ perfMaxShards))
    (hA : ¬ConfigAccepted h b q m s) : perfValidateConfig h b q m s = some (false, []) := by
  rw [perfValidateConfig, Option.bind_eq_bind, perfValidateConfig_verdict, if_neg hz,
    decide_eq_false hA]
  rfl

/-- An accepted configuration has undefined behaviour where `perf_optimize_defaults` has, and
is otherwise accepted with a warning for each setting below half its recommendation. -/
theorem perfValidateConfig_accepted {h : Host} {b q m s : Int} (hA : ConfigAccepted h b q m s) :
    perfValidateConfig h b q m s =
      (perfOptimizeDefaults h).map fun c => (true, configWarnings c b q m s) := by
  have hz : ¬(h.nprocs = 0 ∧ SettingsAccepted h b q m ∧ perfMinShards ≤ s ∧ s ≤ perfMaxShards) :=
    fun hz => by
      have := hA.2
      have := hz.1
      omega
  rw [perfValidateConfig, Option.bind_eq_bind, perfValidateConfig_verdict, if_neg hz,
    decide_eq_true hA]
  simp only [Option.some_bind, if_true, Option.bind_eq_bind, Option.pure_def,
    perfDetectSystemResources_cpuCores]
  cases hc : perfOptimizeDefaults h with
  | none =>
    rw [Option.map_none', bind_four_eq_none]
    exact (perfOptimizeDefaults_eq_none_iff h).1 hc
  | some c =>
    obtain ⟨hb, hq, hm, hs, -⟩ := perfOptimizeDefaults_some hc
    obtain ⟨rb, rq, rm, rs⟩ := perfOptimizeDefaults_range hc
    simp only [perfMinBacklog, perfMaxBacklog, perfMinQueuesize, perfMaxQueuesize,
      perfMaxMaxconns, perfMinShards, perfMaxShards] at rb rq rm rs
    simp only [hb, hq, hm, hs, Option.some_bind, Option.map_some', configWarnings,
      warnBelowHalf_eq _ _ (by omega : c.optimalBacklog.natAbs < 2 ^ 52),
      warnBelowHalf_eq _ _ (by omega : c.optimalQueuesize.natAbs < 2 ^ 52),
      warnBelowHalf_eq _ _ (by omega : c.optimalMaxconns.natAbs < 2 ^ 52),
      warnBelowHalf_eq _ _ (by omega : c.optimalNshards.natAbs < 2 ^ 52)]

/-- `perf_validate_config` over exact integers, for every host and every configuration. -/
theorem validate_config_exact (h : Host) (b q m s : Int) :
    perfValidateConfig h b q m s =
      if h.nprocs = 0 ∧ SettingsAccepted h b q m ∧ perfMinShards ≤ s ∧ s ≤ perfMaxShards then
        none
      else if ConfigAccepted h b q m s then
        (perfOptimizeDefaults h).map fun c => (true, configWarnings c b q m s)
      else some (false, []) := by
  split_ifs with hz hA
  · exact perfValidateConfig_zero hz.1 hz.2.1 hz.2.2
  · exact perfValidateConfig_accepted hA
  · exact perfValidateConfig_rejected hz hA

/-- One core and 8 GiB: 256, 64, 2048 and 64 are accepted, with warnings for the connections
(below half of 131072) and the shards (below half of 256). -/
theorem validate_config_exact_limited_host :
    perfValidateConfig limitedHost 256 64 2048 64 =
      some (true, [⟨"maxconns", 2048, 131072⟩, ⟨"shards", 64, 256⟩]) := by
  rw [validate_config_exact, if_neg (by decide), if_pos (by decide)]
  decide

theorem belowHalf_self (setting : String) {v : Int} (hv : 0 ≤ v) : belowHalf setting v v = [] :=
  if_neg (by omega)

/-- No warning is printed for the recommended configuration. -/
theorem configWarnings_recommended {h : Host} {c : PerfConfig}
    (hc : perfOptimizeDefaults h = some c) :
    configWarnings c c.optimalBacklog c.optimalQueuesize c.optimalMaxconns c.optimalNshards =
      [] := by
  obtain ⟨rb, rq, rm, rs⟩ := perfOptimizeDefaults_range hc
  unfold perfMinBacklog perfMinQueuesize perfMinShards at *
  rw [configWarnings, belowHalf_self _ (by omega : 0 ≤ c.optimalBacklog),
    belowHalf_self _ (by omega : 0 ≤ c.optimalQueuesize),
    belowHalf_self _ (by omega : 0 ≤ c.optimalMaxconns),
    belowHalf_self _ (by omega : 0 ≤ c.optimalNshards)]
  rfl

/-- The recommended settings are in their bounds and give each thread fewer than 8193 shards,
so of the acceptance only the memory and the 4 shards per thread are left to check. -/
theorem configAccepted_recommended_iff (h : Host) (h1 : 1 ≤ h.nprocs) (h2 : h.nprocs ≤ 8192)
    {c : PerfConfig} (hc : perfOptimizeDefaults h = some c) :
    ConfigAccepted h c.optimalBacklog c.optimalQueuesize c.optimalMaxconns c.optimalNshards ↔
      2 * (c.optimalMaxconns * perfMemoryPerConnection) < h.memory ∧
        4 * h.nprocs ≤ c.optimalNshards := by
  obtain ⟨-, -, -, hs, -⟩ := perfOptimizeDefaults_some hc
  obtain ⟨rb, rq, rm, rs⟩ := perfOptimizeDefaults_range hc
  have hlt := perfCalcOptimalShards_lt h h1 h2 hs
  constructor
  · rintro ⟨⟨-, -, -, -, hm⟩, -, -, h4, -⟩
    exact ⟨hm, h4⟩
  · rintro ⟨hm, h4⟩
    exact ⟨⟨rb, rq, le_trans (by decide) rm.1, rm.2, hm⟩, rs.1, rs.2, h4, hlt⟩

/-- The recommended configuration is accepted exactly when its connections need less than half
of memory and each thread gets 4 shards; either way no warning is printed. -/
theorem optimize_defaults_validate_iff (h : Host) (h1 : 1 ≤ h.nprocs) (h2 : h.nprocs ≤ 8192)
    (c : PerfConfig) (hc : perfOptimizeDefaults h = some c) :
    perfValidateConfig h c.optimalBacklog c.optimalQueuesize c.optimalMaxconns c.optimalNshards =
      some (decide (2 * (c.optimalMaxconns * perfMemoryPerConnection) < h.memory ∧
        4 * h.nprocs ≤ c.optimalNshards), []) := by
  have hiff := configAccepted_recommended_iff h h1 h2 hc
  by_cases hA : ConfigAccepted h c.optimalBacklog c.optimalQueuesize c.optimalMaxconns
    c.optimalNshards
  · rw [perfValidateConfig_accepted hA, hc, Option.map_some', configWarnings_recommended hc,
      decide_eq_true (hiff.1 hA)]
  · rw [perfValidateConfig_rejected (fun hz => by have := hz.1; omega) hA,
      decide_eq_false (mt hiff.2 hA)]

/-- Two cores and 2 GiB: the recommended 113595 connections need more than half of memory,
so the configuration is rejected. -/
theorem optimize_defaults_validate_iff_two_cores :
    1 ≤ twoCoreHost.nprocs ∧ twoCoreHost.nprocs ≤ 8192 ∧
      perfOptimizeDefaults twoCoreHost = some ⟨512, 128, 113595, 256, true⟩ ∧
      perfValidateConfig twoCoreHost 512 128 113595 256 =
        some (decide (2 * (113595 * perfMemoryPerConnection) < twoCoreHost.memory ∧
          4 * twoCoreHost.nprocs ≤ 256), []) ∧
      perfValidateConfig twoCoreHost 512 128 113595 256 = some (false, []) :=
  have hc : perfOptimizeDefaults twoCoreHost = some ⟨512, 128, 113595, 256, true⟩ := by decide
  ⟨by decide, by decide, hc,
    optimize_defaults_validate_iff twoCoreHost (by decide) (by decide) _ hc, by decide⟩

/-- Above 3 GiB the recommended configuration passes `perf_validate_config` with no warning. -/
theorem optimize_defaults_validate (h : Host) (h1 : 1 ≤ h.nprocs) (h2 : h.nprocs ≤ 8192)
    (hm : 3 * 2 ^ 30 < h.memory) (c : PerfConfig) (hc : perfOptimizeDefaults h = some c) :
    perfValidateConfig h c.optimalBacklog c.optimalQueuesize c.optimalMaxconns
      c.optimalNshards = some (true, []) := by
  obtain ⟨-, -, -, hs, -⟩ := perfOptimizeDefaults_some hc
  obtain ⟨-, -, rm, -⟩ := perfOptimizeDefaults_range hc
  have hmem := ((perfValidateMaxconns_iff _ _).1 (perfValidateMaxconns_of_memory rm.1 rm.2 hm)).2.2
  have hA := (configAccepted_recommended_iff h h1 h2 hc).2
    ⟨hmem, perfCalcOptimalShards_ge h h1 h2 (by omega) hs⟩
  rw [perfValidateConfig_accepted hA, hc, Option.map_some', configWarnings_recommended hc]

/-- 16 cores and 4 GiB: the configuration is accepted, with 256 shards per thread. -/
theorem optimize_defaults_validate_sixteen_cores :
    1 ≤ sixteenCoreHost.nprocs ∧ sixteenCoreHost.nprocs ≤ 8192 ∧
      3 * 2 ^ 30 < sixteenCoreHost.memory ∧
      perfOptimizeDefaults sixteenCoreHost = some ⟨5120, 1596, 131072, 4096, true⟩ ∧
      perfValidateConfig sixteenCoreHost 5120 1596 131072 4096 = some (true, []) :=
  have hc : perfOptimizeDefaults sixteenCoreHost = some ⟨5120, 1596, 131072, 4096, true⟩ := by
    decide
  ⟨by decide, by decide, by decide, hc,
    optimize_defaults_validate sixteenCoreHost (by decide) (by decide) (by decide) _ hc⟩

/-- The least settings pass once memory holds twice 128 connections. -/
theorem settingsAccepted_least (h : Host) (hm : 3 * 2 ^ 20 < h.memory) :
    SettingsAccepted h perfMinBacklog perfMinQueuesize perfMinMaxconns := by
  unfold SettingsAccepted perfMinBacklog perfMaxBacklog perfMinQueuesize perfMaxQueuesize
    perfMinMaxconns perfMaxMaxconns perfMemoryPerConnection
  omega

/-- The least configuration: the lower bounds, with 4 shards per thread from 8 threads. -/
theorem configAccepted_least (h : Host) (h1 : 1 ≤ h.nprocs) (h2 : h.nprocs ≤ 32768)
    (hm : 3 * 2 ^ 20 < h.memory) :
    ConfigAccepted h perfMinBacklog perfMinQueuesize perfMinMaxconns (max 32 (4 * h.nprocs)) :=
  ⟨settingsAccepted_least h hm, by unfold perfMinShards perfMaxShards; omega⟩

/-- Every configuration is rejected exactly on hosts with at most 3 MiB (what 128 connections
need), a negative core count, or more than 32768 cores (4 shards each exceed the maximum). -/
theorem validate_config_rejects_all_iff (h : Host) :
    (∀ b q m s, perfValidateConfig h b q m s = some (false, [])) ↔
      h.memory ≤ 3 * 2 ^ 20 ∨ h.nprocs < 0 ∨ 32768 < h.nprocs := by
  constructor
  · intro hall
    by_contra hne
    simp only [not_or, not_le, not_lt] at hne
    obtain ⟨hm, h0, h2⟩ := hne
    rcases h0.eq_or_lt with hz | h1
    · -- with no threads the least settings and 32 shards divide by zero
      have := hall perfMinBacklog perfMinQueuesize perfMinMaxconns perfMinShards
      rw [perfValidateConfig_zero hz.symm (settingsAccepted_least h hm) ⟨le_refl _, by decide⟩]
        at this
      cases this
    · have := hall perfMinBacklog perfMinQueuesize perfMinMaxconns (max 32 (4 * h.nprocs))
      rw [perfValidateConfig_accepted (configAccepted_least h h1 h2 hm)] at this
      obtain ⟨c, -, hc⟩ := Option.map_eq_some'.1 this
      exact Bool.noConfusion (congrArg Prod.fst hc)
  · intro hrej b q m s
    have hS : ¬(h.nprocs = 0 ∧ SettingsAccepted h b q m) := fun ⟨hz, hS⟩ => by
      unfold SettingsAccepted perfMinMaxconns perfMemoryPerConnection at hS
      omega
    have hA : ¬ConfigAccepted h b q m s := fun ⟨hS, hs⟩ => by
      unfold SettingsAccepted perfMinMaxconns perfMemoryPerConnection at hS
      unfold perfMinShards perfMaxShards at hs
      omega
    exact perfValidateConfig_rejected (fun h => hS ⟨h.1, h.2.1⟩) hA

end Pogocache
