import Mathlib.Data.Nat.Digits
import Pogocache.Validation

namespace Pogocache

theorem perfCalcOptimalBacklog_range {A : Arith} {r : SystemResources} {v : Int}
    (h : perfCalcOptimalBacklog A r = some v) : perfMinBacklog ≤ v ∧ v ≤ perfMaxBacklog := by
  simp only [perfCalcOptimalBacklog, Option.bind_eq_bind, Option.pure_def, Option.bind_eq_some,
    Option.some.injEq] at h
  obtain ⟨o, -, rfl⟩ := h
  exact clampBounds_mem (by decide) o

theorem perfCalcOptimalQueuesize_range {A : Arith} {r : SystemResources} {v : Int}
    (h : perfCalcOptimalQueuesize A r = some v) :
    perfMinQueuesize ≤ v ∧ v ≤ perfMaxQueuesize := by
  simp only [perfCalcOptimalQueuesize, Option.bind_eq_bind, Option.pure_def, Option.bind_eq_some,
    Option.some.injEq] at h
  obtain ⟨o, -, rfl⟩ := h
  exact clampBounds_mem (by decide) o

/-- What `perf_optimize_defaults` returns is the four calculations' results. -/
theorem perfOptimizeDefaults_some {h : Host} {c : PerfConfig}
    (hc : perfOptimizeDefaults h = some c) :
    perfCalcOptimalBacklog .lp64 (perfDetectSystemResources h) = some c.optimalBacklog ∧
      perfCalcOptimalQueuesize .lp64 (perfDetectSystemResources h) = some c.optimalQueuesize ∧
      perfCalcOptimalMaxconns .lp64 (perfDetectSystemResources h) = some c.optimalMaxconns ∧
      perfCalcOptimalShards .lp64 (perfDetectSystemResources h) h.nprocs =
        some c.optimalNshards ∧ c.autoTuned = true := by
  simp only [perfOptimizeDefaults, perfDetectSystemResources_cpuCores, Option.bind_eq_bind,
    Option.pure_def, Option.bind_eq_some, Option.some.injEq] at hc
  obtain ⟨b, hb, q, hq, m, hm, s, hs, rfl⟩ := hc
  exact ⟨hb, hq, hm, hs, rfl⟩

/-- Every recommended setting lies in its bounds, the connections at least 2048. -/
theorem perfOptimizeDefaults_range {h : Host} {c : PerfConfig}
    (hc : perfOptimizeDefaults h = some c) :
    (perfMinBacklog ≤ c.optimalBacklog ∧ c.optimalBacklog ≤ perfMaxBacklog) ∧
      (perfMinQueuesize ≤ c.optimalQueuesize ∧ c.optimalQueuesize ≤ perfMaxQueuesize) ∧
      (2048 ≤ c.optimalMaxconns ∧ c.optimalMaxconns ≤ perfMaxMaxconns) ∧
      (perfMinShards ≤ c.optimalNshards ∧ c.optimalNshards ≤ perfMaxShards) := by
  obtain ⟨hb, hq, hm, hs, -⟩ := perfOptimizeDefaults_some hc
  exact ⟨perfCalcOptimalBacklog_range hb, perfCalcOptimalQueuesize_range hq, maxconns_range hm,
    perfCalcOptimalShards_range hs⟩

theorem perfOptimizeDefaults_eq {h : Host} {b q m s : Int}
    (hb : perfCalcOptimalBacklog .lp64 (perfDetectSystemResources h) = some b)
    (hq : perfCalcOptimalQueuesize .lp64 (perfDetectSystemResources h) = some q)
    (hm : perfCalcOptimalMaxconns .lp64 (perfDetectSystemResources h) = some m)
    (hs : perfCalcOptimalShards .lp64 (perfDetectSystemResources h) h.nprocs = some s) :
    perfOptimizeDefaults h = some ⟨b, q, m, s, true⟩ := by
  simp only [perfOptimizeDefaults, perfDetectSystemResources_cpuCores, hb, hq, hm, hs,
    Option.bind_eq_bind, Option.some_bind, Option.pure_def]

theorem toString_string (s : String) : toString s = s := rfl

theorem length_toString_nat_le {m e : Nat} (he : 0 < e) (h : m < 10 ^ e) :
    (toString m).length ≤ e :=
  Nat.repr_length m e he h

/-- `%d` of an `int` has at most 11 characters. -/
theorem length_toString_int_le {v : Int} (hv : IntRange v) : (toString v).length ≤ 11 := by
  unfold IntRange intMin intMax at hv
  cases v with
  | ofNat m =>
    rw [Int.ofNat_eq_coe] at hv
    exact le_trans (length_toString_nat_le (e := 10) (by decide) (by omega)) (by decide)
  | negSucc m =>
    rw [Int.negSucc_eq] at hv
    have := length_toString_nat_le (m := m + 1) (e := 10) (by decide) (by omega)
    show ("-" ++ toString (m + 1)).length ≤ 11
    rw [String.length_append]
    exact Nat.add_le_add (le_refl 1) this

theorem tenthsGiB_le (n : Nat) : tenthsGiB n ≤ 10 * n / 2 ^ 30 + 1 := by
  simp only [tenthsGiB]
  split <;> omega

/-- `%.1f` of at most `2 ^ 35` GiB has at most 13 characters. -/
theorem length_formatTenthsGiB_le {n : Nat} (hn : n < 2 ^ 65) :
    (formatTenthsGiB n).length ≤ 13 := by
  have h1 := length_toString_nat_le (m := tenthsGiB n / 10) (e := 11) (by decide)
    (by have := tenthsGiB_le n; omega)
  have h2 := length_toString_nat_le (m := tenthsGiB n % 10) (e := 1) (by decide) (by omega)
  have hdot : ".".length = 1 := rfl
  simp only [formatTenthsGiB, String.length_append, toString_string, String.length_empty]
  omega

/-- With every recommendation an `int`, the summary has at most 142 characters: 74 of text,
five `%d`s and one `%.1f`. -/
theorem length_tuningSummary_le (r : SystemResources) (c : PerfConfig)
    (hb : IntRange c.optimalBacklog) (hq : IntRange c.optimalQueuesize)
    (hm : IntRange c.optimalMaxconns) (hs : IntRange c.optimalNshards) :
    (tuningSummary r c).length ≤ 142 := by
  have hmem : roundDouble r.totalMemory < 2 ^ 65 := by
    have := (roundDouble_near r.totalMemory).1
    have := r.totalMemory_le
    unfold sizeMax at this
    omega
  have h0 := length_toString_int_le r.cpuCores_range
  have h1 := length_formatTenthsGiB_le hmem
  have h2 := length_toString_int_le hb
  have h3 := length_toString_int_le hq
  have h4 := length_toString_int_le hm
  have h5 := length_toString_int_le hs
  have htext : "Auto-tuned for ".length + " cores, ".length + "GB memory: ".length +
      "backlog=".length + ", queuesize=".length + ", maxconns=".length + ", shards=".length =
      74 := rfl
  simp only [tuningSummary, String.length_append, toString_string, String.length_empty]
  omega

theorem length_tuningSummary_recommended {h : Host} {c : PerfConfig}
    (hc : perfOptimizeDefaults h = some c) :
    (tuningSummary (perfDetectSystemResources h) c).length ≤ 142 := by
  obtain ⟨rb, rq, rm, rs⟩ := perfOptimizeDefaults_range hc
  simp only [perfMinBacklog, perfMaxBacklog, perfMinQueuesize, perfMaxQueuesize,
    perfMaxMaxconns, perfMinShards, perfMaxShards] at rb rq rm rs
  refine length_tuningSummary_le _ c ?_ ?_ ?_ ?_ <;> unfold IntRange intMin intMax <;> omega

/-- `snprintf` never cuts `tuning_summary`: whenever `perf_optimize_defaults` returns a
configuration, its summary has at most 142 characters, inside the 512-byte buffer. -/
theorem tuning_summary_fits (h : Host) :
    perfOptimizeDefaultsSummary h =
        (perfOptimizeDefaults h).map (tuningSummary (perfDetectSystemResources h)) ∧
      ∀ c, perfOptimizeDefaults h = some c →
        (tuningSummary (perfDetectSystemResources h) c).length ≤ 142 := by
  refine ⟨?_, fun c hc => length_tuningSummary_recommended hc⟩
  unfold perfOptimizeDefaultsSummary
  cases hc : perfOptimizeDefaults h with
  | none => rfl
  | some c =>
    have hlen := length_tuningSummary_recommended hc
    simp only [Option.map_some', snprintf512, Option.some.injEq]
    exact congrArg String.mk (List.take_of_length_le (by
      show (tuningSummary (perfDetectSystemResources h) c).length ≤ 511
      omega))

end Pogocache
