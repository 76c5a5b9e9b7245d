import Pogocache.Resources

namespace Pogocache

/-- The closing `if (optimal < MIN) optimal = MIN; if (optimal > MAX) optimal = MAX;`
shared by every calculation. -/
def clampBounds (lo hi optimal : Int) : Int :=
  let optimal := if optimal < lo then lo else optimal
  if optimal > hi then hi else optimal

/-- `(double)x >= y * c`. An `int` converts to `double` exactly, so the comparison is
made on integers scaled by `2 ^ c.exp`. -/
def Arith.geMul (A : Arith) (x y : Int) (c : DoubleLit) : Bool :=
  decide (A.mulDouble y c ≤ x * 2 ^ c.exp)

theorem lp64_geMul {x y : Int} {m e : Nat} (h : y.natAbs * m < 2 ^ 53) :
    Arith.lp64.geMul x y ⟨m, e⟩ = Arith.exact.geMul x y ⟨m, e⟩ := by
  simp only [Arith.geMul, @lp64_mulDouble y ⟨m, e⟩ h, exact_mulDouble]

/-- Lines 49-65 of `perf_calc_optimal_backlog`: the backlog before the bounds. Each
conditional assignment is one bound term, so that a proof can rewrite it as a whole. -/
def backlogScaled (A : Arith) (r : SystemResources) : Option Int := do
  let optimal ← A.int (256 * r.cpuCores)
  let optimal ← (
    if r.hasHighMemory then A.truncMul optimal dbl1_5
    else if r.totalMemory < perfMediumMemoryThreshold then A.truncMul optimal dbl0_75
    else pure optimal)
  if r.hasManyCores then A.truncMul optimal dbl1_25 else pure optimal

/-- `perf_calc_optimal_backlog`. -/
def perfCalcOptimalBacklog (A : Arith) (r : SystemResources) : Option Int := do
  let optimal ← backlogScaled A r
  pure (clampBounds perfMinBacklog perfMaxBacklog optimal)

/-- Lines 76-94 of `perf_calc_optimal_queuesize`: the queue size before the bounds. -/
def queuesizeScaled (A : Arith) (r : SystemResources) : Option Int := do
  let optimal ← A.int (r.cpuCores * 64)
  let optimal ← (
    if r.hasHighMemory then A.int (r.cpuCores * 128)
    else if r.totalMemory < perfMediumMemoryThreshold then A.int (r.cpuCores * 32)
    else pure optimal)
  let optimal ← (if 8 ≤ r.cpuCores then A.truncMul optimal dbl1_2 else pure optimal)
  if 16 ≤ r.cpuCores then A.truncMul optimal dbl1_3 else pure optimal

/-- `perf_calc_optimal_queuesize`. -/
def perfCalcOptimalQueuesize (A : Arith) (r : SystemResources) : Option Int := do
  let optimal ← queuesizeScaled A r
  pure (clampBounds perfMinQueuesize perfMaxQueuesize optimal)

/-- Lines 105-129 of `perf_calc_optimal_maxconns`: the connection count before the
2048 floor and the bounds. -/
def maxconnsScaled (A : Arith) (r : SystemResources) : Option Int := do
  let memoryLimit := A.toInt (r.availableMemory / perfMemoryPerConnection : Nat)
  let fdLimit ← A.int (r.maxFileDescriptors - 256)
  let calculatedLimit := if memoryLimit < fdLimit then memoryLimit else fdLimit
  let optimal ← (
    if r.hasHighMemory && r.hasManyCores then A.truncMul calculatedLimit dbl0_85
    else if r.hasHighMemory || r.hasManyCores then A.truncMul calculatedLimit dbl0_75
    else A.truncMul calculatedLimit dbl0_65)
  let optimal ← (if 8 ≤ r.cpuCores then A.truncMul optimal dbl1_1 else pure optimal)
  if 16 ≤ r.cpuCores then A.truncMul optimal dbl1_15 else pure optimal

/-- `perf_calc_optimal_maxconns`. -/
def perfCalcOptimalMaxconns (A : Arith) (r : SystemResources) : Option Int := do
  let optimal ← maxconnsScaled A r
  let optimal := if optimal < 2048 then 2048 else optimal
  pure (clampBounds perfMinMaxconns perfMaxMaxconns optimal)

/-- Lines 147-161 of `perf_calc_optimal_shards`: the target before the memory check. -/
def shardTarget (A : Arith) (r : SystemResources) (nthreads : Int) : Option Int := do
  let optimal ← A.int (nthreads * 128)
  let optimal ← (
    if r.hasHighMemory then A.int (optimal * 2)
    else if r.totalMemory < perfMediumMemoryThreshold then A.int (optimal.tdiv 2)
    else pure optimal)
  if 16 ≤ r.cpuCores then A.truncMul optimal dbl1_5
  else if 8 ≤ r.cpuCores then A.truncMul optimal dbl1_25
  else pure optimal

/-- Lines 164-168: the memory constraint check. `optimal * PERF_MEMORY_PER_SHARD` is an
`int` product, widened to `size_t` only after it is computed. -/
def shardMemoryCap (A : Arith) (r : SystemResources) (optimal : Int) : Option Int := do
  let shardMemoryUsage ← A.int (optimal * perfMemoryPerShard)
  let availableForShards := r.availableMemory / 4
  if A.toSizeT shardMemoryUsage > availableForShards then
    pure (A.toInt (availableForShards / perfMemoryPerShard : Nat))
  else pure optimal

/-- `while (power_of_2 < optimal) power_of_2 *= 2;`, run on `fuel`. -/
def powerOfTwoLoop (A : Arith) (optimal : Int) : Nat → Int → Option Int
  | 0, _ => none
  | fuel + 1, powerOf2 =>
    if powerOf2 < optimal then A.int (powerOf2 * 2) >>= powerOfTwoLoop A optimal fuel
    else some powerOf2

/-- `perf_calc_optimal_shards`. The doubling loop starts at 1, so `optimal + 1` rounds
of fuel are more than it can use. -/
def perfCalcOptimalShards (A : Arith) (r : SystemResources) (nthreads : Int) :
    Option Int := do
  let optimal ← shardTarget A r nthreads
  let optimal ← shardMemoryCap A r optimal
  let powerOf2 ← powerOfTwoLoop A optimal (optimal.toNat + 1) 1
  let optimal := if A.geMul (powerOf2.tdiv 2) optimal dbl0_75 then powerOf2.tdiv 2 else powerOf2
  pure (clampBounds perfMinShards perfMaxShards optimal)

/-- `value >= MIN && value <= MAX`, the whole body of the backlog and queue-size validators. -/
def validateRange (lo hi value : Int) : Bool :=
  lo ≤ value && value ≤ hi

/-- `perf_validate_backlog`. -/
def perfValidateBacklog (backlog : Int) : Bool :=
  validateRange perfMinBacklog perfMaxBacklog backlog

/-- `perf_validate_queuesize`. -/
def perfValidateQueuesize (queuesize : Int) : Bool :=
  validateRange perfMinQueuesize perfMaxQueuesize queuesize

/-- `perf_validate_maxconns`: `required_memory < available_memory * 0.5`, both sides
converted to `double`. -/
def perfValidateMaxconns (maxconns : Int) (availableMemory : Nat) : Bool :=
  if maxconns < perfMinMaxconns || maxconns > perfMaxMaxconns then false
  else
    let requiredMemory := (maxconns % 2 ^ 64).toNat * perfMemoryPerConnection % 2 ^ 64
    2 * roundDouble requiredMemory < roundDouble availableMemory

/-- `perf_validate_shards`; `none` when `nshards / nthreads` divides by zero. -/
def perfValidateShards (nshards nthreads : Int) : Option Bool :=
  if nshards < perfMinShards || nshards > perfMaxShards then some false
  else if nthreads = 0 then none
  else
    let ratio := nshards.tdiv nthreads
    some (4 ≤ ratio && ratio ≤ 8192)

/-- A performance warning `perf_validate_config` prints. -/
structure PerfWarning where
  setting : String
  value : Int
  optimal : Int
  deriving DecidableEq, Repr

def PerfWarning.text : PerfWarning → String
  | ⟨setting, value, optimal⟩ =>
    s!"# Performance Warning: {setting} ({value}) is significantly below optimal ({optimal})\n"

/-- `if (value < optimal * 0.5) printf(...)`, for one setting. -/
def warnBelowHalf (setting : String) (value optimal : Int) : List PerfWarning :=
  if Arith.lp64.geMul value optimal dbl0_5 then [] else [⟨setting, value, optimal⟩]

/-- `perf_validate_config`: whether the configuration is valid, and the warnings it
prints. `none` when the call has undefined behaviour. -/
def perfValidateConfig (h : Host) (backlog queuesize maxconns nshards : Int) :
    Option (Bool × List PerfWarning) := do
  let resources := perfDetectSystemResources h
  let valid ← (
    if perfValidateBacklog backlog && perfValidateQueuesize queuesize &&
        perfValidateMaxconns maxconns resources.availableMemory then
      perfValidateShards nshards resources.cpuCores
    else pure false)
  if valid then
    let optimalBacklog ← perfCalcOptimalBacklog .lp64 resources
    let optimalQueuesize ← perfCalcOptimalQueuesize .lp64 resources
    let optimalMaxconns ← perfCalcOptimalMaxconns .lp64 resources
    let optimalShards ← perfCalcOptimalShards .lp64 resources resources.cpuCores
    pure (true, warnBelowHalf "backlog" backlog optimalBacklog ++
      warnBelowHalf "queuesize" queuesize optimalQueuesize ++
      warnBelowHalf "maxconns" maxconns optimalMaxconns ++
      warnBelowHalf "shards" nshards optimalShards)
  else pure (false, [])

/-- `struct perf_config`, without its `tuning_summary` text. -/
structure PerfConfig where
  optimalBacklog : Int
  optimalQueuesize : Int
  optimalMaxconns : Int
  optimalNshards : Int
  autoTuned : Bool
  deriving DecidableEq, Repr

/-- `perf_optimize_defaults`. -/
def perfOptimizeDefaults (h : Host) : Option PerfConfig := do
  let resources := perfDetectSystemResources h
  let optimalBacklog ← perfCalcOptimalBacklog .lp64 resources
  let optimalQueuesize ← perfCalcOptimalQueuesize .lp64 resources
  let optimalMaxconns ← perfCalcOptimalMaxconns .lp64 resources
  let optimalNshards ← perfCalcOptimalShards .lp64 resources resources.cpuCores
  pure ⟨optimalBacklog, optimalQueuesize, optimalMaxconns, optimalNshards, true⟩

/-- The tenths of `n / 2 ^ 30`, rounded to nearest with ties to even, as `printf` rounds the
exact value. -/
def tenthsGiB (n : Nat) : Nat :=
  let q := 10 * n / 2 ^ 30
  let r := 10 * n % 2 ^ 30
  if 2 ^ 30 < 2 * r ∨ (2 * r = 2 ^ 30 ∧ q % 2 = 1) then q + 1 else q

/-- `%.1f` of `n / 2 ^ 30`. -/
def formatTenthsGiB (n : Nat) : String :=
  let whole := tenthsGiB n / 10
  let tenth := tenthsGiB n % 10
  s!"{whole}.{tenth}"

/-- The text lines 270-279 of `perf_optimize_defaults` format, the memory printed as the
rounded `total_memory` over `2 ^ 30`. -/
def tuningSummary (r : SystemResources) (c : PerfConfig) : String :=
  let cores := r.cpuCores
  let memory := formatTenthsGiB (roundDouble r.totalMemory)
  let backlog := c.optimalBacklog
  let queuesize := c.optimalQueuesize
  let maxconns := c.optimalMaxconns
  let shards := c.optimalNshards
  s!"Auto-tuned for {cores} cores, {memory}GB memory: " ++
    s!"backlog={backlog}, queuesize={queuesize}, maxconns={maxconns}, shards={shards}"

/-- What `snprintf` leaves in a 512-byte buffer: at most 511 characters before the
terminating zero. -/
def snprintf512 (s : String) : String := ⟨s.data.take 511⟩

/-- The `tuning_summary` of the configuration `perf_optimize_defaults` returns. -/
def perfOptimizeDefaultsSummary (h : Host) : Option String :=
  (perfOptimizeDefaults h).map fun c => snprintf512 (tuningSummary (perfDetectSystemResources h) c)

/-- `perf_print_recommendations`: the lines it prints for a configuration and its
`tuning_summary`, `none` standing for a null pointer. -/
def perfPrintRecommendations (c : PerfConfig) (summary : Option String) : List String :=
  let backlog := c.optimalBacklog
  let queuesize := c.optimalQueuesize
  let maxconns := c.optimalMaxconns
  let shards := c.optimalNshards
  ["# Performance Tuning Recommendations:\n",
    s!"#   Backlog: {backlog} (network accept queue)\n",
    s!"#   Queue Size: {queuesize} (event processing queue)\n",
    s!"#   Max Connections: {maxconns} (concurrent client limit)\n",
    s!"#   Shards: {shards} (hashmap partitions)\n"] ++
  match summary with
  | some text => [s!"# {text}\n"]
  | none => []

end Pogocache
