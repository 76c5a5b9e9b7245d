import Pogocache.Arith

namespace Pogocache

def perfMinBacklog : Int := 256
def perfMaxBacklog : Int := 16384
def perfMinQueuesize : Int := 64
def perfMaxQueuesize : Int := 4096
def perfMinMaxconns : Int := 128
def perfMaxMaxconns : Int := 131072
def perfMinShards : Int := 32
def perfMaxShards : Int := 131072

def perfHighMemoryThreshold : Nat := 4 * 1024 * 1024 * 1024
def perfMediumMemoryThreshold : Nat := 2 * 1024 * 1024 * 1024
def perfMemoryPerConnection : Nat := 12288
def perfMemoryPerShard : Nat := 2048

/-- What `perf_detect_system_resources` reads from the machine. -/
structure Host where
  /-- `sys_nprocs()` -/
  nprocs : Int
  /-- `sys_memory()`, in bytes -/
  memory : Nat
  /-- The `RLIMIT_NOFILE` hard limit `rlim_max`; `none` when `getrlimit` fails. -/
  nofile : Option Nat
  nprocs_range : IntRange nprocs
  memory_le : memory ≤ sizeMax
  nofile_le : ∀ f ∈ nofile, f ≤ sizeMax

/-- `struct system_resources`: each field holds a value of its C type. -/
structure SystemResources where
  cpuCores : Int
  totalMemory : Nat
  availableMemory : Nat
  maxFileDescriptors : Int
  hasHighMemory : Bool
  hasManyCores : Bool
  cpuCores_range : IntRange cpuCores
  totalMemory_le : totalMemory ≤ sizeMax
  availableMemory_le : availableMemory ≤ sizeMax
  maxFileDescriptors_range : IntRange maxFileDescriptors

/-- The descriptor limit the detector stores: `(int)rl.rlim_max`, or 1024 when
`getrlimit` fails. -/
def Host.maxFd (h : Host) : Int :=
  match h.nofile with
  | some f => wrapInt f
  | none => 1024

theorem Host.maxFd_range (h : Host) : IntRange h.maxFd := by
  unfold Host.maxFd
  split
  · exact wrapInt_range _
  · decide

/-- `perf_detect_system_resources`. -/
@[simps]
def perfDetectSystemResources (h : Host) : SystemResources where
  cpuCores := h.nprocs
  hasManyCores := decide (h.nprocs > 4)
  totalMemory := h.memory
  availableMemory := h.memory
  hasHighMemory := decide (h.memory > perfHighMemoryThreshold)
  maxFileDescriptors := h.maxFd
  cpuCores_range := h.nprocs_range
  totalMemory_le := h.memory_le
  availableMemory_le := h.memory_le
  maxFileDescriptors_range := h.maxFd_range

/-- One core, 1 GiB, the usual Linux descriptor hard limit. -/
def smallHost : Host :=
  ⟨1, 2 ^ 30, some 1048576, by decide, by decide, by simp [sizeMax]⟩

/-- Two cores, 2 GiB, the usual Linux descriptor hard limit. -/
def twoCoreHost : Host :=
  ⟨2, 2 ^ 31, some 1048576, by decide, by decide, by simp [sizeMax]⟩

/-- One core, 8 GiB, the usual Linux descriptor hard limit. -/
def limitedHost : Host :=
  ⟨1, 2 ^ 33, some 1048576, by decide, by decide, by simp [sizeMax]⟩

/-- `limitedHost` with an unlimited descriptor hard limit, `RLIM_INFINITY`. -/
def unlimitedHost : Host :=
  ⟨1, 2 ^ 33, some (2 ^ 64 - 1), by decide, by decide, by simp [sizeMax]⟩

/-- 64 cores and 1 MiB. -/
def tinyMemoryHost : Host :=
  ⟨64, 2 ^ 20, some 1048576, by decide, by decide, by simp [sizeMax]⟩

/-- 64 cores and 3 MiB, 48 KiB per core. -/
def cappedHost : Host :=
  ⟨64, 3 * 2 ^ 20, some 1048576, by decide, by decide, by simp [sizeMax]⟩

/-- 16 cores, 4 GiB, the usual Linux descriptor hard limit. -/
def sixteenCoreHost : Host :=
  ⟨16, 2 ^ 32, some 1048576, by decide, by decide, by simp [sizeMax]⟩

/-- 4096 cores and 8 GiB. -/
def manyCoreHost : Host :=
  ⟨4096, 2 ^ 33, some 1048576, by decide, by decide, by simp [sizeMax]⟩

/-- 4096 cores and 12 TiB. -/
def hugeHost : Host :=
  ⟨4096, 3 * 2 ^ 42, some 1048576, by decide, by decide, by simp [sizeMax]⟩

/-- 16 cores, 8 GiB, and a descriptor hard limit of 3038, below the memory limit. -/
def fdLimitedHost : Host :=
  ⟨16, 2 ^ 33, some 3038, by decide, by decide, by simp [sizeMax]⟩

/-- 16 cores, 8 GiB, and a descriptor hard limit of `2 ^ 31 + 2 ^ 27`, which `(int)` turns
into `-2013265920`. -/
def wrappedLimitHost : Host :=
  ⟨16, 2 ^ 33, some (2 ^ 31 + 2 ^ 27), by decide, by decide, by simp [sizeMax]⟩

/-- One core, 24 TiB (`2 ^ 31` connections of 12 KiB), the usual Linux descriptor hard
limit. -/
def wrappedMemoryHost : Host :=
  ⟨1, 2 ^ 31 * 12288, some 1048576, by decide, by decide, by simp [sizeMax]⟩

/-- 16 cores, 23 TiB, and a descriptor hard limit of 2147483584. -/
def hugeDescriptorHost : Host :=
  ⟨16, 23 * 2 ^ 40, some 2147483584, by decide, by decide, by simp [sizeMax]⟩

/-- The same host with one connection's memory less than 24 TiB. -/
def belowWrapHost : Host :=
  ⟨1, 2 ^ 31 * 12288 - 12288, some 1048576, by decide, by decide, by simp [sizeMax]⟩

end Pogocache
