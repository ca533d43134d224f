import HarvestTestbed.Buffer.Pool
import HarvestTestbed.Sampling.Loop
import HarvestTestbed.Session.State
import HarvestTestbed.Sync.Config

/-!
# The session configuration

One structure gathers everything a session is set up from.  Every part has a default.  A
configuration that passes `validate` can be built: its pool, its engines and its controller are
never refused, and a period fits a buffer.
-/

namespace HarvestTestbed

structure DevicePaths where
  device : String := "/dev/uio0"
  /-- The attribute that holds the size of the memory map. -/
  sizeAttribute : String := "/sys/class/uio/uio0/maps/map0/size"
  deriving DecidableEq, Repr

structure SessionConfig where
  mode : Mode := .emulate
  bufferCount : Nat := ringCapacity
  samplesPerBuffer : Nat := 10000
  /-- Busy wait after a severe status event, in microseconds. -/
  severeDelay : Nat := 10
  paths : DevicePaths := {}
  sync : SyncConfig := {}
  cache : CacheConfig := {}
  converter : ConverterConfig := {}
  harvester : HarvesterConfig := {}
  calibration : Calibration := {}
  deriving DecidableEq, Repr

namespace SessionConfig

instance : Inhabited SessionConfig := ⟨{}⟩

/-- Checks the pool, then every section in this order. -/
def validate (cfg : SessionConfig) : Except Fault Unit := do
  if cfg.bufferCount = 0 ∨ ringCapacity < cfg.bufferCount then
    throw (.invalidConfig (.bufferCount cfg.bufferCount))
  if cfg.samplesPerBuffer < cfg.sync.samplesPerPeriod.toNat then
    throw (.invalidConfig
      (.buffersTooShort cfg.samplesPerBuffer cfg.sync.samplesPerPeriod.toNat))
  cfg.sync.validate
  cfg.cache.validate
  cfg.calibration.validate
  cfg.converter.validate
  cfg.harvester.validate

/-- The busy wait after a severe status event, in nanoseconds. -/
def severeNanoseconds (cfg : SessionConfig) : Nat :=
  cfg.severeDelay * 1000

def bufferPool (cfg : SessionConfig) : Except Fault BufferPool :=
  BufferPool.new cfg.bufferCount cfg.samplesPerBuffer

def engines (cfg : SessionConfig) (source : Trace) : Except Fault Engines := do
  let converter ← Converter.new cfg.converter cfg.calibration
  let harvester ← Harvester.new cfg.harvester
  let cache ← TraceCache.new source cfg.cache
  return {
    converter := converter
    harvester := harvester
    cache := cache
    calibration := cfg.calibration }

end SessionConfig

end HarvestTestbed
