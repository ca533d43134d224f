import HarvestTestbed.Trace.Sample
import HarvestTestbed.Bitmap
import HarvestTestbed.Fault

/-!
# The trace cache

The input trace lives in slow memory.  The cache keeps a sliding window of contiguous blocks in
front of the reader, one slot per block number modulo the window size.  Maintenance evicts at most
one block and fetches at most one block per call.  Reads answer the same samples whether the cache
is enabled or not; only the counts of hits and misses differ.

A sample index is a 64-bit word, and a number that is given for one is taken modulo the size of a
word.  So is a block number.  Nothing guards the arithmetic on them, which wraps for a reader in the
last block of the range.
-/

namespace HarvestTestbed

/-- Geometry of the window. -/
structure CacheConfig where
  enabled : Bool := true
  /-- The number of blocks in the window. -/
  blocks : UInt8 := 16
  blockSamples : UInt32 := 256
  deriving DecidableEq, Repr, Inhabited

namespace CacheConfig

def validate (cfg : CacheConfig) : Except Fault Unit :=
  if cfg.blocks = 0 ∨ 64 < cfg.blocks then
    .error (.invalidConfig (.cacheBlocks cfg.blocks.toNat))
  else if cfg.blockSamples = 0 then
    .error (.invalidConfig .emptyCacheBlocks)
  else .ok ()

end CacheConfig

/-- What one maintenance call did. -/
structure Maintenance where
  evicted : Bool := false
  fetched : Bool := false
  deriving DecidableEq, Repr, Inhabited

/-- A trace with a window of its blocks `[head, tail)`. -/
structure TraceCache where
  source : Trace
  cfg : CacheConfig
  /-- The staged samples of each slot. -/
  slots : Array (Array IvSample)
  /-- Which slots hold a block of the window. -/
  present : Bitmap
  head : UInt64
  tail : UInt64
  fillLevel : Nat
  hits : Nat
  misses : Nat
  deriving DecidableEq, Repr

namespace TraceCache

def new (source : Trace) (cfg : CacheConfig) : Except Fault TraceCache := do
  cfg.validate
  return {
    source := source
    cfg := cfg
    slots := Array.replicate cfg.blocks.toNat #[]
    present := Bitmap.ofWidth cfg.blocks.toNat
    head := 0
    tail := 0
    fillLevel := 0
    hits := 0
    misses := 0 }

def blockSamples (cache : TraceCache) : UInt64 :=
  cache.cfg.blockSamples.toUInt64

/-- The slot that holds a block while it is staged. -/
def slotOf (cache : TraceCache) (block : Nat) : Nat :=
  block % cache.cfg.blocks.toNat

/-- The index after the last sample of a block. -/
def endOf (cache : TraceCache) (block : UInt64) : UInt64 :=
  (block + 1) * cache.blockSamples

def holds (cache : TraceCache) (block : UInt64) : Bool :=
  cache.cfg.enabled && decide (cache.head ≤ block) && decide (block < cache.tail) &&
    cache.present.test (cache.slotOf block.toNat)

/-- The staged copy of a sample of a block in the window. -/
def staged (cache : TraceCache) (index : UInt64) : IvSample :=
  (cache.slots.getD (cache.slotOf (index / cache.blockSamples).toNat) #[]).getD
    (index % cache.blockSamples).toNat {}

/-- Reads a sample from the window if its block is staged, from the source otherwise. -/
def read (cache : TraceCache) (position : Nat) : IvSample × TraceCache :=
  let index := UInt64.ofNat position
  if cache.holds (index / cache.blockSamples) then
    (cache.staged index, { cache with hits := cache.hits + 1 })
  else
    (cache.source.read index.toNat, { cache with misses := cache.misses + 1 })

/-- Drops the oldest block if the reader is past it. -/
def evict (cache : TraceCache) (reader : UInt64) : Bool × TraceCache :=
  if cache.head < cache.tail ∧ cache.endOf cache.head ≤ reader then
    (true, { cache with
      present := cache.present.clear (cache.slotOf cache.head.toNat)
      head := cache.head + 1
      fillLevel := cache.fillLevel - 1 })
  else (false, cache)

/-- Moves an empty window up to a reader that ran past it. -/
def catchUp (cache : TraceCache) (reader : UInt64) : TraceCache :=
  let block := reader / cache.blockSamples
  if cache.head = cache.tail ∧ cache.tail < block then
    { cache with head := block, tail := block }
  else cache

/-- Stages the next block if the window has room and the block has been written completely. -/
def fetch (cache : TraceCache) : Bool × TraceCache :=
  if (cache.tail - cache.head).toNat < cache.cfg.blocks.toNat ∧
      (cache.endOf cache.tail).toNat ≤ cache.source.available then
    let slot := cache.slotOf cache.tail.toNat
    let first := cache.tail * cache.blockSamples
    (true, { cache with
      slots := cache.slots.setIfInBounds slot
        (cache.source.slice first cache.blockSamples.toNat)
      present := cache.present.set slot
      tail := cache.tail + 1
      fillLevel := cache.fillLevel + 1 })
  else (false, cache)

/-- Advances the window for a reader at sample `reader`. -/
def maintain (cache : TraceCache) (reader : Nat) : Maintenance × TraceCache :=
  if cache.cfg.enabled then
    let index := UInt64.ofNat reader
    let evicted := cache.evict index
    let fetched := (evicted.2.catchUp index).fetch
    (⟨evicted.1, fetched.1⟩, fetched.2)
  else ({}, cache)

def reset (cache : TraceCache) : TraceCache :=
  { cache with
    present := cache.present.clearAll
    head := 0
    tail := 0
    fillLevel := 0
    hits := 0
    misses := 0 }

def presentCount (cache : TraceCache) : Nat :=
  cache.present.count

/-- The number of blocks staged ahead of a reader, its own block included. -/
def blocksAhead (cache : TraceCache) (reader : Nat) : Nat :=
  cache.tail.toNat - max (UInt64.ofNat reader / cache.blockSamples).toNat cache.head.toNat

def append (cache : TraceCache) (more : Array IvSample) : TraceCache :=
  { cache with source := cache.source.append more }

end TraceCache

end HarvestTestbed
