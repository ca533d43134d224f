import HarvestTestbed.Arena.Basic
import HarvestTestbed.Host.PathContent
import HarvestTestbed.Number.Digits
import HarvestTestbed.Text.WhiteSpace

/-!
# The device

The memory of the real-time cores is mapped through a device file.  A size attribute tells how long
the mapping is; the arena lies at a fixed offset in it.  The attribute is read and checked before
the device is touched, and a mapped arena starts out fresh.
-/

namespace HarvestTestbed

inductive DeviceNode
  | missing
  | directory
  | memory
  deriving DecidableEq, Repr

def arenaOffset : Nat := 0x10000

/-- The longest mapping that finds room in the address space: the free range below the image of the
running program. -/
def mappingLimit : Nat := 0x555555554000

namespace DeviceNode

/-- Drops every leading mark of a hexadecimal number. -/
def dropMarks : List Char → List Char
  | '0' :: 'x' :: rest => dropMarks rest
  | text => text

def appendDigit (value : Nat) (c : Char) : Except DeviceFault Nat :=
  if isHexDigit c then
    let next := 16 * value + digitValue c
    if next < UInt64.size then .ok next else .error .numberTooLarge
  else .error .invalidDigit

/-- A hexadecimal number with an optional plus sign. -/
def readSize : List Char → Except DeviceFault Nat
  | [] => .error .emptyNumber
  | ['+'] => .error .invalidDigit
  | '+' :: digits => digits.foldlM appendDigit 0
  | digits => digits.foldlM appendDigit 0

def sizeOfText (text : String) : Except Fault Nat :=
  (readSize (dropMarks (trimmed text.toList))).mapError .otherDevice

/-- Refuses a mapping that ends before the end of the arena. -/
def checkSize (size : Nat) : Except Fault Unit :=
  if size < arenaOffset + Arena.byteSize then
    .error (.regionTooSmall (size - arenaOffset) Arena.byteSize)
  else .ok ()

/-- Refuses a path with a zero byte in it. -/
def checkPath (path : String) : Except Fault Unit :=
  let front := path.toList.takeWhile (· != '\x00')
  if front.length < path.toList.length then
    .error (.otherDevice (.nulByte (String.ofList front).utf8ByteSize))
  else .ok ()

def connect : DeviceNode → Except Fault Unit
  | missing => .error .deviceNotFound
  | directory => .error (.otherDevice .isDirectory)
  | memory => .ok ()

def checkMapping (size : Nat) : Except Fault Unit :=
  if mappingLimit < size then .error (.otherDevice .outOfMemory) else .ok ()

/-- Maps the device and places a fresh arena in it. -/
def mapArena (device : DeviceNode) (path : String) (sizeAttribute : PathContent) :
    Except Fault Arena := do
  let size ← sizeOfText (← sizeAttribute.readText)
  checkSize size
  checkPath path
  device.connect
  checkMapping size
  return {}

/-- Maps the device; success is journalled with the path. -/
def openArena (device : DeviceNode) (path : String) (sizeAttribute : PathContent) :
    Except Fault Arena × Journal :=
  match device.mapArena path sizeAttribute with
  | .ok arena =>
      (.ok arena, #[⟨.info, "shared arena mapped at " ++ hexText arenaOffset ++ " of " ++ path⟩])
  | .error fault => (.error fault, #[])

end DeviceNode

end HarvestTestbed
