/-!
# Origins, message types and status codes

Every slot of the arena names its writer and the meaning of its payload by one byte each.  The
codes of messages and of status events do not overlap, so a status event cannot be read as a
message.
-/

namespace HarvestTestbed

/-- The actor that wrote a slot. -/
inductive Origin
  | host
  | pru0
  | pru1
  deriving DecidableEq, Repr, Inhabited

namespace Origin

def toByte : Origin → UInt8
  | host => 0xa5
  | pru0 => 0x50
  | pru1 => 0x51

def ofByte? (byte : UInt8) : Option Origin :=
  if byte = 0xa5 then some host
  else if byte = 0x50 then some pru0
  else if byte = 0x51 then some pru1
  else none

def name : Origin → String
  | host => "Host"
  | pru0 => "Pru0"
  | pru1 => "Pru1"

@[simp] theorem ofByte?_toByte (origin : Origin) : ofByte? origin.toByte = some origin := by
  cases origin <;> rfl

end Origin

/-- The meaning of a mailbox message. -/
inductive MessageType
  | none
  /-- The first word is a buffer index, the second the number of valid samples. -/
  | bufferFilled
  /-- The first word is the timer counter at request time, the second the request number. -/
  | syncRequest
  /-- Carries the payload of five words. -/
  | syncReply
  /-- To be echoed as a pong. -/
  | ping
  | pong
  deriving DecidableEq, Repr, Inhabited

namespace MessageType

def toByte : MessageType → UInt8
  | none => 0x00
  | bufferFilled => 0x10
  | syncRequest => 0x20
  | syncReply => 0x21
  | ping => 0x30
  | pong => 0x31

def ofByte? (byte : UInt8) : Option MessageType :=
  if byte = 0x00 then some none
  else if byte = 0x10 then some bufferFilled
  else if byte = 0x20 then some syncRequest
  else if byte = 0x21 then some syncReply
  else if byte = 0x30 then some ping
  else if byte = 0x31 then some pong
  else Option.none

def toWord (type : MessageType) : UInt32 :=
  type.toByte.toUInt32

def name : MessageType → String
  | none => "None"
  | bufferFilled => "BufferFilled"
  | syncRequest => "SyncRequest"
  | syncReply => "SyncReply"
  | ping => "Ping"
  | pong => "Pong"

def ofName? (name : String) : Option MessageType :=
  [none, bufferFilled, syncRequest, syncReply, ping, pong].find? (·.name == name)

@[simp] theorem ofByte?_toByte (type : MessageType) : ofByte? type.toByte = some type := by
  cases type <;> rfl

end MessageType

/-- Status and error events surfaced to the supervisor. -/
inductive StatusCode
  | restart
  | memoryCorruption
  | backpressure
  | bufferPoolExhausted
  | doubtfulTimestamp
  | syncStateViolation
  | invalidCommand
  | valueOutOfRange
  deriving DecidableEq, Repr, Inhabited

namespace StatusCode

def toByte : StatusCode → UInt8
  | restart => 0xf0
  | memoryCorruption => 0xf1
  | backpressure => 0xf2
  | bufferPoolExhausted => 0xf3
  | doubtfulTimestamp => 0xf4
  | syncStateViolation => 0xf5
  | invalidCommand => 0xf6
  | valueOutOfRange => 0xf7

def ofByte? (byte : UInt8) : Option StatusCode :=
  if byte = 0xf0 then some restart
  else if byte = 0xf1 then some memoryCorruption
  else if byte = 0xf2 then some backpressure
  else if byte = 0xf3 then some bufferPoolExhausted
  else if byte = 0xf4 then some doubtfulTimestamp
  else if byte = 0xf5 then some syncStateViolation
  else if byte = 0xf6 then some invalidCommand
  else if byte = 0xf7 then some valueOutOfRange
  else none

def name : StatusCode → String
  | restart => "Restart"
  | memoryCorruption => "MemoryCorruption"
  | backpressure => "Backpressure"
  | bufferPoolExhausted => "BufferPoolExhausted"
  | doubtfulTimestamp => "TimestampImplausible"
  | syncStateViolation => "SyncStateViolation"
  | invalidCommand => "InvalidCommand"
  | valueOutOfRange => "ValueOutOfRange"

/-- Severe events slow their emitter down. -/
def isSevere : StatusCode → Bool
  | memoryCorruption => true
  | backpressure => true
  | syncStateViolation => true
  | _ => false

@[simp] theorem ofByte?_toByte (code : StatusCode) : ofByte? code.toByte = some code := by
  cases code <;> rfl

end StatusCode

end HarvestTestbed
