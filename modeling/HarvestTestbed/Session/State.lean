/-!
# Session state and mode

The host publishes the state of the session and the operating mode as raw words of the shared
arena.  The real-time cores only read them, so a word that names no state has to be read as
something: an unknown state counts as a fault and an unknown mode as disabled.
-/

namespace HarvestTestbed

/-- The state of the session as published by the host. -/
inductive SessionState
  | idle
  | armed
  | running
  | reset
  | fault
  deriving DecidableEq, Repr, Inhabited

namespace SessionState

def toWord : SessionState → UInt32
  | idle => 0
  | armed => 1
  | running => 2
  | reset => 3
  | fault => 4

def ofWord? (word : UInt32) : Option SessionState :=
  if word = 0 then some idle
  else if word = 1 then some armed
  else if word = 2 then some running
  else if word = 3 then some reset
  else if word = 4 then some fault
  else none

/-- The state as every reader of the arena sees it. -/
def ofWord (word : UInt32) : SessionState :=
  (ofWord? word).getD fault

def name : SessionState → String
  | idle => "Idle"
  | armed => "Armed"
  | running => "Running"
  | reset => "Reset"
  | fault => "Fault"

def ofName? (name : String) : Option SessionState :=
  [idle, armed, running, reset, fault].find? (·.name == name)

/-- The moves open to the host: a fault can be declared at any time, a reset can be requested from
every other state, and a reset ends in the idle state only. -/
def canMoveTo : SessionState → SessionState → Bool
  | _, fault => true
  | idle, armed => true
  | armed, running => true
  | armed, idle => true
  | running, reset => true
  | armed, reset => true
  | fault, reset => true
  | idle, reset => true
  | reset, idle => true
  | _, _ => false

@[simp] theorem ofWord?_toWord (state : SessionState) : ofWord? state.toWord = some state := by
  cases state <;> rfl

@[simp] theorem ofWord_toWord (state : SessionState) : ofWord state.toWord = state := by
  simp [ofWord]

end SessionState

/-- Which engine phases run on every sample tick. -/
inductive Mode
  | harvest
  | emulate
  | debugPassthrough
  | disabled
  deriving DecidableEq, Repr, Inhabited

namespace Mode

def toWord : Mode → UInt32
  | harvest => 0
  | emulate => 1
  | debugPassthrough => 2
  | disabled => 3

def ofWord? (word : UInt32) : Option Mode :=
  if word = 0 then some harvest
  else if word = 1 then some emulate
  else if word = 2 then some debugPassthrough
  else if word = 3 then some disabled
  else none

/-- The mode as every reader of the arena sees it. -/
def ofWord (word : UInt32) : Mode :=
  (ofWord? word).getD disabled

def name : Mode → String
  | harvest => "Harvest"
  | emulate => "Emulate"
  | debugPassthrough => "DebugPassthrough"
  | disabled => "Disabled"

def ofName? (name : String) : Option Mode :=
  [harvest, emulate, debugPassthrough, disabled].find? (·.name == name)

def ofKeyword? (keyword : String) : Option Mode :=
  if keyword = "harvest" then some harvest
  else if keyword = "emulate" then some emulate
  else if keyword = "debug_passthrough" then some debugPassthrough
  else if keyword = "disabled" then some disabled
  else none

@[simp] theorem ofWord?_toWord (mode : Mode) : ofWord? mode.toWord = some mode := by
  cases mode <;> rfl

@[simp] theorem ofWord_toWord (mode : Mode) : ofWord mode.toWord = mode := by
  simp [ofWord]

end Mode

end HarvestTestbed
