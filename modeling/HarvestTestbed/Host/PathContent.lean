import HarvestTestbed.Fault

/-!
# What lies at a path

Set-up reads two files, the configuration and the size attribute of the device.  It depends on the
file system only through what it finds at their paths.
-/

namespace HarvestTestbed

inductive PathContent
  | missing
  | directory
  | file (bytes : ByteArray)

namespace PathContent

def readText : PathContent → Except Fault String
  | missing => .error .deviceNotFound
  | directory => .error (.otherDevice .isDirectory)
  | file bytes =>
      match String.fromUTF8? bytes with
      | some text => .ok text
      | none => .error (.otherDevice .invalidUtf8)

end PathContent

end HarvestTestbed
