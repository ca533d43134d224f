/-!
# Bitmaps

A bitmap is a row of marks of a fixed width.  It remembers which slots of a window are occupied.
Addressing a mark outside the width, or asking for more marks than the storage word has bits, is a
programming error and is answered with a fault.
-/

namespace HarvestTestbed

/-- A row of marks, all clear at first. -/
structure Bitmap where
  marks : Array Bool
  deriving DecidableEq, Repr, Inhabited

inductive BitmapFault
  | bitOutsideWidth
  | widthOutsideStorage
  deriving DecidableEq, Repr

namespace BitmapFault

def message : BitmapFault → String
  | bitOutsideWidth => "assertion failed: bit < self.width"
  | widthOutsideStorage => "assertion failed: (mem::size_of::<T>() * 8) >= width as usize"

end BitmapFault

namespace Bitmap

/-- A clear bitmap of `width` marks. -/
def ofWidth (width : Nat) : Bitmap :=
  ⟨Array.replicate width false⟩

/-- A clear bitmap kept in a word of `storageBits` bits. -/
def ofWidth? (storageBits width : Nat) : Except BitmapFault Bitmap :=
  if width ≤ storageBits then .ok (ofWidth width) else .error .widthOutsideStorage

def width (bitmap : Bitmap) : Nat :=
  bitmap.marks.size

/-- Whether mark `bit` is set; marks outside the width read as clear. -/
def test (bitmap : Bitmap) (bit : Nat) : Bool :=
  bitmap.marks.getD bit false

def set (bitmap : Bitmap) (bit : Nat) : Bitmap :=
  ⟨bitmap.marks.setIfInBounds bit true⟩

def clear (bitmap : Bitmap) (bit : Nat) : Bitmap :=
  ⟨bitmap.marks.setIfInBounds bit false⟩

def count (bitmap : Bitmap) : Nat :=
  bitmap.marks.count true

def clearAll (bitmap : Bitmap) : Bitmap :=
  ofWidth bitmap.width

/-- Runs an operation on a mark that has to lie within the width. -/
def within {α : Type} (bitmap : Bitmap) (bit : Nat) (operation : Bitmap → α) :
    Except BitmapFault α :=
  if bit < bitmap.width then .ok (operation bitmap) else .error .bitOutsideWidth

/-- Sets a mark; true if it was clear before. -/
def trySet (bitmap : Bitmap) (bit : Nat) : Except BitmapFault (Bool × Bitmap) :=
  bitmap.within bit fun b => (!b.test bit, b.set bit)

/-- Clears a mark; true if it was set before. -/
def tryClear (bitmap : Bitmap) (bit : Nat) : Except BitmapFault (Bool × Bitmap) :=
  bitmap.within bit fun b => (b.test bit, b.clear bit)

def tryTest (bitmap : Bitmap) (bit : Nat) : Except BitmapFault Bool :=
  bitmap.within bit fun b => b.test bit

end Bitmap

end HarvestTestbed
