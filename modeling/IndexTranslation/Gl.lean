/-
The `gl::` vocabulary the index translation is written in.

`IndexDataManager.cpp` reads three facts about an index type: its size in bytes,
the shift that scales an element count to bytes (`gl::GetTypeInfo`), and its
primitive-restart value (`gl::GetPrimitiveRestartIndex`).  Neither table is in
the file; both are taken from the spec, which fixes the set of widths and says
the sentinel is the largest value of the width.

The file also computes in C's fixed-width types: an `unsigned int` offset cast
from a pointer, and a `GLsizei` byte count.  Those casts are written here once,
as `% 2^32` and as a two's-complement wrap, so the model can say where they lose
information.
-/
import Mathlib.Data.Nat.Defs
import Mathlib.Tactic.Ring

namespace Rx

/-- Modelled from the spec: the index element types a draw may use,
`GL_UNSIGNED_BYTE`, `GL_UNSIGNED_SHORT` and `GL_UNSIGNED_INT`. -/
inductive IndexType
  | unsignedByte
  | unsignedShort
  | unsignedInt
  deriving DecidableEq, Repr

namespace IndexType

/-- Modelled from the spec: `gl::GetTypeInfo(type).bytesShift`. -/
def bytesShift : IndexType → Nat
  | unsignedByte => 0
  | unsignedShort => 1
  | unsignedInt => 2

/-- Modelled from the spec: `gl::GetTypeInfo(type).bytes`. -/
def bytes (t : IndexType) : Nat := 2 ^ t.bytesShift

/-- Modelled from the spec: `gl::GetPrimitiveRestartIndex(type)`, the largest value
of the type. -/
def primitiveRestartIndex (t : IndexType) : Nat := 256 ^ t.bytes - 1

@[simp] theorem bytes_unsignedByte : unsignedByte.bytes = 1 := rfl
@[simp] theorem bytes_unsignedShort : unsignedShort.bytes = 2 := rfl
@[simp] theorem bytes_unsignedInt : unsignedInt.bytes = 4 := rfl

@[simp] theorem primitiveRestartIndex_unsignedByte : unsignedByte.primitiveRestartIndex = 255 := rfl
@[simp] theorem primitiveRestartIndex_unsignedShort :
    unsignedShort.primitiveRestartIndex = 65535 := rfl
@[simp] theorem primitiveRestartIndex_unsignedInt :
    unsignedInt.primitiveRestartIndex = 4294967295 := rfl

theorem bytes_pos (t : IndexType) : 0 < t.bytes := by
  cases t <;> decide

theorem primitiveRestartIndex_lt (t : IndexType) : t.primitiveRestartIndex < 256 ^ t.bytes := by
  have : 0 < 256 ^ t.bytes := Nat.pow_pos (by norm_num)
  unfold primitiveRestartIndex; omega

/-- Scaling by the shift is multiplying by the size. -/
theorem shiftLeft_bytesShift (t : IndexType) (n : Nat) : n <<< t.bytesShift = n * t.bytes := by
  rw [Nat.shiftLeft_eq]; rfl

theorem shiftRight_bytesShift (t : IndexType) (n : Nat) : n >>> t.bytesShift = n / t.bytes := by
  rw [Nat.shiftRight_eq_div_pow]; rfl

end IndexType

/-- `RendererClass`: which Direct3D back end the manager feeds. -/
inductive RendererClass
  | d3d9
  | d3d11
  deriving DecidableEq, Repr

/-- The part of `gl::IndexRange` the file reads: the largest index of the range
(`end`) and how many of its indices are not restart indices. -/
structure IndexRange where
  endIndex : Nat
  vertexIndexCount : Nat
  deriving DecidableEq, Repr

/-! ### Fixed-width arithmetic -/

/-- `std::numeric_limits<unsigned int>::max()`. -/
def uintMax : Nat := 2 ^ 32 - 1

/-- `static_cast<unsigned int>(n)`, and any `unsigned int` result: reduction mod `2^32`. -/
def toUInt (n : Nat) : Nat := n % 2 ^ 32

/-- A non-negative value computed in `GLsizei` (a 32-bit `int`), wrapped as two's
complement does when it leaves the range. -/
def toGLsizei (n : Nat) : Int :=
  if n % 2 ^ 32 < 2 ^ 31 then (n % 2 ^ 32 : Nat) else ((n % 2 ^ 32 : Nat) : Int) - 2 ^ 32

theorem toUInt_of_lt {n : Nat} (h : n < 2 ^ 32) : toUInt n = n := Nat.mod_eq_of_lt h

/-! ### Errors and collaborators -/

/-- The collaborator calls of the file that can return an error. -/
inductive Collaborator
  /-- `BufferD3D::getData`. -/
  | getData
  /-- The first `reserveBufferSpace` of a new streaming buffer, in `getStreamingIndexBuffer`. -/
  | initialReserve
  /-- `IndexBufferInterface::reserveBufferSpace` in `StreamInIndexBuffer`. -/
  | reserveBufferSpace
  /-- `IndexBufferInterface::mapBuffer`. -/
  | mapBuffer
  /-- `IndexBufferInterface::unmapBuffer`. -/
  | unmapBuffer
  deriving DecidableEq, Repr

/-- `gl::Error` as the file produces it: its own out-of-memory error, or an error a
collaborator returned and the file passes on. -/
inductive Error
  /-- `"Reserving " << count << " indices of " << bytes << " bytes each exceeds the
  maximum buffer size."` -/
  | outOfMemory (count bytes : Nat)
  | collaborator (call : Collaborator)
  deriving DecidableEq, Repr

/-- The text of an error the file builds itself. -/
def Error.message : Error → String
  | outOfMemory count bytes =>
    "Reserving " ++ toString count ++ " indices of " ++ toString bytes ++
      " bytes each exceeds the maximum buffer size."
  | collaborator _ => ""

/-- What the collaborators do during one call: which calls fail, and whether the
buffer's usage heuristic (`promoteStaticUsage`) decides to materialise a static copy.
Each collaborator call happens at most once per `prepareIndexData`, so one answer per
call site covers every failure schedule. -/
structure Responses where
  fails : Collaborator → Bool
  promotes : Bool

end Rx
