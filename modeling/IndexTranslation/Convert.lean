/-
`ConvertIndexArray` and `ConvertIndices`, lines 26-83.

The template `ConvertIndexArray<InputT, DestT>` reads `count` elements as
`InputT` and stores each as `DestT`, replacing the source restart value by the
destination one when asked.  Its element types and its `GLenum` arguments are
independent in C++, and the model keeps them apart: `inputT`/`destT` are the
template arguments, `sourceType`/`destinationType` only pick the restart values.

`ConvertIndices` copies with `memcpy` when the two types agree and otherwise
dispatches on the source type; the only pairs it handles are one step wider
(`GL_UNSIGNED_BYTE` to `GL_UNSIGNED_SHORT`, `GL_UNSIGNED_SHORT` to
`GL_UNSIGNED_INT`).  A `GL_UNSIGNED_INT` source of another type reaches
`UNREACHABLE()` and writes nothing.
-/
import IndexTranslation.Bytes

namespace Rx

/-- `ConvertIndexArray<InputT, DestT>`. -/
def convertIndexArray (inputT destT : IndexType) (input : List UInt8) (sourceType : IndexType)
    (destinationType : IndexType) (count : Nat) (usePrimitiveRestartFixedIndex : Bool) :
    List UInt8 :=
  let values := indexValues inputT count input
  if usePrimitiveRestartFixedIndex then
    let srcRestartIndex := sourceType.primitiveRestartIndex % 256 ^ inputT.bytes
    let destRestartIndex := destinationType.primitiveRestartIndex % 256 ^ destT.bytes
    encodeIndices destT (values.map fun v => if v = srcRestartIndex then destRestartIndex else v)
  else
    encodeIndices destT values

/-- `ConvertIndices`: the bytes it stores at `output`. -/
def convertIndices (sourceType destinationType : IndexType) (input : List UInt8) (count : Nat)
    (usePrimitiveRestartFixedIndex : Bool) : List UInt8 :=
  if sourceType = destinationType then
    input.take (count * destinationType.bytes)
  else
    match sourceType with
    | .unsignedByte =>
      convertIndexArray .unsignedByte .unsignedShort input sourceType destinationType count
        usePrimitiveRestartFixedIndex
    | .unsignedShort =>
      convertIndexArray .unsignedShort .unsignedInt input sourceType destinationType count
        usePrimitiveRestartFixedIndex
    | .unsignedInt => []

/-- The (source, destination) pairs `ConvertIndices` is written for: equal types, or one
step wider (the `ASSERT`s of lines 71 and 77). -/
def convertible : IndexType → IndexType → Bool
  | .unsignedByte, .unsignedShort => true
  | .unsignedShort, .unsignedInt => true
  | s, d => s == d

/-- The converter as the spec states it (section 4.2): a source restart value becomes
the destination restart value when remapping is on, and every other value is kept. -/
def restartRemap (src dst : IndexType) (usePrimitiveRestartFixedIndex : Bool) (v : Nat) : Nat :=
  if usePrimitiveRestartFixedIndex = true ∧ v = src.primitiveRestartIndex then
    dst.primitiveRestartIndex
  else v

theorem convertIndices_self (t : IndexType) (input : List UInt8) (count : Nat) (flag : Bool) :
    convertIndices t t input count flag = input.take (count * t.bytes) := by
  simp [convertIndices]

end Rx
