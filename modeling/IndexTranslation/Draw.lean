/-
What a draw reads.

`prepareIndexData` exists so that the backend can draw the application's indices
from a buffer it can bind.  This module states that purpose apart from how the file
reaches it: the storage a descriptor points at in the state after the call, the
`count` index values a draw reads there, and the values it should read.  The last
are the application's values, with the source restart value carried over to the
destination type when fixed-index restart is on (spec section 4.2).

Nothing here is translated from the file.  These definitions are the yardstick the
file's paths are measured against (`Proofs/Draw`).
-/
import IndexTranslation.IndexDataManager

namespace Rx

open IndexDataManager

/-- The storage a descriptor points the draw at, as its bytes and its serial: the source
buffer when `storage` is set, otherwise the index buffer it names. -/
def boundStorage (m : IndexDataManager) (b : BufferD3D) (t : TranslatedIndexData) :
    Option (List UInt8 × Nat) :=
  if t.storage then some (b.data, b.serial)
  else
    match t.indexBuffer with
    | some .streamingShort => m.streamingBufferShort.map fun sb => (sb.contents, sb.serial)
    | some .streamingInt => m.streamingBufferInt.map fun sb => (sb.contents, sb.serial)
    | some .staticBuffer => b.staticIndexBuffer.map fun sb => (sb.contents, sb.serial)
    | none => none

/-- The `count` index values a draw reads through a descriptor: elements of the
descriptor's type, from its byte offset on. -/
def drawnIndices (m : IndexDataManager) (b : BufferD3D) (t : TranslatedIndexData) (count : Nat) :
    Option (List Nat) :=
  (boundStorage m b t).map fun storage => indexValues t.indexType count (storage.1.drop t.startOffset)

/-- The values a draw of `count` indices of `srcType` should read as `dstType`: the
application's values, with the source restart value replaced by the destination one
when fixed-index restart is on. -/
def intendedIndices (b : BufferD3D) (srcType dstType : IndexType) (count : Nat) (indices : Indices)
    (flag : Bool) : List Nat :=
  (indexValues srcType count (sourceData b indices)).map (restartRemap srcType dstType flag)

/-- The draw's `count` indices lie inside the application's data: inside client memory,
or inside the buffer from the offset on. -/
def DrawInside (b : BufferD3D) (srcType : IndexType) (count : Nat) : Indices → Prop
  | .pointer data => count * srcType.bytes ≤ data.length
  | .offset pointer => toUInt pointer + count * srcType.bytes ≤ b.getSize

instance (b : BufferD3D) (srcType : IndexType) (count : Nat) :
    (indices : Indices) → Decidable (DrawInside b srcType count indices)
  | .pointer data => inferInstanceAs (Decidable (count * srcType.bytes ≤ data.length))
  | .offset pointer => inferInstanceAs (Decidable (toUInt pointer + count * srcType.bytes ≤ b.getSize))

/-- A draw inside the data finds its bytes in what `ConvertIndices` is handed. -/
theorem DrawInside.le_length {b : BufferD3D} {srcType : IndexType} {count : Nat} {indices : Indices}
    (h : DrawInside b srcType count indices) :
    count * srcType.bytes ≤ (sourceData b indices).length := by
  cases indices with
  | pointer data => exact h
  | offset pointer =>
    simp only [DrawInside, BufferD3D.getSize] at h
    simp only [sourceData, List.length_drop]
    omega

theorem boundStorage_of_storage {m : IndexDataManager} {b : BufferD3D} {t : TranslatedIndexData}
    (h : t.storage = true) : boundStorage m b t = some (b.data, b.serial) := by
  simp [boundStorage, h]

/-- A descriptor naming a streaming slot reads that slot's buffer. -/
theorem boundStorage_streamingRef {m : IndexDataManager} {b : BufferD3D} {t : TranslatedIndexData}
    {ty : IndexType} (hs : t.storage = false) (h : t.indexBuffer = some (streamingRef ty)) :
    boundStorage m b t = (m.streamingBuffer ty).map fun sb => (sb.contents, sb.serial) := by
  cases ty <;> simp_all [boundStorage, streamingRef, streamingBuffer]

theorem boundStorage_staticBuffer {m : IndexDataManager} {b : BufferD3D} {t : TranslatedIndexData}
    (hs : t.storage = false) (h : t.indexBuffer = some .staticBuffer) :
    boundStorage m b t = b.staticIndexBuffer.map fun sb => (sb.contents, sb.serial) := by
  simp [boundStorage, hs, h]

end Rx
