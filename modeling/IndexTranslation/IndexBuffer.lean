/-
The collaborators: index buffers and the source buffer.

Neither `IndexBufferInterface` nor `BufferD3D` is in the file, only the calls it
makes on them, so both are modelled from the spec (sections 3, 4.4, 4.5 and 6).
An index buffer is storage with an element type, a write position and a serial;
`reserveBufferSpace` grows it by doubling and restarts at offset 0 when the next
write would run past the end, and `mapBuffer` hands out the write position and
advances it.  A source buffer is its bytes, whether the backend can bind it
directly, at most one static index buffer, and a serial.

Which calls fail is not decided here: `Responses` says so per call, in the file
that makes the calls.  A call that fails changes nothing.
-/
import IndexTranslation.Gl

namespace Rx

/-- Modelled from the spec: an `IndexBufferInterface` with its Direct3D buffer (the
"Backend Storage Object" of spec section 6).  `indexType` is `none` until the first
`reserveBufferSpace` (`GL_NONE`). -/
structure IndexBuffer where
  contents : List UInt8
  indexType : Option IndexType
  writePosition : Nat
  serial : Nat
  deriving DecidableEq, Repr

namespace IndexBuffer

/-- A freshly created index buffer, with no storage. -/
def empty : IndexBuffer := ⟨[], none, 0, 0⟩

/-- `getBufferSize()`. -/
def bufferSize (b : IndexBuffer) : Nat := b.contents.length

/-- Modelled from the spec (4.4): `reserveBufferSpace(size, indexType)`.  Storage that is
too small is replaced by storage of `max size (2 * bufferSize)` bytes, with a new
serial, and writing restarts at 0; storage that is large enough but has less than
`size` bytes left after the write position is discarded and writing restarts at 0. -/
def reserveBufferSpace (b : IndexBuffer) (size : Nat) (indexType : IndexType) : IndexBuffer :=
  if b.bufferSize < size then
    { contents := List.replicate (max size (2 * b.bufferSize)) 0, indexType := some indexType,
      writePosition := 0, serial := b.serial + 1 }
  else if b.bufferSize < b.writePosition + size then
    { b with indexType := some indexType, writePosition := 0 }
  else
    { b with indexType := some indexType }

/-- Modelled from the spec (4.4): `mapBuffer(size, &output, &offset)` returns the write
position as the offset of the mapped region and advances past it. -/
def mapBuffer (b : IndexBuffer) (size : Nat) : Nat × IndexBuffer :=
  (b.writePosition, { b with writePosition := b.writePosition + size })

/-- The stores made through a mapped pointer: `bytes` at `offset`. -/
def write (b : IndexBuffer) (offset : Nat) (bytes : List UInt8) : IndexBuffer :=
  { b with contents := b.contents.take offset ++ bytes ++ b.contents.drop (offset + bytes.length) }

@[simp] theorem indexType_reserveBufferSpace (b : IndexBuffer) (size : Nat) (t : IndexType) :
    (b.reserveBufferSpace size t).indexType = some t := by
  unfold reserveBufferSpace; split_ifs <;> rfl

/-- Reserving either keeps the write position or restarts at 0. -/
theorem writePosition_reserveBufferSpace (b : IndexBuffer) (size : Nat) (t : IndexType) :
    (b.reserveBufferSpace size t).writePosition = 0 ∨
      (b.reserveBufferSpace size t).writePosition = b.writePosition := by
  unfold reserveBufferSpace; split_ifs <;> simp

/-- After reserving, a region of `size` bytes fits at the write position. -/
theorem reserveBufferSpace_fits (b : IndexBuffer) (size : Nat) (t : IndexType) :
    (b.reserveBufferSpace size t).writePosition + size ≤
      (b.reserveBufferSpace size t).bufferSize := by
  unfold reserveBufferSpace bufferSize
  split_ifs <;> simp_all [bufferSize]

/-- Capacity never shrinks (spec section 8). -/
theorem bufferSize_le_reserveBufferSpace (b : IndexBuffer) (size : Nat) (t : IndexType) :
    b.bufferSize ≤ (b.reserveBufferSpace size t).bufferSize := by
  unfold reserveBufferSpace
  split_ifs <;> simp [bufferSize]
  omega

/-- Reserving in a buffer with no storage starts writing at offset 0. -/
theorem writePosition_reserveBufferSpace_of_bufferSize_eq_zero {b : IndexBuffer} (size : Nat)
    (t : IndexType) (h : b.bufferSize = 0) : (b.reserveBufferSpace size t).writePosition = 0 := by
  unfold reserveBufferSpace
  split_ifs <;> simp only
  omega

/-- A reservation that leaves a nonzero write position kept the storage and the position:
the region it makes room for starts where the last one ended. -/
theorem reserveBufferSpace_of_writePosition_ne_zero {b : IndexBuffer} {size : Nat} {t : IndexType}
    (h : (b.reserveBufferSpace size t).writePosition ≠ 0) :
    b.reserveBufferSpace size t = { b with indexType := some t } ∧
      b.writePosition + size ≤ b.bufferSize := by
  unfold reserveBufferSpace at h ⊢
  split_ifs at h ⊢
  · exact absurd rfl h
  · exact absurd rfl h
  · exact ⟨rfl, by omega⟩

/-- Reserving in a buffer with no storage gives storage of exactly the size asked for,
zero-filled. -/
theorem contents_reserveBufferSpace_of_bufferSize_eq_zero {b : IndexBuffer} (size : Nat)
    (t : IndexType) (h : b.bufferSize = 0) :
    (b.reserveBufferSpace size t).contents = List.replicate size 0 := by
  have hnil : b.contents = [] := List.eq_nil_of_length_eq_zero h
  unfold reserveBufferSpace
  split_ifs with hgrow
  · simp [h]
  all_goals rw [hnil, show size = 0 by unfold bufferSize at hgrow h; omega]; rfl

/-- A reservation that fits after the write position keeps the storage and the position. -/
theorem reserveBufferSpace_of_fits {b : IndexBuffer} {size : Nat} (t : IndexType)
    (h : b.writePosition + size ≤ b.bufferSize) :
    b.reserveBufferSpace size t = { b with indexType := some t } := by
  unfold reserveBufferSpace
  rw [if_neg (by omega), if_neg (by omega)]

/-- Reserving `size` bytes in a buffer with no storage and storing `size` bytes at the
position the reservation leaves fills the storage with exactly those bytes. -/
theorem contents_write_reserveBufferSpace_of_bufferSize_eq_zero {b : IndexBuffer} {size : Nat}
    {t : IndexType} {bytes : List UInt8} (h0 : b.bufferSize = 0) (hlen : bytes.length = size)
    (wp : Nat) :
    (({ b.reserveBufferSpace size t with writePosition := wp }).write
      (b.reserveBufferSpace size t).writePosition bytes).contents = bytes := by
  simp only [write, writePosition_reserveBufferSpace_of_bufferSize_eq_zero size t h0,
    contents_reserveBufferSpace_of_bufferSize_eq_zero size t h0, hlen, List.take_zero,
    List.nil_append, Nat.zero_add, List.drop_replicate, Nat.sub_self, List.replicate_zero,
    List.append_nil]

/-- A reservation at most doubles the request: storage is replaced, by
`max size (2 * bufferSize)` bytes, only when it is smaller than the request. -/
theorem bufferSize_reserveBufferSpace_le (b : IndexBuffer) (size : Nat) (t : IndexType) :
    (b.reserveBufferSpace size t).bufferSize ≤ max b.bufferSize (2 * size) := by
  unfold reserveBufferSpace
  split_ifs with hgrow <;> simp only [bufferSize, List.length_replicate] at hgrow ⊢ <;> omega

@[simp] theorem mapBuffer_fst (b : IndexBuffer) (size : Nat) :
    (b.mapBuffer size).1 = b.writePosition := rfl

@[simp] theorem mapBuffer_snd (b : IndexBuffer) (size : Nat) :
    (b.mapBuffer size).2 = { b with writePosition := b.writePosition + size } := rfl

@[simp] theorem indexType_write (b : IndexBuffer) (offset : Nat) (bytes : List UInt8) :
    (b.write offset bytes).indexType = b.indexType := rfl

@[simp] theorem writePosition_write (b : IndexBuffer) (offset : Nat) (bytes : List UInt8) :
    (b.write offset bytes).writePosition = b.writePosition := rfl

@[simp] theorem serial_write (b : IndexBuffer) (offset : Nat) (bytes : List UInt8) :
    (b.write offset bytes).serial = b.serial := rfl

theorem bufferSize_le_write {b : IndexBuffer} {offset : Nat} (bytes : List UInt8)
    (h : offset ≤ b.bufferSize) : b.bufferSize ≤ (b.write offset bytes).bufferSize := by
  simp only [write, bufferSize, List.length_append, List.length_take, List.length_drop] at h ⊢
  omega

/-- A write inside the storage keeps its size. -/
theorem bufferSize_write_of_le {b : IndexBuffer} {offset : Nat} {bytes : List UInt8}
    (h : offset + bytes.length ≤ b.bufferSize) : (b.write offset bytes).bufferSize = b.bufferSize := by
  simp only [write, bufferSize, List.length_append, List.length_take, List.length_drop] at h ⊢
  omega

/-- A write leaves every byte before its offset as it was. -/
theorem take_write {b : IndexBuffer} {offset : Nat} (bytes : List UInt8) (h : offset ≤ b.bufferSize) :
    (b.write offset bytes).contents.take offset = b.contents.take offset := by
  have hlen : (b.contents.take offset).length = offset := by simp [bufferSize] at h ⊢; omega
  simp only [write, List.append_assoc]
  exact List.take_left' hlen

/-- What was written reads back. -/
theorem write_readBack {b : IndexBuffer} {offset : Nat} {bytes : List UInt8}
    (h : offset ≤ b.bufferSize) :
    (((b.write offset bytes).contents.drop offset).take bytes.length) = bytes := by
  have hlen : (b.contents.take offset).length = offset := by simp [bufferSize] at h ⊢; omega
  simp only [write, List.append_assoc]
  rw [List.drop_left' hlen, List.take_left' rfl]

end IndexBuffer

/-- Modelled from the spec: the source buffer (`BufferD3D`) as the file reads it (spec
sections 3 and 6).  `staticUsage` totals the sizes passed to `promoteStaticUsage`. -/
structure BufferD3D where
  data : List UInt8
  supportsDirectBinding : Bool
  staticIndexBuffer : Option IndexBuffer
  serial : Nat
  staticUsage : Int
  deriving DecidableEq, Repr

namespace BufferD3D

/-- `getSize()`. -/
def getSize (b : BufferD3D) : Nat := b.data.length

/-- Modelled from the spec (4.5): `invalidateStaticData` discards the static copy whole. -/
def invalidateStaticData (b : BufferD3D) : BufferD3D := { b with staticIndexBuffer := none }

/-- Modelled from the spec (6): `promoteStaticUsage(dataSize)` records the use; when the
buffer's own heuristic decides so, it creates an empty static index buffer. -/
def promoteStaticUsage (b : BufferD3D) (dataSize : Int) (promotes : Bool) : BufferD3D :=
  { b with
    staticUsage := b.staticUsage + dataSize
    staticIndexBuffer :=
      if promotes && b.staticIndexBuffer.isNone then some .empty else b.staticIndexBuffer }

/-- Modelled from the spec (5): the application replaces the buffer's content, which
invalidates the static copy and gives the buffer a new serial. -/
def bufferData (b : BufferD3D) (data : List UInt8) (supportsDirectBinding : Bool) : BufferD3D :=
  { data, supportsDirectBinding, staticIndexBuffer := none, serial := b.serial + 1, staticUsage := 0 }

@[simp] theorem staticIndexBuffer_invalidateStaticData (b : BufferD3D) :
    b.invalidateStaticData.staticIndexBuffer = none := rfl

@[simp] theorem data_invalidateStaticData (b : BufferD3D) : b.invalidateStaticData.data = b.data := rfl

@[simp] theorem data_promoteStaticUsage (b : BufferD3D) (dataSize : Int) (promotes : Bool) :
    (b.promoteStaticUsage dataSize promotes).data = b.data := rfl

/-- Promotion only ever fills an empty slot, and only with an empty buffer. -/
theorem staticIndexBuffer_promoteStaticUsage (b : BufferD3D) (dataSize : Int) (promotes : Bool) :
    (b.promoteStaticUsage dataSize promotes).staticIndexBuffer = b.staticIndexBuffer ∨
      (b.staticIndexBuffer = none ∧
        (b.promoteStaticUsage dataSize promotes).staticIndexBuffer = some .empty) := by
  unfold promoteStaticUsage
  cases h : b.staticIndexBuffer <;> cases promotes <;> simp [h]

@[simp] theorem staticUsage_promoteStaticUsage (b : BufferD3D) (dataSize : Int) (promotes : Bool) :
    (b.promoteStaticUsage dataSize promotes).staticUsage = b.staticUsage + dataSize := rfl

end BufferD3D

end Rx
