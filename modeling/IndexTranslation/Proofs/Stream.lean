/-
Streaming into an index buffer.

`StreamInIndexBuffer` is the one place the file writes index data, for the
streaming buffers and for the static copy alike.  Its size guard is exact: it
refuses precisely the counts whose byte size does not fit an `unsigned int`, and
otherwise the size it reserves and maps is the byte count itself
(`toUInt_shiftLeft_of_le`).  A successful call maps the region at the write
position the reservation left, and that region then holds the converted indices
(`streamInIndexBuffer_ok`).

`SlotOK` is what a streaming slot keeps: its buffer holds elements of the slot's
type and the write position is a whole number of them.  Every map advances the
position by a whole number of elements and every reservation either keeps it or
restarts at 0, so the position stays aligned however many draws go through the
slot (`SlotOK.streamInIndexBuffer`).
-/
import IndexTranslation.IndexDataManager
import IndexTranslation.Proofs.Convert

namespace Rx

/-! ### The size guard -/

/-- Line 95 refuses exactly the counts whose byte size does not fit an `unsigned int`. -/
theorem uintMax_shiftRight_lt_iff (t : IndexType) (count : Nat) :
    uintMax >>> t.bytesShift < count ↔ uintMax < count * t.bytes := by
  rw [IndexType.shiftRight_bytesShift]
  cases t <;> simp only [uintMax, IndexType.bytes_unsignedByte, IndexType.bytes_unsignedShort,
    IndexType.bytes_unsignedInt] <;> omega

/-- Below the guard, `count << bytesShift` is the byte count itself. -/
theorem toUInt_shiftLeft_of_le {t : IndexType} {count : Nat}
    (h : ¬uintMax >>> t.bytesShift < count) : toUInt (count <<< t.bytesShift) = count * t.bytes := by
  rw [uintMax_shiftRight_lt_iff, uintMax] at h
  rw [IndexType.shiftLeft_bytesShift, toUInt_of_lt (by omega)]

/-! ### `StreamInIndexBuffer` -/

section StreamIn

variable {r : Responses} {buffer : IndexBuffer} {data : List UInt8} {count : Nat}
  {srcType dstType : IndexType} {flag : Bool}

/-- What a successful `StreamInIndexBuffer` did: it reserved the byte count, mapped it at
the write position the reservation left, and stored the converted indices there. -/
theorem streamInIndexBuffer_ok {offset : Nat} {b' : IndexBuffer}
    (h : streamInIndexBuffer r buffer data count srcType dstType flag = (.ok offset, b')) :
    count * dstType.bytes ≤ uintMax ∧
      offset = (buffer.reserveBufferSpace (count * dstType.bytes) dstType).writePosition ∧
      b' = ({ buffer.reserveBufferSpace (count * dstType.bytes) dstType with
          writePosition := offset + count * dstType.bytes }).write offset
        (convertIndices srcType dstType data count flag) := by
  unfold streamInIndexBuffer at h
  split_ifs at h with hguard <;> cases h
  rw [toUInt_shiftLeft_of_le hguard]
  exact ⟨by rw [uintMax_shiftRight_lt_iff] at hguard; omega, rfl, rfl⟩

/-- An out-of-memory error is returned exactly when the byte count does not fit, and
before anything is reserved. -/
theorem streamInIndexBuffer_outOfMemory_iff :
    (streamInIndexBuffer r buffer data count srcType dstType flag).1 =
        .error (.outOfMemory count dstType.bytes) ↔ uintMax < count * dstType.bytes := by
  unfold streamInIndexBuffer
  rw [← uintMax_shiftRight_lt_iff]
  split_ifs <;> simp_all

theorem streamInIndexBuffer_snd_of_outOfMemory (h : uintMax < count * dstType.bytes) :
    (streamInIndexBuffer r buffer data count srcType dstType flag).2 = buffer := by
  rw [← uintMax_shiftRight_lt_iff] at h
  simp [streamInIndexBuffer, h]

/-- The buffer afterwards: untouched, only reserved, or reserved, mapped and written. -/
theorem streamInIndexBuffer_snd_cases :
    (streamInIndexBuffer r buffer data count srcType dstType flag).2 = buffer ∨
    (count * dstType.bytes ≤ uintMax ∧
      ((streamInIndexBuffer r buffer data count srcType dstType flag).2 =
          buffer.reserveBufferSpace (count * dstType.bytes) dstType ∨
        (streamInIndexBuffer r buffer data count srcType dstType flag).2 =
          ({ buffer.reserveBufferSpace (count * dstType.bytes) dstType with
              writePosition := (buffer.reserveBufferSpace (count * dstType.bytes) dstType).writePosition
                + count * dstType.bytes }).write
            (buffer.reserveBufferSpace (count * dstType.bytes) dstType).writePosition
            (convertIndices srcType dstType data count flag))) := by
  unfold streamInIndexBuffer
  by_cases hguard : uintMax >>> dstType.bytesShift < count
  · simp [hguard]
  · have hle : count * dstType.bytes ≤ uintMax := by
      rw [uintMax_shiftRight_lt_iff] at hguard; omega
    simp only [hguard, if_false, toUInt_shiftLeft_of_le hguard]
    split_ifs <;> simp [hle]

/-- **Appending.**  A successful `StreamInIndexBuffer` that maps at a nonzero offset
mapped at the buffer's old write position, and its bytes fit after it: the reservation
kept the storage. -/
theorem streamInIndexBuffer_appends {offset : Nat} {b' : IndexBuffer}
    (h : streamInIndexBuffer r buffer data count srcType dstType flag = (.ok offset, b'))
    (hoff : offset ≠ 0) :
    offset = buffer.writePosition ∧
      buffer.writePosition + count * dstType.bytes ≤ buffer.bufferSize := by
  obtain ⟨-, rfl, -⟩ := streamInIndexBuffer_ok h
  obtain ⟨hkeep, hfit⟩ := IndexBuffer.reserveBufferSpace_of_writePosition_ne_zero hoff
  rw [hkeep]
  exact ⟨rfl, hfit⟩

end StreamIn

/-! ### Streaming slots -/

/-- A streaming buffer fit for the slot of type `t`: it holds `t` elements, and its
write position is a whole number of them. -/
def SlotOK (t : IndexType) (b : IndexBuffer) : Prop :=
  b.indexType = some t ∧ b.writePosition % t.bytes = 0

theorem slotOK_reserveBufferSpace {t : IndexType} {b : IndexBuffer} (h : b.writePosition % t.bytes = 0)
    (size : Nat) : SlotOK t (b.reserveBufferSpace size t) := by
  refine ⟨b.indexType_reserveBufferSpace size t, ?_⟩
  rcases b.writePosition_reserveBufferSpace size t with h0 | h0 <;> rw [h0]
  · exact Nat.zero_mod _
  · exact h

/-- One `StreamInIndexBuffer` keeps a slot fit. -/
theorem SlotOK.streamInIndexBuffer {r : Responses} {b : IndexBuffer} {data : List UInt8}
    {count : Nat} {srcType t : IndexType} {flag : Bool} (h : SlotOK t b) :
    SlotOK t (streamInIndexBuffer r b data count srcType t flag).2 := by
  have hres := slotOK_reserveBufferSpace h.2 (count * t.bytes)
  rcases @streamInIndexBuffer_snd_cases r b data count srcType t flag with h' | ⟨-, h' | h'⟩ <;> rw [h']
  · exact h
  · exact hres
  · refine ⟨hres.1, ?_⟩
    simp only [IndexBuffer.writePosition_write]
    rw [Nat.add_mul_mod_self_right]
    exact hres.2

/-- Both streaming slots are fit: `mStreamingBufferShort` for `GL_UNSIGNED_SHORT` and
`mStreamingBufferInt` for `GL_UNSIGNED_INT`. -/
structure StreamingOK (m : IndexDataManager) : Prop where
  short : ∀ b, m.streamingBufferShort = some b → SlotOK .unsignedShort b
  int : ∀ b, m.streamingBufferInt = some b → SlotOK .unsignedInt b

namespace StreamingOK

variable {m : IndexDataManager} {t : IndexType} {b : IndexBuffer}

theorem create (rendererClass : RendererClass) (initialIndexBufferSize : Nat) :
    StreamingOK (IndexDataManager.create rendererClass initialIndexBufferSize) :=
  ⟨fun _ h => (nomatch h), fun _ h => (nomatch h)⟩

theorem deinitialize (m : IndexDataManager) : StreamingOK (IndexDataManager.deinitialize m) :=
  ⟨fun _ h => (nomatch h), fun _ h => (nomatch h)⟩

theorem slot (hm : StreamingOK m) (ht : t ≠ .unsignedByte) (h : m.streamingBuffer t = some b) :
    SlotOK t b := by
  cases t
  · exact absurd rfl ht
  · exact hm.short b h
  · exact hm.int b h

theorem setStreamingBuffer (hm : StreamingOK m) (ht : t ≠ .unsignedByte) (hb : SlotOK t b) :
    StreamingOK (m.setStreamingBuffer t b) := by
  cases t
  · exact absurd rfl ht
  · exact ⟨fun b' h => Option.some_injective _ h ▸ hb, hm.int⟩
  · exact ⟨hm.short, fun b' h => Option.some_injective _ h ▸ hb⟩

/-- `getStreamingIndexBuffer` keeps the slots fit and hands out a fit buffer. -/
theorem getStreamingIndexBuffer (hm : StreamingOK m) (ht : t ≠ .unsignedByte) (r : Responses) :
    StreamingOK (m.getStreamingIndexBuffer r t).2 ∧
      ∀ b, (m.getStreamingIndexBuffer r t).1 = .ok b → SlotOK t b := by
  unfold IndexDataManager.getStreamingIndexBuffer
  split
  · rename_i b' hb'
    exact ⟨hm, fun b h => by cases h; exact hm.slot ht hb'⟩
  · split
    · exact ⟨hm, fun _ h => (nomatch h)⟩
    · have hnew := @slotOK_reserveBufferSpace t .empty rfl m.initialIndexBufferSize
      exact ⟨hm.setStreamingBuffer ht hnew, fun b h => by cases h; exact hnew⟩

/-- `streamIndexData` keeps the slots fit, whatever the collaborators do. -/
theorem streamIndexData (hm : StreamingOK m) (ht : t ≠ .unsignedByte) (r : Responses)
    (data : List UInt8) (count : Nat) (srcType : IndexType) (flag : Bool)
    (translated : TranslatedIndexData) :
    StreamingOK (m.streamIndexData r data count srcType t flag translated).2 := by
  obtain ⟨hm', hbuf⟩ := hm.getStreamingIndexBuffer ht r
  unfold IndexDataManager.streamIndexData
  split
  · rename_i heq; rw [heq] at hm'; exact hm'
  · rename_i indexBuffer m₁ heq
    rw [heq] at hm' hbuf
    have hslot := @SlotOK.streamInIndexBuffer r indexBuffer data count srcType t flag
      (hbuf indexBuffer rfl)
    split <;> rename_i heq' <;> rw [heq'] at hslot <;> exact hm'.setStreamingBuffer ht hslot

end StreamingOK

/-- What a successful `streamIndexData` did, whatever the slot held before: the draw
reads the slot for its destination type at the offset the map handed out, the slot's
write position now ends the region of `count` elements there, and that region holds the
converted indices. -/
theorem streamIndexData_written {m m' : IndexDataManager} {r : Responses} {data : List UInt8}
    {count : Nat} {srcType dstType : IndexType} {flag : Bool}
    {translated t : TranslatedIndexData}
    (h : m.streamIndexData r data count srcType dstType flag translated = (.ok t, m')) :
    ∃ offset sb, t = { translated with
        indexBuffer := some (IndexDataManager.streamingRef dstType), serial := sb.serial,
        startIndex := offset >>> dstType.bytesShift, startOffset := offset } ∧
      m'.streamingBuffer dstType = some sb ∧
      sb.writePosition = offset + count * dstType.bytes ∧ sb.writePosition ≤ sb.bufferSize ∧
      (sb.contents.drop offset).take (convertIndices srcType dstType data count flag).length =
        convertIndices srcType dstType data count flag := by
  unfold IndexDataManager.streamIndexData at h
  split at h
  · cases h
  · rename_i indexBuffer _ _
    split at h
    · cases h
    · rename_i offset _ hstream
      cases h
      obtain ⟨-, rfl, rfl⟩ := streamInIndexBuffer_ok hstream
      have hfits := indexBuffer.reserveBufferSpace_fits (count * dstType.bytes) dstType
      simp only [IndexBuffer.bufferSize] at hfits
      refine ⟨_, _, rfl, IndexDataManager.streamingBuffer_setStreamingBuffer _ _ _, rfl, ?_, ?_⟩
      · exact le_trans (by simp only [IndexBuffer.writePosition_write, IndexBuffer.bufferSize]; omega)
          (IndexBuffer.bufferSize_le_write _ (by simp only [IndexBuffer.bufferSize]; omega))
      · exact IndexBuffer.write_readBack (by simp only [IndexBuffer.bufferSize]; omega)

/-- A successful `streamIndexData` keeps the descriptor's type and storage, and names the
slot for its destination type. -/
theorem streamIndexData_ok_fields {m m' : IndexDataManager} {r : Responses}
    {data : List UInt8} {count : Nat} {srcType dstType : IndexType} {flag : Bool}
    {translated t : TranslatedIndexData}
    (h : m.streamIndexData r data count srcType dstType flag translated = (.ok t, m')) :
    t.indexType = translated.indexType ∧ t.storage = translated.storage ∧
      t.indexBuffer = some (IndexDataManager.streamingRef dstType) := by
  obtain ⟨_, _, rfl, -⟩ := streamIndexData_written h
  exact ⟨rfl, rfl, rfl⟩

/-- **What a successful `streamIndexData` hands back** when the slots are fit: the region
also starts at a whole number of elements, in a buffer of the slot's type. -/
theorem streamIndexData_ok {m m' : IndexDataManager} {r : Responses} {data : List UInt8}
    {count : Nat} {srcType dstType : IndexType} {flag : Bool}
    {translated t : TranslatedIndexData} (hm : StreamingOK m) (ht : dstType ≠ .unsignedByte)
    (h : m.streamIndexData r data count srcType dstType flag translated = (.ok t, m')) :
    ∃ offset sb, t = { translated with
        indexBuffer := some (IndexDataManager.streamingRef dstType), serial := sb.serial,
        startIndex := offset >>> dstType.bytesShift, startOffset := offset } ∧
      m'.streamingBuffer dstType = some sb ∧ sb.indexType = some dstType ∧
      offset % dstType.bytes = 0 ∧ offset + count * dstType.bytes ≤ sb.bufferSize ∧
      (sb.contents.drop offset).take (convertIndices srcType dstType data count flag).length =
        convertIndices srcType dstType data count flag := by
  obtain ⟨offset, sb, rfl, hsb, hwp, hfit, hread⟩ := streamIndexData_written h
  have hm' := hm.streamIndexData ht r data count srcType flag translated
  rw [h] at hm'
  obtain ⟨htype, halign⟩ := hm'.slot ht hsb
  rw [hwp, Nat.add_mul_mod_self_right] at halign
  exact ⟨offset, sb, rfl, hsb, htype, halign, hwp ▸ hfit, hread⟩

/-- `getStreamingIndexBuffer` hands out the slot's buffer, or a new one that has not been
written to. -/
theorem getStreamingIndexBuffer_ok {m m₁ : IndexDataManager} {r : Responses} {t : IndexType}
    {b : IndexBuffer} (h : m.getStreamingIndexBuffer r t = (.ok b, m₁)) :
    (m.streamingBuffer t = some b ∧ m₁ = m) ∨ b.writePosition = 0 := by
  unfold IndexDataManager.getStreamingIndexBuffer at h
  split at h
  · cases h; exact .inl ⟨‹_›, rfl⟩
  · split_ifs at h
    · cases h
    simp only [Prod.mk.injEq, Except.ok.injEq] at h
    rw [← h.1]
    exact .inr (IndexBuffer.writePosition_reserveBufferSpace_of_bufferSize_eq_zero _ _ rfl)

/-- **Appending to a slot.**  A successful `streamIndexData` at a nonzero offset wrote
into the buffer the slot already held, at its write position, and its bytes fit after
it. -/
theorem streamIndexData_appends {m m' : IndexDataManager} {r : Responses}
    {data : List UInt8} {count : Nat} {srcType dstType : IndexType} {flag : Bool}
    {translated t : TranslatedIndexData}
    (h : m.streamIndexData r data count srcType dstType flag translated = (.ok t, m'))
    (hoff : t.startOffset ≠ 0) :
    ∃ sb, m.streamingBuffer dstType = some sb ∧ t.startOffset = sb.writePosition ∧
      sb.writePosition + count * dstType.bytes ≤ sb.bufferSize := by
  unfold IndexDataManager.streamIndexData at h
  split at h
  · cases h
  · rename_i sb m₁ hget
    split at h
    · cases h
    · rename_i offset sb' hstream
      cases h
      obtain ⟨rfl, hfit⟩ := streamInIndexBuffer_appends hstream hoff
      rcases getStreamingIndexBuffer_ok hget with ⟨hsb, rfl⟩ | h0
      · exact ⟨sb, hsb, rfl, hfit⟩
      · exact absurd h0 hoff

end Rx
