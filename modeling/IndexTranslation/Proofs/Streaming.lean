/-
Descriptors on the direct and streaming paths, over every run.

On the streaming paths the descriptor's `startIndex` is `offset >> shift` and its
`startOffset` is `offset`, so the two agree only if the offset the streaming
buffer hands out is a whole number of elements.  That is a fact about the
history of the buffer, not about one call: every map advances the write position
by `count << shift`, reservations restart it at 0, and each slot only ever sees
its own type.  `StreamingOK` is that invariant; it holds initially, every event
keeps it (`StreamingOK.step`), and so it holds in every reachable state.

With it, `prepareIndexData_descriptor` reads off both paths.  Every result names
the source buffer, the static copy, or the slot for its own type, nothing else
(`prepareIndexData_ok_target`).  A direct result points into the source buffer at an
aligned offset, with the draw inside the buffer; a streaming result points into the
slot for its type at an aligned offset, with the draw inside the region this call
mapped, and that region holds the converted indices.
-/
import IndexTranslation.Proofs.Prepare
import IndexTranslation.Run

namespace Rx

open IndexDataManager

/-! ### The invariant over runs -/

/-- One call keeps the streaming slots fit, whatever path it takes and whatever fails. -/
theorem StreamingOK.prepareIndexData {m : IndexDataManager} (hm : StreamingOK m) (b : BufferD3D)
    (r : Responses) (srcType : IndexType) (count : Nat) (indices : Indices)
    (indexRange : IndexRange) (flag : Bool) :
    StreamingOK (m.prepareIndexData b r srcType count indices indexRange flag).2.1 := by
  have hdst := translatedType_ne_unsignedByte m.rendererClass srcType count indexRange flag
  rcases m.prepareIndexData_cases b r srcType count indices indexRange flag with
    ⟨data, -, hout⟩ | ⟨_, -, -, -, -, hout⟩ | ⟨p, sb, -, -, -, -, -, hout⟩ | ⟨p, -, -, -, hout⟩ <;>
    rw [hout]
  · exact hm.streamIndexData hdst r data count srcType flag _
  · exact hm
  · rw [(useStaticBuffer_state m r b sb _ _ srcType _ flag _).1]; exact hm
  · rcases (streamFromBuffer_state m r _ (toUInt p) srcType _ count flag _).1 with h | h <;> rw [h]
    · exact hm
    · exact hm.streamIndexData hdst r _ count srcType flag _

theorem StreamingOK.step {s : State} (hs : StreamingOK s.manager) (e : Event) :
    StreamingOK (step s e).manager := by
  cases e with
  | draw r srcType count indices indexRange flag =>
    exact hs.prepareIndexData s.buffer r srcType count indices indexRange flag
  | bufferData => exact hs
  | promote => exact hs
  | deinitialize => exact StreamingOK.deinitialize s.manager

theorem Reachable.streamingOK {s : State} (h : Reachable s) : StreamingOK s.manager := by
  induction h with
  | init rendererClass initialIndexBufferSize => exact StreamingOK.create _ _
  | step _ e ih => exact ih.step e

/-! ### The descriptor -/

theorem shiftRight_mul_bytes {t : IndexType} {n : Nat} (h : n % t.bytes = 0) :
    (n >>> t.bytesShift) * t.bytes = n := by
  rw [IndexType.shiftRight_bytesShift, Nat.div_mul_cancel (Nat.dvd_of_mod_eq_zero h)]

/-- A descriptor that reads `count` elements of type `srcType` straight from the source
buffer: its offset is its start index scaled, and all of them lie inside the buffer. -/
def DirectDescriptor (b : BufferD3D) (srcType : IndexType) (count : Nat)
    (t : TranslatedIndexData) : Prop :=
  t.indexType = srcType ∧ t.startOffset = t.startIndex * t.indexType.bytes ∧
    (t.startIndex + count) * t.indexType.bytes ≤ b.getSize

/-- A descriptor that reads `count` elements from the streaming slot for its type: the
slot's buffer holds that type, the offset is the start index scaled, all of them lie
inside the buffer, and the region holds `converted`. -/
def StreamDescriptor (m : IndexDataManager) (count : Nat) (converted : List UInt8)
    (t : TranslatedIndexData) : Prop :=
  t.indexType ≠ .unsignedByte ∧ t.indexBuffer = some (streamingRef t.indexType) ∧
    ∃ sb, m.streamingBuffer t.indexType = some sb ∧ sb.indexType = some t.indexType ∧
      t.serial = sb.serial ∧ t.startOffset = t.startIndex * t.indexType.bytes ∧
      (t.startIndex + count) * t.indexType.bytes ≤ sb.bufferSize ∧
      (sb.contents.drop t.startOffset).take converted.length = converted

theorem streamDescriptor_of_streamIndexData {m m' : IndexDataManager} {r : Responses}
    {data : List UInt8} {count : Nat} {srcType dstType : IndexType} {flag : Bool}
    {indices : Indices} {t : TranslatedIndexData} (hm : StreamingOK m)
    (hdst : dstType ≠ .unsignedByte)
    (h : m.streamIndexData r data count srcType dstType flag
      (TranslatedIndexData.start dstType srcType count indices) = (.ok t, m')) :
    t.storage = false ∧ StreamDescriptor m' count (convertIndices srcType t.indexType data count flag) t := by
  obtain ⟨offset, sb, rfl, hsb, htype, halign, hfit, hread⟩ := streamIndexData_ok hm hdst h
  refine ⟨rfl, hdst, rfl, sb, hsb, htype, rfl, (shiftRight_mul_bytes halign).symm, ?_, hread⟩
  show (offset >>> dstType.bytesShift + count) * dstType.bytes ≤ sb.bufferSize
  rw [Nat.add_mul, shiftRight_mul_bytes halign]; exact hfit

/-- Every success names one of three places: the source buffer itself, its static copy,
or the streaming slot of the descriptor's own index type. -/
theorem prepareIndexData_ok_target {m m' : IndexDataManager} {b b' : BufferD3D}
    {r : Responses} {srcType : IndexType} {count : Nat} {indices : Indices}
    {indexRange : IndexRange} {flag : Bool} {t : TranslatedIndexData}
    (h : m.prepareIndexData b r srcType count indices indexRange flag = (.ok t, m', b')) :
    (t.storage = true ∧ t.indexBuffer = none) ∨
      (t.storage = false ∧ t.indexBuffer = some .staticBuffer) ∨
      (t.storage = false ∧ t.indexBuffer = some (streamingRef t.indexType)) := by
  rcases prepareIndexData_ok_cases h with hstream | ⟨p, -, -, -, rfl, -, -⟩ |
    ⟨p, sb, -, -, -, -, hout⟩
  · obtain ⟨hty, hst, href⟩ := streamIndexData_ok_fields hstream
    exact .inr (.inr ⟨hst, by rw [href, hty]; rfl⟩)
  · exact .inl ⟨rfl, rfl⟩
  · obtain ⟨sb', rfl⟩ := useStaticBuffer_ok (congrArg Prod.fst hout)
    exact .inr (.inl ⟨rfl, rfl⟩)

/-- **Descriptor consistency on the direct and streaming paths, over every run.**  In any
reachable state, a call that succeeds on the direct path reads the source buffer as the
draw's own type, at a byte offset that is its start index scaled, with all `count`
elements inside the buffer.  Every other success names the static copy or the slot for
its own type.  A call that succeeds on a streaming path reads the slot for
its destination type (`mStreamingBufferShort` for `GL_UNSIGNED_SHORT`,
`mStreamingBufferInt` for `GL_UNSIGNED_INT`), whose buffer holds that type, at a byte
offset that is its start index scaled, with all `count` elements inside the buffer; and
the region there holds `ConvertIndices` of the draw's source bytes. -/
theorem prepareIndexData_descriptor {s : State} (hs : Reachable s) {r : Responses}
    {srcType : IndexType} {count : Nat} {indices : Indices} {indexRange : IndexRange} {flag : Bool}
    {t : TranslatedIndexData} {m' : IndexDataManager} {b' : BufferD3D}
    (h : s.manager.prepareIndexData s.buffer r srcType count indices indexRange flag = (.ok t, m', b'))
    (hbound : ∀ p, indices = .offset p → p + count * srcType.bytes ≤ s.buffer.getSize) :
    ((t.storage = true ∧ t.indexBuffer = none) ∨
      (t.storage = false ∧ t.indexBuffer = some .staticBuffer) ∨
      (t.storage = false ∧ t.indexBuffer = some (streamingRef t.indexType))) ∧
    (t.storage = true → DirectDescriptor s.buffer srcType count t) ∧
    (∀ ref, t.indexBuffer = some ref → ref ≠ .staticBuffer →
      StreamDescriptor m' count
        (convertIndices srcType t.indexType (sourceData s.buffer indices) count flag) t) := by
  refine ⟨prepareIndexData_ok_target h, ?_⟩
  rcases prepareIndexData_ok_cases h with hstream | ⟨p, rfl, ha, hd, rfl, -, -⟩ |
    ⟨p, sb, -, -, -, -, hout⟩
  · obtain ⟨hst, hdesc⟩ := streamDescriptor_of_streamIndexData hs.streamingOK
      (translatedType_ne_unsignedByte _ _ _ _ _) hstream
    exact ⟨fun h' => absurd (hst ▸ h') Bool.false_ne_true, fun _ _ _ => hdesc⟩
  · have halign : toUInt p % srcType.bytes = 0 := by simpa [offsetAligned] using ha
    refine ⟨fun _ => ⟨hd, ?_, ?_⟩, fun ref href => nomatch href⟩
    · show toUInt p = (toUInt p >>> srcType.bytesShift) *
        (translatedType s.manager.rendererClass srcType count indexRange flag).bytes
      rw [hd, shiftRight_mul_bytes halign]
    · show (toUInt p >>> srcType.bytesShift + count) *
        (translatedType s.manager.rendererClass srcType count indexRange flag).bytes ≤ s.buffer.getSize
      rw [hd, Nat.add_mul, shiftRight_mul_bytes halign]
      have := hbound p rfl
      have : toUInt p ≤ p := Nat.mod_le _ _
      omega
  · obtain ⟨sb', rfl⟩ := useStaticBuffer_ok (congrArg Prod.fst hout)
    exact ⟨fun h' => (nomatch h'), fun ref href hne => absurd (Option.some_injective _ href).symm hne⟩

/-- Two client bytes streamed as shorts into a fresh manager: the descriptor names the
short slot and reads it from offset 0, which holds `[7, 0, 255, 0]`. -/
theorem prepareIndexData_descriptor_pointer :
    Reachable (State.init .d3d11 4 ⟨[], false, none, 0, 0⟩) ∧
      (State.init .d3d11 4 ⟨[], false, none, 0, 0⟩).manager.prepareIndexData
          (State.init .d3d11 4 ⟨[], false, none, 0, 0⟩).buffer ⟨fun _ => false, false⟩
          .unsignedByte 2 (.pointer [7, 255]) ⟨255, 2⟩ false =
        (.ok ⟨.unsignedShort, false, some .streamingShort, 1, 0, 0,
            ⟨.pointer [7, 255], .unsignedByte, 2⟩⟩,
          ⟨.d3d11, 4, some ⟨[7, 0, 255, 0], some .unsignedShort, 4, 1⟩, none⟩,
          ⟨[], false, none, 0, 0⟩) ∧
      (∀ p, Indices.pointer [7, 255] = .offset p →
        p + 2 * IndexType.unsignedByte.bytes ≤
          (State.init .d3d11 4 ⟨[], false, none, 0, 0⟩).buffer.getSize) ∧
      (((TranslatedIndexData.storage ⟨.unsignedShort, false, some .streamingShort, 1, 0, 0,
              ⟨.pointer [7, 255], .unsignedByte, 2⟩⟩ = true ∧
            TranslatedIndexData.indexBuffer ⟨.unsignedShort, false, some .streamingShort, 1, 0,
              0, ⟨.pointer [7, 255], .unsignedByte, 2⟩⟩ = none) ∨
          (TranslatedIndexData.storage ⟨.unsignedShort, false, some .streamingShort, 1, 0, 0,
              ⟨.pointer [7, 255], .unsignedByte, 2⟩⟩ = false ∧
            TranslatedIndexData.indexBuffer ⟨.unsignedShort, false, some .streamingShort, 1, 0,
              0, ⟨.pointer [7, 255], .unsignedByte, 2⟩⟩ = some .staticBuffer) ∨
          (TranslatedIndexData.storage ⟨.unsignedShort, false, some .streamingShort, 1, 0, 0,
              ⟨.pointer [7, 255], .unsignedByte, 2⟩⟩ = false ∧
            TranslatedIndexData.indexBuffer ⟨.unsignedShort, false, some .streamingShort, 1, 0,
                0, ⟨.pointer [7, 255], .unsignedByte, 2⟩⟩ =
              some (streamingRef (TranslatedIndexData.indexType ⟨.unsignedShort, false,
                some .streamingShort, 1, 0, 0, ⟨.pointer [7, 255], .unsignedByte, 2⟩⟩)))) ∧
        (TranslatedIndexData.storage ⟨.unsignedShort, false, some .streamingShort, 1, 0, 0,
            ⟨.pointer [7, 255], .unsignedByte, 2⟩⟩ = true →
          DirectDescriptor (State.init .d3d11 4 ⟨[], false, none, 0, 0⟩).buffer .unsignedByte 2
            ⟨.unsignedShort, false, some .streamingShort, 1, 0, 0,
              ⟨.pointer [7, 255], .unsignedByte, 2⟩⟩) ∧
        (∀ ref, TranslatedIndexData.indexBuffer ⟨.unsignedShort, false, some .streamingShort, 1,
            0, 0, ⟨.pointer [7, 255], .unsignedByte, 2⟩⟩ = some ref → ref ≠ .staticBuffer →
          StreamDescriptor ⟨.d3d11, 4, some ⟨[7, 0, 255, 0], some .unsignedShort, 4, 1⟩, none⟩
            2 (convertIndices .unsignedByte .unsignedShort
              (sourceData (State.init .d3d11 4 ⟨[], false, none, 0, 0⟩).buffer
                (.pointer [7, 255])) 2 false)
            ⟨.unsignedShort, false, some .streamingShort, 1, 0, 0,
              ⟨.pointer [7, 255], .unsignedByte, 2⟩⟩)) :=
  ⟨.init _ _ _, rfl, fun _ h => (nomatch h),
    @prepareIndexData_descriptor _ (.init _ _ _) ⟨fun _ => false, false⟩ .unsignedByte 2
      (.pointer [7, 255]) ⟨255, 2⟩ false _ _ _ rfl fun _ h => (nomatch h)⟩

end Rx
