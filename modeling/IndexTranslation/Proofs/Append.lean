/-
Streaming buffers are only appended to, over whole runs.

A draw does not read its indices when `prepareIndexData` returns: the backend queues
it, and the streaming buffer it points into keeps being written by later calls.
Direct3D allows that only for a write that discards the buffer (one at offset 0) or
one that overwrites nothing handed out before.  The file keeps the second promise by
construction: each call reserves exactly the bytes it converts, maps them at the
write position the reservation leaves, and stores only there, and the paths that do
not stream leave the slots alone.

`Extends sb₀ sb` says that `sb` is `sb₀` grown by appends: the same storage (its
serial and its size), a write position no lower, and every byte below `sb₀`'s write
position as it was.  The next call that streams into a slot at a nonzero offset, the
backend's sign that it maps without discarding, extended the slot and wrote from its
old write position on, so the draw before it still reads the same indices
(`prepareIndexData_append_keeps_draw`).  A call whose bytes fit after its slot's write
position extends that slot and leaves the other one as it was, whatever path it takes
and whatever the collaborators answer (`slotExtends_prepareIndexData`); buffer updates
and promotions do not touch the slots.  So along any run in which no draw needs its
slot restarted and the manager is not torn down, the slot a draw was streamed into is
extended, and the draw still reads its indices after the run
(`run_keeps_streamed_draw`).
-/
import IndexTranslation.Proofs.Draw

namespace Rx

open IndexDataManager

/-! ### Appends to one buffer -/

/-- `sb` is `sb₀` grown by appends: the same storage, of the same serial and size, a
write position no lower, and every byte below `sb₀`'s write position as it was. -/
structure Extends (sb₀ sb : IndexBuffer) : Prop where
  serial : sb.serial = sb₀.serial
  size : sb.bufferSize = sb₀.bufferSize
  writePosition : sb₀.writePosition ≤ sb.writePosition
  kept : sb.contents.take sb₀.writePosition = sb₀.contents.take sb₀.writePosition

namespace Extends

theorem refl (sb : IndexBuffer) : Extends sb sb := ⟨rfl, rfl, le_rfl, rfl⟩

theorem trans {sb₀ sb₁ sb₂ : IndexBuffer} (h₁ : Extends sb₀ sb₁)
    (h₂ : Extends sb₁ sb₂) : Extends sb₀ sb₂ where
  serial := h₂.serial.trans h₁.serial
  size := h₂.size.trans h₁.size
  writePosition := h₁.writePosition.trans h₂.writePosition
  kept := by
    calc sb₂.contents.take sb₀.writePosition
        = (sb₂.contents.take sb₁.writePosition).take sb₀.writePosition := by
          rw [List.take_take, min_eq_left h₁.writePosition]
      _ = (sb₁.contents.take sb₁.writePosition).take sb₀.writePosition := by rw [h₂.kept]
      _ = sb₀.contents.take sb₀.writePosition := by
          rw [List.take_take, min_eq_left h₁.writePosition, h₁.kept]

/-- `StreamInIndexBuffer` appends when its bytes fit after the write position, whether
it fails part way or not: the reservation keeps the storage, and the stores go at the
write position. -/
theorem streamInIndexBuffer {r : Responses} {buffer : IndexBuffer} {data : List UInt8}
    {count : Nat} {srcType dstType : IndexType} {flag : Bool}
    (hc : convertible srcType dstType = true)
    (hfit : buffer.writePosition + count * dstType.bytes ≤ buffer.bufferSize) :
    Extends buffer (streamInIndexBuffer r buffer data count srcType dstType flag).2 := by
  have hres := IndexBuffer.reserveBufferSpace_of_fits dstType hfit
  rcases @streamInIndexBuffer_snd_cases r buffer data count srcType dstType flag with
    h | ⟨-, h | h⟩ <;> rw [h]
  · exact refl buffer
  · rw [hres]
    exact ⟨rfl, rfl, le_rfl, rfl⟩
  · -- The converted bytes fit the region mapped at the write position.
    have hlen := (Nat.add_le_add_left (length_convertIndices_le hc data count flag) _).trans hfit
    rw [hres]
    exact ⟨rfl, IndexBuffer.bufferSize_write_of_le hlen, Nat.le_add_right _ _,
      IndexBuffer.take_write _ (Nat.le_of_add_right_le hlen)⟩

end Extends

/-! ### Appends to a slot -/

/-- The slot of type `ty` holds a buffer that extends `sb₀`. -/
def SlotExtends (ty : IndexType) (sb₀ : IndexBuffer) (m : IndexDataManager) : Prop :=
  ∃ sb, m.streamingBuffer ty = some sb ∧ Extends sb₀ sb

theorem SlotExtends.trans {ty : IndexType} {sb₀ sb : IndexBuffer} {m : IndexDataManager}
    (h : Extends sb₀ sb) (h' : SlotExtends ty sb m) :
    SlotExtends ty sb₀ m :=
  have ⟨sb', hsb', hext⟩ := h'
  ⟨sb', hsb', h.trans hext⟩

/-- A descriptor into the slot of its index type reads the same from any extension of
the buffer, as long as its elements end by the buffer's write position. -/
theorem drawnIndices_of_extends {m m' : IndexDataManager} {b b' : BufferD3D}
    {t : TranslatedIndexData} {count : Nat} {sb sb' : IndexBuffer} (hs : t.storage = false)
    (hr : t.indexBuffer = some (streamingRef t.indexType))
    (hsb : m.streamingBuffer t.indexType = some sb)
    (hsb' : m'.streamingBuffer t.indexType = some sb')
    (hend : t.startOffset + count * t.indexType.bytes ≤ sb.writePosition)
    (hext : Extends sb sb') :
    drawnIndices m' b' t count = drawnIndices m b t count := by
  rw [drawnIndices, drawnIndices, boundStorage_streamingRef hs hr, boundStorage_streamingRef hs hr,
    hsb, hsb', Option.map_some', Option.map_some', Option.map_some', Option.map_some']
  exact congrArg some (indexValues_drop_of_take_eq _ hext.kept hend)

section Stream

variable {m : IndexDataManager} {r : Responses} {data : List UInt8} {count : Nat}
  {srcType dstType : IndexType} {flag : Bool} {translated : TranslatedIndexData}

/-- With the slot present, `streamIndexData` streams into the very buffer it holds. -/
theorem streamIndexData_snd_of_streamingBuffer {sb : IndexBuffer}
    (hsb : m.streamingBuffer dstType = some sb) :
    (m.streamIndexData r data count srcType dstType flag translated).2 =
      m.setStreamingBuffer dstType
        (streamInIndexBuffer r sb data count srcType dstType flag).2 := by
  have hget : m.getStreamingIndexBuffer r dstType = (.ok sb, m) := by
    simp [getStreamingIndexBuffer, hsb]
  simp only [streamIndexData, hget]
  split <;> rename_i heq <;> rw [heq]

/-- `streamIndexData` leaves the other slot as it was. -/
theorem streamingBuffer_streamIndexData_of_ne {ty : IndexType} (hty : ty ≠ .unsignedByte)
    (hdst : dstType ≠ .unsignedByte) (hne : ty ≠ dstType) :
    (m.streamIndexData r data count srcType dstType flag translated).2.streamingBuffer ty =
      m.streamingBuffer ty := by
  have hget :
      (m.getStreamingIndexBuffer r dstType).2.streamingBuffer ty = m.streamingBuffer ty := by
    unfold getStreamingIndexBuffer
    split
    · rfl
    · split_ifs
      · rfl
      · exact streamingBuffer_setStreamingBuffer_of_ne _ hty hdst hne
  unfold streamIndexData
  split <;> rename_i heq <;> rw [heq] at hget
  · exact hget
  · split <;> rw [streamingBuffer_setStreamingBuffer_of_ne _ hty hdst hne, hget]

theorem slotExtends_streamIndexData {ty : IndexType} {sb : IndexBuffer}
    (hc : convertible srcType dstType = true) (hty : ty ≠ .unsignedByte)
    (hdst : dstType ≠ .unsignedByte)
    (hsb : m.streamingBuffer ty = some sb)
    (hfit : dstType = ty → sb.writePosition + count * ty.bytes ≤ sb.bufferSize) :
    SlotExtends ty sb (m.streamIndexData r data count srcType dstType flag translated).2 := by
  by_cases hne : ty = dstType
  · subst hne
    rw [streamIndexData_snd_of_streamingBuffer hsb]
    exact ⟨_, streamingBuffer_setStreamingBuffer _ _ _,
      Extends.streamInIndexBuffer hc (hfit rfl)⟩
  · exact ⟨sb, by rw [streamingBuffer_streamIndexData_of_ne hty hdst hne, hsb],
      Extends.refl sb⟩

end Stream

/-- **A call appends to a slot or leaves it alone.**  When the slot of type `ty` holds a
buffer, and the call's bytes fit after that buffer's write position if the call's
destination type is `ty`, the slot afterwards holds an extension of the buffer, whatever
path the call takes and whatever the collaborators answer. -/
theorem slotExtends_prepareIndexData {m : IndexDataManager} (b : BufferD3D) (r : Responses)
    (srcType : IndexType) (count : Nat) (indices : Indices) (indexRange : IndexRange) (flag : Bool)
    {ty : IndexType} {sb : IndexBuffer} (hty : ty ≠ .unsignedByte)
    (hsb : m.streamingBuffer ty = some sb)
    (hfit : translatedType m.rendererClass srcType count indexRange flag = ty →
      sb.writePosition + count * ty.bytes ≤ sb.bufferSize) :
    SlotExtends ty sb (m.prepareIndexData b r srcType count indices indexRange flag).2.1 := by
  have hdst := translatedType_ne_unsignedByte m.rendererClass srcType count indexRange flag
  have hc := convertible_translatedType m.rendererClass srcType count indexRange flag
  have hkeep : SlotExtends ty sb m := ⟨sb, hsb, Extends.refl sb⟩
  rcases m.prepareIndexData_cases b r srcType count indices indexRange flag with
    ⟨data, -, hout⟩ | ⟨_, -, -, -, -, hout⟩ | ⟨p, sb', -, -, -, -, -, hout⟩ |
      ⟨p, -, -, -, hout⟩ <;> rw [hout]
  · exact slotExtends_streamIndexData hc hty hdst hsb hfit
  · exact hkeep
  · rw [(useStaticBuffer_state m r b sb' _ _ srcType _ flag _).1]
    exact hkeep
  · rcases (streamFromBuffer_state m r _ (toUInt p) srcType _ count flag _).1 with h | h <;>
      rw [h]
    · exact hkeep
    · exact slotExtends_streamIndexData hc hty hdst hsb hfit

/-! ### The next call -/

/-- **An earlier draw survives a later append.**  Let one call stream a draw, and the
next call stream into the same slot at a nonzero offset, that is, without restarting
the buffer (the backend maps such a region without discarding).  The second call wrote
from the first one's write position on, and the slot it leaves extends the one the
first call left: the same storage, of the same serial and size, with every byte the
first call handed out as it was.  So the first draw's descriptor still reads the same
indices afterwards. -/
theorem prepareIndexData_append_keeps_draw {m m₁ m₂ : IndexDataManager} {b b₁ b₂ : BufferD3D}
    {r₁ r₂ : Responses} {srcType₁ srcType₂ : IndexType} {count₁ count₂ : Nat}
    {indices₁ indices₂ : Indices} {indexRange₁ indexRange₂ : IndexRange} {flag₁ flag₂ : Bool}
    {t₁ t₂ : TranslatedIndexData} {ref : IndexBufferRef}
    (h₁ : m.prepareIndexData b r₁ srcType₁ count₁ indices₁ indexRange₁ flag₁ = (.ok t₁, m₁, b₁))
    (h₂ : m₁.prepareIndexData b₁ r₂ srcType₂ count₂ indices₂ indexRange₂ flag₂ = (.ok t₂, m₂, b₂))
    (href : ref ≠ .staticBuffer) (hr₁ : t₁.indexBuffer = some ref) (hr₂ : t₂.indexBuffer = some ref)
    (hoff : t₂.startOffset ≠ 0) :
    (∃ sb₁ sb₂, m₁.streamingBuffer t₁.indexType = some sb₁ ∧
        m₂.streamingBuffer t₁.indexType = some sb₂ ∧ t₂.startOffset = sb₁.writePosition ∧
        Extends sb₁ sb₂) ∧
      drawnIndices m₂ b₂ t₁ count₁ = drawnIndices m₁ b₁ t₁ count₁ := by
  have hs₁ := streamIndexData_of_prepareIndexData h₁ hr₁ href
  have hs₂ := streamIndexData_of_prepareIndexData h₂ hr₂ href
  have hc := convertible_translatedType m₁.rendererClass srcType₂ count₂ indexRange₂ flag₂
  obtain ⟨o₁, sb₁, rfl, hsb₁, hwp, -⟩ := streamIndexData_written hs₁
  -- The second call streamed into the first one's slot.
  have hsame := streamingRef_injective (translatedType_ne_unsignedByte _ _ _ _ _)
    (translatedType_ne_unsignedByte _ _ _ _ _)
    (Option.some_injective _
      ((streamIndexData_ok_fields hs₂).2.2.symm.trans (hr₂.trans hr₁.symm)))
  rw [hsame] at hs₂ hc
  obtain ⟨sb, hsb, hoff₂, hfit⟩ := streamIndexData_appends hs₂ hoff
  obtain rfl : sb₁ = sb := Option.some.inj (hsb₁.symm.trans hsb)
  have hm₂ := congrArg Prod.snd hs₂
  dsimp only at hm₂
  obtain ⟨sb₂, hsb₂, hext⟩ :
      SlotExtends (translatedType m.rendererClass srcType₁ count₁ indexRange₁ flag₁) sb₁ m₂ :=
    hm₂ ▸ slotExtends_streamIndexData hc (translatedType_ne_unsignedByte _ _ _ _ _)
      (translatedType_ne_unsignedByte _ _ _ _ _) hsb₁ fun _ => hfit
  exact ⟨⟨sb₁, sb₂, hsb₁, hsb₂, hoff₂, hext⟩,
    drawnIndices_of_extends rfl rfl hsb₁ hsb₂ hwp.ge hext⟩

/-- Two client draws into a fresh short slot of 8 bytes: the second is appended at
offset 4, into the same storage, and the first still reads `[1, 2]`. -/
theorem prepareIndexData_append_keeps_draw_pointer :
    (IndexDataManager.create .d3d11 8).prepareIndexData ⟨[], false, none, 0, 0⟩
        ⟨fun _ => false, false⟩ .unsignedByte 2 (.pointer [1, 2]) ⟨2, 2⟩ false =
      (.ok ⟨.unsignedShort, false, some .streamingShort, 1, 0, 0,
          ⟨.pointer [1, 2], .unsignedByte, 2⟩⟩,
        ⟨.d3d11, 8, some ⟨[1, 0, 2, 0, 0, 0, 0, 0], some .unsignedShort, 4, 1⟩, none⟩,
        ⟨[], false, none, 0, 0⟩) ∧
    IndexDataManager.prepareIndexData
        ⟨.d3d11, 8, some ⟨[1, 0, 2, 0, 0, 0, 0, 0], some .unsignedShort, 4, 1⟩, none⟩
        ⟨[], false, none, 0, 0⟩ ⟨fun _ => false, false⟩ .unsignedByte 1 (.pointer [3]) ⟨3, 1⟩
        false =
      (.ok ⟨.unsignedShort, false, some .streamingShort, 1, 2, 4,
          ⟨.pointer [3], .unsignedByte, 1⟩⟩,
        ⟨.d3d11, 8, some ⟨[1, 0, 2, 0, 3, 0, 0, 0], some .unsignedShort, 6, 1⟩, none⟩,
        ⟨[], false, none, 0, 0⟩) ∧
    IndexBufferRef.streamingShort ≠ .staticBuffer ∧ (4 : Nat) ≠ 0 ∧
    ((∃ sb₁ sb₂, IndexDataManager.streamingBuffer
          ⟨.d3d11, 8, some ⟨[1, 0, 2, 0, 0, 0, 0, 0], some .unsignedShort, 4, 1⟩, none⟩
          .unsignedShort = some sb₁ ∧
        IndexDataManager.streamingBuffer
          ⟨.d3d11, 8, some ⟨[1, 0, 2, 0, 3, 0, 0, 0], some .unsignedShort, 6, 1⟩, none⟩
          .unsignedShort = some sb₂ ∧
        4 = sb₁.writePosition ∧ Extends sb₁ sb₂) ∧
      drawnIndices ⟨.d3d11, 8, some ⟨[1, 0, 2, 0, 3, 0, 0, 0], some .unsignedShort, 6, 1⟩, none⟩
          ⟨[], false, none, 0, 0⟩
          ⟨.unsignedShort, false, some .streamingShort, 1, 0, 0,
            ⟨.pointer [1, 2], .unsignedByte, 2⟩⟩ 2 =
        drawnIndices ⟨.d3d11, 8, some ⟨[1, 0, 2, 0, 0, 0, 0, 0], some .unsignedShort, 4, 1⟩, none⟩
          ⟨[], false, none, 0, 0⟩
          ⟨.unsignedShort, false, some .streamingShort, 1, 0, 0,
            ⟨.pointer [1, 2], .unsignedByte, 2⟩⟩ 2) :=
  ⟨rfl, rfl, by decide, by decide,
    @prepareIndexData_append_keeps_draw (IndexDataManager.create .d3d11 8) _ _ _ _ _
      ⟨fun _ => false, false⟩ ⟨fun _ => false, false⟩ .unsignedByte .unsignedByte 2 1
      (.pointer [1, 2]) (.pointer [3]) ⟨2, 2⟩ ⟨3, 1⟩ false false _ _ .streamingShort
      rfl rfl (by decide) rfl rfl (by decide)⟩

/-! ### Runs without a restart -/

/-- An event that appends to the slot of type `ty` or leaves it alone, when it happens in
state `s`: a draw of another destination type, or one whose bytes fit after the slot's
write position; a buffer update; a promotion.  Tearing the manager down drops the slot. -/
def Appends (ty : IndexType) (s : State) : Event → Bool
  | .draw _ srcType count _ indexRange flag =>
    translatedType s.manager.rendererClass srcType count indexRange flag != ty ||
      (s.manager.streamingBuffer ty).all fun sb =>
        sb.writePosition + count * ty.bytes ≤ sb.bufferSize
  | .bufferData .. => true
  | .promote .. => true
  | Event.deinitialize => false

theorem SlotExtends.step {ty : IndexType} {sb₀ : IndexBuffer} {s : State} {e : Event}
    (hty : ty ≠ .unsignedByte) (h : SlotExtends ty sb₀ s.manager)
    (happ : Appends ty s e = true) : SlotExtends ty sb₀ (step s e).manager := by
  obtain ⟨sb, hsb, hext⟩ := h
  cases e with
  | draw r srcType count indices indexRange flag =>
    refine SlotExtends.trans hext
      (slotExtends_prepareIndexData s.buffer r srcType count indices indexRange flag hty hsb ?_)
    intro hd
    simpa [Appends, hd, hsb] using happ
  | bufferData => exact ⟨sb, hsb, hext⟩
  | promote => exact ⟨sb, hsb, hext⟩
  | deinitialize => cases happ

theorem SlotExtends.run {ty : IndexType} {sb₀ : IndexBuffer} {s : State} {events : List Event}
    (hty : ty ≠ .unsignedByte) (h : SlotExtends ty sb₀ s.manager)
    (happ : AllAlong (Appends ty) s events = true) : SlotExtends ty sb₀ (run s events).manager :=
  @AllAlong.run (fun s => SlotExtends ty sb₀ s.manager) _ (fun _ _ h ha => h.step hty ha) _ _
    h happ

/-- **A streamed draw survives every later append.**  Let a call stream a draw into a
slot, and let any run follow in which every draw into that slot fits after its write
position: buffer updates, promotions, draws on every path and of every type, and
collaborator failures anywhere.  The slot after the run extends the one the call left:
the same storage, of the same serial and size, with every byte the call handed out as it
was.  So the draw's descriptor still reads exactly the application's values it was made
from, the restart value carried over, after the run. -/
theorem run_keeps_streamed_draw {s : State} {r : Responses} {srcType : IndexType}
    {count : Nat} {indices : Indices} {indexRange : IndexRange} {flag : Bool}
    {t : TranslatedIndexData}
    {m₁ : IndexDataManager} {b₁ : BufferD3D} {ref : IndexBufferRef} {events : List Event}
    (h : s.manager.prepareIndexData s.buffer r srcType count indices indexRange flag =
      (.ok t, m₁, b₁))
    (hin : count * srcType.bytes ≤ (sourceData s.buffer indices).length)
    (hr : t.indexBuffer = some ref) (href : ref ≠ .staticBuffer)
    (happ : AllAlong (Appends t.indexType) ⟨m₁, b₁⟩ events = true) :
    (∃ sb₁ sb, m₁.streamingBuffer t.indexType = some sb₁ ∧
        (run ⟨m₁, b₁⟩ events).manager.streamingBuffer t.indexType = some sb ∧
        Extends sb₁ sb) ∧
      drawnIndices (run ⟨m₁, b₁⟩ events).manager (run ⟨m₁, b₁⟩ events).buffer t count =
        some (intendedIndices s.buffer srcType t.indexType count indices flag) := by
  have hdraw := drawnIndices_of_not_staticBuffer h hin
    (by rw [hr]; exact fun h' => href (Option.some_injective _ h'))
  obtain ⟨o, sb, rfl, hsb, hwp, -⟩ :=
    streamIndexData_written (streamIndexData_of_prepareIndexData h hr href)
  obtain ⟨sb', hsb', hext⟩ := @SlotExtends.run _ sb ⟨m₁, b₁⟩ events
    (translatedType_ne_unsignedByte _ _ _ _ _) ⟨sb, hsb, Extends.refl sb⟩ happ
  exact ⟨⟨sb, sb', hsb, hsb', hext⟩,
    (drawnIndices_of_extends rfl rfl hsb hsb' hwp.ge hext).trans hdraw⟩

/-- Two bytes streamed into a fresh short slot of 8 bytes; then a buffer update, a short
draw appended after them, an int draw into the other slot, a promotion, and a byte draw
whose `mapBuffer` fails after its reservation.  The short slot ends holding the first
four bytes as they were, and the first draw still reads `[1, 2]`. -/
theorem run_keeps_streamed_draw_interleaved :
    (State.init .d3d11 8 ⟨[], false, none, 0, 0⟩).manager.prepareIndexData
        (State.init .d3d11 8 ⟨[], false, none, 0, 0⟩).buffer ⟨fun _ => false, false⟩
        .unsignedByte 2 (.pointer [1, 2]) ⟨2, 2⟩ false =
      (.ok ⟨.unsignedShort, false, some .streamingShort, 1, 0, 0,
          ⟨.pointer [1, 2], .unsignedByte, 2⟩⟩,
        ⟨.d3d11, 8, some ⟨[1, 0, 2, 0, 0, 0, 0, 0], some .unsignedShort, 4, 1⟩, none⟩,
        ⟨[], false, none, 0, 0⟩) ∧
    2 * IndexType.unsignedByte.bytes ≤
      (sourceData (State.init .d3d11 8 ⟨[], false, none, 0, 0⟩).buffer
        (.pointer [1, 2])).length ∧
    IndexBufferRef.streamingShort ≠ .staticBuffer ∧
    AllAlong (Appends .unsignedShort)
      ⟨⟨.d3d11, 8, some ⟨[1, 0, 2, 0, 0, 0, 0, 0], some .unsignedShort, 4, 1⟩, none⟩,
        ⟨[], false, none, 0, 0⟩⟩
      [.bufferData [7, 7] false,
        .draw ⟨fun _ => false, false⟩ .unsignedShort 1 (.pointer [9, 0]) ⟨9, 1⟩ false,
        .draw ⟨fun _ => false, false⟩ .unsignedInt 1 (.pointer [1, 0, 0, 0]) ⟨1, 1⟩ false,
        .promote 4 true,
        .draw ⟨fun c => c == .mapBuffer, false⟩ .unsignedByte 1 (.pointer [5]) ⟨5, 1⟩
          false] = true ∧
    run
        ⟨⟨.d3d11, 8, some ⟨[1, 0, 2, 0, 0, 0, 0, 0], some .unsignedShort, 4, 1⟩, none⟩,
          ⟨[], false, none, 0, 0⟩⟩
        [.bufferData [7, 7] false,
          .draw ⟨fun _ => false, false⟩ .unsignedShort 1 (.pointer [9, 0]) ⟨9, 1⟩ false,
          .draw ⟨fun _ => false, false⟩ .unsignedInt 1 (.pointer [1, 0, 0, 0]) ⟨1, 1⟩ false,
          .promote 4 true,
          .draw ⟨fun c => c == .mapBuffer, false⟩ .unsignedByte 1 (.pointer [5]) ⟨5, 1⟩
            false] =
      ⟨⟨.d3d11, 8, some ⟨[1, 0, 2, 0, 9, 0, 0, 0], some .unsignedShort, 6, 1⟩,
          some ⟨[1, 0, 0, 0, 0, 0, 0, 0], some .unsignedInt, 4, 1⟩⟩,
        ⟨[7, 7], false, some ⟨[], none, 0, 0⟩, 1, 4⟩⟩ ∧
    ((∃ sb₁ sb, IndexDataManager.streamingBuffer
          ⟨.d3d11, 8, some ⟨[1, 0, 2, 0, 0, 0, 0, 0], some .unsignedShort, 4, 1⟩, none⟩
          .unsignedShort = some sb₁ ∧
        IndexDataManager.streamingBuffer
          ⟨.d3d11, 8, some ⟨[1, 0, 2, 0, 9, 0, 0, 0], some .unsignedShort, 6, 1⟩,
            some ⟨[1, 0, 0, 0, 0, 0, 0, 0], some .unsignedInt, 4, 1⟩⟩ .unsignedShort = some sb ∧
        Extends sb₁ sb) ∧
      drawnIndices
          ⟨.d3d11, 8, some ⟨[1, 0, 2, 0, 9, 0, 0, 0], some .unsignedShort, 6, 1⟩,
            some ⟨[1, 0, 0, 0, 0, 0, 0, 0], some .unsignedInt, 4, 1⟩⟩
          ⟨[7, 7], false, some ⟨[], none, 0, 0⟩, 1, 4⟩
          ⟨.unsignedShort, false, some .streamingShort, 1, 0, 0,
            ⟨.pointer [1, 2], .unsignedByte, 2⟩⟩ 2 =
        some (intendedIndices (State.init .d3d11 8 ⟨[], false, none, 0, 0⟩).buffer
          .unsignedByte .unsignedShort 2 (.pointer [1, 2]) false)) ∧
    intendedIndices (State.init .d3d11 8 ⟨[], false, none, 0, 0⟩).buffer .unsignedByte
      .unsignedShort 2 (.pointer [1, 2]) false = [1, 2] :=
  ⟨rfl, by decide, by decide, by decide, rfl,
    @run_keeps_streamed_draw (State.init .d3d11 8 ⟨[], false, none, 0, 0⟩)
      ⟨fun _ => false, false⟩ .unsignedByte 2 (.pointer [1, 2]) ⟨2, 2⟩ false _ _ _
      .streamingShort
      [.bufferData [7, 7] false,
        .draw ⟨fun _ => false, false⟩ .unsignedShort 1 (.pointer [9, 0]) ⟨9, 1⟩ false,
        .draw ⟨fun _ => false, false⟩ .unsignedInt 1 (.pointer [1, 0, 0, 0]) ⟨1, 1⟩ false,
        .promote 4 true,
        .draw ⟨fun c => c == .mapBuffer, false⟩ .unsignedByte 1 (.pointer [5]) ⟨5, 1⟩ false]
      rfl (by decide) rfl (by decide) (by decide), by decide⟩

end Rx
