/-
How much storage the manager and the buffer's static copy take.

`reserveBufferSpace` grows storage by doubling: a region that does not fit gets new
storage of `max size (2 * bufferSize)` bytes, so one reservation leaves at most twice
what it asked for, or what was there.  `StreamInIndexBuffer` stores only inside the
region it mapped, so the storage it leaves is the reservation's
(`bufferSize_streamInIndexBuffer`).

The file asks a streaming buffer for exactly the bytes it converts,
`count << dstShift`: the draw's own slice, also when it streams from a bound buffer
(Case 2b).  A streaming buffer is created with `INITIAL_INDEX_BUFFER_SIZE` bytes.
`SlotsWithin cap` says that both slots, and a slot created now, hold at most `cap`
bytes.  A draw that asks for at most half of `cap` keeps it, on every path and
whatever the collaborators answer, and no other event adds storage.  So along any run
from a fresh manager no streaming buffer ever holds more than its initial size or
twice the largest request of the run (`run_streamingBuffer_le`).

The static copy is the one reservation sized to the whole buffer: `convertCount`
elements, built once into an index buffer with no storage.  A destination element is
at most twice a source element, so in every reachable state the copy holds at most
twice the buffer's bytes (`reachable_staticCopy_le`).
-/
import IndexTranslation.Proofs.StaticCopy
import IndexTranslation.Proofs.StaticCache
import IndexTranslation.Proofs.Outcome

namespace Rx

open IndexDataManager

/-! ### One reservation -/

/-- `StreamInIndexBuffer` leaves the storage as it was or as its reservation made it,
whether it fails part way or not: the converted bytes fit the region it mapped. -/
theorem bufferSize_streamInIndexBuffer {r : Responses} {buffer : IndexBuffer}
    {data : List UInt8} {count : Nat} {srcType dstType : IndexType} {flag : Bool}
    (hc : convertible srcType dstType = true) :
    (streamInIndexBuffer r buffer data count srcType dstType flag).2.bufferSize =
        buffer.bufferSize ∨
      (streamInIndexBuffer r buffer data count srcType dstType flag).2.bufferSize =
        (buffer.reserveBufferSpace (count * dstType.bytes) dstType).bufferSize := by
  rcases @streamInIndexBuffer_snd_cases r buffer data count srcType dstType flag with
    h | ⟨-, h | h⟩ <;> rw [h]
  · exact .inl rfl
  · exact .inr rfl
  · exact .inr (IndexBuffer.bufferSize_write_of_le
      ((Nat.add_le_add_left (length_convertIndices_le hc data count flag) _).trans
        (buffer.reserveBufferSpace_fits (count * dstType.bytes) dstType)))

/-- One `StreamInIndexBuffer` leaves at most twice the bytes it converts, or what the
buffer held. -/
theorem bufferSize_streamInIndexBuffer_le {r : Responses} {buffer : IndexBuffer}
    {data : List UInt8} {count : Nat} {srcType dstType : IndexType} {flag : Bool}
    (hc : convertible srcType dstType = true) :
    (streamInIndexBuffer r buffer data count srcType dstType flag).2.bufferSize ≤
      max buffer.bufferSize (2 * (count * dstType.bytes)) := by
  rcases @bufferSize_streamInIndexBuffer r buffer data count srcType dstType flag hc with h | h <;>
    rw [h]
  · exact le_max_left _ _
  · exact buffer.bufferSize_reserveBufferSpace_le (count * dstType.bytes) dstType

/-- Into an index buffer with no storage, `StreamInIndexBuffer` leaves at most the bytes
it converts. -/
theorem bufferSize_streamInIndexBuffer_of_bufferSize_eq_zero {r : Responses}
    {buffer : IndexBuffer} {data : List UInt8} {count : Nat} {srcType dstType : IndexType}
    {flag : Bool} (hc : convertible srcType dstType = true) (h0 : buffer.bufferSize = 0) :
    (streamInIndexBuffer r buffer data count srcType dstType flag).2.bufferSize ≤
      count * dstType.bytes := by
  rcases @bufferSize_streamInIndexBuffer r buffer data count srcType dstType flag hc with h | h <;>
    rw [h]
  · exact h0 ▸ Nat.zero_le _
  · rw [IndexBuffer.bufferSize,
      IndexBuffer.contents_reserveBufferSpace_of_bufferSize_eq_zero _ _ h0, List.length_replicate]

/-! ### Slots within a bound -/

/-- Both streaming slots hold at most `cap` bytes, and so would a slot created now. -/
structure SlotsWithin (cap : Nat) (m : IndexDataManager) : Prop where
  initial : m.initialIndexBufferSize ≤ cap
  short : ∀ b, m.streamingBufferShort = some b → b.bufferSize ≤ cap
  int : ∀ b, m.streamingBufferInt = some b → b.bufferSize ≤ cap

namespace SlotsWithin

variable {cap : Nat} {m : IndexDataManager} {t : IndexType} {b : IndexBuffer}

theorem create (rendererClass : RendererClass) {initialIndexBufferSize : Nat}
    (h : initialIndexBufferSize ≤ cap) :
    SlotsWithin cap (IndexDataManager.create rendererClass initialIndexBufferSize) :=
  ⟨h, fun _ h => (nomatch h), fun _ h => (nomatch h)⟩

theorem deinitialize (hm : SlotsWithin cap m) :
    SlotsWithin cap (IndexDataManager.deinitialize m) :=
  ⟨hm.initial, fun _ h => (nomatch h), fun _ h => (nomatch h)⟩

theorem slot (hm : SlotsWithin cap m) (h : m.streamingBuffer t = some b) :
    b.bufferSize ≤ cap := by
  unfold IndexDataManager.streamingBuffer at h
  split at h
  · exact hm.int b h
  · exact hm.short b h

theorem setStreamingBuffer (hm : SlotsWithin cap m) (hb : b.bufferSize ≤ cap) :
    SlotsWithin cap (m.setStreamingBuffer t b) := by
  unfold IndexDataManager.setStreamingBuffer
  split
  · exact ⟨hm.initial, hm.short, fun _ h => Option.some_injective _ h ▸ hb⟩
  · exact ⟨hm.initial, fun _ h => Option.some_injective _ h ▸ hb, hm.int⟩

/-- `getStreamingIndexBuffer` keeps the bound and hands out a buffer within it: a new
buffer gets exactly the initial size. -/
theorem getStreamingIndexBuffer (hm : SlotsWithin cap m) (r : Responses) :
    SlotsWithin cap (m.getStreamingIndexBuffer r t).2 ∧
      ∀ b, (m.getStreamingIndexBuffer r t).1 = .ok b → b.bufferSize ≤ cap := by
  unfold IndexDataManager.getStreamingIndexBuffer
  split
  · rename_i b' hb'
    exact ⟨hm, fun b h => by cases h; exact hm.slot hb'⟩
  · split
    · exact ⟨hm, fun _ h => (nomatch h)⟩
    · have hnew : (IndexBuffer.empty.reserveBufferSpace m.initialIndexBufferSize t).bufferSize ≤
          cap := by
        rw [IndexBuffer.bufferSize,
          @IndexBuffer.contents_reserveBufferSpace_of_bufferSize_eq_zero .empty _ t rfl,
          List.length_replicate]
        exact hm.initial
      exact ⟨hm.setStreamingBuffer hnew, fun b h => by cases h; exact hnew⟩

/-- `streamIndexData` keeps the bound when twice the bytes it converts fit it, whatever
the collaborators do. -/
theorem streamIndexData (hm : SlotsWithin cap m) (r : Responses) (data : List UInt8)
    {count : Nat} {srcType : IndexType} (flag : Bool) (translated : TranslatedIndexData)
    (hc : convertible srcType t = true) (hreq : 2 * (count * t.bytes) ≤ cap) :
    SlotsWithin cap (m.streamIndexData r data count srcType t flag translated).2 := by
  obtain ⟨hm', hbuf⟩ := @SlotsWithin.getStreamingIndexBuffer cap m t hm r
  unfold IndexDataManager.streamIndexData
  split
  · rename_i heq; rw [heq] at hm'; exact hm'
  · rename_i indexBuffer m₁ heq
    rw [heq] at hm' hbuf
    have hle : (streamInIndexBuffer r indexBuffer data count srcType t flag).2.bufferSize ≤ cap :=
      (bufferSize_streamInIndexBuffer_le hc).trans (max_le (hbuf indexBuffer rfl) hreq)
    split <;> rename_i heq' <;> rw [heq'] at hle <;> exact hm'.setStreamingBuffer hle

/-- **A call keeps the streaming buffers within the bound** when twice the bytes its draw
converts fit it, on every path and whatever the collaborators answer: only the streaming
paths reserve, and they reserve the draw's slice. -/
theorem prepareIndexData (hm : SlotsWithin cap m) (b : BufferD3D) (r : Responses)
    (srcType : IndexType) (count : Nat) (indices : Indices) (indexRange : IndexRange)
    (flag : Bool)
    (hreq : 2 * (count * (translatedType m.rendererClass srcType count indexRange flag).bytes) ≤
      cap) :
    SlotsWithin cap (m.prepareIndexData b r srcType count indices indexRange flag).2.1 := by
  have hs := fun data => hm.streamIndexData r data flag
    (TranslatedIndexData.start (translatedType m.rendererClass srcType count indexRange flag)
      srcType count indices)
    (convertible_translatedType m.rendererClass srcType count indexRange flag) hreq
  rcases m.prepareIndexData_cases b r srcType count indices indexRange flag with
    ⟨data, -, hout⟩ | ⟨_, -, -, -, -, hout⟩ | ⟨p, sb, -, -, -, -, -, hout⟩ |
      ⟨p, -, -, -, hout⟩ <;> rw [hout]
  · exact hs data
  · exact hm
  · rw [(useStaticBuffer_state m r b sb _ _ srcType _ flag _).1]
    exact hm
  · rcases (streamFromBuffer_state m r _ (toUInt p) srcType _ count flag _).1 with h | h <;>
      rw [h]
    · exact hm
    · exact hs _

end SlotsWithin

/-! ### Runs -/

/-- The bytes an event asks a streaming buffer for, in state `s`: a draw's count of
elements of its destination type; other events ask for none. -/
def request (s : State) : Event → Nat
  | .draw _ srcType count _ indexRange flag =>
    count * (translatedType s.manager.rendererClass srcType count indexRange flag).bytes
  | _ => 0

/-- The event asks for at most `B` bytes in state `s`. -/
def RequestWithin (B : Nat) (s : State) (e : Event) : Bool :=
  decide (request s e ≤ B)

theorem SlotsWithin.step {cap B : Nat} {s : State} (hs : SlotsWithin cap s.manager)
    (hB : 2 * B ≤ cap) {e : Event} (he : request s e ≤ B) :
    SlotsWithin cap (step s e).manager := by
  cases e with
  | draw r srcType count indices indexRange flag =>
    exact hs.prepareIndexData s.buffer r srcType count indices indexRange flag
      (le_trans (Nat.mul_le_mul_left 2 he) hB)
  | bufferData => exact hs
  | promote => exact hs
  | deinitialize => exact hs.deinitialize

theorem SlotsWithin.run {cap B : Nat} {s : State} {events : List Event}
    (hs : SlotsWithin cap s.manager) (hB : 2 * B ≤ cap)
    (hreq : AllAlong (RequestWithin B) s events = true) : SlotsWithin cap (run s events).manager :=
  @AllAlong.run (fun s => SlotsWithin cap s.manager) _
    (fun _ _ h he => h.step hB (of_decide_eq_true he)) _ _ hs hreq

/-- **The streaming buffers never outgrow the draws.**  Along any run from a fresh
manager with initial buffer size `n` in which every draw converts at most `B` bytes,
whatever buffer updates, promotions, teardowns and collaborator failures come in
between, every streaming buffer holds at most `max n (2 * B)` bytes: a draw that
streams from a bound buffer reserves its own slice, never the whole buffer. -/
theorem run_streamingBuffer_le {rendererClass : RendererClass} {n B : Nat}
    {buffer : BufferD3D} {events : List Event}
    (hreq : AllAlong (RequestWithin B) (State.init rendererClass n buffer) events = true)
    {t : IndexType} {sb : IndexBuffer}
    (hsb : (run (State.init rendererClass n buffer) events).manager.streamingBuffer t = some sb) :
    sb.bufferSize ≤ max n (2 * B) :=
  ((SlotsWithin.create rendererClass (le_max_left n (2 * B))).run (le_max_right _ _) hreq).slot hsb

/-- Two bytes streamed from offset 1 of a 16-byte buffer, a content update, and three
shorts from client memory: the short buffer, created with 4 bytes, takes the first
draw's 4-byte slice and then doubles to 8, within `max 4 (2 * 6)`, where converting the
whole buffer would have needed 32. -/
theorem run_streamingBuffer_le_slice :
    AllAlong (RequestWithin 6)
      (State.init .d3d11 4
        ⟨[9, 1, 2, 9, 9, 9, 9, 9, 9, 9, 9, 9, 9, 9, 9, 9], false, none, 0, 0⟩)
      [.draw ⟨fun _ => false, false⟩ .unsignedByte 2 (.offset 1) ⟨2, 2⟩ false,
        .bufferData [5, 5] false,
        .draw ⟨fun _ => false, false⟩ .unsignedShort 3 (.pointer [1, 0, 2, 0, 3, 0]) ⟨3, 3⟩
          false] = true ∧
    (run
        (State.init .d3d11 4
          ⟨[9, 1, 2, 9, 9, 9, 9, 9, 9, 9, 9, 9, 9, 9, 9, 9], false, none, 0, 0⟩)
        [.draw ⟨fun _ => false, false⟩ .unsignedByte 2 (.offset 1) ⟨2, 2⟩ false,
          .bufferData [5, 5] false,
          .draw ⟨fun _ => false, false⟩ .unsignedShort 3 (.pointer [1, 0, 2, 0, 3, 0])
            ⟨3, 3⟩ false]).manager.streamingBuffer .unsignedShort =
      some ⟨[1, 0, 2, 0, 3, 0, 0, 0], some .unsignedShort, 6, 2⟩ ∧
    IndexBuffer.bufferSize ⟨[1, 0, 2, 0, 3, 0, 0, 0], some .unsignedShort, 6, 2⟩ ≤
      max 4 (2 * 6) :=
  ⟨by decide, rfl, @run_streamingBuffer_le .d3d11 4 6
    ⟨[9, 1, 2, 9, 9, 9, 9, 9, 9, 9, 9, 9, 9, 9, 9, 9], false, none, 0, 0⟩
    [.draw ⟨fun _ => false, false⟩ .unsignedByte 2 (.offset 1) ⟨2, 2⟩ false,
      .bufferData [5, 5] false,
      .draw ⟨fun _ => false, false⟩ .unsignedShort 3 (.pointer [1, 0, 2, 0, 3, 0]) ⟨3, 3⟩
        false]
    (by decide) .unsignedShort _ rfl⟩

/-! ### The static copy -/

/-- The buffer's static copy, if it has one, holds at most twice the buffer's bytes. -/
def CopyWithin (b : BufferD3D) : Prop :=
  ∀ sb, b.staticIndexBuffer = some sb → sb.bufferSize ≤ 2 * b.getSize

theorem copyWithin_of_empty {b : BufferD3D}
    (h : b.staticIndexBuffer = none ∨ b.staticIndexBuffer = some .empty) : CopyWithin b := by
  intro sb hsb
  rcases h with h | h <;> rw [h] at hsb <;> cases hsb
  exact Nat.zero_le _

/-- A copy built into an index buffer with no storage holds at most twice the buffer's
bytes: it converts `convertCount` elements, and widening at most doubles an element. -/
theorem bufferSize_staticBuild_le {r : Responses} {b : BufferD3D} {sb : IndexBuffer}
    {srcType dstType : IndexType} {flag : Bool} (hc : convertible srcType dstType = true)
    (h0 : sb.bufferSize = 0) :
    (streamInIndexBuffer r sb b.data (convertCount b srcType) srcType dstType flag).2.bufferSize ≤
      2 * b.getSize :=
  calc _ ≤ convertCount b srcType * dstType.bytes :=
        bufferSize_streamInIndexBuffer_of_bufferSize_eq_zero hc h0
    _ ≤ convertCount b srcType * (2 * srcType.bytes) :=
        Nat.mul_le_mul_left _ (bytes_le_two_mul_of_convertible hc)
    _ = 2 * (convertCount b srcType * srcType.bytes) := Nat.mul_left_comm _ _ _
    _ ≤ 2 * b.getSize := Nat.mul_le_mul_left 2 (convertCount_mul_le b srcType)

/-- A call keeps the copy within twice the buffer's bytes, whatever path it takes and
whatever the collaborators answer. -/
theorem CopyWithin.prepareIndexData {b : BufferD3D} (hb : CopyWithin b) (m : IndexDataManager)
    (r : Responses) (srcType : IndexType) (count : Nat) (indices : Indices)
    (indexRange : IndexRange) (flag : Bool) :
    CopyWithin (m.prepareIndexData b r srcType count indices indexRange flag).2.2 := by
  have hd := data_prepareIndexData m b r srcType count indices indexRange flag
  intro sb' hsb'
  rw [BufferD3D.getSize, hd]
  rcases staticIndexBuffer_cases m b r srcType count indices indexRange flag with
    h | ⟨_, sb, -, -, -, -, h0, h⟩ | ⟨_, _, -, -, -, -, -, h | h⟩ | ⟨-, h⟩ <;>
    rw [h] at hsb'
  · exact hb sb' hsb'
  · rw [← Option.some_inj.1 hsb']
    exact bufferSize_staticBuild_le
      (convertible_translatedType m.rendererClass srcType count indexRange flag) h0
  · cases hsb'
  all_goals cases hsb'; exact Nat.zero_le _

theorem CopyWithin.step {s : State} (hs : CopyWithin s.buffer) (e : Event) :
    CopyWithin (step s e).buffer := by
  cases e with
  | draw r srcType count indices indexRange flag =>
    exact hs.prepareIndexData s.manager r srcType count indices indexRange flag
  | bufferData => exact copyWithin_of_empty (.inl rfl)
  | promote dataSize promotes =>
    rcases s.buffer.staticIndexBuffer_promoteStaticUsage dataSize promotes with h | ⟨-, h⟩
    · exact fun sb hsb => hs sb (h ▸ hsb)
    · exact copyWithin_of_empty (.inr h)
  | deinitialize => exact hs

/-- **The static copy never holds more than twice the buffer.**  In every reachable
state, whatever draws were made, whatever the collaborators answered and however often
the buffer's content was replaced, the buffer's static copy holds at most twice as many
bytes as the buffer: it is built once, for the whole buffer, into an index buffer with
no storage, and a destination element is at most twice a source element. -/
theorem reachable_staticCopy_le {s : State} (hs : Reachable s) (sb : IndexBuffer)
    (hsb : s.buffer.staticIndexBuffer = some sb) : sb.bufferSize ≤ 2 * s.buffer.getSize := by
  induction hs generalizing sb with
  | init => exact copyWithin_of_empty (.inl rfl) sb hsb
  | step _ e ih => exact CopyWithin.step ih e sb hsb

/-- A two-byte buffer whose usage is promoted, then drawn as bytes with restart on: the
copy, widened to shorts, takes four bytes, the bound exactly. -/
theorem reachable_staticCopy_le_widened :
    Reachable (run (State.init .d3d11 4 ⟨[0xFF, 1], false, none, 0, 0⟩)
      [.promote 0 true,
        .draw ⟨fun _ => false, false⟩ .unsignedByte 2 (.offset 0) ⟨0xFF, 2⟩ true]) ∧
    (run (State.init .d3d11 4 ⟨[0xFF, 1], false, none, 0, 0⟩)
      [.promote 0 true,
        .draw ⟨fun _ => false, false⟩ .unsignedByte 2 (.offset 0) ⟨0xFF, 2⟩
          true]).buffer.staticIndexBuffer =
      some ⟨[0xFF, 0xFF, 1, 0], some .unsignedShort, 4, 1⟩ ∧
    IndexBuffer.bufferSize ⟨[0xFF, 0xFF, 1, 0], some .unsignedShort, 4, 1⟩ ≤
      2 * (run (State.init .d3d11 4 ⟨[0xFF, 1], false, none, 0, 0⟩)
        [.promote 0 true,
          .draw ⟨fun _ => false, false⟩ .unsignedByte 2 (.offset 0) ⟨0xFF, 2⟩
            true]).buffer.getSize :=
  have hs := (Reachable.init .d3d11 4 ⟨[0xFF, 1], false, none, 0, 0⟩).run
    [.promote 0 true,
      .draw ⟨fun _ => false, false⟩ .unsignedByte 2 (.offset 0) ⟨0xFF, 2⟩ true]
  ⟨hs, rfl, reachable_staticCopy_le hs _ rfl⟩

end Rx
