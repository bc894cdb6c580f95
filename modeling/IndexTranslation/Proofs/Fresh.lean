/-
The static copy never outlives the bytes it was made from.

Nothing in the file compares the copy with the buffer's bytes: `staticBufferUsable`
looks at the copy's index type and the alignment only.  That a copy never shows a
draw an older content of the buffer rests on the run instead.  The bytes change only
through `bufferData`, which drops the copy; a call builds the copy only into an empty
index buffer and from the bytes it is given; every other event leaves it alone, drops
it, or puts an empty one in its place.

`CopyFresh` says what follows for every reachable state, whatever the collaborators
answered along the way (`reachable_copyFresh`).  An initialized copy holds exactly
the buffer's current bytes, converted whole from some source type with some restart
flag into the copy's index type, or, when a build failed after its reservation, a
zero-filled reservation of the size such a conversion needs.  Either is empty when the
source type leaves no whole element, so an initialized copy always comes from at least
one element of the current bytes.  Which source type and flag it was, the copy does not
say; a draw of another kind is served it all the same (`staticCache_stale_run`).
-/
import IndexTranslation.Proofs.StaticCopy
import IndexTranslation.Proofs.StaticCache

namespace Rx

open IndexDataManager

/-! ### Fresh copies -/

/-- What an initialized copy `sb` of the buffer `b` may hold: exactly `b`'s bytes
converted whole from some source type with some restart flag into the copy's index type,
or an unwritten reservation of the size that conversion needs. -/
def FreshCopy (b : BufferD3D) (sb : IndexBuffer) : Prop :=
  sb.bufferSize ≠ 0 → ∃ srcType dstType flag, convertible srcType dstType = true ∧
    sb.indexType = some dstType ∧
    (sb.contents = convertIndices srcType dstType b.data (convertCount b srcType) flag ∨
      sb.contents = List.replicate (convertCount b srcType * dstType.bytes) 0)

/-- The buffer's static copy, if it has one, is fresh. -/
def CopyFresh (b : BufferD3D) : Prop :=
  ∀ sb, b.staticIndexBuffer = some sb → FreshCopy b sb

/-- Freshness reads the buffer's bytes and nothing else of it. -/
theorem freshCopy_congr {b b' : BufferD3D} (hd : b'.data = b.data) :
    FreshCopy b' = FreshCopy b := by
  have hc : convertCount b' = convertCount b := by
    funext srcType
    simp only [convertCount, BufferD3D.getSize, hd]
  funext sb
  simp only [FreshCopy, hc, hd]

theorem freshCopy_of_bufferSize_eq_zero {b : BufferD3D} {sb : IndexBuffer}
    (h : sb.bufferSize = 0) : FreshCopy b sb :=
  fun h0 => absurd h h0

theorem CopyFresh.congr {b b' : BufferD3D} (h : CopyFresh b) (hd : b'.data = b.data)
    (hs : b'.staticIndexBuffer = b.staticIndexBuffer) : CopyFresh b' := by
  intro sb hsb
  rw [freshCopy_congr hd]
  exact h sb (hs ▸ hsb)

theorem copyFresh_of_empty {b : BufferD3D} (h : b.staticIndexBuffer = none ∨
    b.staticIndexBuffer = some .empty) : CopyFresh b := by
  intro sb hsb
  rcases h with h | h <;> rw [h] at hsb <;> cases hsb
  exact freshCopy_of_bufferSize_eq_zero rfl

/-- A build into an empty index buffer leaves a fresh copy, however far it gets: nothing
reserved, a reservation never written, or the converted bytes. -/
theorem freshCopy_build {r : Responses} {b : BufferD3D} {sb : IndexBuffer}
    {srcType dstType : IndexType} {flag : Bool} (hc : convertible srcType dstType = true)
    (h0 : sb.bufferSize = 0) :
    FreshCopy b
      (streamInIndexBuffer r sb b.data (convertCount b srcType) srcType dstType flag).2 := by
  rcases @streamInIndexBuffer_snd_cases r sb b.data (convertCount b srcType) srcType dstType
    flag with h | ⟨-, h | h⟩ <;> rw [h]
  · exact freshCopy_of_bufferSize_eq_zero h0
  · -- Reserved, then `mapBuffer` failed.
    exact fun _ => ⟨srcType, dstType, flag, hc, by simp,
      .inr (IndexBuffer.contents_reserveBufferSpace_of_bufferSize_eq_zero _ _ h0)⟩
  · -- Written at offset 0.
    exact fun _ => ⟨srcType, dstType, flag, hc, by simp,
      .inl (IndexBuffer.contents_write_reserveBufferSpace_of_bufferSize_eq_zero h0
        (length_convertIndices hc flag (convertCount_mul_le b srcType)) _)⟩

/-! ### Every event keeps the copy fresh -/

/-- A call keeps the copy fresh, whatever path it takes and whatever the collaborators
answer. -/
theorem CopyFresh.prepareIndexData {b : BufferD3D} (hb : CopyFresh b) (m : IndexDataManager)
    (r : Responses) (srcType : IndexType) (count : Nat) (indices : Indices)
    (indexRange : IndexRange) (flag : Bool) :
    CopyFresh (m.prepareIndexData b r srcType count indices indexRange flag).2.2 := by
  have hc := convertible_translatedType m.rendererClass srcType count indexRange flag
  have hd := data_prepareIndexData m b r srcType count indices indexRange flag
  rcases staticIndexBuffer_cases m b r srcType count indices indexRange flag with
    h | ⟨_, sb, -, -, -, -, h0, h⟩ | ⟨_, _, -, -, -, -, -, h⟩ | ⟨-, h⟩
  · exact hb.congr hd h
  · intro sb' hsb'
    rw [h, Option.some_inj] at hsb'
    rw [freshCopy_congr hd, ← hsb']
    exact freshCopy_build hc h0
  · exact copyFresh_of_empty h
  · exact copyFresh_of_empty (.inr h)

theorem CopyFresh.step {s : State} (hs : CopyFresh s.buffer) (e : Event) :
    CopyFresh (step s e).buffer := by
  cases e with
  | draw r srcType count indices indexRange flag =>
    exact hs.prepareIndexData s.manager r srcType count indices indexRange flag
  | bufferData => exact copyFresh_of_empty (.inl rfl)
  | promote dataSize promotes =>
    rcases s.buffer.staticIndexBuffer_promoteStaticUsage dataSize promotes with h | ⟨-, h⟩
    · exact hs.congr rfl h
    · exact copyFresh_of_empty (.inr h)
  | deinitialize => exact hs

end Rx
