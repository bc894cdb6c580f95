/-
Fixed-width arithmetic.

`StreamInIndexBuffer` guards its one multiplication, and the guard is exact
(`uintMax_shiftRight_lt_iff`, `toUInt_shiftLeft_of_le`).  The offset cast and
`convertCount` only narrow values that already fit.  Two computations are not
guarded.  The size passed to `promoteStaticUsage` is `count << bytesShift` in
`GLsizei`: a draw of `2^29` ints from a buffer of `2^31` bytes fits every
`unsigned int` the file uses, but the byte count `2^31` does not fit an `int`,
and the buffer is told of `-2^31` bytes (`promoteStaticUsage_overflow`).  The
cached path's `(offset >> srcShift) << dstShift` is an `unsigned int` too, and
wraps once a copy of a wider type is read at an offset of `2^31` or more.

With every collaborator succeeding, a streaming call fails only on the size
guard (`streamIndexData_succeeds`); the overflow above is therefore reached on
a call that returns success.
-/
import IndexTranslation.Proofs.Prepare

namespace Rx

open IndexDataManager

/-- With every collaborator succeeding, `StreamInIndexBuffer` stores the data whenever
the byte count fits, at the position the reservation leaves. -/
theorem streamInIndexBuffer_succeeds (r : Responses) (hr : ∀ c, r.fails c = false)
    (buffer : IndexBuffer) (data : List UInt8) {count : Nat} (srcType : IndexType)
    {dstType : IndexType} (flag : Bool) (h : count * dstType.bytes ≤ uintMax) :
    (streamInIndexBuffer r buffer data count srcType dstType flag).1 =
      .ok (buffer.reserveBufferSpace (count * dstType.bytes) dstType).writePosition := by
  have hguard : ¬uintMax >>> dstType.bytesShift < count := by
    rw [uintMax_shiftRight_lt_iff]; omega
  simp only [streamInIndexBuffer, hguard, hr, toUInt_shiftLeft_of_le hguard, if_false,
    Bool.false_eq_true, IndexBuffer.mapBuffer_fst]

/-- With every collaborator succeeding, `streamIndexData` succeeds whenever the byte
count fits. -/
theorem streamIndexData_succeeds (r : Responses) (hr : ∀ c, r.fails c = false)
    (m : IndexDataManager) (data : List UInt8) {count : Nat} (srcType : IndexType)
    {dstType : IndexType} (flag : Bool) (translated : TranslatedIndexData)
    (h : count * dstType.bytes ≤ uintMax) :
    ∃ t, (m.streamIndexData r data count srcType dstType flag translated).1 = .ok t := by
  unfold streamIndexData getStreamingIndexBuffer
  split
  · rename_i heq
    split at heq
    · cases heq
    · simp [hr] at heq
  · rename_i indexBuffer _ _
    have hok := streamInIndexBuffer_succeeds r hr indexBuffer data srcType flag h
    split <;> rename_i heq' <;> rw [heq'] at hok <;> cases hok
    exact ⟨_, rfl⟩

/-- Line 318 at a draw of `2^29` `GL_UNSIGNED_INT` indices from offset 0 of a buffer of
`2^31` bytes that cannot bind directly: the draw fits the buffer, the buffer fits an
`unsigned int`, and the call succeeds, but the byte count `2^31` computed in `GLsizei`
wraps, and the buffer is told of `-2^31` bytes. -/
theorem promoteStaticUsage_overflow :
    let b : BufferD3D := ⟨List.replicate (2 ^ 31) 0, false, none, 0, 0⟩
    let out := (IndexDataManager.create .d3d11 0).prepareIndexData b ⟨fun _ => false, false⟩
      .unsignedInt (2 ^ 29) (.offset 0) ⟨0, 2 ^ 29⟩ false
    0 + 2 ^ 29 * IndexType.unsignedInt.bytes ≤ b.getSize ∧ b.getSize ≤ 2 ^ 32 - 1 ∧
      out.1.toOption.isSome ∧ out.2.2.staticUsage = -2 ^ 31 := by
  intro b out
  have hsize : b.getSize = 2 ^ 31 := List.length_replicate _ _
  refine ⟨by rw [hsize]; decide, by rw [hsize]; decide, ?_⟩
  have hdst : translatedType .d3d11 .unsignedInt (2 ^ 29) ⟨0, 2 ^ 29⟩ false = .unsignedInt := rfl
  obtain ⟨t, ht⟩ := streamIndexData_succeeds ⟨fun _ => false, false⟩ (fun _ => rfl)
    (IndexDataManager.create .d3d11 0) (b.data.drop (toUInt 0)) .unsignedInt false
    (TranslatedIndexData.start .unsignedInt .unsignedInt (2 ^ 29) (.offset 0))
    (by decide : 2 ^ 29 * IndexType.unsignedInt.bytes ≤ uintMax)
  have hout : out = (IndexDataManager.create .d3d11 0).streamFromBuffer ⟨fun _ => false, false⟩ b
      (toUInt 0) .unsignedInt .unsignedInt (2 ^ 29) false
      (TranslatedIndexData.start .unsignedInt .unsignedInt (2 ^ 29) (.offset 0)) := rfl
  rw [hout, streamFromBuffer_of_ok rfl (Prod.ext ht rfl)]
  refine ⟨rfl, ?_⟩
  show (0 : Int) + toGLsizei (2 ^ 29 <<< IndexType.unsignedInt.bytesShift) = -2 ^ 31
  decide

end Rx
