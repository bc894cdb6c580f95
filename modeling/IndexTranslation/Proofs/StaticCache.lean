/-
The static translated copy.

The copy is keyed on one thing only, its index type: `staticBufferUsable` asks
that the type is the call's destination type and that the offset is aligned, and
nothing records which source type or restart flag the copy was converted with.
This file says what that buys and what it misses.

`staticIndexBuffer_frame` is the frame of a call: the copy is left alone, built
when it is empty and the call takes the cached path, discarded when it is
initialized and either its type is not the call's or the offset is misaligned,
or created empty by the usage heuristic where there is none.  The misaligned case
throws away a copy of the right type, so "a call of the copy's type leaves it
alone" needs an aligned offset (`staticIndexBuffer_frame_counterexample`).

The rest are the two ways a stale copy reaches a draw.  A build that fails after
its reservation leaves a copy that looks initialized and holds nothing the call
wrote (`staticBuild_mapBuffer_failure`); and a copy built for one source type or
restart flag is served to a draw with another (`staticCache_stale_run`).
-/
import IndexTranslation.Proofs.Prepare
import IndexTranslation.Run

namespace Rx

open IndexDataManager

theorem staticBufferInitialized_eq_true {s : Option IndexBuffer}
    (h : staticBufferInitialized s = true) : ∃ sb, s = some sb ∧ sb.bufferSize ≠ 0 := by
  cases s with
  | none => cases h
  | some sb => exact ⟨sb, rfl, by simpa [staticBufferInitialized] using h⟩

/-- The four things a call can do to the static copy. -/
theorem staticIndexBuffer_cases (m : IndexDataManager) (b : BufferD3D) (r : Responses)
    (srcType : IndexType) (count : Nat) (indices : Indices) (indexRange : IndexRange)
    (flag : Bool) :
    let dstType := translatedType m.rendererClass srcType count indexRange flag
    let after := (m.prepareIndexData b r srcType count indices indexRange flag).2.2.staticIndexBuffer
    after = b.staticIndexBuffer ∨
    (∃ p sb, indices = .offset p ∧ offsetAligned srcType (toUInt p) = true ∧
      ¬(b.supportsDirectBinding = true ∧ dstType = srcType) ∧
      b.staticIndexBuffer = some sb ∧ sb.bufferSize = 0 ∧
      after = some (streamInIndexBuffer r sb b.data (convertCount b srcType)
        srcType dstType flag).2) ∨
    (∃ p sb, indices = .offset p ∧
      ¬(offsetAligned srcType (toUInt p) = true ∧ b.supportsDirectBinding = true ∧
        dstType = srcType) ∧
      b.staticIndexBuffer = some sb ∧ sb.bufferSize ≠ 0 ∧
      (sb.indexType ≠ some dstType ∨ offsetAligned srcType (toUInt p) = false) ∧
      (after = none ∨ after = some .empty)) ∨
    (b.staticIndexBuffer = none ∧ after = some .empty) := by
  dsimp only
  rcases m.prepareIndexData_cases b r srcType count indices indexRange flag with
    ⟨_, -, hout⟩ | ⟨_, -, -, -, -, hout⟩ | ⟨p, sb, rfl, hnd, ha, hsb, -, hout⟩ |
      ⟨p, rfl, hnd, hns, hout⟩
  · exact .inl (by rw [hout])
  · exact .inl (by rw [hout])
  · obtain ⟨-, hb | ⟨hinit, hb⟩⟩ := useStaticBuffer_state m r b sb (sb.bufferSize != 0) (toUInt p)
      srcType (translatedType m.rendererClass srcType count indexRange flag) flag
      (TranslatedIndexData.start _ srcType count (.offset p))
    · exact .inl (by rw [hout, hb])
    · exact .inr (.inl ⟨p, sb, rfl, ha, hnd, hsb, by simpa using hinit, by rw [hout, hb]⟩)
  · rw [hout]
    obtain ⟨-, hb⟩ := streamFromBuffer_state m r
      (if staticBufferInitialized b.staticIndexBuffer then b.invalidateStaticData else b) (toUInt p)
      srcType (translatedType m.rendererClass srcType count indexRange flag) count flag
      (TranslatedIndexData.start _ srcType count (.offset p))
    cases hinit : staticBufferInitialized b.staticIndexBuffer <;>
      simp only [hinit, Bool.false_eq_true, if_false, if_true] at hb ⊢
    · rcases hb with hb | hb <;> rw [hb]
      · exact .inl rfl
      · rcases b.staticIndexBuffer_promoteStaticUsage _ r.promotes with h | h
        · exact .inl h
        · exact .inr (.inr (.inr h))
    · obtain ⟨sb, hsb, hsize⟩ := staticBufferInitialized_eq_true hinit
      refine .inr (.inr (.inl ⟨p, sb, rfl, hnd, hsb, hsize, ?_, ?_⟩))
      · by_cases ha : offsetAligned srcType (toUInt p) = true
        · exact .inl fun htype => hns ⟨ha, sb, hsb, fun _ => htype⟩
        · exact .inr (by simpa using ha)
      · rcases hb with hb | hb <;> rw [hb]
        · exact .inl rfl
        · rcases b.invalidateStaticData.staticIndexBuffer_promoteStaticUsage _ r.promotes with h | h
          · exact .inl h
          · exact .inr h.2

/-- **What a call may do to the static copy.**  It leaves it alone, builds it when it is
empty and the call takes the cached path (the build may stop part way), discards it when
it is initialized and its type is not the call's destination type or the offset is not
aligned (the usage heuristic may then put an empty copy in its place), or lets the usage
heuristic create an empty copy where there is none.  So a call with an aligned offset whose
destination type is the type of an initialized copy leaves the copy unchanged. -/
theorem staticIndexBuffer_frame (m : IndexDataManager) (b : BufferD3D) (r : Responses)
    (srcType : IndexType) (count : Nat) (indices : Indices) (indexRange : IndexRange)
    (flag : Bool) :
    let dstType := translatedType m.rendererClass srcType count indexRange flag
    let after := (m.prepareIndexData b r srcType count indices indexRange flag).2.2.staticIndexBuffer
    (after = b.staticIndexBuffer ∨
      (∃ p sb, indices = .offset p ∧ offsetAligned srcType (toUInt p) = true ∧
        ¬(b.supportsDirectBinding = true ∧ dstType = srcType) ∧
        b.staticIndexBuffer = some sb ∧ sb.bufferSize = 0 ∧
        after = some (streamInIndexBuffer r sb b.data (toUInt b.getSize >>> srcType.bytesShift)
          srcType dstType flag).2) ∨
      (∃ p sb, indices = .offset p ∧
        ¬(offsetAligned srcType (toUInt p) = true ∧ b.supportsDirectBinding = true ∧
          dstType = srcType) ∧
        b.staticIndexBuffer = some sb ∧ sb.bufferSize ≠ 0 ∧
        (sb.indexType ≠ some dstType ∨ offsetAligned srcType (toUInt p) = false) ∧
        (after = none ∨ after = some .empty)) ∨
      (b.staticIndexBuffer = none ∧ after = some .empty)) ∧
    (∀ sb, b.staticIndexBuffer = some sb → sb.bufferSize ≠ 0 → sb.indexType = some dstType →
      (∀ p, indices = .offset p → offsetAligned srcType (toUInt p) = true) →
      after = b.staticIndexBuffer) := by
  refine ⟨staticIndexBuffer_cases m b r srcType count indices indexRange flag,
    fun sb hsb hsize htype haligned => ?_⟩
  rcases staticIndexBuffer_cases m b r srcType count indices indexRange flag with
    h | ⟨_, sb', -, -, -, hsb', hzero, -⟩ | ⟨p, sb', hp, -, hsb', -, hbad, -⟩ | ⟨hnone, -⟩
  · exact h
  · rw [hsb] at hsb'; cases hsb'; exact absurd hzero hsize
  · rw [hsb] at hsb'; cases hsb'
    rcases hbad with h | h
    · exact absurd htype h
    · rw [haligned p hp] at h; cases h
  · rw [hsb] at hnone; cases hnone

/-- A `GL_UNSIGNED_SHORT` draw at an odd offset discards a `GL_UNSIGNED_SHORT` copy,
although its destination type is the copy's. -/
theorem staticIndexBuffer_frame_counterexample :
    translatedType .d3d11 .unsignedShort 1 ⟨2, 1⟩ true = .unsignedShort ∧
      ((IndexDataManager.create .d3d11 4).prepareIndexData
          ⟨[1, 0, 2, 0, 0], false, some ⟨[1, 0, 2, 0], some .unsignedShort, 4, 1⟩, 0, 0⟩
          ⟨fun _ => false, false⟩ .unsignedShort 1 (.offset 1) ⟨2, 1⟩ true).2.2.staticIndexBuffer =
        none := by
  decide

/-- A static build whose `mapBuffer` fails leaves a copy that is initialized as
`GL_UNSIGNED_SHORT` but holds none of the converted data (the byte `5` would be stored as
`[5, 0]`), and the next call serves it. -/
theorem staticBuild_mapBuffer_failure :
    let b : BufferD3D := ⟨[5], false, some .empty, 0, 0⟩
    let failed := (IndexDataManager.create .d3d11 4).prepareIndexData b
      ⟨fun c => c == .mapBuffer, false⟩ .unsignedByte 1 (.offset 0) ⟨5, 1⟩ false
    let next := failed.2.1.prepareIndexData failed.2.2 ⟨fun _ => false, false⟩ .unsignedByte 1
      (.offset 0) ⟨5, 1⟩ false
    failed.1.toOption = none ∧
      failed.2.2.staticIndexBuffer = some ⟨[0, 0], some .unsignedShort, 0, 1⟩ ∧
      convertIndices .unsignedByte .unsignedShort b.data 1 false = [5, 0] ∧
      next.1.toOption.map (·.indexBuffer) = some (some .staticBuffer) ∧
      next.2.2.staticIndexBuffer = failed.2.2.staticIndexBuffer := by
  decide

/-- A run that serves a stale copy: the buffer `[255, 1]` is promoted, drawn as bytes with
restart enabled (the copy is built with `255` remapped to `0xFFFF`), and drawn again with
restart disabled.  The second draw takes the cached path and reads `[0xFFFF, 1]` where
`ConvertIndices` gives `[0x00FF, 1]`. -/
theorem staticCache_stale_run :
    let s : State := run (State.init .d3d11 4 ⟨[255, 1], false, none, 0, 0⟩)
      [.promote 0 true, .draw ⟨fun _ => false, false⟩ .unsignedByte 2 (.offset 0) ⟨1, 2⟩ true]
    let out := s.manager.prepareIndexData s.buffer ⟨fun _ => false, false⟩ .unsignedByte 2
      (.offset 0) ⟨255, 2⟩ false
    Reachable s ∧
      out.1.toOption.map (fun t => (t.indexBuffer, t.startIndex)) = some (some .staticBuffer, 0) ∧
      out.2.2.staticIndexBuffer.map (·.contents) = some [255, 255, 1, 0] ∧
      convertIndices .unsignedByte .unsignedShort (s.buffer.data.drop 0) 2 false = [255, 0, 1, 0] :=
  ⟨(Reachable.init _ _ _).run _, by decide⟩

end Rx
