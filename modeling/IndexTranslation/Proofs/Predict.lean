/-
`IsStreamingIndexData` against `prepareIndexData`.

The two functions re-derive the destination type separately, and
`IsStreamingIndexData` has no index range: it assumes the restart workaround
whenever `UsePrimitiveRestartWorkaround` holds, where `prepareIndexData` also
asks that the range shows a restart index.  When the two disagree (Direct3D 11,
`GL_UNSIGNED_SHORT`, restart disabled, a range without a restart index) the
prediction is `GL_UNSIGNED_INT` and the call uses `GL_UNSIGNED_SHORT`; a static
copy built as `GL_UNSIGNED_INT` then makes the prediction "no streaming" while the
call throws the copy away and streams (`isStreamingIndexData_disagrees`).

Outside that case the prediction is right: a call with an aligned offset that
`IsStreamingIndexData` says will not stream returns on the direct or the cached
path, with the manager and the buffer unchanged
(`prepareIndexData_of_not_isStreamingIndexData`).  Inside it, a buffer that binds
directly still saves the prediction, since the call's own type then matches the
source.
-/
import IndexTranslation.Proofs.Prepare

namespace Rx

/-- Without the disagreement, the call's destination type is the predicted one. -/
theorem translatedType_eq_destinationType {rendererClass : RendererClass} {srcType : IndexType}
    {count : Nat} {indexRange : IndexRange} {flag : Bool}
    (h : ¬(usePrimitiveRestartWorkaround flag srcType rendererClass = true ∧
      hasPrimitiveRestartIndex indexRange count srcType = false)) :
    translatedType rendererClass srcType count indexRange flag =
      destinationType srcType (usePrimitiveRestartWorkaround flag srcType rendererClass) := by
  unfold translatedType
  cases hw : usePrimitiveRestartWorkaround flag srcType rendererClass
  · rfl
  · cases hh : hasPrimitiveRestartIndex indexRange count srcType
    · exact absurd ⟨hw, hh⟩ h
    · rfl

/-- Inside the disagreement, the call keeps the source type. -/
theorem translatedType_of_disagreement {rendererClass : RendererClass} {srcType : IndexType}
    {count : Nat} {indexRange : IndexRange} {flag : Bool}
    (hw : usePrimitiveRestartWorkaround flag srcType rendererClass = true)
    (hh : hasPrimitiveRestartIndex indexRange count srcType = false) :
    translatedType rendererClass srcType count indexRange flag = srcType := by
  have hw' : (flag = false ∧ srcType = .unsignedShort) ∧ rendererClass = .d3d11 := by
    simpa [usePrimitiveRestartWorkaround] using hw
  have hsrc := hw'.1.2
  subst hsrc
  simp [translatedType, hw, hh, destinationType]

/-- What "will not stream" says about the bound buffer. -/
theorem isStreamingIndexData_eq_false {flag : Bool} {buffer : BufferD3D} {srcType : IndexType}
    {rendererClass : RendererClass}
    (h : isStreamingIndexData flag (some buffer) srcType rendererClass = false) :
    (buffer.supportsDirectBinding = true ∧
      destinationType srcType (usePrimitiveRestartWorkaround flag srcType rendererClass) = srcType) ∨
    ∃ sb, buffer.staticIndexBuffer = some sb ∧ sb.bufferSize ≠ 0 ∧
      sb.indexType = some (destinationType srcType
        (usePrimitiveRestartWorkaround flag srcType rendererClass)) := by
  dsimp only [isStreamingIndexData] at h
  split_ifs at h with hdirect
  · exact .inl (by simpa using hdirect)
  · right
    split at h
    · cases h
    · rename_i sb hsb
      simp only [Bool.or_eq_false_iff, beq_eq_false_iff_ne, ne_eq, bne_eq_false_iff_eq] at h
      exact ⟨sb, hsb, h.1, h.2⟩

/-- "Will not stream", read against the call's own destination type: outside the
disagreement with a buffer that cannot bind directly, the buffer binds directly or holds
an initialized static copy of the call's type. -/
theorem directOrStatic_of_not_isStreamingIndexData {rendererClass : RendererClass}
    {buffer : BufferD3D} {srcType : IndexType} {count : Nat} {indexRange : IndexRange} {flag : Bool}
    (h : isStreamingIndexData flag (some buffer) srcType rendererClass = false)
    (hexcept : ¬(usePrimitiveRestartWorkaround flag srcType rendererClass = true ∧
      hasPrimitiveRestartIndex indexRange count srcType = false ∧
      buffer.supportsDirectBinding = false)) :
    (buffer.supportsDirectBinding = true ∧
      translatedType rendererClass srcType count indexRange flag = srcType) ∨
    ∃ sb, buffer.staticIndexBuffer = some sb ∧ sb.bufferSize ≠ 0 ∧
      sb.indexType = some (translatedType rendererClass srcType count indexRange flag) := by
  by_cases hdis : usePrimitiveRestartWorkaround flag srcType rendererClass = true ∧
      hasPrimitiveRestartIndex indexRange count srcType = false
  · refine .inl ⟨?_, translatedType_of_disagreement hdis.1 hdis.2⟩
    simpa [hdis.1, hdis.2] using hexcept
  · rw [translatedType_eq_destinationType hdis]
    exact isStreamingIndexData_eq_false h

/-- **A call predicted not to stream does not stream**, outside the one disagreement:
with an aligned offset it returns on the direct or the cached path and leaves the
manager and the buffer as they were. -/
theorem prepareIndexData_of_not_isStreamingIndexData {m : IndexDataManager} {buffer : BufferD3D}
    {srcType : IndexType} {flag : Bool} {p : Nat} (r : Responses) (count : Nat)
    (indexRange : IndexRange)
    (h : isStreamingIndexData flag (some buffer) srcType m.rendererClass = false)
    (haligned : IndexDataManager.offsetAligned srcType (toUInt p) = true)
    (hexcept : ¬(usePrimitiveRestartWorkaround flag srcType m.rendererClass = true ∧
      hasPrimitiveRestartIndex indexRange count srcType = false ∧
      buffer.supportsDirectBinding = false)) :
    ∃ t, m.prepareIndexData buffer r srcType count (.offset p) indexRange flag = (.ok t, m, buffer) ∧
      (t.storage = true ∨ t.indexBuffer = some .staticBuffer) := by
  have hkind := directOrStatic_of_not_isStreamingIndexData h hexcept
  rcases m.prepareIndexData_cases buffer r srcType count (.offset p) indexRange flag with
    ⟨_, hp, -⟩ | ⟨_, -, -, -, -, hout⟩ | ⟨_, sb, hp, hnd, -, hsb, -, hout⟩ | ⟨_, hp, hnd, hns, -⟩
  · cases hp
  · exact ⟨_, hout, .inl rfl⟩
  · cases hp
    rcases hkind with hd | ⟨sb', hsb', hinit, -⟩
    · exact absurd hd hnd
    · rw [hsb] at hsb'
      cases hsb'
      rw [hout, IndexDataManager.useStaticBuffer, if_pos (by simpa using hinit)]
      exact ⟨_, rfl, .inr rfl⟩
  · cases hp
    rcases hkind with hd | ⟨sb', hsb', hinit, htype⟩
    · exact absurd ⟨haligned, hd⟩ hnd
    · exact absurd ⟨haligned, sb', hsb', fun _ => htype⟩ hns

/-- A `GL_UNSIGNED_BYTE` draw over a buffer that cannot bind directly but holds a
`GL_UNSIGNED_SHORT` copy is predicted not to stream, and reads the copy. -/
theorem prepareIndexData_of_not_isStreamingIndexData_cached :
    isStreamingIndexData true (some ⟨[1, 2], false, some ⟨[1, 0, 2, 0], some .unsignedShort, 4, 1⟩, 0, 0⟩)
        .unsignedByte (IndexDataManager.create .d3d11 4).rendererClass = false ∧
      IndexDataManager.offsetAligned .unsignedByte (toUInt 0) = true ∧
      ¬(usePrimitiveRestartWorkaround true .unsignedByte
          (IndexDataManager.create .d3d11 4).rendererClass = true ∧
        hasPrimitiveRestartIndex ⟨2, 2⟩ 2 .unsignedByte = false ∧
        (⟨[1, 2], false, some ⟨[1, 0, 2, 0], some .unsignedShort, 4, 1⟩, 0, 0⟩ : BufferD3D).supportsDirectBinding =
          false) ∧
      ∃ t, (IndexDataManager.create .d3d11 4).prepareIndexData
          ⟨[1, 2], false, some ⟨[1, 0, 2, 0], some .unsignedShort, 4, 1⟩, 0, 0⟩ ⟨fun _ => false, false⟩
          .unsignedByte 2 (.offset 0) ⟨2, 2⟩ true =
        (.ok t, IndexDataManager.create .d3d11 4,
          ⟨[1, 2], false, some ⟨[1, 0, 2, 0], some .unsignedShort, 4, 1⟩, 0, 0⟩) ∧
        (t.storage = true ∨ t.indexBuffer = some .staticBuffer) :=
  ⟨by decide, by decide, by decide,
    prepareIndexData_of_not_isStreamingIndexData ⟨fun _ => false, false⟩ 2 ⟨2, 2⟩
      (by decide) (by decide) (by decide)⟩

/-- On Direct3D 11 a `GL_UNSIGNED_SHORT` draw with restart disabled and a range without a
restart index is predicted not to stream, because the buffer's static copy is
`GL_UNSIGNED_INT`; the call itself uses `GL_UNSIGNED_SHORT`, throws the copy away and
streams. -/
theorem isStreamingIndexData_disagrees :
    isStreamingIndexData false
        (some ⟨[1, 0, 2, 0], false, some ⟨[1, 0, 0, 0, 2, 0, 0, 0], some .unsignedInt, 8, 1⟩, 0, 0⟩)
        .unsignedShort .d3d11 = false ∧
      ((IndexDataManager.create .d3d11 4).prepareIndexData
          ⟨[1, 0, 2, 0], false, some ⟨[1, 0, 0, 0, 2, 0, 0, 0], some .unsignedInt, 8, 1⟩, 0, 0⟩
          ⟨fun _ => false, false⟩ .unsignedShort 2 (.offset 0) ⟨2, 2⟩ false).2.2.staticIndexBuffer =
        none ∧
      ((IndexDataManager.create .d3d11 4).prepareIndexData
          ⟨[1, 0, 2, 0], false, some ⟨[1, 0, 0, 0, 2, 0, 0, 0], some .unsignedInt, 8, 1⟩, 0, 0⟩
          ⟨fun _ => false, false⟩ .unsignedShort 2 (.offset 0) ⟨2, 2⟩ false).1.toOption.bind
          (·.indexBuffer) = some .streamingShort := by
  decide

end Rx
