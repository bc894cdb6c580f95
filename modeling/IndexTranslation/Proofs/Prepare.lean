/-
The paths of `prepareIndexData`.

`prepareIndexData_cases` says once, for every call, which of the four paths it
takes and under which conditions, in terms of the state before the call:

  * Case 1, client memory: the result and the manager are `streamIndexData`'s,
    the buffer is untouched;
  * Case 2a, direct binding: the offset is aligned, the buffer binds directly and
    the types agree; nothing changes;
  * Case 2b with the static copy: the offset is aligned and the buffer has a static
    copy that is empty or already holds the destination type;
  * Case 2b streaming: every other offset; an initialized static copy is thrown
    away first, whether its type was wrong or the offset was misaligned.

Everything later about one call starts from here and never unfolds
`prepareIndexData` again.
-/
import IndexTranslation.Proofs.Stream

namespace Rx

namespace IndexDataManager

/-- The streaming fallback changes the manager only through `streamIndexData`, and the
buffer only through `promoteStaticUsage`. -/
theorem streamFromBuffer_state (m : IndexDataManager) (r : Responses) (b : BufferD3D)
    (offset : Nat) (srcType dstType : IndexType) (count : Nat) (flag : Bool)
    (translated : TranslatedIndexData) :
    let out := m.streamFromBuffer r b offset srcType dstType count flag translated
    (out.2.1 = m ∨
      out.2.1 = (m.streamIndexData r (b.data.drop offset) count srcType dstType flag translated).2) ∧
    (out.2.2 = b ∨
      out.2.2 = b.promoteStaticUsage (toGLsizei (count <<< srcType.bytesShift)) r.promotes) := by
  unfold streamFromBuffer
  split_ifs
  · exact ⟨.inl rfl, .inl rfl⟩
  · split <;> rename_i heq <;> simp [heq]

/-- The static path never touches the manager, and changes the buffer only by building
an empty static copy. -/
theorem useStaticBuffer_state (m : IndexDataManager) (r : Responses) (b : BufferD3D)
    (sb : IndexBuffer) (initialized : Bool) (offset : Nat) (srcType dstType : IndexType)
    (flag : Bool) (translated : TranslatedIndexData) :
    let out := m.useStaticBuffer r b sb initialized offset srcType dstType flag translated
    out.2.1 = m ∧
    (out.2.2 = b ∨ (initialized = false ∧
      out.2.2 = { b with staticIndexBuffer := some (streamInIndexBuffer r sb b.data
        (convertCount b srcType) srcType dstType flag).2 })) := by
  unfold useStaticBuffer
  split_ifs with hinit
  · exact ⟨rfl, .inl rfl⟩
  · exact ⟨rfl, .inl rfl⟩
  · split <;> rename_i heq <;> simp [heq, hinit]

/-- A successful streaming fallback is a successful `streamIndexData` of the slice. -/
theorem streamFromBuffer_ok {m : IndexDataManager} {r : Responses} {b : BufferD3D} {offset : Nat}
    {srcType dstType : IndexType} {count : Nat} {flag : Bool} {translated t : TranslatedIndexData}
    (h : (m.streamFromBuffer r b offset srcType dstType count flag translated).1 = .ok t) :
    m.streamIndexData r (b.data.drop offset) count srcType dstType flag translated =
      (.ok t, (m.streamFromBuffer r b offset srcType dstType count flag translated).2.1) := by
  unfold streamFromBuffer at h ⊢
  split_ifs at h ⊢
  split at h <;> rename_i heq <;> simp only [heq] at h ⊢ <;> cases h
  rfl

/-- When `getData` succeeds and the slice streams, the buffer is told of the use. -/
theorem streamFromBuffer_of_ok {m m' : IndexDataManager} {r : Responses} {b : BufferD3D}
    {offset : Nat} {srcType dstType : IndexType} {count : Nat} {flag : Bool}
    {translated t : TranslatedIndexData} (hget : r.fails .getData = false)
    (h : m.streamIndexData r (b.data.drop offset) count srcType dstType flag translated = (.ok t, m')) :
    m.streamFromBuffer r b offset srcType dstType count flag translated =
      (.ok t, m', b.promoteStaticUsage (toGLsizei (count <<< srcType.bytesShift)) r.promotes) := by
  simp [streamFromBuffer, hget, h]

/-- A successful static path points at the static copy. -/
theorem useStaticBuffer_ok {m : IndexDataManager} {r : Responses} {b : BufferD3D} {sb : IndexBuffer}
    {initialized : Bool} {offset : Nat} {srcType dstType : IndexType} {flag : Bool}
    {translated t : TranslatedIndexData}
    (h : (m.useStaticBuffer r b sb initialized offset srcType dstType flag translated).1 = .ok t) :
    ∃ sb', t = staticReference translated sb' offset srcType dstType := by
  unfold useStaticBuffer at h
  split_ifs at h
  · cases h; exact ⟨sb, rfl⟩
  · split at h <;> cases h; exact ⟨_, rfl⟩

/-- A static path that finds the copy initialized serves it as it is. -/
theorem useStaticBuffer_initialized (m : IndexDataManager) (r : Responses) (b : BufferD3D)
    (sb : IndexBuffer) (offset : Nat) (srcType dstType : IndexType) (flag : Bool)
    (translated : TranslatedIndexData) :
    m.useStaticBuffer r b sb true offset srcType dstType flag translated =
      (.ok (staticReference translated sb offset srcType dstType), m, b) := rfl

/-- A successful static path that found the copy empty built it from the whole buffer,
with `convertCount` elements, and points the draw at the result. -/
theorem useStaticBuffer_build_ok {m : IndexDataManager} {r : Responses} {b : BufferD3D}
    {sb : IndexBuffer} {offset : Nat} {srcType dstType : IndexType} {flag : Bool}
    {translated t : TranslatedIndexData}
    (h : (m.useStaticBuffer r b sb false offset srcType dstType flag translated).1 = .ok t) :
    ∃ written sb', streamInIndexBuffer r sb b.data (convertCount b srcType) srcType dstType flag =
        (.ok written, sb') ∧
      m.useStaticBuffer r b sb false offset srcType dstType flag translated =
        (.ok (staticReference translated sb' offset srcType dstType), m,
          { b with staticIndexBuffer := some sb' }) := by
  unfold useStaticBuffer at h ⊢
  rw [if_neg Bool.false_ne_true] at h ⊢
  by_cases hget : r.fails .getData = true
  · rw [if_pos hget] at h; cases h
  rw [if_neg hget] at h ⊢
  split at h
  · cases h
  · rename_i written sb' heq
    exact ⟨written, sb', heq, rfl⟩

/-- A successful static path as `prepareIndexData` calls it: an initialized copy is served
as it is, and an empty one is built first. -/
theorem useStaticBuffer_ok_cases {m m' : IndexDataManager} {r : Responses} {b b' : BufferD3D}
    {sb : IndexBuffer} {offset : Nat} {srcType dstType : IndexType} {flag : Bool}
    {translated t : TranslatedIndexData}
    (h : m.useStaticBuffer r b sb (sb.bufferSize != 0) offset srcType dstType flag translated =
      (.ok t, m', b')) :
    m' = m ∧
    ((sb.bufferSize ≠ 0 ∧ t = staticReference translated sb offset srcType dstType ∧ b' = b) ∨
      (sb.bufferSize = 0 ∧ ∃ written sb', streamInIndexBuffer r sb b.data (convertCount b srcType)
          srcType dstType flag = (.ok written, sb') ∧
        t = staticReference translated sb' offset srcType dstType ∧
        b' = { b with staticIndexBuffer := some sb' })) := by
  by_cases h0 : sb.bufferSize = 0
  · have hinit : (sb.bufferSize != 0) = false := by simp [h0]
    rw [hinit] at h
    obtain ⟨written, sb', hbuild, hout⟩ := useStaticBuffer_build_ok (congrArg Prod.fst h)
    rw [hout, Prod.mk.injEq, Prod.mk.injEq, Except.ok.injEq] at h
    exact ⟨h.2.1.symm, .inr ⟨h0, written, sb', hbuild, h.1.symm, h.2.2.symm⟩⟩
  · have hinit : (sb.bufferSize != 0) = true := by simpa using h0
    rw [hinit, useStaticBuffer_initialized, Prod.mk.injEq, Prod.mk.injEq, Except.ok.injEq] at h
    exact ⟨h.2.1.symm, .inl ⟨h0, h.1.symm, h.2.2.symm⟩⟩

/-- **Every call of `prepareIndexData` takes one of four paths.** -/
theorem prepareIndexData_cases (m : IndexDataManager) (buffer : BufferD3D) (r : Responses)
    (srcType : IndexType) (count : Nat) (indices : Indices) (indexRange : IndexRange)
    (flag : Bool) :
    let dstType := translatedType m.rendererClass srcType count indexRange flag
    let translated := TranslatedIndexData.start dstType srcType count indices
    let out := m.prepareIndexData buffer r srcType count indices indexRange flag
    (∃ data, indices = .pointer data ∧
      out = ((m.streamIndexData r data count srcType dstType flag translated).1,
        (m.streamIndexData r data count srcType dstType flag translated).2, buffer)) ∨
    (∃ p, indices = .offset p ∧ offsetAligned srcType (toUInt p) = true ∧
      buffer.supportsDirectBinding = true ∧ dstType = srcType ∧
      out = (.ok { translated with
          storage := true, indexBuffer := none, serial := buffer.serial,
          startIndex := toUInt p >>> srcType.bytesShift, startOffset := toUInt p }, m, buffer)) ∨
    (∃ p sb, indices = .offset p ∧
      ¬(buffer.supportsDirectBinding = true ∧ dstType = srcType) ∧
      offsetAligned srcType (toUInt p) = true ∧ buffer.staticIndexBuffer = some sb ∧
      (sb.bufferSize ≠ 0 → sb.indexType = some dstType) ∧
      out = m.useStaticBuffer r buffer sb (sb.bufferSize != 0) (toUInt p) srcType dstType flag
        translated) ∨
    (∃ p, indices = .offset p ∧
      ¬(offsetAligned srcType (toUInt p) = true ∧ buffer.supportsDirectBinding = true ∧
        dstType = srcType) ∧
      ¬(offsetAligned srcType (toUInt p) = true ∧ ∃ sb, buffer.staticIndexBuffer = some sb ∧
        (sb.bufferSize ≠ 0 → sb.indexType = some dstType)) ∧
      out = m.streamFromBuffer r
        (if staticBufferInitialized buffer.staticIndexBuffer then buffer.invalidateStaticData
          else buffer)
        (toUInt p) srcType dstType count flag translated) := by
  intro dstType translated out
  cases indices with
  | pointer data => exact .inl ⟨data, rfl, rfl⟩
  | offset p =>
    right
    by_cases hdirect : offsetAligned srcType (toUInt p) = true ∧ buffer.supportsDirectBinding = true ∧
      dstType = srcType
    · left
      obtain ⟨ha, hb, hd⟩ := hdirect
      refine ⟨p, rfl, ha, hb, hd, ?_⟩
      simp only [out, prepareIndexData, ha, hb, Bool.and_self, Bool.true_and]
      rw [if_pos (by simpa using hd)]
    · right
      have hne : (offsetAligned srcType (toUInt p) && buffer.supportsDirectBinding &&
          translatedType m.rendererClass srcType count indexRange flag == srcType) = false := by
        simpa [Bool.and_eq_true] using hdirect
      by_cases hstatic : offsetAligned srcType (toUInt p) = true ∧ ∃ sb, buffer.staticIndexBuffer = some sb ∧
          (sb.bufferSize ≠ 0 → sb.indexType = some dstType)
      · left
        obtain ⟨ha, sb, hsb, htype⟩ := hstatic
        refine ⟨p, sb, rfl, fun h => hdirect ⟨ha, h⟩, ha, hsb, htype, ?_⟩
        have hkeep : (staticBufferInitialized buffer.staticIndexBuffer &&
            !staticBufferUsable buffer.staticIndexBuffer (offsetAligned srcType (toUInt p))
              dstType) = false := by
          rw [hsb]
          by_cases h0 : sb.bufferSize = 0
          · simp [staticBufferInitialized, h0]
          · simp [staticBufferUsable, ha, htype h0]
        simp only [out, prepareIndexData, hne, Bool.false_eq_true, if_false]
        simp only [dstType] at hkeep
        rw [hkeep]
        simp only [Bool.false_eq_true, if_false, hsb, ha]
        rfl
      · right
        refine ⟨p, rfl, hdirect, hstatic, ?_⟩
        have hinv : (staticBufferInitialized buffer.staticIndexBuffer &&
            !staticBufferUsable buffer.staticIndexBuffer (offsetAligned srcType (toUInt p))
              dstType) = staticBufferInitialized buffer.staticIndexBuffer := by
          cases hs : buffer.staticIndexBuffer with
          | none => rfl
          | some sb =>
            by_cases husable : staticBufferUsable (some sb) (offsetAligned srcType (toUInt p)) dstType
            · simp only [staticBufferUsable, Option.any_some, Bool.and_eq_true, beq_iff_eq] at husable
              exact absurd ⟨husable.1, sb, hs, fun _ => husable.2⟩ hstatic
            · simp [husable]
        simp only [out, prepareIndexData, hne, Bool.false_eq_true, if_false]
        simp only [dstType] at hinv
        rw [hinv]
        split
        · rename_i sb' heq hal
          split_ifs at heq with hinit
          refine absurd ⟨hal, sb', heq, fun h0 => ?_⟩ hstatic
          simp [staticBufferInitialized, heq, h0] at hinit
        · rfl

/-- **A successful call streamed the draw's bytes, bound the buffer, or used the static
copy.**  The streaming fallback of Case 2b reads the buffer's bytes from the offset on,
which are the draw's source bytes, so both streaming paths are one disjunct here. -/
theorem prepareIndexData_ok_cases {m m' : IndexDataManager} {buffer b' : BufferD3D}
    {r : Responses} {srcType : IndexType} {count : Nat} {indices : Indices}
    {indexRange : IndexRange} {flag : Bool} {t : TranslatedIndexData}
    (h : m.prepareIndexData buffer r srcType count indices indexRange flag = (.ok t, m', b')) :
    let dstType := translatedType m.rendererClass srcType count indexRange flag
    let translated := TranslatedIndexData.start dstType srcType count indices
    m.streamIndexData r (sourceData buffer indices) count srcType dstType flag translated =
        (.ok t, m') ∨
    (∃ p, indices = .offset p ∧ offsetAligned srcType (toUInt p) = true ∧ dstType = srcType ∧
      t = { translated with
        storage := true, indexBuffer := none, serial := buffer.serial,
        startIndex := toUInt p >>> srcType.bytesShift, startOffset := toUInt p } ∧
      m' = m ∧ b' = buffer) ∨
    (∃ p sb, indices = .offset p ∧ offsetAligned srcType (toUInt p) = true ∧
      buffer.staticIndexBuffer = some sb ∧ (sb.bufferSize ≠ 0 → sb.indexType = some dstType) ∧
      m.useStaticBuffer r buffer sb (sb.bufferSize != 0) (toUInt p) srcType dstType flag
        translated = (.ok t, m', b')) := by
  intro dstType translated
  rcases m.prepareIndexData_cases buffer r srcType count indices indexRange flag with
    ⟨data, rfl, hout⟩ | ⟨p, rfl, ha, -, hd, hout⟩ | ⟨p, sb, rfl, -, ha, hsb, htype, hout⟩ |
      ⟨p, rfl, -, -, hout⟩ <;> rw [h] at hout
  case inl =>
    simp only [Prod.mk.injEq] at hout
    exact .inl (Prod.ext hout.1.symm hout.2.1.symm)
  case inr.inl =>
    simp only [Prod.mk.injEq, Except.ok.injEq] at hout
    exact .inr (.inl ⟨p, rfl, ha, hd, hout.1, hout.2.1, hout.2.2⟩)
  case inr.inr.inl => exact .inr (.inr ⟨p, sb, rfl, ha, hsb, htype, hout.symm⟩)
  case inr.inr.inr =>
    have hok := streamFromBuffer_ok (congrArg Prod.fst hout).symm
    rw [← congrArg (·.2.1) hout] at hok
    have hdata : (if staticBufferInitialized buffer.staticIndexBuffer then
        buffer.invalidateStaticData else buffer).data = buffer.data := by split <;> rfl
    rw [hdata] at hok
    exact .inl hok

/-- No call changes the source buffer's bytes. -/
@[simp] theorem data_prepareIndexData (m : IndexDataManager) (b : BufferD3D) (r : Responses)
    (srcType : IndexType) (count : Nat) (indices : Indices) (indexRange : IndexRange) (flag : Bool) :
    (m.prepareIndexData b r srcType count indices indexRange flag).2.2.data = b.data := by
  rcases m.prepareIndexData_cases b r srcType count indices indexRange flag with
    ⟨_, -, hout⟩ | ⟨_, -, -, -, -, hout⟩ | ⟨p, sb, -, -, -, -, -, hout⟩ | ⟨p, -, -, -, hout⟩ <;>
    rw [hout]
  · rcases (useStaticBuffer_state m r b sb _ (toUInt p) srcType _ flag _).2 with h | ⟨-, h⟩ <;> rw [h]
  · rcases (streamFromBuffer_state m r _ (toUInt p) srcType _ count flag _).2 with h | h <;> rw [h] <;>
      split <;> rfl

/-- A successful call whose descriptor names a streaming slot streamed the draw's bytes. -/
theorem streamIndexData_of_prepareIndexData {m m' : IndexDataManager} {buffer b' : BufferD3D}
    {r : Responses} {srcType : IndexType} {count : Nat} {indices : Indices}
    {indexRange : IndexRange} {flag : Bool} {t : TranslatedIndexData} {ref : IndexBufferRef}
    (h : m.prepareIndexData buffer r srcType count indices indexRange flag = (.ok t, m', b'))
    (hr : t.indexBuffer = some ref) (href : ref ≠ .staticBuffer) :
    m.streamIndexData r (sourceData buffer indices) count srcType
      (translatedType m.rendererClass srcType count indexRange flag) flag
      (TranslatedIndexData.start (translatedType m.rendererClass srcType count indexRange flag)
        srcType count indices) = (.ok t, m') := by
  rcases prepareIndexData_ok_cases h with hstream | ⟨_, -, -, -, rfl, -, -⟩ | ⟨_, _, -, -, -, -, hout⟩
  · exact hstream
  · cases hr
  · obtain ⟨_, rfl⟩ := useStaticBuffer_ok (congrArg Prod.fst hout)
    exact absurd (Option.some_injective _ hr).symm href

end IndexDataManager

end Rx
