/-
The static copy serves the draws it was built for.

The copy records its index type and nothing else.  `CopyOf b srcType flag sb` says
what it should hold for draws of source type `srcType` and restart flag `flag`: the
whole buffer, converted so.  `StaticCopyOK` says that the buffer's copy, once it holds
anything, is such a copy.

  * A copy built into an empty index buffer is one (`copyOf_build`), and a draw served
    from such a copy reads what it should (`drawnIndices_staticReference`), so a call
    that finds the copy empty and builds it serves its draw correctly
    (`prepareIndexData_draws_fresh_static`).
  * Every successful call of the same source type and restart flag keeps
    `StaticCopyOK` (`StaticCopyOK.prepareIndexData`), and so do buffer updates, usage
    promotions and deinitialization (`StaticCopyOK.step`).  Along a run whose draws are
    all of one kind and succeed, a draw of that kind reads what it should, served from
    the copy or, as `Proofs/Draw` shows, from anywhere else (`run_draws_intended`);
    and a draw served from the copy is pointed inside it, at the element its byte
    offset names (`run_static_descriptor`).

A draw of another source type or restart flag is not covered: the copy records
neither, and such a draw can be served values converted for another kind.  Nor is a
run in which a build fails part way, which leaves a copy that looks initialized.
-/
import IndexTranslation.Proofs.Draw

namespace Rx

open IndexDataManager

/-! ### Copies of the buffer -/

theorem convertCount_mul_le (b : BufferD3D) (srcType : IndexType) :
    convertCount b srcType * srcType.bytes ≤ b.data.length := by
  rw [convertCount, IndexType.shiftRight_bytesShift]
  exact (Nat.div_mul_le_self _ _).trans (Nat.mod_le _ _)

theorem convertCount_of_lt {b : BufferD3D} (srcType : IndexType) (hsize : b.getSize < 2 ^ 32) :
    convertCount b srcType = b.getSize / srcType.bytes := by
  rw [convertCount, IndexType.shiftRight_bytesShift, toUInt_of_lt hsize]

/-- `sb` holds the buffer converted from `srcType` with restart flag `flag`: its first
`convertCount` elements, of the copy's own type, are `ConvertIndices` of the whole buffer,
and their byte count fits an `unsigned int`. -/
def CopyOf (b : BufferD3D) (srcType : IndexType) (flag : Bool) (sb : IndexBuffer) : Prop :=
  ∃ dstType, sb.indexType = some dstType ∧ convertCount b srcType * dstType.bytes ≤ uintMax ∧
    sb.contents.take (convertCount b srcType * dstType.bytes) =
      convertIndices srcType dstType b.data (convertCount b srcType) flag

/-- A copy of the buffer read at its own type: the conversion's byte count fits an
`unsigned int`, and the copy starts with the conversion. -/
theorem CopyOf.typed {b : BufferD3D} {srcType dstType : IndexType} {flag : Bool}
    {sb : IndexBuffer} (hcopy : CopyOf b srcType flag sb) (htype : sb.indexType = some dstType) :
    convertCount b srcType * dstType.bytes ≤ uintMax ∧
      sb.contents.take (convertCount b srcType * dstType.bytes) =
        convertIndices srcType dstType b.data (convertCount b srcType) flag := by
  obtain ⟨d, hd, hfit, hread⟩ := hcopy
  rw [htype, Option.some_inj] at hd
  exact hd ▸ ⟨hfit, hread⟩

/-- A copy of the buffer holds the whole conversion. -/
theorem CopyOf.le_bufferSize {b : BufferD3D} {srcType dstType : IndexType} {flag : Bool}
    {sb : IndexBuffer} (hcopy : CopyOf b srcType flag sb) (htype : sb.indexType = some dstType)
    (hc : convertible srcType dstType = true) :
    convertCount b srcType * dstType.bytes ≤ sb.bufferSize :=
  calc convertCount b srcType * dstType.bytes
      = (sb.contents.take (convertCount b srcType * dstType.bytes)).length := by
        rw [(hcopy.typed htype).2, length_convertIndices hc flag (convertCount_mul_le b srcType)]
    _ ≤ sb.bufferSize := List.length_take_le' _ _

/-- The buffer's static copy, once it holds anything, holds the buffer converted from
`srcType` with restart flag `flag`. -/
def StaticCopyOK (b : BufferD3D) (srcType : IndexType) (flag : Bool) : Prop :=
  ∀ sb, b.staticIndexBuffer = some sb → sb.bufferSize ≠ 0 → CopyOf b srcType flag sb

theorem staticCopyOK_of_not_initialized {b : BufferD3D}
    (h : staticBufferInitialized b.staticIndexBuffer = false) (srcType : IndexType) (flag : Bool) :
    StaticCopyOK b srcType flag := by
  intro sb hsb h0
  simp [staticBufferInitialized, hsb, h0] at h

theorem StaticCopyOK.promoteStaticUsage {b : BufferD3D} {srcType : IndexType} {flag : Bool}
    (hok : StaticCopyOK b srcType flag) (dataSize : Int) (promotes : Bool) :
    StaticCopyOK (b.promoteStaticUsage dataSize promotes) srcType flag := by
  intro sb hsb h0
  rcases b.staticIndexBuffer_promoteStaticUsage dataSize promotes with h | ⟨-, h⟩ <;> rw [h] at hsb
  · exact hok sb hsb h0
  · cases hsb; exact absurd rfl h0

/-- A build into an index buffer with no storage that succeeds leaves exactly the whole
buffer converted, typed as the destination, with a byte count that fits an
`unsigned int`. -/
theorem contents_build {r : Responses} {b : BufferD3D} {sb sb' : IndexBuffer}
    {srcType dstType : IndexType} {flag : Bool} {written : Nat}
    (hc : convertible srcType dstType = true) (h0 : sb.bufferSize = 0)
    (h : streamInIndexBuffer r sb b.data (convertCount b srcType) srcType dstType flag =
      (.ok written, sb')) :
    sb'.contents = convertIndices srcType dstType b.data (convertCount b srcType) flag ∧
      sb'.indexType = some dstType ∧ convertCount b srcType * dstType.bytes ≤ uintMax := by
  obtain ⟨hfit, rfl, rfl⟩ := streamInIndexBuffer_ok h
  exact ⟨IndexBuffer.contents_write_reserveBufferSpace_of_bufferSize_eq_zero h0
    (length_convertIndices hc flag (convertCount_mul_le b srcType)) _, by simp, hfit⟩

/-- Building the copy into an empty index buffer makes it a copy of the buffer. -/
theorem copyOf_build {r : Responses} {b : BufferD3D} {sb sb' : IndexBuffer}
    {srcType dstType : IndexType} {flag : Bool} {written : Nat}
    (hc : convertible srcType dstType = true) (h0 : sb.bufferSize = 0)
    (h : streamInIndexBuffer r sb b.data (convertCount b srcType) srcType dstType flag =
      (.ok written, sb')) :
    CopyOf b srcType flag sb' ∧ sb'.indexType = some dstType := by
  obtain ⟨hcontents, htype, hfit⟩ := contents_build hc h0 h
  refine ⟨⟨dstType, htype, hfit, ?_⟩, htype⟩
  rw [hcontents]
  exact List.take_of_length_le (length_convertIndices hc flag (convertCount_mul_le b srcType)).le

/-- **The copy stays a copy.**  A call of source type `srcType` and restart flag `flag`
that succeeds serves the copy as it is, builds it when it is empty, drops it, or lets the
usage heuristic create an empty one; each keeps `StaticCopyOK`. -/
theorem StaticCopyOK.prepareIndexData {m : IndexDataManager} {b : BufferD3D} {r : Responses}
    {srcType : IndexType} {count : Nat} {indices : Indices} {indexRange : IndexRange} {flag : Bool}
    {t : TranslatedIndexData} (hok : StaticCopyOK b srcType flag)
    (h : (m.prepareIndexData b r srcType count indices indexRange flag).1 = .ok t) :
    StaticCopyOK (m.prepareIndexData b r srcType count indices indexRange flag).2.2 srcType flag := by
  have hc := convertible_translatedType m.rendererClass srcType count indexRange flag
  rcases m.prepareIndexData_cases b r srcType count indices indexRange flag with
    ⟨_, -, hout⟩ | ⟨_, -, -, -, -, hout⟩ | ⟨p, sb, -, -, -, -, -, hout⟩ | ⟨p, -, -, -, hout⟩ <;>
    rw [hout] at h ⊢
  · exact hok
  · exact hok
  · by_cases h0 : sb.bufferSize = 0
    · have hinit : (sb.bufferSize != 0) = false := by simp [h0]
      rw [hinit] at h ⊢
      obtain ⟨_, sb', hbuild, hout'⟩ := useStaticBuffer_build_ok h
      rw [hout']
      rintro _ ⟨⟩ -
      exact (copyOf_build hc h0 hbuild).1
    · have hinit : (sb.bufferSize != 0) = true := by simpa using h0
      rw [hinit, useStaticBuffer_initialized]
      exact hok
  · have hok₀ : StaticCopyOK (if staticBufferInitialized b.staticIndexBuffer then
        b.invalidateStaticData else b) srcType flag := by
      split
      · rintro _ ⟨⟩
      · exact hok
    rcases (streamFromBuffer_state m r _ (toUInt p) srcType _ count flag _).2 with hb | hb <;> rw [hb]
    · exact hok₀
    · exact hok₀.promoteStaticUsage _ _

/-- Where a draw pointed at a copy of the buffer starts: element `k = offset >> srcShift`,
which is byte `offset` of the buffer and byte `k` elements into the copy, with the draw's
`count` elements among the `convertCount` the copy holds. -/
theorem staticReference_slice {b : BufferD3D} {sb : IndexBuffer} {srcType dstType : IndexType}
    {count p : Nat} {flag : Bool} (hcopy : CopyOf b srcType flag sb)
    (htype : sb.indexType = some dstType) (ha : offsetAligned srcType (toUInt p) = true)
    (hsize : b.getSize < 2 ^ 32) (hin : toUInt p + count * srcType.bytes ≤ b.getSize) :
    (toUInt p >>> srcType.bytesShift) * srcType.bytes = toUInt p ∧
      toUInt p >>> srcType.bytesShift + count ≤ convertCount b srcType ∧
      toUInt ((toUInt p >>> srcType.bytesShift) <<< dstType.bytesShift) =
        (toUInt p >>> srcType.bytesShift) * dstType.bytes := by
  have hk : (toUInt p >>> srcType.bytesShift) * srcType.bytes = toUInt p :=
    shiftRight_mul_bytes (by simpa [offsetAligned] using ha)
  have hslice : toUInt p >>> srcType.bytesShift + count ≤ convertCount b srcType := by
    rw [convertCount_of_lt srcType hsize, Nat.le_div_iff_mul_le srcType.bytes_pos, Nat.add_mul, hk]
    exact hin
  refine ⟨hk, hslice, ?_⟩
  rw [IndexType.shiftLeft_bytesShift, toUInt_of_lt]
  calc (toUInt p >>> srcType.bytesShift) * dstType.bytes
        ≤ convertCount b srcType * dstType.bytes := Nat.mul_le_mul_right _ (by omega)
    _ ≤ uintMax := (hcopy.typed htype).1
    _ < 2 ^ 32 := by decide

/-- A draw pointed at a copy of the buffer by `staticReference` reads the remapped values
of its own slice. -/
theorem drawnIndices_staticReference {m : IndexDataManager} {b b' : BufferD3D} {sb : IndexBuffer}
    {srcType dstType : IndexType} {count p : Nat} {flag : Bool}
    (hcopy : CopyOf b srcType flag sb) (htype : sb.indexType = some dstType)
    (hsb : b'.staticIndexBuffer = some sb) (hc : convertible srcType dstType = true)
    (ha : offsetAligned srcType (toUInt p) = true) (hsize : b.getSize < 2 ^ 32)
    (hin : toUInt p + count * srcType.bytes ≤ b.getSize) :
    drawnIndices m b' (staticReference (TranslatedIndexData.start dstType srcType count (.offset p))
        sb (toUInt p) srcType dstType) count =
      some ((indexValues srcType count (b.data.drop (toUInt p))).map
        (restartRemap srcType dstType flag)) := by
  obtain ⟨hk, hslice, hstart⟩ := staticReference_slice hcopy htype ha hsize hin
  have hlen := length_convertIndices hc flag (convertCount_mul_le b srcType)
  have hread := (hcopy.typed htype).2.trans (List.take_of_length_le hlen.le).symm
  rw [drawnIndices, boundStorage_staticBuffer rfl rfl, hsb, Option.map_some', Option.map_some']
  show some (indexValues dstType count
    (sb.contents.drop (toUInt ((toUInt p >>> srcType.bytesShift) <<< dstType.bytesShift)))) = _
  rw [hstart, indexValues_drop_of_take_eq dstType hread
      (by rw [← Nat.add_mul]; exact Nat.mul_le_mul_right _ hslice),
    indexValues_convertIndices_drop hc b.data flag hslice, hk]

/-- A draw pointed at a copy of the buffer by `staticReference` starts exactly `startIndex`
elements into the copy, and its `count` elements lie inside the copy. -/
theorem staticReference_inside {b : BufferD3D} {sb : IndexBuffer} {srcType dstType : IndexType}
    {count p : Nat} {flag : Bool} (hcopy : CopyOf b srcType flag sb)
    (htype : sb.indexType = some dstType) (hc : convertible srcType dstType = true)
    (ha : offsetAligned srcType (toUInt p) = true) (hsize : b.getSize < 2 ^ 32)
    (hin : toUInt p + count * srcType.bytes ≤ b.getSize) :
    let t := staticReference (TranslatedIndexData.start dstType srcType count (.offset p)) sb
      (toUInt p) srcType dstType
    t.startOffset = t.startIndex * dstType.bytes ∧
      (t.startIndex + count) * dstType.bytes ≤ sb.bufferSize := by
  obtain ⟨-, hslice, hstart⟩ := staticReference_slice hcopy htype ha hsize hin
  exact ⟨hstart, (Nat.mul_le_mul_right _ hslice).trans (hcopy.le_bufferSize htype hc)⟩

/-- A call that succeeds from the static copy, when the copy, if it holds anything, holds
the buffer converted with the call's source type and restart flag, points the draw at such
a copy, built by the call or found. -/
theorem prepareIndexData_static_copy {m m' : IndexDataManager} {b b' : BufferD3D}
    {r : Responses} {srcType : IndexType} {count : Nat} {indices : Indices}
    {indexRange : IndexRange} {flag : Bool} {t : TranslatedIndexData}
    (h : m.prepareIndexData b r srcType count indices indexRange flag = (.ok t, m', b'))
    (hok : StaticCopyOK b srcType flag) (hstatic : t.indexBuffer = some .staticBuffer) :
    ∃ p sb, indices = .offset p ∧ offsetAligned srcType (toUInt p) = true ∧
      b'.staticIndexBuffer = some sb ∧ CopyOf b srcType flag sb ∧
      sb.indexType = some (translatedType m.rendererClass srcType count indexRange flag) ∧
      t = staticReference (TranslatedIndexData.start
          (translatedType m.rendererClass srcType count indexRange flag) srcType count indices)
        sb (toUInt p) srcType (translatedType m.rendererClass srcType count indexRange flag) := by
  have hc := convertible_translatedType m.rendererClass srcType count indexRange flag
  rcases prepareIndexData_ok_cases h with hstream | ⟨_, -, -, -, rfl, -, -⟩ |
    ⟨q, sb, rfl, ha, hsb, htype, hout⟩
  · exact (streamingRef_ne_staticBuffer _
      (Option.some_injective _ ((streamIndexData_ok_fields hstream).2.2.symm.trans hstatic))).elim
  · cases hstatic
  rcases (useStaticBuffer_ok_cases hout).2 with
    ⟨h0, rfl, rfl⟩ | ⟨h0, _, sb', hbuild, rfl, rfl⟩
  · -- The copy is initialized and served as it is.
    exact ⟨q, sb, rfl, ha, hsb, hok sb hsb h0, htype h0, rfl⟩
  · -- The call builds the copy, then reads it.
    obtain ⟨hcopy, htype'⟩ := copyOf_build hc h0 hbuild
    exact ⟨q, sb', rfl, ha, rfl, hcopy, htype', rfl⟩

/-- A call that succeeds from the static copy makes the draw read the intended values,
when the copy, if it holds anything, holds the buffer converted with the call's source
type and restart flag. -/
theorem prepareIndexData_draws_static {m m' : IndexDataManager} {b b' : BufferD3D}
    {r : Responses} {srcType : IndexType} {count : Nat} {indices : Indices}
    {indexRange : IndexRange} {flag : Bool} {t : TranslatedIndexData}
    (h : m.prepareIndexData b r srcType count indices indexRange flag = (.ok t, m', b'))
    (hok : StaticCopyOK b srcType flag) (hstatic : t.indexBuffer = some .staticBuffer)
    (hsize : b.getSize < 2 ^ 32) (hin : DrawInside b srcType count indices) :
    drawnIndices m' b' t count =
      some (intendedIndices b srcType t.indexType count indices flag) := by
  obtain ⟨p, sb, rfl, ha, hsb, hcopy, htype, rfl⟩ := prepareIndexData_static_copy h hok hstatic
  exact drawnIndices_staticReference hcopy htype hsb
    (convertible_translatedType m.rendererClass srcType count indexRange flag) ha hsize hin

/-- **A static copy serves the draw that builds it.**  When the buffer's static copy is
still empty, a call that succeeds on the static path converts the whole buffer into it:
the copy holds exactly `ConvertIndices` of all `convertCount` elements, in the
descriptor's type.  The draw reads exactly the application's values from it, the source
restart value carried over; the buffer is taken below 4 GiB, as `getSize` is narrowed to
an `unsigned int`. -/
theorem prepareIndexData_draws_fresh_static {m m' : IndexDataManager} {b b' : BufferD3D}
    {r : Responses} {srcType : IndexType} {count p : Nat} {indexRange : IndexRange} {flag : Bool}
    {t : TranslatedIndexData}
    (h : m.prepareIndexData b r srcType count (.offset p) indexRange flag = (.ok t, m', b'))
    (hempty : staticBufferInitialized b.staticIndexBuffer = false)
    (hstatic : t.indexBuffer = some .staticBuffer) (hsize : b.getSize < 2 ^ 32)
    (hin : toUInt p + count * srcType.bytes ≤ b.getSize) :
    ∃ sb, b'.staticIndexBuffer = some sb ∧ sb.indexType = some t.indexType ∧
      sb.contents = convertIndices srcType t.indexType b.data (convertCount b srcType) flag ∧
      drawnIndices m' b' t count =
        some (intendedIndices b srcType t.indexType count (.offset p) flag) := by
  have hdraw := prepareIndexData_draws_static h
    (staticCopyOK_of_not_initialized hempty srcType flag) hstatic hsize hin
  rcases prepareIndexData_ok_cases h with hstream | ⟨_, -, -, -, rfl, -, -⟩ |
    ⟨_, sb, -, -, hsb, -, hout⟩
  · exact (streamingRef_ne_staticBuffer _
      (Option.some_injective _ ((streamIndexData_ok_fields hstream).2.2.symm.trans hstatic))).elim
  · cases hstatic
  rcases (useStaticBuffer_ok_cases hout).2 with ⟨h0, -, -⟩ | ⟨h0, _, sb', hbuild, rfl, rfl⟩
  · -- An empty copy is not initialized.
    simp [staticBufferInitialized, hsb, h0] at hempty
  · -- The call built the copy from the whole buffer.
    obtain ⟨hcontents, htype, -⟩ := contents_build
      (convertible_translatedType m.rendererClass srcType count indexRange flag) h0 hbuild
    exact ⟨sb', rfl, htype, hcontents, hdraw⟩

/-- Two bytes from offset 1 of a buffer whose static copy is empty, restart on: all four
bytes are converted into the copy, `0xFF` becoming `0xFFFF`, and the draw reads
`[2, 0xFFFF]` from its second element on. -/
theorem prepareIndexData_draws_fresh_static_offset :
    (IndexDataManager.create .d3d11 4).prepareIndexData ⟨[1, 2, 255, 3], false, some .empty, 0, 0⟩
        ⟨fun _ => false, false⟩ .unsignedByte 2 (.offset 1) ⟨255, 2⟩ true =
      (.ok ⟨.unsignedShort, false, some .staticBuffer, 1, 1, 2, ⟨.offset 1, .unsignedByte, 2⟩⟩,
        IndexDataManager.create .d3d11 4,
        ⟨[1, 2, 255, 3], false,
          some ⟨[1, 0, 2, 0, 255, 255, 3, 0], some .unsignedShort, 8, 1⟩, 0, 0⟩) ∧
    staticBufferInitialized (some IndexBuffer.empty) = false ∧
    BufferD3D.getSize ⟨[1, 2, 255, 3], false, some .empty, 0, 0⟩ < 2 ^ 32 ∧
    toUInt 1 + 2 * IndexType.unsignedByte.bytes ≤
      BufferD3D.getSize ⟨[1, 2, 255, 3], false, some .empty, 0, 0⟩ ∧
    (∃ sb : IndexBuffer,
      some ⟨[1, 0, 2, 0, 255, 255, 3, 0], some .unsignedShort, 8, 1⟩ = some sb ∧
      sb.indexType = some IndexType.unsignedShort ∧
      sb.contents = convertIndices .unsignedByte .unsignedShort [1, 2, 255, 3]
        (convertCount ⟨[1, 2, 255, 3], false, some .empty, 0, 0⟩ .unsignedByte) true ∧
      drawnIndices (IndexDataManager.create .d3d11 4)
          ⟨[1, 2, 255, 3], false,
            some ⟨[1, 0, 2, 0, 255, 255, 3, 0], some .unsignedShort, 8, 1⟩, 0, 0⟩
          ⟨.unsignedShort, false, some .staticBuffer, 1, 1, 2, ⟨.offset 1, .unsignedByte, 2⟩⟩ 2 =
        some (intendedIndices ⟨[1, 2, 255, 3], false, some .empty, 0, 0⟩
          .unsignedByte .unsignedShort 2 (.offset 1) true)) ∧
    intendedIndices ⟨[1, 2, 255, 3], false, some .empty, 0, 0⟩
      .unsignedByte .unsignedShort 2 (.offset 1) true = [2, 0xFFFF] :=
  ⟨rfl, rfl, by decide, by decide,
    @prepareIndexData_draws_fresh_static (IndexDataManager.create .d3d11 4)
      (IndexDataManager.create .d3d11 4) ⟨[1, 2, 255, 3], false, some .empty, 0, 0⟩
      ⟨[1, 2, 255, 3], false,
        some ⟨[1, 0, 2, 0, 255, 255, 3, 0], some .unsignedShort, 8, 1⟩, 0, 0⟩
      ⟨fun _ => false, false⟩ .unsignedByte 2 1 ⟨255, 2⟩ true
      ⟨.unsignedShort, false, some .staticBuffer, 1, 1, 2, ⟨.offset 1, .unsignedByte, 2⟩⟩
      rfl rfl rfl (by decide) (by decide), by decide⟩

/-! ### Runs of one kind of draw -/

/-- An event that keeps the copy right for draws of source type `srcType` and restart
flag `flag`, when it happens in state `s`: a draw of that kind that succeeds, or any
event that is not a draw. -/
def Keeps (srcType : IndexType) (flag : Bool) (s : State) : Event → Bool
  | .draw r srcType' count indices indexRange flag' =>
    srcType' == srcType && flag' == flag &&
      (s.manager.prepareIndexData s.buffer r srcType' count indices indexRange flag').1.isOk
  | _ => true

/-- One event that keeps the copy right keeps `StaticCopyOK`. -/
theorem StaticCopyOK.step {s : State} {srcType : IndexType} {flag : Bool} {e : Event}
    (hok : StaticCopyOK s.buffer srcType flag) (hkeep : Keeps srcType flag s e = true) :
    StaticCopyOK (step s e).buffer srcType flag := by
  cases e with
  | draw r srcType' count indices indexRange flag' =>
    simp only [Keeps, Bool.and_eq_true, beq_iff_eq] at hkeep
    obtain ⟨⟨rfl, rfl⟩, hsucc⟩ := hkeep
    cases hout : (s.manager.prepareIndexData s.buffer r srcType' count indices indexRange flag').1 with
    | error => rw [hout] at hsucc; cases hsucc
    | ok t => exact hok.prepareIndexData hout
  | bufferData => rintro _ ⟨⟩
  | promote dataSize promotes => exact hok.promoteStaticUsage dataSize promotes
  | deinitialize => exact hok

/-- A run whose events all keep the copy right keeps `StaticCopyOK`. -/
theorem StaticCopyOK.run {s : State} {srcType : IndexType} {flag : Bool} {events : List Event}
    (hok : StaticCopyOK s.buffer srcType flag)
    (hkeep : AllAlong (Keeps srcType flag) s events = true) :
    StaticCopyOK (run s events).buffer srcType flag :=
  @AllAlong.run (fun s => StaticCopyOK s.buffer srcType flag) _ (fun _ _ => StaticCopyOK.step) _ _
    hok hkeep

/-- **Along a run of draws of one kind, every draw reads what it should.**  Start from
a state whose static copy is empty, and run any events in which every draw has source
type `srcType` and restart flag `flag` and succeeds; buffer updates, usage promotions and
deinitializations may come in between.  Then a draw of that kind that succeeds, inside
the application's data and from a buffer under 4 GiB, reads exactly the application's
values, the restart value carried over, whichever path serves it: the buffer bound
directly, a streaming buffer, or the static copy, built earlier in the run or by this
call. -/
theorem run_draws_intended {s : State} {events : List Event} {srcType : IndexType} {flag : Bool}
    {r : Responses} {count : Nat} {indices : Indices} {indexRange : IndexRange}
    {t : TranslatedIndexData} {m' : IndexDataManager} {b' : BufferD3D}
    (hempty : staticBufferInitialized s.buffer.staticIndexBuffer = false)
    (hkeep : AllAlong (Keeps srcType flag) s events = true)
    (h : (run s events).manager.prepareIndexData (run s events).buffer r srcType count indices
      indexRange flag = (.ok t, m', b'))
    (hsize : (run s events).buffer.getSize < 2 ^ 32)
    (hin : DrawInside (run s events).buffer srcType count indices) :
    drawnIndices m' b' t count =
      some (intendedIndices (run s events).buffer srcType t.indexType count indices flag) := by
  by_cases hstatic : t.indexBuffer = some .staticBuffer
  · exact prepareIndexData_draws_static h
      ((staticCopyOK_of_not_initialized hempty srcType flag).run hkeep) hstatic hsize hin
  · exact drawnIndices_of_not_staticBuffer h hin.le_length hstatic

/-- A fresh buffer whose usage is promoted, then one draw of bytes with restart on from
offset 1, which builds the copy: a second draw of that kind from offset 2 is served the
copy and reads `[0xFFFF, 3]`. -/
theorem run_draws_intended_promoted :
    staticBufferInitialized (State.init .d3d11 4 ⟨[1, 2, 255, 3], false, none, 0, 0⟩).buffer.staticIndexBuffer =
      false ∧
    AllAlong (Keeps .unsignedByte true) (State.init .d3d11 4 ⟨[1, 2, 255, 3], false, none, 0, 0⟩)
      [.promote 0 true, .draw ⟨fun _ => false, false⟩ .unsignedByte 2 (.offset 1) ⟨255, 2⟩ true] = true ∧
    (run (State.init .d3d11 4 ⟨[1, 2, 255, 3], false, none, 0, 0⟩)
        [.promote 0 true, .draw ⟨fun _ => false, false⟩ .unsignedByte 2 (.offset 1) ⟨255, 2⟩ true]) =
      ⟨IndexDataManager.create .d3d11 4,
        ⟨[1, 2, 255, 3], false, some ⟨[1, 0, 2, 0, 255, 255, 3, 0], some .unsignedShort, 8, 1⟩, 0, 0⟩⟩ ∧
    (IndexDataManager.create .d3d11 4).prepareIndexData
        ⟨[1, 2, 255, 3], false, some ⟨[1, 0, 2, 0, 255, 255, 3, 0], some .unsignedShort, 8, 1⟩, 0, 0⟩
        ⟨fun _ => false, false⟩ .unsignedByte 2 (.offset 2) ⟨255, 2⟩ true =
      (.ok ⟨.unsignedShort, false, some .staticBuffer, 1, 2, 4, ⟨.offset 2, .unsignedByte, 2⟩⟩,
        IndexDataManager.create .d3d11 4,
        ⟨[1, 2, 255, 3], false,
          some ⟨[1, 0, 2, 0, 255, 255, 3, 0], some .unsignedShort, 8, 1⟩, 0, 0⟩) ∧
    drawnIndices (IndexDataManager.create .d3d11 4)
        ⟨[1, 2, 255, 3], false, some ⟨[1, 0, 2, 0, 255, 255, 3, 0], some .unsignedShort, 8, 1⟩, 0, 0⟩
        ⟨.unsignedShort, false, some .staticBuffer, 1, 2, 4, ⟨.offset 2, .unsignedByte, 2⟩⟩ 2 =
      some (intendedIndices
        ⟨[1, 2, 255, 3], false, some ⟨[1, 0, 2, 0, 255, 255, 3, 0], some .unsignedShort, 8, 1⟩, 0, 0⟩
        .unsignedByte .unsignedShort 2 (.offset 2) true) ∧
    intendedIndices
        ⟨[1, 2, 255, 3], false, some ⟨[1, 0, 2, 0, 255, 255, 3, 0], some .unsignedShort, 8, 1⟩, 0, 0⟩
        .unsignedByte .unsignedShort 2 (.offset 2) true = [0xFFFF, 3] := by
  refine ⟨rfl, by decide, rfl, rfl, ?_, by decide⟩
  exact @run_draws_intended (State.init .d3d11 4 ⟨[1, 2, 255, 3], false, none, 0, 0⟩)
    [.promote 0 true, .draw ⟨fun _ => false, false⟩ .unsignedByte 2 (.offset 1) ⟨255, 2⟩ true]
    .unsignedByte true ⟨fun _ => false, false⟩ 2 (.offset 2) ⟨255, 2⟩ _ _ _ rfl (by decide) rfl
    (by decide) (by decide)

/-- **Along a run of draws of one kind, a draw served from the static copy stays inside
it.**  Start from a state whose static copy is empty, and run any events in which every
draw has source type `srcType` and restart flag `flag` and succeeds.  Then a draw of that
kind that succeeds from the static copy, inside a buffer under 4 GiB, is pointed at a copy
of its own index type, its byte offset is exactly its start index in elements of that
type, and its `count` elements lie inside the copy. -/
theorem run_static_descriptor {s : State} {events : List Event} {srcType : IndexType} {flag : Bool}
    {r : Responses} {count p : Nat} {indexRange : IndexRange} {t : TranslatedIndexData}
    {m' : IndexDataManager} {b' : BufferD3D}
    (hempty : staticBufferInitialized s.buffer.staticIndexBuffer = false)
    (hkeep : AllAlong (Keeps srcType flag) s events = true)
    (h : (run s events).manager.prepareIndexData (run s events).buffer r srcType count (.offset p)
      indexRange flag = (.ok t, m', b'))
    (hstatic : t.indexBuffer = some .staticBuffer) (hsize : (run s events).buffer.getSize < 2 ^ 32)
    (hin : toUInt p + count * srcType.bytes ≤ (run s events).buffer.getSize) :
    ∃ sb, b'.staticIndexBuffer = some sb ∧ sb.indexType = some t.indexType ∧
      t.startOffset = t.startIndex * t.indexType.bytes ∧
      (t.startIndex + count) * t.indexType.bytes ≤ sb.bufferSize := by
  obtain ⟨q, sb, hq, ha, hsb, hcopy, htype, rfl⟩ := prepareIndexData_static_copy h
    ((staticCopyOK_of_not_initialized hempty srcType flag).run hkeep) hstatic
  cases hq
  exact ⟨sb, hsb, htype, staticReference_inside hcopy htype
    (convertible_translatedType _ srcType count indexRange flag) ha hsize hin⟩

/-- A fresh buffer whose usage is promoted, then a byte draw with restart on from offset 1,
which builds the copy: a second draw of that kind, from offset 2, is pointed at element 2
of the copy, byte 4, and its two shorts end at byte 8, the copy's size. -/
theorem run_static_descriptor_promoted :
    staticBufferInitialized
        (State.init .d3d11 4 ⟨[1, 2, 255, 3], false, none, 0, 0⟩).buffer.staticIndexBuffer =
      false ∧
    AllAlong (Keeps .unsignedByte true) (State.init .d3d11 4 ⟨[1, 2, 255, 3], false, none, 0, 0⟩)
      [.promote 0 true,
        .draw ⟨fun _ => false, false⟩ .unsignedByte 2 (.offset 1) ⟨255, 2⟩ true] = true ∧
    (run (State.init .d3d11 4 ⟨[1, 2, 255, 3], false, none, 0, 0⟩)
        [.promote 0 true,
          .draw ⟨fun _ => false, false⟩ .unsignedByte 2 (.offset 1) ⟨255, 2⟩ true]) =
      ⟨IndexDataManager.create .d3d11 4,
        ⟨[1, 2, 255, 3], false,
          some ⟨[1, 0, 2, 0, 255, 255, 3, 0], some .unsignedShort, 8, 1⟩, 0, 0⟩⟩ ∧
    (IndexDataManager.create .d3d11 4).prepareIndexData
        ⟨[1, 2, 255, 3], false,
          some ⟨[1, 0, 2, 0, 255, 255, 3, 0], some .unsignedShort, 8, 1⟩, 0, 0⟩
        ⟨fun _ => false, false⟩ .unsignedByte 2 (.offset 2) ⟨255, 2⟩ true =
      (.ok ⟨.unsignedShort, false, some .staticBuffer, 1, 2, 4,
          ⟨.offset 2, .unsignedByte, 2⟩⟩,
        IndexDataManager.create .d3d11 4,
        ⟨[1, 2, 255, 3], false,
          some ⟨[1, 0, 2, 0, 255, 255, 3, 0], some .unsignedShort, 8, 1⟩, 0, 0⟩) ∧
    ∃ sb : IndexBuffer,
      some ⟨[1, 0, 2, 0, 255, 255, 3, 0], some .unsignedShort, 8, 1⟩ = some sb ∧
      sb.indexType = some IndexType.unsignedShort ∧ 4 = 2 * IndexType.unsignedShort.bytes ∧
      (2 + 2) * IndexType.unsignedShort.bytes ≤ sb.bufferSize := by
  refine ⟨rfl, by decide, rfl, rfl, ?_⟩
  exact @run_static_descriptor (State.init .d3d11 4 ⟨[1, 2, 255, 3], false, none, 0, 0⟩)
    [.promote 0 true,
      .draw ⟨fun _ => false, false⟩ .unsignedByte 2 (.offset 1) ⟨255, 2⟩ true]
    .unsignedByte true ⟨fun _ => false, false⟩ 2 2 ⟨255, 2⟩ _ _ _ rfl (by decide) rfl rfl
    (by decide) (by decide)

end Rx
