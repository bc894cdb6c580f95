/-
Draws read what they should.

`Draw` says what a descriptor makes the draw read (`drawnIndices`) and what it
should read (`intendedIndices`).  Here the file's paths are measured against it.

  * Direct binding and both streaming paths: whatever the manager holds, a call
    that succeeds makes the draw read exactly the intended values
    (`prepareIndexData_draws_source`).  The draw reads from the descriptor's byte
    offset; that the element offset names the same place is a fact about runs,
    resting on the invariant `StreamingOK`.
  * The static copy, in `Proofs/StaticCopy`, rests on the slice lemmas here:
    converting the whole buffer and reading a slice is converting the slice
    (`indexValues_convertIndices_drop`).
  * What later calls do to a streamed draw is the business of `Proofs/Append`.
-/
import IndexTranslation.Draw
import IndexTranslation.Proofs.Restart
import IndexTranslation.Proofs.Streaming

namespace Rx

open IndexDataManager

/-! ### Slices of an index array -/

/-- Reading `k + n` elements is reading `k`, then `n` more after their bytes. -/
theorem indexValues_add (t : IndexType) (k n : Nat) (mem : List UInt8) :
    indexValues t (k + n) mem = indexValues t k mem ++ indexValues t n (mem.drop (k * t.bytes)) := by
  induction k generalizing mem with
  | zero => simp [indexValues]
  | succ k ih =>
    rw [Nat.succ_add, indexValues, indexValues, ih, List.drop_drop, Nat.succ_mul, Nat.add_comm]
    rfl

/-- The first `k` elements read are the first `k` of any longer read. -/
theorem indexValues_prefix (t : IndexType) {k n : Nat} (h : k ≤ n) (mem : List UInt8) :
    indexValues t k mem = (indexValues t n mem).take k := by
  obtain ⟨j, rfl⟩ := Nat.exists_eq_add_of_le h
  rw [indexValues_add, List.take_left' (length_indexValues _ _ _)]

/-- Reading from element `k` on drops the first `k` values. -/
theorem indexValues_drop (t : IndexType) (k n : Nat) (mem : List UInt8) :
    indexValues t n (mem.drop (k * t.bytes)) = (indexValues t (k + n) mem).drop k := by
  rw [indexValues_add, List.drop_left' (length_indexValues _ _ _)]

/-- A read of `n` elements from byte `o` on sees only the bytes below `o + n * bytes`. -/
theorem indexValues_drop_of_take_eq (t : IndexType) {o n L : Nat} {mem mem' : List UInt8}
    (h : mem.take L = mem'.take L) (hL : o + n * t.bytes ≤ L) :
    indexValues t n (mem.drop o) = indexValues t n (mem'.drop o) := by
  have key : ∀ bytes : List UInt8,
      indexValues t n (bytes.drop o) = indexValues t n (((bytes.take L).take (o + n * t.bytes)).drop o) := by
    intro bytes
    rw [List.take_take, Nat.min_eq_left hL, List.drop_take, Nat.add_sub_cancel_left,
      indexValues_take _ _ _ _ le_rfl]
  rw [key mem, key mem', h]

/-- **Slicing commutes with conversion.**  Converting `total` elements and reading
`count` of them from element `k` on gives the remapped source values of that slice. -/
theorem indexValues_convertIndices_drop {src dst : IndexType} (hc : convertible src dst = true)
    (data : List UInt8) {total k count : Nat} (flag : Bool) (hk : k + count ≤ total) :
    indexValues dst count ((convertIndices src dst data total flag).drop (k * dst.bytes)) =
      (indexValues src count (data.drop (k * src.bytes))).map (restartRemap src dst flag) := by
  rw [indexValues_drop dst, indexValues_prefix dst hk, indexValues_convertIndices hc,
    indexValues_drop src, indexValues_prefix src hk, List.map_drop, List.map_take]

/-! ### Direct and streaming draws -/

/-- A successful `streamIndexData` makes the draw read the remapped source values. -/
theorem drawnIndices_of_streamIndexData {m m' : IndexDataManager} {r : Responses}
    {data : List UInt8} {count : Nat} {srcType dstType : IndexType} {flag : Bool}
    {indices : Indices} {t : TranslatedIndexData} (hc : convertible srcType dstType = true)
    (hin : count * srcType.bytes ≤ data.length)
    (h : m.streamIndexData r data count srcType dstType flag
      (TranslatedIndexData.start dstType srcType count indices) = (.ok t, m')) (b : BufferD3D) :
    t.indexType = dstType ∧ drawnIndices m' b t count =
      some ((indexValues srcType count data).map (restartRemap srcType dstType flag)) := by
  obtain ⟨offset, sb, rfl, hsb, -, -, hread⟩ := streamIndexData_written h
  have hlen := length_convertIndices hc flag hin
  refine ⟨rfl, ?_⟩
  rw [drawnIndices, boundStorage_streamingRef rfl rfl, hsb, Option.map_some', Option.map_some']
  congr 1
  calc indexValues dstType count (sb.contents.drop offset)
      = indexValues dstType count
          ((sb.contents.drop offset).take (convertIndices srcType dstType data count flag).length) :=
        (indexValues_take _ _ _ _ hlen.ge).symm
    _ = indexValues dstType count (convertIndices srcType dstType data count flag) := by rw [hread]
    _ = _ := indexValues_convertIndices hc data count flag

/-- A call that succeeds with a descriptor that does not name the static copy makes the
draw read the intended values. -/
theorem drawnIndices_of_not_staticBuffer {m m' : IndexDataManager} {b b' : BufferD3D}
    {r : Responses} {srcType : IndexType} {count : Nat} {indices : Indices}
    {indexRange : IndexRange} {flag : Bool} {t : TranslatedIndexData}
    (h : m.prepareIndexData b r srcType count indices indexRange flag = (.ok t, m', b'))
    (hin : count * srcType.bytes ≤ (sourceData b indices).length)
    (hnotStatic : t.indexBuffer ≠ some .staticBuffer) :
    drawnIndices m' b' t count = some (intendedIndices b srcType t.indexType count indices flag) := by
  rcases prepareIndexData_ok_cases h with hstream | ⟨p, rfl, -, hd, rfl, rfl, rfl⟩ |
    ⟨p, sb, -, -, -, -, hout⟩
  · obtain ⟨ht, hdraw⟩ := drawnIndices_of_streamIndexData (convertible_translatedType _ _ _ _ _)
      hin hstream b'
    rw [hdraw, intendedIndices, ht]
  · rw [drawnIndices, boundStorage_of_storage rfl, Option.map_some']
    simp only [intendedIndices, sourceData, TranslatedIndexData.start, hd, restartRemap_self, List.map_id]
  · obtain ⟨sb', rfl⟩ := useStaticBuffer_ok (congrArg Prod.fst hout)
    exact absurd rfl hnotStatic

/-- **Draws bound directly or streamed read what they should.**  Whatever the manager
holds, when a call succeeds with a descriptor that does not name the static copy and
the application's bytes hold the `count` indices, the draw reads exactly the
application's values, the source restart value carried over to the destination type
when fixed-index restart is on. -/
theorem prepareIndexData_draws_source {m m' : IndexDataManager} {b b' : BufferD3D} {r : Responses}
    {srcType : IndexType} {count : Nat} {indices : Indices} {indexRange : IndexRange} {flag : Bool}
    {t : TranslatedIndexData}
    (h : m.prepareIndexData b r srcType count indices indexRange flag = (.ok t, m', b'))
    (hin : count * srcType.bytes ≤ (sourceData b indices).length)
    (hnotStatic : t.indexBuffer ≠ some .staticBuffer) :
    drawnIndices m' b' t count = some (intendedIndices b srcType t.indexType count indices flag) :=
  drawnIndices_of_not_staticBuffer h hin hnotStatic

/-- Two bytes from offset 1 of a buffer with no static copy, restart on: the slice is
streamed as shorts and the draw reads `[2, 0xFFFF]`. -/
theorem prepareIndexData_draws_source_fallback :
    (IndexDataManager.create .d3d11 4).prepareIndexData ⟨[1, 2, 255], false, none, 0, 0⟩
        ⟨fun _ => false, false⟩ .unsignedByte 2 (.offset 1) ⟨255, 2⟩ true =
      (.ok ⟨.unsignedShort, false, some .streamingShort, 1, 0, 0, ⟨.offset 1, .unsignedByte, 2⟩⟩,
        ⟨.d3d11, 4, some ⟨[2, 0, 255, 255], some .unsignedShort, 4, 1⟩, none⟩,
        ⟨[1, 2, 255], false, none, 0, 2⟩) ∧
    2 * IndexType.unsignedByte.bytes ≤ (sourceData ⟨[1, 2, 255], false, none, 0, 0⟩ (.offset 1)).length ∧
    some IndexBufferRef.streamingShort ≠ some .staticBuffer ∧
    drawnIndices ⟨.d3d11, 4, some ⟨[2, 0, 255, 255], some .unsignedShort, 4, 1⟩, none⟩
        ⟨[1, 2, 255], false, none, 0, 2⟩
        ⟨.unsignedShort, false, some .streamingShort, 1, 0, 0, ⟨.offset 1, .unsignedByte, 2⟩⟩ 2 =
      some (intendedIndices ⟨[1, 2, 255], false, none, 0, 0⟩ .unsignedByte .unsignedShort 2
        (.offset 1) true) ∧
    intendedIndices ⟨[1, 2, 255], false, none, 0, 0⟩ .unsignedByte .unsignedShort 2 (.offset 1) true =
      [2, 0xFFFF] :=
  ⟨rfl, by decide, by decide,
    @prepareIndexData_draws_source (IndexDataManager.create .d3d11 4) _ _ _ ⟨fun _ => false, false⟩
      .unsignedByte 2 (.offset 1) ⟨255, 2⟩ true _ rfl (by decide) (by decide), by decide⟩

end Rx
