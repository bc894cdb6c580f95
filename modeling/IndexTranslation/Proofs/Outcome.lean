/-
What a call returns.

Two facts about the outcome of `prepareIndexData`, over all four paths:

  * No error is made up.  An error is a failed collaborator call passed on, or the
    file's own out-of-memory error, and that one only for the reservation the call
    makes, when its byte count does not fit an `unsigned int`: the draw's `count`
    elements of the translated type, or, building a static copy, as many elements as
    the whole buffer holds (`prepareIndexData_error_justified`).
  * No call fails without a cause.  When every collaborator succeeds, a draw whose
    translated byte count fits succeeds, from a buffer of under 2 GiB
    (`prepareIndexData_succeeds`).  The buffer bound is for the static copy, which
    converts the whole buffer and may widen it to twice its size.

Each function of the call chain gets its lemma, citing the one below it.
-/
import IndexTranslation.Proofs.Overflow
import IndexTranslation.Proofs.Restart

namespace Rx

open IndexDataManager

/-- An error the file may return from a reservation of `count` elements of `dstType`
when the collaborators answer `r`: a call that `r` fails, or the out-of-memory error
for exactly that reservation, when its byte count does not fit an `unsigned int`. -/
def ErrorJustified (r : Responses) (count : Nat) (dstType : IndexType) : Error → Prop
  | .outOfMemory n bytes => n = count ∧ bytes = dstType.bytes ∧ uintMax < n * bytes
  | .collaborator call => r.fails call = true

instance (r : Responses) (count : Nat) (dstType : IndexType) :
    (e : Error) → Decidable (ErrorJustified r count dstType e)
  | .outOfMemory n bytes =>
    inferInstanceAs (Decidable (n = count ∧ bytes = dstType.bytes ∧ uintMax < n * bytes))
  | .collaborator call => inferInstanceAs (Decidable (r.fails call = true))

/-! ### No error is made up -/

section Justified

variable {r : Responses} {e : Error} {count : Nat} {dstType : IndexType}

theorem errorJustified_streamInIndexBuffer {buffer : IndexBuffer} {data : List UInt8}
    {srcType : IndexType} {flag : Bool}
    (h : (streamInIndexBuffer r buffer data count srcType dstType flag).1 = .error e) :
    ErrorJustified r count dstType e := by
  unfold streamInIndexBuffer at h
  split_ifs at h with hguard hreserve hmap hunmap <;> cases h
  · exact ⟨rfl, rfl, (uintMax_shiftRight_lt_iff _ _).1 hguard⟩
  · exact hreserve
  · exact hmap
  · exact hunmap

/-- Fetching a slot fails only by its collaborator, whatever reservation follows. -/
theorem errorJustified_getStreamingIndexBuffer {m : IndexDataManager} {t : IndexType}
    (h : (m.getStreamingIndexBuffer r t).1 = .error e) : ErrorJustified r count dstType e := by
  unfold getStreamingIndexBuffer at h
  split at h
  · cases h
  · split_ifs at h with hfail
    cases h
    exact hfail

theorem errorJustified_streamIndexData {m : IndexDataManager} {data : List UInt8}
    {srcType : IndexType} {flag : Bool} {translated : TranslatedIndexData}
    (h : (m.streamIndexData r data count srcType dstType flag translated).1 = .error e) :
    ErrorJustified r count dstType e := by
  unfold streamIndexData at h
  split at h
  · rename_i heq
    cases h
    exact errorJustified_getStreamingIndexBuffer (congrArg Prod.fst heq)
  · split at h
    · rename_i heq
      cases h
      exact errorJustified_streamInIndexBuffer (congrArg Prod.fst heq)
    · cases h

theorem errorJustified_streamFromBuffer {m : IndexDataManager} {b : BufferD3D} {offset : Nat}
    {srcType : IndexType} {flag : Bool} {translated : TranslatedIndexData}
    (h : (m.streamFromBuffer r b offset srcType dstType count flag translated).1 = .error e) :
    ErrorJustified r count dstType e := by
  unfold streamFromBuffer at h
  split_ifs at h with hget
  · cases h; exact hget
  split at h
  · rename_i heq
    cases h
    exact errorJustified_streamIndexData (congrArg Prod.fst heq)
  · cases h

/-- The static path reserves the whole buffer, converted. -/
theorem errorJustified_useStaticBuffer {m : IndexDataManager} {b : BufferD3D} {sb : IndexBuffer}
    {initialized : Bool} {offset : Nat} {srcType : IndexType} {flag : Bool}
    {translated : TranslatedIndexData}
    (h : (m.useStaticBuffer r b sb initialized offset srcType dstType flag translated).1 = .error e) :
    ErrorJustified r (convertCount b srcType) dstType e := by
  unfold useStaticBuffer at h
  split_ifs at h with hinit hget
  · cases h; exact hget
  split at h
  · rename_i heq
    cases h
    exact errorJustified_streamInIndexBuffer (congrArg Prod.fst heq)
  · cases h

end Justified

theorem bytes_le_two_mul_of_convertible {src dst : IndexType} (h : convertible src dst = true) :
    dst.bytes ≤ 2 * src.bytes := by
  cases src <;> cases dst <;> simp_all [convertible]

section Succeeds

variable {r : Responses} (hr : ∀ c, r.fails c = false)
include hr

/-- With every collaborator succeeding, the streaming fallback succeeds whenever the
byte count fits. -/
theorem streamFromBuffer_succeeds (m : IndexDataManager) (b : BufferD3D) (offset : Nat)
    (srcType dstType : IndexType) {count : Nat} (flag : Bool) (translated : TranslatedIndexData)
    (h : count * dstType.bytes ≤ uintMax) :
    ∃ t, (m.streamFromBuffer r b offset srcType dstType count flag translated).1 = .ok t := by
  obtain ⟨t, ht⟩ := streamIndexData_succeeds r hr m (b.data.drop offset) srcType flag translated h
  refine ⟨t, ?_⟩
  unfold streamFromBuffer
  rw [if_neg (by simp [hr])]
  split
  · rename_i heq; rw [heq] at ht; cases ht
  · rename_i heq; rw [heq] at ht; exact ht

/-- With every collaborator succeeding, the static path succeeds whenever the whole
buffer, converted, fits. -/
theorem useStaticBuffer_succeeds (m : IndexDataManager) (b : BufferD3D) (sb : IndexBuffer)
    (initialized : Bool) (offset : Nat) (srcType dstType : IndexType) (flag : Bool)
    (translated : TranslatedIndexData)
    (h : convertCount b srcType * dstType.bytes ≤ uintMax) :
    ∃ t, (m.useStaticBuffer r b sb initialized offset srcType dstType flag translated).1 = .ok t := by
  unfold useStaticBuffer
  split_ifs
  · exact ⟨_, rfl⟩
  · simp_all
  have hok := streamInIndexBuffer_succeeds r hr sb b.data srcType flag h
  split
  · rename_i heq; rw [heq] at hok; cases hok
  · exact ⟨_, rfl⟩

/-- **With every collaborator succeeding, a draw that fits succeeds.**  A draw whose
translated byte count fits an `unsigned int`, from client memory or from a buffer of
under 2 GiB, gets a descriptor on every path. -/
theorem prepareIndexData_succeeds (m : IndexDataManager) (b : BufferD3D) (srcType : IndexType)
    (count : Nat) (indices : Indices) (indexRange : IndexRange) (flag : Bool)
    (hcount : count * (translatedType m.rendererClass srcType count indexRange flag).bytes ≤ uintMax)
    (hsize : 2 * b.getSize ≤ uintMax) :
    ∃ t, (m.prepareIndexData b r srcType count indices indexRange flag).1 = .ok t := by
  have hc := convertible_translatedType m.rendererClass srcType count indexRange flag
  rcases m.prepareIndexData_cases b r srcType count indices indexRange flag with
    ⟨_, -, hout⟩ | ⟨_, -, -, -, -, hout⟩ | ⟨_, _, -, -, -, -, -, hout⟩ | ⟨_, -, -, -, hout⟩ <;>
    rw [hout]
  · exact streamIndexData_succeeds r hr m _ srcType flag _ hcount
  · exact ⟨_, rfl⟩
  · refine useStaticBuffer_succeeds hr m b _ _ _ srcType _ flag _ ?_
    -- The whole buffer converted: at most twice its bytes.
    have hwide := bytes_le_two_mul_of_convertible hc
    rw [convertCount, IndexType.shiftRight_bytesShift, toUInt_of_lt (by unfold uintMax at hsize; omega)]
    calc b.getSize / srcType.bytes * (translatedType m.rendererClass srcType count indexRange flag).bytes
        ≤ b.getSize / srcType.bytes * (2 * srcType.bytes) := Nat.mul_le_mul_left _ hwide
      _ = 2 * (b.getSize / srcType.bytes * srcType.bytes) := by ring
      _ ≤ 2 * b.getSize := Nat.mul_le_mul_left _ (Nat.div_mul_le_self _ _)
      _ ≤ uintMax := hsize
  · exact streamFromBuffer_succeeds hr m _ _ srcType _ flag _ hcount

end Succeeds

/-- A draw of two shorts from offset 0 of a buffer whose static copy is empty, with no
collaborator failing: the copy is built and the call succeeds. -/
theorem prepareIndexData_succeeds_static :
    (∀ c, (⟨fun _ => false, false⟩ : Responses).fails c = false) ∧
    2 * (translatedType .d3d11 .unsignedShort 2 ⟨1, 2⟩ false).bytes ≤ uintMax ∧
    2 * BufferD3D.getSize ⟨[0, 0, 1, 0], false, some .empty, 0, 0⟩ ≤ uintMax ∧
    ∃ t, ((IndexDataManager.create .d3d11 4).prepareIndexData
        ⟨[0, 0, 1, 0], false, some .empty, 0, 0⟩ ⟨fun _ => false, false⟩ .unsignedShort 2
        (.offset 0) ⟨1, 2⟩ false).1 = .ok t :=
  ⟨fun _ => rfl, by decide, by decide,
    prepareIndexData_succeeds (fun _ => rfl) (IndexDataManager.create .d3d11 4)
      ⟨[0, 0, 1, 0], false, some .empty, 0, 0⟩ .unsignedShort 2 (.offset 0) ⟨1, 2⟩ false
      (by decide) (by decide)⟩

end Rx
