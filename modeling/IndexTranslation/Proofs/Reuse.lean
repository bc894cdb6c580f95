/-
A copy that cannot be built blocks the cached path.

The build converts the whole buffer (`convertCount` elements), not the draw's slice, so
for a buffer whose conversion does not fit an `unsigned int` it is refused before
anything is reserved and the copy stays empty.  Every aligned draw from that buffer that
does not bind directly then fails and changes nothing, though with no copy it would have
streamed just its slice (`prepareIndexData_static_too_large`).
-/
import IndexTranslation.Proofs.StaticCopy
import IndexTranslation.Proofs.Outcome

namespace Rx

open IndexDataManager

/-! ### Which aligned draws take the static path -/

section Aligned

variable {m : IndexDataManager} {b : BufferD3D} {r : Responses} {srcType : IndexType}
  {count p : Nat} {indexRange : IndexRange} {flag : Bool} {sb : IndexBuffer}

/-- An aligned draw that cannot bind directly, from a buffer whose copy is empty or of the
destination type, takes the static path. -/
theorem prepareIndexData_of_staticBuffer (ha : offsetAligned srcType (toUInt p) = true)
    (hnd : ¬(b.supportsDirectBinding = true ∧
      translatedType m.rendererClass srcType count indexRange flag = srcType))
    (hsb : b.staticIndexBuffer = some sb)
    (htype : sb.bufferSize ≠ 0 →
      sb.indexType = some (translatedType m.rendererClass srcType count indexRange flag)) :
    m.prepareIndexData b r srcType count (.offset p) indexRange flag =
      m.useStaticBuffer r b sb (sb.bufferSize != 0) (toUInt p) srcType
        (translatedType m.rendererClass srcType count indexRange flag) flag
        (TranslatedIndexData.start (translatedType m.rendererClass srcType count indexRange flag)
          srcType count (.offset p)) := by
  rcases m.prepareIndexData_cases b r srcType count (.offset p) indexRange flag with
    ⟨_, h, -⟩ | ⟨_, h, -, hd, hd', -⟩ | ⟨_, sb', h, -, -, hsb', -, hout⟩ |
      ⟨_, h, -, hns, -⟩ <;> cases h
  · exact absurd ⟨hd, hd'⟩ hnd
  · rw [hsb, Option.some_inj] at hsb'
    subst hsb'
    exact hout
  · exact absurd ⟨ha, sb, hsb, htype⟩ hns

end Aligned

/-! ### A copy too large to build -/

/-- **A copy too large to build blocks the cached path.**  When the buffer's static copy
is empty and the whole buffer, converted, does not fit an `unsigned int`, every aligned
draw from the buffer that does not bind directly fails and changes nothing, whatever the
collaborators answer: the build is refused before anything is reserved, so the copy
stays empty and the next such draw retries it.  Without the copy, the same draw, its own
byte count fitting and no collaborator failing, streams its slice and succeeds. -/
theorem prepareIndexData_static_too_large {m : IndexDataManager} {b : BufferD3D}
    {sb : IndexBuffer} {srcType : IndexType} {count p : Nat} {indexRange : IndexRange}
    {flag : Bool} (ha : offsetAligned srcType (toUInt p) = true)
    (hnd : ¬(b.supportsDirectBinding = true ∧
      translatedType m.rendererClass srcType count indexRange flag = srcType))
    (hsb : b.staticIndexBuffer = some sb) (h0 : sb.bufferSize = 0)
    (hbig : uintMax < convertCount b srcType *
      (translatedType m.rendererClass srcType count indexRange flag).bytes)
    (hcount : count * (translatedType m.rendererClass srcType count indexRange flag).bytes ≤
      uintMax) :
    (∀ r, ∃ e, m.prepareIndexData b r srcType count (.offset p) indexRange flag =
      (.error e, m, b)) ∧
    ∀ r : Responses, (∀ c, r.fails c = false) →
      ∃ t, (m.prepareIndexData { b with staticIndexBuffer := none } r srcType count (.offset p)
        indexRange flag).1 = .ok t := by
  refine ⟨fun r => ?_, fun r hr => ?_⟩
  · have hguard : streamInIndexBuffer r sb b.data (convertCount b srcType) srcType
        (translatedType m.rendererClass srcType count indexRange flag) flag =
        (.error (.outOfMemory _ _), sb) :=
      Prod.ext (streamInIndexBuffer_outOfMemory_iff.2 hbig)
        (streamInIndexBuffer_snd_of_outOfMemory hbig)
    have hb : { b with staticIndexBuffer := some sb } = b := by rw [← hsb]
    rw [prepareIndexData_of_staticBuffer ha hnd hsb (absurd h0),
      show (sb.bufferSize != 0) = false by simp [h0]]
    unfold useStaticBuffer
    rw [if_neg Bool.false_ne_true]
    by_cases hget : r.fails .getData = true
    · rw [if_pos hget]
      exact ⟨_, rfl⟩
    · rw [if_neg hget, hguard]
      exact ⟨_, congrArg (fun b' => (Except.error _, m, b')) hb⟩
  · rcases m.prepareIndexData_cases { b with staticIndexBuffer := none } r srcType count
        (.offset p) indexRange flag with
      ⟨_, hq, -⟩ | ⟨_, hq, -, -, -, hout⟩ | ⟨_, _, hq, -, -, hsb', -, -⟩ |
        ⟨_, hq, -, -, hout⟩ <;> cases hq
    · exact ⟨_, by rw [hout]⟩
    · cases hsb'
    · rw [hout]
      exact streamFromBuffer_succeeds hr m _ _ srcType _ flag _ hcount

/-- A buffer of `2^31` bytes drawn as bytes, with an empty copy: widened to shorts the whole
buffer needs `2^32` bytes, so a draw of two indices from offset 0 fails on every call,
while with no copy it streams. -/
theorem prepareIndexData_static_too_large_twoGiB :
    ¬(BufferD3D.supportsDirectBinding
        ⟨List.replicate (2 ^ 31) 0, false, some .empty, 0, 0⟩ = true ∧
      translatedType (IndexDataManager.create .d3d11 4).rendererClass
        .unsignedByte 2 ⟨0, 2⟩ false = .unsignedByte) ∧
    uintMax < convertCount ⟨List.replicate (2 ^ 31) 0, false, some .empty, 0, 0⟩ .unsignedByte *
      (translatedType (IndexDataManager.create .d3d11 4).rendererClass
        .unsignedByte 2 ⟨0, 2⟩ false).bytes ∧
    2 * (translatedType (IndexDataManager.create .d3d11 4).rendererClass
      .unsignedByte 2 ⟨0, 2⟩ false).bytes ≤ uintMax ∧
    (∀ r, ∃ e, (IndexDataManager.create .d3d11 4).prepareIndexData
        ⟨List.replicate (2 ^ 31) 0, false, some .empty, 0, 0⟩ r
        .unsignedByte 2 (.offset 0) ⟨0, 2⟩ false =
      (.error e, IndexDataManager.create .d3d11 4,
        ⟨List.replicate (2 ^ 31) 0, false, some .empty, 0, 0⟩)) ∧
    ∀ r : Responses, (∀ c, r.fails c = false) →
      ∃ t, ((IndexDataManager.create .d3d11 4).prepareIndexData
        ({ (⟨List.replicate (2 ^ 31) 0, false, some .empty, 0, 0⟩ : BufferD3D) with
          staticIndexBuffer := none }) r
        .unsignedByte 2 (.offset 0) ⟨0, 2⟩ false).1 = .ok t :=
  have hnd : ¬(BufferD3D.supportsDirectBinding
        ⟨List.replicate (2 ^ 31) 0, false, some .empty, 0, 0⟩ = true ∧
      translatedType (IndexDataManager.create .d3d11 4).rendererClass
        .unsignedByte 2 ⟨0, 2⟩ false = .unsignedByte) :=
    fun h => Bool.false_ne_true h.1
  have hbig : uintMax < convertCount ⟨List.replicate (2 ^ 31) 0, false, some .empty, 0, 0⟩
      .unsignedByte * (translatedType (IndexDataManager.create .d3d11 4).rendererClass
        .unsignedByte 2 ⟨0, 2⟩ false).bytes := by
    have hl : BufferD3D.getSize ⟨List.replicate (2 ^ 31) 0, false, some .empty, 0, 0⟩ =
      2 ^ 31 := List.length_replicate _ _
    rw [convertCount_of_lt .unsignedByte (hl.trans_lt (by decide)), hl]
    decide
  have h := @prepareIndexData_static_too_large (IndexDataManager.create .d3d11 4)
    ⟨List.replicate (2 ^ 31) 0, false, some .empty, 0, 0⟩ .empty .unsignedByte 2 0 ⟨0, 2⟩
    false (by decide) hnd rfl rfl hbig (by decide)
  ⟨hnd, hbig, by decide, h.1, h.2⟩

end Rx
