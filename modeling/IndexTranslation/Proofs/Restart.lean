/-
Primitive restart on Direct3D 11.

Direct3D 11 cuts a strip at the largest value of the index type, always; GL cuts
at the largest value of the source type only when fixed-index restart is enabled.
The destination type and the converter together have to make the two agree: every
GL restart becomes the backend's cut value, and no real vertex index becomes it.

The argument is per element.  `translatedType` only ever asks `ConvertIndices` for
a pair it handles, so the backend sees the source values with `restartRemap`
applied (`indexValues_convertIndices`).  With restart on, that remap sends the
source restart value to the destination one and nothing else there, because the
destination type is at least as wide.  With restart off, nothing may reach the
cut value: a byte source is widened to shorts and so stays below it; a short
source that holds `0xFFFF` has an exact range ending at `0xFFFF`, which switches
on the workaround and widens it to ints; and an int source is kept free of
`0xFFFFFFFF` by `MAX_ELEMENT_INDEX`, which the theorem takes as its hypothesis.
-/
import IndexTranslation.Proofs.Prepare
import Mathlib.Data.List.MinMax
import Mathlib.Data.List.GetD

namespace Rx

/-- The range a caller passes when restart is disabled: every index is a vertex index,
and the range ends at the largest one (`gl::ComputeIndexRange`, not in the file). -/
def exactRange (srcType : IndexType) (count : Nat) (slice : List UInt8) : IndexRange :=
  ⟨(indexValues srcType count slice).foldr max 0, count⟩

/-- `prepareIndexData` only asks `ConvertIndices` for pairs it handles. -/
theorem convertible_translatedType (rendererClass : RendererClass) (srcType : IndexType)
    (count : Nat) (indexRange : IndexRange) (flag : Bool) :
    convertible srcType (translatedType rendererClass srcType count indexRange flag) = true := by
  unfold translatedType destinationType
  cases srcType <;> split <;> simp_all [usePrimitiveRestartWorkaround, convertible]

/-- With restart disabled and an exact range, a short source holding `0xFFFF` is widened. -/
theorem translatedType_of_restart_value {count : Nat} {slice : List UInt8}
    (hmem : IndexType.unsignedShort.primitiveRestartIndex ∈ indexValues .unsignedShort count slice) :
    translatedType .d3d11 .unsignedShort count (exactRange .unsignedShort count slice) false =
      .unsignedInt := by
  have hle : (indexValues .unsignedShort count slice).foldr max 0 ≤
      IndexType.unsignedShort.primitiveRestartIndex :=
    List.max_le_of_forall_le _ _ fun _ hv => le_primitiveRestartIndex_of_mem_indexValues hv
  have hge := List.le_max_of_le hmem (le_refl _)
  have hend : (exactRange .unsignedShort count slice).endIndex =
      IndexType.unsignedShort.primitiveRestartIndex := le_antisymm hle hge
  simp [translatedType, destinationType, usePrimitiveRestartWorkaround, hasPrimitiveRestartIndex,
    hend]

/-- The element-wise fact: on Direct3D 11 the remap reaches the destination's cut value
exactly at a GL restart. -/
theorem restartRemap_eq_iff {srcType : IndexType} {count : Nat} {slice : List UInt8}
    {indexRange : IndexRange} {flag : Bool} {v : Nat}
    (hv : v ∈ indexValues srcType count slice)
    (hrange : flag = false → indexRange = exactRange srcType count slice)
    (hmax : flag = false → srcType = .unsignedInt → v ≠ IndexType.unsignedInt.primitiveRestartIndex) :
    restartRemap srcType (translatedType .d3d11 srcType count indexRange flag) flag v =
        (translatedType .d3d11 srcType count indexRange flag).primitiveRestartIndex ↔
      flag = true ∧ v = srcType.primitiveRestartIndex := by
  have hle := le_primitiveRestartIndex_of_mem_indexValues hv
  cases flag with
  | true =>
    have hwide := bytes_le_of_convertible (convertible_translatedType .d3d11 srcType count indexRange true)
    have hmono : srcType.primitiveRestartIndex ≤
        (translatedType .d3d11 srcType count indexRange true).primitiveRestartIndex := by
      unfold IndexType.primitiveRestartIndex
      have := Nat.pow_le_pow_right (show 0 < 256 by norm_num) hwide
      omega
    by_cases hs : v = srcType.primitiveRestartIndex
    · simp [restartRemap, hs]
    · simp only [restartRemap, hs, and_false, if_false, and_false, iff_false]
      omega
  | false =>
    simp only [restartRemap, Bool.false_eq_true, false_and, if_false, iff_false]
    have hr := hrange rfl
    subst hr
    cases srcType with
    | unsignedByte =>
      simp only [IndexType.primitiveRestartIndex_unsignedByte] at hle
      simp [translatedType, destinationType, usePrimitiveRestartWorkaround]
      omega
    | unsignedShort =>
      by_cases hv' : v = IndexType.unsignedShort.primitiveRestartIndex
      · rw [translatedType_of_restart_value (hv' ▸ hv)]
        simp only [IndexType.primitiveRestartIndex_unsignedShort] at hle
        simp only [IndexType.primitiveRestartIndex_unsignedInt]
        omega
      · simp only [IndexType.primitiveRestartIndex_unsignedShort] at hle hv'
        unfold translatedType destinationType
        split
        · simp only [IndexType.primitiveRestartIndex_unsignedInt]; omega
        · simpa using hv'
    | unsignedInt =>
      simpa [translatedType, destinationType] using hmax rfl rfl

/-- **Primitive restart keeps its meaning on Direct3D 11.**  For every source type, flag
and index slice, take the bytes the backend is handed: the slice itself when the call
binds the buffer directly (which needs the destination type to be the source type), and
otherwise `ConvertIndices` into the destination type `prepareIndexData` picks.  Assume, as
the callers guarantee, that with restart disabled the range is exact and an int slice has
no `0xFFFFFFFF`.  Then every element the backend reads is its cut value exactly where GL
restarts, and every other element is the source index unchanged. -/
theorem primitiveRestart_preserved_d3d11 (srcType : IndexType) (flag : Bool) (count : Nat)
    (slice : List UInt8) (indexRange : IndexRange) (direct : Bool)
    (hrange : flag = false → indexRange = exactRange srcType count slice)
    (hmax : flag = false → srcType = .unsignedInt →
      IndexType.unsignedInt.primitiveRestartIndex ∉ indexValues srcType count slice) :
    let dstType := translatedType .d3d11 srcType count indexRange flag
    let out := indexValues dstType count
      (if direct = true ∧ dstType = srcType then slice
        else convertIndices srcType dstType slice count flag)
    let input := indexValues srcType count slice
    ∀ i < count,
      (out.getD i 0 = dstType.primitiveRestartIndex ↔
        flag = true ∧ input.getD i 0 = srcType.primitiveRestartIndex) ∧
      (¬(flag = true ∧ input.getD i 0 = srcType.primitiveRestartIndex) →
        out.getD i 0 = input.getD i 0) := by
  intro dstType out input i hi
  have hout : out = input.map (restartRemap srcType dstType flag) := by
    simp only [out]
    split_ifs with hd
    · rw [hd.2]; simp [input]
    · exact indexValues_convertIndices (convertible_translatedType _ _ _ _ _) slice count flag
  have hlen : i < input.length := by simpa [input] using hi
  have hget : (input.map (restartRemap srcType dstType flag)).getD i 0 =
      restartRemap srcType dstType flag (input.getD i 0) := by
    rw [List.getD_eq_getElem _ _ (by simpa using hlen), List.getD_eq_getElem _ _ hlen,
      List.getElem_map]
  have hmem : input.getD i 0 ∈ input := by
    rw [List.getD_eq_getElem _ _ hlen]; exact List.getElem_mem hlen
  rw [hout, hget]
  exact ⟨restartRemap_eq_iff hmem hrange fun hf hs h => hmax hf hs (h ▸ hmem),
    fun h => by simp only [restartRemap, if_neg h]⟩

/-- Spec scenario B: `[5, 0xFFFF, 7]` as shorts with restart disabled is widened to ints,
and `0xFFFF` stays a plain index. -/
theorem primitiveRestart_preserved_d3d11_scenarioB :
    (false = false → exactRange .unsignedShort 3 [5, 0, 255, 255, 7, 0] =
      exactRange .unsignedShort 3 [5, 0, 255, 255, 7, 0]) ∧
    (false = false → IndexType.unsignedShort = .unsignedInt →
      IndexType.unsignedInt.primitiveRestartIndex ∉
        indexValues .unsignedShort 3 [5, 0, 255, 255, 7, 0]) ∧
    ∀ i < 3,
      ((indexValues (translatedType .d3d11 .unsignedShort 3
            (exactRange .unsignedShort 3 [5, 0, 255, 255, 7, 0]) false) 3
          (if false = true ∧ translatedType .d3d11 .unsignedShort 3
              (exactRange .unsignedShort 3 [5, 0, 255, 255, 7, 0]) false = .unsignedShort
            then [5, 0, 255, 255, 7, 0]
            else convertIndices .unsignedShort (translatedType .d3d11 .unsignedShort 3
              (exactRange .unsignedShort 3 [5, 0, 255, 255, 7, 0]) false)
              [5, 0, 255, 255, 7, 0] 3 false)).getD i 0 =
          (translatedType .d3d11 .unsignedShort 3
            (exactRange .unsignedShort 3 [5, 0, 255, 255, 7, 0]) false).primitiveRestartIndex ↔
        false = true ∧ (indexValues .unsignedShort 3 [5, 0, 255, 255, 7, 0]).getD i 0 =
          IndexType.unsignedShort.primitiveRestartIndex) ∧
      (¬(false = true ∧ (indexValues .unsignedShort 3 [5, 0, 255, 255, 7, 0]).getD i 0 =
          IndexType.unsignedShort.primitiveRestartIndex) →
        (indexValues (translatedType .d3d11 .unsignedShort 3
            (exactRange .unsignedShort 3 [5, 0, 255, 255, 7, 0]) false) 3
          (if false = true ∧ translatedType .d3d11 .unsignedShort 3
              (exactRange .unsignedShort 3 [5, 0, 255, 255, 7, 0]) false = .unsignedShort
            then [5, 0, 255, 255, 7, 0]
            else convertIndices .unsignedShort (translatedType .d3d11 .unsignedShort 3
              (exactRange .unsignedShort 3 [5, 0, 255, 255, 7, 0]) false)
              [5, 0, 255, 255, 7, 0] 3 false)).getD i 0 =
          (indexValues .unsignedShort 3 [5, 0, 255, 255, 7, 0]).getD i 0) :=
  ⟨fun _ => rfl, fun _ h => (nomatch h),
    primitiveRestart_preserved_d3d11 .unsignedShort false 3 [5, 0, 255, 255, 7, 0]
      (exactRange .unsignedShort 3 [5, 0, 255, 255, 7, 0]) false (fun _ => rfl) fun _ h => (nomatch h)⟩

end Rx
