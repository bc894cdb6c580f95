/-
The converter law.

For every pair `ConvertIndices` is written for, and every array and flag, the
bytes it stores read back as the source values with the restart value remapped
exactly when asked (`restartRemap`), and there are exactly `count` of them.

The two widening pairs go through `convertIndexArray`; there the only thing to
check is that the casts lose nothing, because a source value is below
`256 ^ bytes` of its own type and so of any wider one.  The equal pairs go
through `memcpy`, and `encodeIndices_indexValues` says the copy is the loop that
reads each element and writes it back, which is the loop remapping the restart
value to itself.
-/
import IndexTranslation.Convert

namespace Rx

theorem bytes_le_of_convertible {src dst : IndexType} (h : convertible src dst = true) :
    src.bytes ≤ dst.bytes := by
  cases src <;> cases dst <;> simp_all [convertible]

@[simp] theorem restartRemap_self (t : IndexType) (flag : Bool) : restartRemap t t flag = id := by
  funext v; unfold restartRemap; split <;> simp_all

@[simp] theorem length_convertIndexArray (inputT destT sourceType destinationType : IndexType)
    (input : List UInt8) (count : Nat) (flag : Bool) :
    (convertIndexArray inputT destT input sourceType destinationType count flag).length =
      count * destT.bytes := by
  unfold convertIndexArray; split <;> simp

/-- Reading back a widening conversion gives the remapped source values. -/
theorem indexValues_convertIndexArray {src dst : IndexType} (hw : src.bytes ≤ dst.bytes)
    (input : List UInt8) (count : Nat) (flag : Bool) :
    indexValues dst count (convertIndexArray src dst input src dst count flag) =
      (indexValues src count input).map (restartRemap src dst flag) := by
  have hpow : 256 ^ src.bytes ≤ 256 ^ dst.bytes := Nat.pow_le_pow_right (by norm_num) hw
  have hsrc := src.primitiveRestartIndex_lt
  have hdst := dst.primitiveRestartIndex_lt
  unfold convertIndexArray
  split
  · rw [indexValues_encodeIndices_of_length (by simp), List.map_map]
    refine List.map_congr_left fun v hv => ?_
    have hv' : v < 256 ^ dst.bytes := by
      have := le_primitiveRestartIndex_of_mem_indexValues hv; omega
    simp only [Function.comp, restartRemap, Nat.mod_eq_of_lt hsrc, Nat.mod_eq_of_lt hdst]
    split <;> simp_all [Nat.mod_eq_of_lt]
  · rw [indexValues_encodeIndices_of_length (by simp)]
    refine List.map_congr_left fun v hv => ?_
    have hv' : v < 256 ^ dst.bytes := by
      have := le_primitiveRestartIndex_of_mem_indexValues hv; omega
    simp_all [restartRemap, Nat.mod_eq_of_lt hv']

/-- Reading back any conversion `ConvertIndices` is written for gives the remapped
source values; a `memcpy` reads back unchanged, which is the remap of a type onto itself. -/
theorem indexValues_convertIndices {src dst : IndexType} (hc : convertible src dst = true)
    (input : List UInt8) (count : Nat) (flag : Bool) :
    indexValues dst count (convertIndices src dst input count flag) =
      (indexValues src count input).map (restartRemap src dst flag) := by
  by_cases hsd : src = dst
  · subst hsd
    rw [convertIndices_self, indexValues_take _ _ _ _ (Nat.le_refl _)]
    simp
  · cases src <;> cases dst <;> simp_all [convertible]
    · exact indexValues_convertIndexArray (by decide) input count flag
    · exact indexValues_convertIndexArray (by decide) input count flag

theorem length_convertIndices {src dst : IndexType} (hc : convertible src dst = true)
    {input : List UInt8} {count : Nat} (flag : Bool) (hin : count * src.bytes ≤ input.length) :
    (convertIndices src dst input count flag).length = count * dst.bytes := by
  by_cases hsd : src = dst
  · subst hsd
    simp [convertIndices_self, hin]
  · cases src <;> cases dst <;> simp_all [convertible, convertIndices]

/-- `ConvertIndices` never stores more than `count` elements of the destination type, however
few bytes it is given. -/
theorem length_convertIndices_le {src dst : IndexType} (hc : convertible src dst = true)
    (input : List UInt8) (count : Nat) (flag : Bool) :
    (convertIndices src dst input count flag).length ≤ count * dst.bytes := by
  by_cases hsd : src = dst
  · subst hsd
    simp [convertIndices_self]
  · cases src <;> cases dst <;> simp_all [convertible, convertIndices]

/-- Without a source restart value among the elements it reads, a conversion loop stores
the elements as they are, whatever the flag. -/
theorem convertIndexArray_of_restartFree {inputT destT destinationType : IndexType}
    {input : List UInt8} {count : Nat}
    (hfree : ∀ v ∈ indexValues inputT count input, v ≠ inputT.primitiveRestartIndex)
    (flag : Bool) :
    convertIndexArray inputT destT input inputT destinationType count flag =
      encodeIndices destT (indexValues inputT count input) := by
  unfold convertIndexArray
  split
  · dsimp only
    congr 1
    refine (List.map_congr_left fun v hv => ?_).trans (List.map_id _)
    rw [Nat.mod_eq_of_lt inputT.primitiveRestartIndex_lt, if_neg (hfree v hv)]
    rfl
  · rfl

/-- Without a source restart value among the elements it reads, `ConvertIndices` stores
the same bytes whatever the restart flag: the flag only decides what becomes of that
value. -/
theorem convertIndices_flag {src dst : IndexType} {input : List UInt8} {count : Nat}
    (hfree : ∀ v ∈ indexValues src count input, v ≠ src.primitiveRestartIndex) (f f' : Bool) :
    convertIndices src dst input count f = convertIndices src dst input count f' := by
  unfold convertIndices
  split
  · rfl
  · cases src <;> simp only [convertIndexArray_of_restartFree hfree]

/-- The `memcpy` fast path stores the same bytes as the remapping loop would. -/
theorem convertIndices_eq_convertIndexArray (t : IndexType) {input : List UInt8} {count : Nat}
    (flag : Bool) (hin : count * t.bytes ≤ input.length) :
    convertIndices t t input count flag = convertIndexArray t t input t t count flag := by
  rw [convertIndices_self, ← encodeIndices_indexValues t count input hin]
  unfold convertIndexArray
  split
  · congr 1
    refine (List.map_congr_left fun v _ => ?_).trans (List.map_id _) |>.symm
    have := t.primitiveRestartIndex_lt
    split <;> simp_all [Nat.mod_eq_of_lt]
  · rfl

end Rx
