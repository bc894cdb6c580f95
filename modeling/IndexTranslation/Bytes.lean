/-
Index data as bytes.

Every buffer the file touches is untyped memory: `getData` hands out a byte
pointer, `mapBuffer` a `void *`, and `ConvertIndices` reads it as `InputT` and
writes it as `DestT`, or copies it with `memcpy`.  The model keeps memory as a
list of bytes and reads and writes elements little endian.

`decodeLE` and `encodeLE` are inverse on the nose (`decodeLE_encodeLE`,
`encodeLE_decodeLE`), and lift to whole arrays: reading back what was written
gives the values cut to the width (`indexValues_encodeIndices`), and writing
back what was read gives the bytes it came from (`encodeIndices_indexValues`).
The second is what makes the `memcpy` fast path an element-wise copy.
-/
import IndexTranslation.Gl
import Mathlib.Data.List.Basic

namespace Rx

/-- The value of a little-endian byte string. -/
def decodeLE : List UInt8 → Nat
  | [] => 0
  | b :: bs => b.toNat + 256 * decodeLE bs

/-- The `n` low-order bytes of `v`, least significant first. -/
def encodeLE : Nat → Nat → List UInt8
  | 0, _ => []
  | n + 1, v => UInt8.ofNat v :: encodeLE n (v / 256)

/-- The first `count` elements of type `t` at the start of `mem`: what `in[i]` reads
through a `const InputT *`. -/
def indexValues (t : IndexType) : Nat → List UInt8 → List Nat
  | 0, _ => []
  | count + 1, mem => decodeLE (mem.take t.bytes) :: indexValues t count (mem.drop t.bytes)

/-- Values stored one after another as type `t`: what `out[i] = v` writes through a
`DestT *`.  The store keeps the low bytes, as `static_cast<DestT>` does. -/
def encodeIndices (t : IndexType) (values : List Nat) : List UInt8 :=
  values.flatMap (encodeLE t.bytes)

theorem toNat_ofNat_uint8 (n : Nat) : (UInt8.ofNat n).toNat = n % 256 := by
  simp [UInt8.toNat, UInt8.ofNat, BitVec.toNat_ofNat]

/-! ### One element -/

@[simp] theorem length_encodeLE (n v : Nat) : (encodeLE n v).length = n := by
  induction n generalizing v with
  | zero => rfl
  | succ n ih => simp [encodeLE, ih]

theorem decodeLE_encodeLE (n v : Nat) : decodeLE (encodeLE n v) = v % 256 ^ n := by
  induction n generalizing v with
  | zero => simp [encodeLE, decodeLE, Nat.mod_one]
  | succ n ih =>
    rw [encodeLE, decodeLE, ih, toNat_ofNat_uint8, Nat.pow_succ', Nat.mod_mul]

theorem decodeLE_lt (bs : List UInt8) : decodeLE bs < 256 ^ bs.length := by
  induction bs with
  | nil => simp [decodeLE]
  | cons b bs ih =>
    have hb : b.toNat < 256 := b.toNat_lt_size
    rw [decodeLE, List.length_cons, Nat.pow_succ']
    omega

theorem encodeLE_decodeLE (bs : List UInt8) : encodeLE bs.length (decodeLE bs) = bs := by
  induction bs with
  | nil => rfl
  | cons b bs ih =>
    have hb : b.toNat < 256 := b.toNat_lt_size
    have hlow : (b.toNat + 256 * decodeLE bs) % 256 = b.toNat := by omega
    have hhigh : (b.toNat + 256 * decodeLE bs) / 256 = decodeLE bs := by omega
    rw [List.length_cons, decodeLE, encodeLE, hhigh, ih]
    congr
    exact UInt8.toNat.inj (by rw [toNat_ofNat_uint8, hlow])

/-! ### Arrays of elements -/

@[simp] theorem length_indexValues (t : IndexType) (n : Nat) (mem : List UInt8) :
    (indexValues t n mem).length = n := by
  induction n generalizing mem with
  | zero => rfl
  | succ n ih => simp [indexValues, ih]

@[simp] theorem encodeIndices_nil (t : IndexType) : encodeIndices t [] = [] := rfl

@[simp] theorem encodeIndices_cons (t : IndexType) (v : Nat) (vs : List Nat) :
    encodeIndices t (v :: vs) = encodeLE t.bytes v ++ encodeIndices t vs := rfl

@[simp] theorem length_encodeIndices (t : IndexType) (vs : List Nat) :
    (encodeIndices t vs).length = vs.length * t.bytes := by
  induction vs with
  | nil => simp
  | cons v vs ih => simp [ih, Nat.succ_mul, Nat.add_comm]

/-- Reading back what was written gives the values cut to the width. -/
theorem indexValues_encodeIndices (t : IndexType) (vs : List Nat) :
    indexValues t vs.length (encodeIndices t vs) = vs.map (· % 256 ^ t.bytes) := by
  induction vs with
  | nil => rfl
  | cons v vs ih =>
    rw [List.length_cons, indexValues, encodeIndices_cons,
      List.take_left' (length_encodeLE _ _), List.drop_left' (length_encodeLE _ _), ih,
      decodeLE_encodeLE, List.map_cons]

theorem indexValues_encodeIndices_of_length {t : IndexType} {vs : List Nat} {n : Nat}
    (h : vs.length = n) : indexValues t n (encodeIndices t vs) = vs.map (· % 256 ^ t.bytes) :=
  h ▸ indexValues_encodeIndices t vs

/-- Writing back what was read gives the bytes it came from. -/
theorem encodeIndices_indexValues (t : IndexType) (n : Nat) (mem : List UInt8)
    (h : n * t.bytes ≤ mem.length) :
    encodeIndices t (indexValues t n mem) = mem.take (n * t.bytes) := by
  induction n generalizing mem with
  | zero => simp [indexValues]
  | succ n ih =>
    have htake : (mem.take t.bytes).length = t.bytes := by
      simp only [List.length_take]; rw [Nat.succ_mul] at h; omega
    have hround := encodeLE_decodeLE (mem.take t.bytes)
    rw [htake] at hround
    rw [indexValues, encodeIndices_cons, hround,
      ih _ (by simp only [List.length_drop]; rw [Nat.succ_mul] at h; omega),
      Nat.succ_mul, Nat.add_comm, List.take_add]

/-- Only the bytes of the `count` elements are read. -/
theorem indexValues_take (t : IndexType) (n k : Nat) (mem : List UInt8) (h : n * t.bytes ≤ k) :
    indexValues t n (mem.take k) = indexValues t n mem := by
  induction n generalizing mem k with
  | zero => rfl
  | succ n ih =>
    rw [Nat.succ_mul] at h
    rw [indexValues, indexValues, List.take_take, Nat.min_eq_left (by omega), List.drop_take,
      ih _ _ (by omega)]

/-- Every element read is at most the type's restart value. -/
theorem le_primitiveRestartIndex_of_mem_indexValues {t : IndexType} {n : Nat} {mem : List UInt8}
    {v : Nat} (hv : v ∈ indexValues t n mem) : v ≤ t.primitiveRestartIndex := by
  induction n generalizing mem with
  | zero => simp [indexValues] at hv
  | succ n ih =>
    rw [indexValues, List.mem_cons] at hv
    rcases hv with rfl | hv
    · have hlt := decodeLE_lt (mem.take t.bytes)
      have hpow : 256 ^ (mem.take t.bytes).length ≤ 256 ^ t.bytes :=
        Nat.pow_le_pow_right (by norm_num) (by simp)
      rw [IndexType.primitiveRestartIndex]; omega
    · exact ih hv

end Rx
