import Mathlib

/-!
# Byte memories and big-endian fields

The completion ring, the send ring, the doorbell record and the blueflame register are byte
memories shared with the device. `Mem.store` and `Mem.load` are the stores and loads of the
source; `htobe32` and `htobe64` are the bytes a big-endian field holds after the store, on any
host, and `be32toh`, `be64toh` read such a field back.
-/

namespace Mlx5ManualTrigger

/-- A byte-addressed memory: the byte at each offset from a buffer's base. -/
def Mem := Nat → BitVec 8

namespace Mem

/-- The `n` bytes from offset `a`. -/
def load (m : Mem) (a n : Nat) : List (BitVec 8) := (List.range n).map fun i => m (a + i)

/-- Store the bytes `bs` from offset `a`. -/
def store (m : Mem) (a : Nat) (bs : List (BitVec 8)) : Mem :=
  fun i => if a ≤ i ∧ i < a + bs.length then bs.getD (i - a) 0 else m i

variable {m : Mem} {a b k n : Nat} {bs : List (BitVec 8)}

@[simp] theorem length_load (m : Mem) (a n : Nat) : (m.load a n).length = n := by simp [load]

@[simp] theorem getElem_load (m : Mem) (a n i : Nat) (h : i < (m.load a n).length) :
    (m.load a n)[i] = m (a + i) := by simp [load]

theorem load_congr {m' : Mem} (h : ∀ i < n, m (a + i) = m' (a + i)) : m.load a n = m'.load a n :=
  List.ext_getElem (by simp) fun i h₁ _ => by simpa using h i (by simpa using h₁)

theorem store_apply_of_lt (h : k < bs.length) : m.store a bs (a + k) = bs[k] := by
  simp [store, h]

theorem store_apply_of_not_mem (h : b < a ∨ a + bs.length ≤ b) : m.store a bs b = m b := by
  simp only [store]; rw [if_neg (by omega)]

theorem load_store_self (m : Mem) (a : Nat) (bs : List (BitVec 8)) :
    (m.store a bs).load a bs.length = bs :=
  List.ext_getElem (by simp) fun i h _ => by
    simp only [getElem_load]; exact store_apply_of_lt (by simpa using h)

theorem load_store_of_length (h : bs.length = n) : (m.store a bs).load a n = bs :=
  h ▸ load_store_self m a bs

theorem load_store_of_disjoint (h : b + n ≤ a ∨ a + bs.length ≤ b) :
    (m.store a bs).load b n = m.load b n :=
  load_congr fun i hi => store_apply_of_not_mem (by omega)

/-- A load inside a stored block reads the block's bytes. -/
theorem load_store_inner (h : k + n ≤ bs.length) :
    (m.store a bs).load (a + k) n = (bs.drop k).take n :=
  List.ext_getElem (by simp; omega) fun i h₁ _ => by
    simp only [length_load] at h₁
    rw [getElem_load, Nat.add_assoc, store_apply_of_lt (by omega)]
    simp

theorem load_add (m : Mem) (a n k : Nat) : m.load a (n + k) = m.load a n ++ m.load (a + n) k :=
  List.ext_getElem (by simp) fun i h _ => by
    simp only [length_load] at h
    by_cases hi : i < n
    · rw [List.getElem_append_left (by simpa using hi)]; simp
    · rw [List.getElem_append_right (by simpa using hi)]; simp [Nat.add_assoc]; congr 2; omega

theorem take_load (m : Mem) (a n k : Nat) (h : k ≤ n) : (m.load a n).take k = m.load a k :=
  List.ext_getElem (by simp; omega) fun i h₁ _ => by simp

theorem drop_load (m : Mem) (a n k : Nat) : (m.load a n).drop k = m.load (a + k) (n - k) :=
  List.ext_getElem (by simp) fun i h₁ _ => by simp [Nat.add_assoc]

end Mem

/-! ## Big-endian fields -/

/-- The `n` low bytes of `x`, most significant first. -/
def toBE : Nat → Nat → List (BitVec 8)
  | 0, _ => []
  | n + 1, x => toBE n (x / 256) ++ [BitVec.ofNat 8 x]

/-- The number the bytes `bs` spell, most significant first. -/
def ofBE (bs : List (BitVec 8)) : Nat := bs.foldl (fun acc b => acc * 256 + b.toNat) 0

@[simp] theorem length_toBE (n x : Nat) : (toBE n x).length = n := by
  induction n generalizing x <;> simp [toBE, *]

theorem ofBE_append_singleton (bs : List (BitVec 8)) (b : BitVec 8) :
    ofBE (bs ++ [b]) = ofBE bs * 256 + b.toNat := by
  simp [ofBE, List.foldl_append]

theorem ofBE_toBE (n x : Nat) : ofBE (toBE n x) = x % 256 ^ n := by
  induction n generalizing x with
  | zero => simp [toBE, ofBE, Nat.mod_one]
  | succ n ih =>
    rw [toBE, ofBE_append_singleton, ih, Nat.pow_succ, Nat.mul_comm (256 ^ n), Nat.mod_mul]
    simp; omega

/-- The bytes of the big-endian field `htobe32 x`. -/
def htobe32 (x : BitVec 32) : List (BitVec 8) := toBE 4 x.toNat

/-- The bytes of the big-endian field `htobe64 x`. -/
def htobe64 (x : BitVec 64) : List (BitVec 8) := toBE 8 x.toNat

/-- The value of a big-endian 32-bit field. -/
def be32toh (bs : List (BitVec 8)) : BitVec 32 := BitVec.ofNat 32 (ofBE bs)

/-- The value of a big-endian 64-bit field. -/
def be64toh (bs : List (BitVec 8)) : BitVec 64 := BitVec.ofNat 64 (ofBE bs)

@[simp] theorem length_htobe32 (x : BitVec 32) : (htobe32 x).length = 4 := length_toBE 4 _

@[simp] theorem length_htobe64 (x : BitVec 64) : (htobe64 x).length = 8 := length_toBE 8 _

@[simp] theorem be32toh_htobe32 (x : BitVec 32) : be32toh (htobe32 x) = x := by
  apply BitVec.eq_of_toNat_eq
  simp [be32toh, htobe32, ofBE_toBE, Nat.mod_eq_of_lt x.isLt]

@[simp] theorem be64toh_htobe64 (x : BitVec 64) : be64toh (htobe64 x) = x := by
  apply BitVec.eq_of_toNat_eq
  simp [be64toh, htobe64, ofBE_toBE, Nat.mod_eq_of_lt x.isLt]

/-! ## Fields of a record -/

/-- The big-endian 32-bit field at byte `off` of a record. -/
def be32At (bs : List (BitVec 8)) (off : Nat) : BitVec 32 := be32toh ((bs.drop off).take 4)

/-- The big-endian 64-bit field at byte `off` of a record. -/
def be64At (bs : List (BitVec 8)) (off : Nat) : BitVec 64 := be64toh ((bs.drop off).take 8)

section Fields

variable {m : Mem} {a off n : Nat}

/-- A record read from memory gives back the 32-bit field stored at its offset. -/
theorem be32At_load {x : BitVec 32} (hn : off + 4 ≤ n) (h : m.load (a + off) 4 = htobe32 x) :
    be32At (m.load a n) off = x := by
  rw [be32At, Mem.drop_load, Mem.take_load _ _ _ _ (by omega), h, be32toh_htobe32]

/-- A record read from memory gives back the 64-bit field stored at its offset. -/
theorem be64At_load {x : BitVec 64} (hn : off + 8 ≤ n) (h : m.load (a + off) 8 = htobe64 x) :
    be64At (m.load a n) off = x := by
  rw [be64At, Mem.drop_load, Mem.take_load _ _ _ _ (by omega), h, be64toh_htobe64]

theorem getD_load (hn : off < n) : (m.load a n).getD off 0 = m (a + off) := by
  simp [List.getD_eq_getElem?_getD, hn]

end Fields

end Mlx5ManualTrigger
