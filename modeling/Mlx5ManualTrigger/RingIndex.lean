import Mlx5ManualTrigger.Resources

/-!
# Ring index arithmetic

The counters are `uint32_t`, so after `c` increments they hold `c mod 2 ^ 32`. Both rings
have a power-of-two number of slots, which divides `2 ^ 32`; the slot, the lap parity and the
24-bit doorbell value computed from the wrapped counter are therefore those of `c` itself.

* `cqeIdx`, `cqeOffset`, `expectedOwner`, `dbrecCi`: the completion ring (`manual_poll_cq`).
* `wqeIdx`, `wqeOffset`, `pi`: the send ring (`local_write`).
-/

namespace Mlx5ManualTrigger

/-! ## Powers of two -/

theorem mod_two_pow_mod_of_le {c i j : Nat} (h : i ≤ j) : c % 2 ^ j % 2 ^ i = c % 2 ^ i :=
  Nat.mod_mod_of_dvd c (Nat.pow_dvd_pow 2 h)

theorem mod_two_pow_and_sub_one {c i j : Nat} (h : i ≤ j) :
    c % 2 ^ j &&& 2 ^ i - 1 = c % 2 ^ i := by
  rw [Nat.and_pow_two_sub_one_eq_mod, mod_two_pow_mod_of_le h]

/-- The bit `2 ^ i` of the wrapped counter is the lap parity of `c`. -/
theorem mod_two_pow_and_two_pow_ne_zero {c i j : Nat} (h : i < j) :
    c % 2 ^ j &&& 2 ^ i ≠ 0 ↔ c / 2 ^ i % 2 = 1 := by
  rw [Nat.and_comm, Nat.two_pow_and, Nat.testBit_mod_two_pow, Nat.testBit_to_div_mod]
  rcases Nat.mod_two_eq_zero_or_one (c / 2 ^ i) with hc | hc <;> simp [h, hc]

theorem lap_parity_succ {c n : Nat} (hn : 0 < n) : (c + n) / n % 2 ≠ c / n % 2 := by
  rw [Nat.add_div_right c hn]; omega

theorem toNat_sub_one {x : BitVec 32} (h : 1 ≤ x.toNat) : (x - 1).toNat = x.toNat - 1 := by
  rw [BitVec.toNat_sub]; simp; omega

theorem ofNat_add_one (c : Nat) : BitVec.ofNat 32 c + 1 = .ofNat 32 (c + 1) := by
  apply BitVec.eq_of_toNat_eq; simp

/-! ## The completion ring -/

section Cq

variable (cq : Mlx5dvCq)

/-- `cqe_idx = cq_cons_index & (cqe_cnt - 1)`. -/
def cqeIdx (cons : BitVec 32) : BitVec 32 := cons &&& (cq.cqeCnt - 1)

/-- `cqe_idx * cqe_size`, the slot's offset from `mlx5dv_cq.buf`. -/
def cqeOffset (cons : BitVec 32) : BitVec 32 := cqeIdx cq cons * cq.cqeSize

/-- The offset of the 64-byte record: the slot itself for 64-byte entries, its second half for
128-byte entries. -/
def cqe64Offset (cons : BitVec 32) : Nat :=
  if cq.cqeSize = 64 then (cqeOffset cq cons).toNat else (cqeOffset cq cons).toNat + 64

/-- `expected_owner = !!(cq_cons_index & cqe_cnt)`. -/
def expectedOwner (cons : BitVec 32) : BitVec 8 := if cons &&& cq.cqeCnt ≠ 0 then 1 else 0

/-- `cq_cons_index & 0xffffff`, the value published in the doorbell record. -/
def dbrecCi (cons : BitVec 32) : BitVec 32 := cons &&& 0xffffff

variable {cq}

theorem Mlx5dvCq.cqeCnt_eq (cq : Mlx5dvCq) : ∃ k ≤ 23, cq.cqeCnt.toNat = 2 ^ k := by
  obtain ⟨k, hk⟩ := cq.cqeCnt_pow
  refine ⟨k, ?_, hk⟩
  have := cq.cqeCnt_le; rw [hk] at this
  exact (Nat.pow_le_pow_iff_right (by decide)).1 this

theorem Mlx5dvCq.cqeSize_toNat (cq : Mlx5dvCq) :
    cq.cqeSize.toNat = 64 ∨ cq.cqeSize.toNat = 128 := by
  rcases cq.cqeSize_cases with h | h <;> simp [h]

theorem Mlx5dvCq.cqeSize_le (cq : Mlx5dvCq) : cq.cqeSize.toNat ≤ 128 := by
  rcases cq.cqeSize_toNat with h | h <;> omega

theorem toNat_cqeIdx (c : Nat) : (cqeIdx cq (.ofNat 32 c)).toNat = c % cq.cqeCnt.toNat := by
  obtain ⟨k, hk, hN⟩ := cq.cqeCnt_eq
  rw [cqeIdx, BitVec.toNat_and, toNat_sub_one (by rw [hN]; exact Nat.one_le_two_pow), hN,
    BitVec.toNat_ofNat, mod_two_pow_and_sub_one (by omega)]

theorem cqeIdx_lt (c : Nat) : (cqeIdx cq (.ofNat 32 c)).toNat < cq.cqeCnt.toNat := by
  rw [toNat_cqeIdx]; exact Nat.mod_lt _ cq.one_le_cqeCnt

/-- The slot offset does not wrap: it is the slot times the entry size, within the ring. -/
theorem toNat_cqeOffset (c : Nat) :
    (cqeOffset cq (.ofNat 32 c)).toNat = c % cq.cqeCnt.toNat * cq.cqeSize.toNat := by
  have hi := @cqeIdx_lt cq c
  have := cq.cqeCnt_le
  rw [cqeOffset, BitVec.toNat_mul, toNat_cqeIdx] at *
  rcases cq.cqeSize_toNat with h | h <;> rw [h] <;> omega

theorem cqeOffset_lt (c : Nat) :
    (cqeOffset cq (.ofNat 32 c)).toNat < cq.cqeCnt.toNat * cq.cqeSize.toNat := by
  have hi := @cqeIdx_lt cq c
  rw [toNat_cqeIdx] at hi
  rw [toNat_cqeOffset]
  rcases cq.cqeSize_toNat with h | h <;> rw [h] <;> omega

theorem toNat_expectedOwner (c : Nat) :
    (expectedOwner cq (.ofNat 32 c)).toNat = c / cq.cqeCnt.toNat % 2 := by
  obtain ⟨k, hk, hN⟩ := cq.cqeCnt_eq
  have key : BitVec.ofNat 32 c &&& cq.cqeCnt ≠ 0 ↔ c / 2 ^ k % 2 = 1 := by
    rw [← @mod_two_pow_and_two_pow_ne_zero c k 32 (by omega), Ne, BitVec.toNat_eq]
    simp [hN]
  rw [expectedOwner, hN]
  split_ifs with h
  · rw [key.1 h]; rfl
  · have := mt key.2 h; simp; omega

theorem toNat_dbrecCi (c : Nat) : (dbrecCi (.ofNat 32 c)).toNat = c % 2 ^ 24 := by
  rw [dbrecCi, BitVec.toNat_and, BitVec.toNat_ofNat,
    show (0xffffff : BitVec 32).toNat = 2 ^ 24 - 1 from rfl, mod_two_pow_and_sub_one (by omega)]

/-- The 64-byte record read at count `c` sits in slot `c mod cqe_cnt`, at the slot's offset
`cqe_size - 64`. -/
theorem cqe64Offset_eq (c : Nat) :
    cqe64Offset cq (.ofNat 32 c) =
      c % cq.cqeCnt.toNat * cq.cqeSize.toNat + (cq.cqeSize.toNat - 64) := by
  rw [cqe64Offset, toNat_cqeOffset]
  rcases cq.cqeSize_cases with h | h <;> simp [h]

/-- Completion-ring index arithmetic is exact for every count `c`, across the `2 ^ 32` wrap of
the counter and the `2 ^ 24` wrap of the doorbell value. -/
theorem cq_index_exact_under_wrap (cq : Mlx5dvCq) (c : Nat) :
    (cqeIdx cq (.ofNat 32 c)).toNat = c % cq.cqeCnt.toNat ∧
    (cqeIdx cq (.ofNat 32 c)).toNat * cq.cqeSize.toNat < 2 ^ 32 ∧
    (cqeOffset cq (.ofNat 32 c)).toNat = (cqeIdx cq (.ofNat 32 c)).toNat * cq.cqeSize.toNat ∧
    (cqeOffset cq (.ofNat 32 c)).toNat < cq.cqeCnt.toNat * cq.cqeSize.toNat ∧
    (expectedOwner cq (.ofNat 32 c)).toNat = c / cq.cqeCnt.toNat % 2 ∧
    (cq.cqeCnt.toNat ≤ c → (expectedOwner cq (.ofNat 32 c)).toNat ≠
      (c - cq.cqeCnt.toNat) / cq.cqeCnt.toNat % 2) ∧
    (dbrecCi (.ofNat 32 c)).toNat = c % 2 ^ 24 := by
  have hoff := @toNat_cqeOffset cq c
  have hlt := (@cqeOffset_lt cq c).trans_le (Nat.mul_le_mul cq.cqeCnt_le cq.cqeSize_le)
  refine ⟨toNat_cqeIdx c, ?_, ?_, cqeOffset_lt c, toNat_expectedOwner c, fun h => ?_,
    toNat_dbrecCi c⟩
  · rw [toNat_cqeIdx, ← hoff]; omega
  · rw [toNat_cqeIdx, hoff]
  · have := @lap_parity_succ (c - cq.cqeCnt.toNat) _ cq.one_le_cqeCnt
    rwa [Nat.sub_add_cancel h, ← toNat_expectedOwner] at this

end Cq

/-! ## The send ring -/

section Sq

variable (qp : Mlx5dvQp)

/-- `wqe_idx = sq_cur_post % sq.wqe_cnt`. -/
def wqeIdx (post : BitVec 32) : BitVec 32 := post % qp.wqeCnt

/-- `wqe_idx * sq.stride`, the WQE's offset from `sq.buf`. -/
def wqeOffset (post : BitVec 32) : BitVec 32 := wqeIdx qp post * qp.stride

/-- `pi = sq_cur_post & 0xffff`, stored in a `uint16_t`. -/
def pi (post : BitVec 32) : BitVec 16 := (post &&& 0xffff).setWidth 16

variable {qp}

theorem Mlx5dvQp.wqeCnt_eq (qp : Mlx5dvQp) : ∃ k < 32, qp.wqeCnt.toNat = 2 ^ k := by
  obtain ⟨k, hk⟩ := qp.wqeCnt_pow
  refine ⟨k, ?_, hk⟩
  have := qp.wqeCnt.isLt; rw [hk] at this
  exact (Nat.pow_lt_pow_iff_right (by decide)).1 this

/-- With at most `2 ^ 16` slots, the 16-bit WQE index names its slot: `wqe_cnt` divides `2 ^ 16`. -/
theorem Mlx5dvQp.wqeCnt_dvd (qp : Mlx5dvQp) (h : qp.wqeCnt.toNat ≤ 2 ^ 16) :
    qp.wqeCnt.toNat ∣ 2 ^ 16 := by
  obtain ⟨k, -, hk⟩ := qp.wqeCnt_eq
  rw [hk] at h ⊢
  exact Nat.pow_dvd_pow 2 ((Nat.pow_le_pow_iff_right (by decide)).1 h)

theorem toNat_wqeIdx (k : Nat) : (wqeIdx qp (.ofNat 32 k)).toNat = k % qp.wqeCnt.toNat := by
  obtain ⟨j, hj, hW⟩ := qp.wqeCnt_eq
  rw [wqeIdx, BitVec.toNat_umod, BitVec.toNat_ofNat, hW, mod_two_pow_mod_of_le (by omega)]

theorem toNat_wqeOffset (k : Nat) :
    (wqeOffset qp (.ofNat 32 k)).toNat = k % qp.wqeCnt.toNat * qp.stride.toNat := by
  have hk : k % qp.wqeCnt.toNat ≤ qp.wqeCnt.toNat - 1 :=
    Nat.le_sub_one_of_lt (Nat.mod_lt _ qp.one_le_wqeCnt)
  have hm := Nat.mul_le_mul_right qp.stride.toNat hk
  have := qp.ring_fits
  rw [Nat.sub_mul, Nat.one_mul] at hm
  rw [wqeOffset, BitVec.toNat_mul, toNat_wqeIdx, Nat.mod_eq_of_lt]
  rcases Nat.eq_zero_or_pos qp.stride.toNat with h0 | h0
  · simp [h0]
  · omega

theorem toNat_pi (k : Nat) : (pi (.ofNat 32 k)).toNat = k % 2 ^ 16 := by
  rw [pi, BitVec.toNat_setWidth, BitVec.toNat_and, BitVec.toNat_ofNat]
  rw [show (0xffff : BitVec 32).toNat = 2 ^ 16 - 1 from rfl, mod_two_pow_and_sub_one (by omega),
    Nat.mod_mod]

end Sq

end Mlx5ManualTrigger
