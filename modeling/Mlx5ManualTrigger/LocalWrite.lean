import Mlx5ManualTrigger.PollCq

/-!
# `local_write` up to the doorbell

`local_write` clears and prints `res->buf` (`clearMsg`, which `main`'s model calls only on a
buffer that holds those bytes), then checks the blueflame register, writes the three segments
of an RDMA-write WQE into the send-ring slot of `sq_cur_post`, stores the first eight bytes of
the control segment to `bf.reg + bf_offset`, and advances `sq_cur_post` and `bf_offset`;
`poll_completion` follows (`Program`).

Decoding reads the 48 bytes back with the big-endian mlx5 layout and gets every field
`local_write` passed; nothing outside them is written, and the doorbell carries the first eight
bytes of the control segment. The proof reads each field at its offset after the whole chain of
stores (`buildWqe_load`), so it also shows that no store overwrites an earlier field.
-/

namespace Mlx5ManualTrigger

/-! ## Segments -/

/-- Modelled from the spec: `sizeof(struct mlx5_wqe_ctrl_seg)`. -/
def sizeofCtrlSeg : Nat := 16
/-- Modelled from the spec: `sizeof(struct mlx5_wqe_raddr_seg)`. -/
def sizeofRaddrSeg : Nat := 16
/-- Modelled from the spec: `sizeof(struct mlx5_wqe_data_seg)`. -/
def sizeofDataSeg : Nat := 16

/-- Modelled from the spec: `mlx5dv_set_ctrl_seg` of `mlx5dv.h`, writing `opmod_idx_opcode`,
`qpn_ds`, `fm_ce_se`, `signature` and `imm` at bytes 0, 4, 11, 8 and 12 of the segment;
`imm` is given as the bytes the caller prepared. -/
def mlx5dvSetCtrlSeg (m : Mem) (seg : Nat) (pi : BitVec 16) (opcode opmod : BitVec 8)
    (qpNum : BitVec 32) (fmCeSe ds signature : BitVec 8) (imm : List (BitVec 8)) : Mem :=
  let m := m.store seg
    (htobe32 ((opmod.setWidth 32 <<< 24) ||| (pi.setWidth 32 <<< 8) ||| opcode.setWidth 32))
  let m := m.store (seg + 4) (htobe32 ((qpNum <<< 8) ||| ds.setWidth 32))
  let m := m.store (seg + 11) [fmCeSe]
  let m := m.store (seg + 8) [signature]
  m.store (seg + 12) imm

/-- Modelled from the spec: `mlx5dv_set_data_seg` of `mlx5dv.h`, writing `byte_count`, `lkey`
and `addr` at bytes 0, 4 and 8 of the segment. -/
def mlx5dvSetDataSeg (m : Mem) (seg : Nat) (length lkey : BitVec 32) (address : BitVec 64) :
    Mem :=
  let m := m.store seg (htobe32 length)
  let m := m.store (seg + 4) (htobe32 lkey)
  m.store (seg + 8) (htobe64 address)

/-! ## The decode of the big-endian layout -/

/-- `opmod_idx_opcode`, the first word of a control segment. -/
def opmodIdxOpcode (seg : List (BitVec 8)) : Nat := (be32At seg 0).toNat

/-- `qpn_ds`, the second word of a control segment. -/
def qpnDs (seg : List (BitVec 8)) : Nat := (be32At seg 4).toNat

/-- The WQE index `opmod_idx_opcode` carries in bits 8 to 23. -/
def ctrlWqeIndex (seg : List (BitVec 8)) : Nat := opmodIdxOpcode seg / 2 ^ 8 % 2 ^ 16

/-- The opcode `opmod_idx_opcode` carries in bits 0 to 7. -/
def ctrlOpcode (seg : List (BitVec 8)) : Nat := opmodIdxOpcode seg % 2 ^ 8

/-- The opcode modifier `opmod_idx_opcode` carries in bits 24 to 31. -/
def ctrlOpmod (seg : List (BitVec 8)) : Nat := opmodIdxOpcode seg / 2 ^ 24

/-- The queue-pair number `qpn_ds` carries in bits 8 to 31. -/
def ctrlQpn (seg : List (BitVec 8)) : Nat := qpnDs seg / 2 ^ 8

/-- The WQE size in 16-byte units `qpn_ds` carries in bits 0 to 7. -/
def ctrlDs (seg : List (BitVec 8)) : Nat := qpnDs seg % 2 ^ 8

/-- `fm_ce_se`, byte 11 of a control segment. -/
def ctrlFmCeSe (seg : List (BitVec 8)) : Nat := (seg.getD 11 0).toNat

/-- `raddr`, the first word of a remote-address segment. -/
def raddrRaddr (seg : List (BitVec 8)) : Nat := (be64At seg 0).toNat

/-- `rkey`, bytes 8 to 11 of a remote-address segment. -/
def raddrRkey (seg : List (BitVec 8)) : Nat := (be32At seg 8).toNat

/-- `byte_count`, the first word of a data segment. -/
def dataByteCount (seg : List (BitVec 8)) : Nat := (be32At seg 0).toNat

/-- `lkey`, bytes 4 to 7 of a data segment. -/
def dataLkey (seg : List (BitVec 8)) : Nat := (be32At seg 4).toNat

/-- `addr`, bytes 8 to 15 of a data segment. -/
def dataAddr (seg : List (BitVec 8)) : Nat := (be64At seg 8).toNat

/-! ## The two words of a control segment -/

theorem or_mul_two_pow {a b i : Nat} (h : b < 2 ^ i) : a * 2 ^ i ||| b = a * 2 ^ i + b := by
  rw [Nat.mul_comm, ← Nat.mul_add_lt_is_or h]

/-- `(opmod << 24) | (pi << 8) | opcode` packs its three fields side by side. -/
theorem toNat_opmodIdxOpcodeWord (opmod op : BitVec 8) (pi : BitVec 16) :
    ((opmod.setWidth 32 <<< 24) ||| (pi.setWidth 32 <<< 8) ||| op.setWidth 32).toNat =
      opmod.toNat * 2 ^ 24 + pi.toNat * 2 ^ 8 + op.toNat := by
  have h1 := opmod.isLt; have h2 := pi.isLt; have h3 := op.isLt
  simp only [BitVec.toNat_or, BitVec.toNat_shiftLeft, BitVec.toNat_setWidth, Nat.shiftLeft_eq]
  rw [Nat.mod_eq_of_lt (by omega : opmod.toNat < 2 ^ 32),
    Nat.mod_eq_of_lt (by omega : opmod.toNat * 2 ^ 24 < 2 ^ 32),
    Nat.mod_eq_of_lt (by omega : pi.toNat < 2 ^ 32),
    Nat.mod_eq_of_lt (by omega : pi.toNat * 2 ^ 8 < 2 ^ 32),
    Nat.mod_eq_of_lt (by omega : op.toNat < 2 ^ 32), Nat.or_assoc, or_mul_two_pow h3,
    or_mul_two_pow (by omega), Nat.add_assoc]

/-- `(qp_num << 8) | ds` keeps the low 24 bits of `qp_num` above `ds`. -/
theorem toNat_qpnDsWord (qpNum : BitVec 32) (ds : BitVec 8) :
    ((qpNum <<< 8) ||| ds.setWidth 32).toNat = qpNum.toNat % 2 ^ 24 * 2 ^ 8 + ds.toNat := by
  have h3 := ds.isLt
  simp only [BitVec.toNat_or, BitVec.toNat_shiftLeft, BitVec.toNat_setWidth, Nat.shiftLeft_eq]
  rw [Nat.mod_eq_of_lt (by omega : ds.toNat < 2 ^ 32),
    show qpNum.toNat * 2 ^ 8 % 2 ^ 32 = qpNum.toNat % 2 ^ 24 * 2 ^ 8 by omega, or_mul_two_pow h3]

/-! ## `local_write` -/

section Write

variable (cfg : Setup)

/-- `memset(res->buf, 0, config.msg_size); memset(res->buf, 8, 4)`, on a buffer of
`config.msg_size ≥ 4` bytes. -/
def clearMsg (m : Mem) : Mem :=
  (m.store 0 (List.replicate cfg.msgSize 0)).store 0 (List.replicate 4 8)

/-- The offset of the WQE of `local_write` from `sq.buf`. -/
def wqeAddr (s : State) : Nat := (wqeOffset cfg.qp s.sqCurPost).toNat

/-- `ds`: the three segments in 16-byte units. -/
def wqeDs : Nat := (sizeofCtrlSeg + sizeofRaddrSeg + sizeofDataSeg) / 16

/-- The control, remote-address and data segments of the RDMA write, written in the slot. -/
def buildWqe (s : State) : State :=
  let ctrl := wqeAddr cfg s
  let raddr := ctrl + sizeofCtrlSeg
  let data := raddr + sizeofRaddrSeg
  let m := mlx5dvSetCtrlSeg s.sqBuf ctrl (pi s.sqCurPost) (.ofNat 8 mlx5OpcodeRdmaWrite) 0
    cfg.qpNum (.ofNat 8 mlx5WqeCtrlCqUpdate) (.ofNat 8 wqeDs) 0 (htobe32 0)
  let m := m.store raddr (htobe64 (cfg.buf + 4))
  let m := m.store (raddr + 8) (htobe32 cfg.rkey)
  let m := m.store (raddr + 12) (htobe32 0)
  { s with sqBuf := mlx5dvSetDataSeg m data 4 cfg.lkey cfg.buf }

/-- The doorbell: the first eight bytes of the control segment stored to
`bf.reg + bf_offset`, then `sq_cur_post++` and `bf_offset ^= bf.size`. -/
def ringDoorbell (s : State) : State :=
  { s with bfStores := s.bfStores ++
             [⟨cfg.qp.bfReg + s.bfOffset.toNat, s.sqBuf.load (wqeAddr cfg s) 8⟩],
           sqCurPost := s.sqCurPost + 1,
           bfOffset := s.bfOffset ^^^ cfg.qp.bfSize }

/-- `local_write` from the blueflame check to `poll_completion`: the state, and `false` when it
returns -1 at the check. It reads no byte of `res->buf`, only its address. -/
def localWriteBegin (s : State) : State × Bool :=
  if cfg.qp.bfReg = 0 ∨ cfg.qp.bfSize = 0 then (s, false)
  else (ringDoorbell cfg (buildWqe cfg s), true)

end Write

section Decode

variable (cfg : Setup) (s : State)

/-- The fields `buildWqe` leaves in the slot, read back one at a time: no later store of the
three segments overwrites an earlier one. -/
theorem buildWqe_load :
    let w := wqeAddr cfg s
    let m := (buildWqe cfg s).sqBuf
    m.load (w + 0) 4 = htobe32 ((BitVec.setWidth 32 (0 : BitVec 8) <<< 24) |||
      ((pi s.sqCurPost).setWidth 32 <<< 8) ||| (BitVec.ofNat 8 mlx5OpcodeRdmaWrite).setWidth 32) ∧
    m.load (w + 4) 4 = htobe32 ((cfg.qpNum <<< 8) ||| (BitVec.ofNat 8 wqeDs).setWidth 32) ∧
    m (w + 11) = .ofNat 8 mlx5WqeCtrlCqUpdate ∧
    m.load (w + 16 + 0) 8 = htobe64 (cfg.buf + 4) ∧ m.load (w + 16 + 8) 4 = htobe32 cfg.rkey ∧
    m.load (w + 32 + 0) 4 = htobe32 4 ∧ m.load (w + 32 + 4) 4 = htobe32 cfg.lkey ∧
    m.load (w + 32 + 8) 8 = htobe64 cfg.buf := by
  have h11 : ∀ m : Mem, m (wqeAddr cfg s + 11) = (m.load (wqeAddr cfg s + 11) 1).getD 0 0 := by
    intro m; rw [getD_load (by omega)]
  simp only [h11, buildWqe, mlx5dvSetCtrlSeg, mlx5dvSetDataSeg, sizeofCtrlSeg, sizeofRaddrSeg,
    Nat.add_assoc, Nat.reduceAdd, Nat.add_zero]
  simp (disch := first
      | omega
      | (simp only [length_htobe32, length_htobe64, List.length_singleton]; omega)
      | simp only [length_htobe32, length_htobe64, List.length_singleton])
    only [Mem.load_store_of_disjoint, Mem.load_store_of_length, List.getD_cons_zero, and_self]

/-- Nothing outside the 48 bytes of the WQE is written. -/
theorem buildWqe_sqBuf_of_not_mem {b : Nat} (h : b < wqeAddr cfg s ∨ wqeAddr cfg s + 48 ≤ b) :
    (buildWqe cfg s).sqBuf b = s.sqBuf b := by
  simp only [buildWqe, mlx5dvSetCtrlSeg, mlx5dvSetDataSeg, sizeofCtrlSeg, sizeofRaddrSeg,
    Nat.add_assoc, Nat.reduceAdd]
  simp (disch := first
      | omega
      | (simp only [length_htobe32, length_htobe64, List.length_singleton]; omega))
    only [Mem.store_apply_of_not_mem]

end Decode

/-- A control segment whose two words hold the packed fields gives each of them back. -/
theorem ctrl_decode {seg : List (BitVec 8)} {opmod op ds : BitVec 8} {pi : BitVec 16}
    {qpNum : BitVec 32}
    (h0 : be32At seg 0 = (opmod.setWidth 32 <<< 24) ||| (pi.setWidth 32 <<< 8) ||| op.setWidth 32)
    (h4 : be32At seg 4 = (qpNum <<< 8) ||| ds.setWidth 32) :
    ctrlWqeIndex seg = pi.toNat ∧ ctrlOpcode seg = op.toNat ∧ ctrlOpmod seg = opmod.toNat ∧
      ctrlQpn seg = qpNum.toNat % 2 ^ 24 ∧ ctrlDs seg = ds.toNat := by
  have := opmod.isLt; have := op.isLt; have := pi.isLt; have := ds.isLt
  simp only [ctrlWqeIndex, ctrlOpcode, ctrlOpmod, ctrlQpn, ctrlDs, opmodIdxOpcode, qpnDs, h0, h4,
    toNat_opmodIdxOpcodeWord, toNat_qpnDsWord]
  omega

/-- The fields of an RDMA-write WQE. -/
structure WqeFields where
  wqeIndex : Nat
  opcode : Nat
  opmod : Nat
  qpn : Nat
  ds : Nat
  fmCeSe : Nat
  raddr : Nat
  rkey : Nat
  byteCount : Nat
  lkey : Nat
  addr : Nat
deriving DecidableEq, Repr

/-- The 48 bytes of a WQE decoded as a control, a remote-address and a data segment. -/
def decodeWqe (v : List (BitVec 8)) : WqeFields :=
  let ctrl := v.take 16
  let raddr := (v.drop 16).take 16
  let data := v.drop 32
  ⟨ctrlWqeIndex ctrl, ctrlOpcode ctrl, ctrlOpmod ctrl, ctrlQpn ctrl, ctrlDs ctrl, ctrlFmCeSe ctrl,
    raddrRaddr raddr, raddrRkey raddr, dataByteCount data, dataLkey data, dataAddr data⟩

/-- The WQE `local_write` means to build with index `pi`: an RDMA write of the 4 bytes at
`res->buf` to `res->buf + 4`, asking for a completion. -/
def localWriteWqe (cfg : Setup) (pi : Nat) : WqeFields :=
  { wqeIndex := pi, opcode := mlx5OpcodeRdmaWrite, opmod := 0, qpn := cfg.qpNum.toNat, ds := 3,
    fmCeSe := mlx5WqeCtrlCqUpdate, raddr := cfg.buf.toNat + 4, rkey := cfg.rkey.toNat,
    byteCount := 4, lkey := cfg.lkey.toNat, addr := cfg.buf.toNat }

section Begin

variable {cfg : Setup} {s : State}

@[simp] theorem buildWqe_sqCurPost : (buildWqe cfg s).sqCurPost = s.sqCurPost := rfl
@[simp] theorem buildWqe_bfOffset : (buildWqe cfg s).bfOffset = s.bfOffset := rfl
@[simp] theorem buildWqe_bfStores : (buildWqe cfg s).bfStores = s.bfStores := rfl
@[simp] theorem buildWqe_cqConsIndex : (buildWqe cfg s).cqConsIndex = s.cqConsIndex := rfl
@[simp] theorem buildWqe_cqBuf : (buildWqe cfg s).cqBuf = s.cqBuf := rfl
@[simp] theorem buildWqe_dbrec : (buildWqe cfg s).dbrec = s.dbrec := rfl
@[simp] theorem wqeAddr_buildWqe : wqeAddr cfg (buildWqe cfg s) = wqeAddr cfg s := rfl
@[simp] theorem ringDoorbell_sqBuf : (ringDoorbell cfg s).sqBuf = s.sqBuf := rfl
@[simp] theorem ringDoorbell_bfStores : (ringDoorbell cfg s).bfStores =
    s.bfStores ++ [⟨cfg.qp.bfReg + s.bfOffset.toNat, s.sqBuf.load (wqeAddr cfg s) 8⟩] := rfl
@[simp] theorem ringDoorbell_sqCurPost : (ringDoorbell cfg s).sqCurPost = s.sqCurPost + 1 := rfl
@[simp] theorem ringDoorbell_bfOffset :
    (ringDoorbell cfg s).bfOffset = s.bfOffset ^^^ cfg.qp.bfSize := rfl
@[simp] theorem ringDoorbell_cqConsIndex : (ringDoorbell cfg s).cqConsIndex = s.cqConsIndex := rfl
@[simp] theorem ringDoorbell_cqBuf : (ringDoorbell cfg s).cqBuf = s.cqBuf := rfl
@[simp] theorem ringDoorbell_dbrec : (ringDoorbell cfg s).dbrec = s.dbrec := rfl

/-- The control segment `buildWqe` writes, read from the first `n ≥ 8` bytes of the slot: the
fields of its two words. -/
theorem ctrl_buildWqe {n : Nat} (hn : 8 ≤ n) :
    ctrlWqeIndex ((buildWqe cfg s).sqBuf.load (wqeAddr cfg s) n) = s.sqCurPost.toNat % 2 ^ 16 ∧
    ctrlOpcode ((buildWqe cfg s).sqBuf.load (wqeAddr cfg s) n) = mlx5OpcodeRdmaWrite ∧
    ctrlOpmod ((buildWqe cfg s).sqBuf.load (wqeAddr cfg s) n) = 0 ∧
    ctrlQpn ((buildWqe cfg s).sqBuf.load (wqeAddr cfg s) n) = cfg.qpNum.toNat % 2 ^ 24 ∧
    ctrlDs ((buildWqe cfg s).sqBuf.load (wqeAddr cfg s) n) = 3 := by
  obtain ⟨h0, h4, -⟩ := buildWqe_load cfg s
  obtain ⟨c1, c2, c3, c4, c5⟩ :=
    ctrl_decode (be32At_load (by omega : 0 + 4 ≤ n) h0) (be32At_load (by omega : 4 + 4 ≤ n) h4)
  exact ⟨c1.trans (by simpa using toNat_pi s.sqCurPost.toNat), c2, c3, c4, c5⟩

/-- The slot `buildWqe` fills decodes to `local_write`'s WQE, with the index stamped from
`sq_cur_post`, when the queue-pair number has 24 bits and `res->buf + 4` does not wrap. -/
theorem decodeWqe_buildWqe (hqpn : cfg.qpNum.toNat < 2 ^ 24) (hbuf : cfg.buf.toNat + 4 < 2 ^ 64) :
    decodeWqe ((buildWqe cfg s).sqBuf.load (wqeAddr cfg s) 48) =
      localWriteWqe cfg (s.sqCurPost.toNat % 2 ^ 16) := by
  obtain ⟨c1, c2, c3, c4, c5⟩ := @ctrl_buildWqe cfg s 16 (by omega)
  obtain ⟨-, -, h11, h16, h24, h32, h36, h40⟩ := buildWqe_load cfg s
  generalize (buildWqe cfg s).sqBuf = m at *
  simp (disch := omega) only [decodeWqe, localWriteWqe, Mem.take_load, Mem.drop_load,
    Nat.reduceSub, WqeFields.mk.injEq] at c1 c2 c3 c4 c5 ⊢
  refine ⟨c1, c2, c3, c4.trans (Nat.mod_eq_of_lt hqpn), c5, ?_, ?_, ?_, ?_, ?_, ?_⟩
  · rw [ctrlFmCeSe, getD_load (by omega), h11]; rfl
  · rw [raddrRaddr, be64At_load (by omega : 0 + 8 ≤ 16) h16, BitVec.toNat_add]
    exact Nat.mod_eq_of_lt hbuf
  · rw [raddrRkey, be32At_load (by omega : 8 + 4 ≤ 16) h24]
  · rw [dataByteCount, be32At_load (by omega : 0 + 4 ≤ 16) h32]; rfl
  · rw [dataLkey, be32At_load (by omega : 4 + 4 ≤ 16) h36]
  · rw [dataAddr, be64At_load (by omega : 8 + 8 ≤ 16) h40]

theorem localWriteBegin_of_bf (hbf : cfg.qp.bfReg ≠ 0 ∧ cfg.qp.bfSize ≠ 0) :
    localWriteBegin cfg s = (ringDoorbell cfg (buildWqe cfg s), true) := by
  simp only [localWriteBegin, if_neg (not_or.mpr hbf)]

/-- Without a blueflame register `local_write` returns -1 having touched nothing more. -/
theorem localWriteBegin_of_not_bf (hbf : cfg.qp.bfReg = 0 ∨ cfg.qp.bfSize = 0) :
    localWriteBegin cfg s = (s, false) := by
  simp only [localWriteBegin, if_pos hbf]

/-- `local_write` either returns -1 at the blueflame check with no doorbell, or rings one. -/
theorem localWriteBegin_cases (cfg : Setup) (s : State) :
    ((localWriteBegin cfg s).2 = false ∧ (localWriteBegin cfg s).1.bfStores = s.bfStores) ∨
    ((localWriteBegin cfg s).2 = true ∧
      ∃ d, (localWriteBegin cfg s).1.bfStores = s.bfStores ++ [d]) := by
  by_cases hbf : cfg.qp.bfReg ≠ 0 ∧ cfg.qp.bfSize ≠ 0
  · exact .inr ⟨by rw [localWriteBegin_of_bf hbf], _, by rw [localWriteBegin_of_bf hbf]; rfl⟩
  · exact .inl (by rw [localWriteBegin_of_not_bf (by tauto)]; exact ⟨rfl, rfl⟩)

/-- `local_write` leaves the completion side to `poll_completion`. -/
theorem localWriteBegin_cq :
    (localWriteBegin cfg s).1.cqConsIndex = s.cqConsIndex ∧
      (localWriteBegin cfg s).1.cqBuf = s.cqBuf ∧ (localWriteBegin cfg s).1.dbrec = s.dbrec := by
  unfold localWriteBegin; split <;> exact ⟨rfl, rfl, rfl⟩

/-- `local_write` writes no byte of `res->buf` between its `memset`s and the poll. -/
theorem localWriteBegin_msg : (localWriteBegin cfg s).1.msg = s.msg := by
  unfold localWriteBegin; split <;> rfl

/-- The 48 bytes `local_write` writes, read back with the big-endian mlx5 layout. -/
theorem decode_wqe (hqpn : cfg.qpNum.toNat < 2 ^ 24) (hbuf : cfg.buf.toNat + 4 < 2 ^ 64)
    (hbf : cfg.qp.bfReg ≠ 0 ∧ cfg.qp.bfSize ≠ 0) :
    (localWriteBegin cfg s).2 = true ∧
    decodeWqe ((localWriteBegin cfg s).1.sqBuf.load (wqeAddr cfg s) 48) =
      { wqeIndex := s.sqCurPost.toNat % 2 ^ 16, opcode := mlx5OpcodeRdmaWrite, opmod := 0,
        qpn := cfg.qpNum.toNat, ds := 3, fmCeSe := mlx5WqeCtrlCqUpdate,
        raddr := cfg.buf.toNat + 4, rkey := cfg.rkey.toNat,
        byteCount := 4, lkey := cfg.lkey.toNat, addr := cfg.buf.toNat } ∧
    (∀ b, b < wqeAddr cfg s ∨ wqeAddr cfg s + 48 ≤ b →
      (localWriteBegin cfg s).1.sqBuf b = s.sqBuf b) ∧
    ∃ bf, (localWriteBegin cfg s).1.bfStores =
        s.bfStores ++ [⟨cfg.qp.bfReg + s.bfOffset.toNat, bf⟩] ∧
      bf = ((localWriteBegin cfg s).1.sqBuf.load (wqeAddr cfg s) 48).take 8 ∧
      ctrlWqeIndex bf = s.sqCurPost.toNat % 2 ^ 16 ∧ ctrlOpcode bf = mlx5OpcodeRdmaWrite ∧
      ctrlQpn bf = cfg.qpNum.toNat ∧ ctrlDs bf = 3 := by
  obtain ⟨c1, c2, -, c4, c5⟩ := @ctrl_buildWqe cfg s 8 le_rfl
  rw [localWriteBegin_of_bf hbf]
  exact ⟨rfl, decodeWqe_buildWqe hqpn hbuf, fun b hb => buildWqe_sqBuf_of_not_mem cfg _ hb,
    _, rfl, (Mem.take_load _ _ _ _ (by omega)).symm, c1, c2, c4.trans (Nat.mod_eq_of_lt hqpn), c5⟩

/-- A queue pair of four 64-byte WQEs with a 256-byte blueflame register. -/
def sampleQp : Mlx5dvQp where
  wqeCnt := 4
  stride := 64
  bfReg := 0x1000
  bfSize := 256
  wqeCnt_pow := ⟨2, rfl⟩
  ring_fits := by decide

/-- The resources of the sample run, with queue-pair number 0x123 and a buffer of
`DEFAULT_MSG_SIZE` bytes. -/
def sampleSetup : Setup := ⟨sampleCq, sampleQp, 0x123, 7, 9, 0x2000, 64⟩

/-- The WQE of post 0x10005: index 5 after the 16-bit wrap, in slot 1 of four. -/
theorem decode_wqe_post_10005 :
    sampleSetup.qpNum.toNat < 2 ^ 24 ∧ sampleSetup.buf.toNat + 4 < 2 ^ 64 ∧
    (sampleSetup.qp.bfReg ≠ 0 ∧ sampleSetup.qp.bfSize ≠ 0) ∧
    decodeWqe ((localWriteBegin sampleSetup { blankState with sqCurPost := 0x10005 }).1.sqBuf.load
      64 48) = ⟨5, 8, 0, 0x123, 3, 8, 0x2004, 9, 4, 7, 0x2000⟩ :=
  ⟨by decide, by decide, by decide, (decode_wqe (by decide) (by decide) (by decide)).2.1⟩

end Begin

end Mlx5ManualTrigger
