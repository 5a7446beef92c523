import Mlx5ManualTrigger.RingIndex

/-!
# `manual_poll_cq`

One poll of the completion ring. The record at the head slot is consumed when its opcode is
not `MLX5_CQE_INVALID`, its owner bit is the lap parity the consumer index expects, and the
opcode switch knows its opcode; the consumer index then advances and the doorbell record
publishes its low 24 bits. Otherwise the call returns 0 and leaves the state as it was
(`manualPollCq_of_consumes`, `manualPollCq_of_not_consumes`).

The memory barrier between the ownership check and the decode has no effect here: a call is
one step of the model, and the hardware writes a record in one step.
-/

namespace Mlx5ManualTrigger

/-! ## The 64-byte completion record -/

/-- Modelled from the spec: `imm_inval_pkey`, bytes 36 to 39 of `struct mlx5_cqe64`. -/
def immInvalPkey (v : List (BitVec 8)) : BitVec 32 := be32At v 36

/-- Modelled from the spec: `byte_cnt`, bytes 44 to 47 of `struct mlx5_cqe64`. -/
def byteCnt (v : List (BitVec 8)) : BitVec 32 := be32At v 44

/-- Modelled from the spec: `sop_drop_qpn`, bytes 56 to 59 of `struct mlx5_cqe64`. -/
def sopDropQpn (v : List (BitVec 8)) : BitVec 32 := be32At v 56

/-- Modelled from the spec: `op_own`, the last byte of `struct mlx5_cqe64`. -/
def opOwn (v : List (BitVec 8)) : BitVec 8 := v.getD 63 0

/-- Modelled from the spec: `mlx5dv_get_cqe_opcode`, the high nibble of `op_own`. -/
def mlx5dvGetCqeOpcode (v : List (BitVec 8)) : BitVec 8 := opOwn v >>> 4

/-- Modelled from the spec: `mlx5dv_get_cqe_owner`, the low bit of `op_own`. -/
def mlx5dvGetCqeOwner (v : List (BitVec 8)) : BitVec 8 := opOwn v &&& 1

/-! ## The opcode switch -/

/-- The inner `switch (be32toh(sop_drop_qpn) >> 24)` of a `MLX5_CQE_REQ` record. -/
def reqOpcode (sop : Nat) (wc : IbvWc) : IbvWc :=
  if sop = mlx5OpcodeRdmaWrite ∨ sop = mlx5OpcodeRdmaWriteImm then
    { wc with opcode := ibvWcRdmaWrite,
              wcFlags := if sop = mlx5OpcodeRdmaWriteImm then wc.wcFlags ||| ibvWcWithImm
                else wc.wcFlags }
  else if sop = mlx5OpcodeSend ∨ sop = mlx5OpcodeSendImm ∨ sop = mlx5OpcodeSendInval then
    { wc with opcode := ibvWcSend,
              wcFlags := if sop = mlx5OpcodeSendImm then wc.wcFlags ||| ibvWcWithImm
                else wc.wcFlags }
  else if sop = mlx5OpcodeRdmaRead then { wc with opcode := ibvWcRdmaRead }
  else { wc with opcode := ibvWcSend }

/-- The outer `switch (opcode)`: the filled work completion, or `none` for `default: return 0`. -/
def cqeSwitch (opcode : Nat) (v : List (BitVec 8)) (wc : IbvWc) : Option IbvWc :=
  if opcode = mlx5CqeReq then
    some { reqOpcode (sopDropQpn v >>> 24).toNat wc with status := ibvWcSuccess }
  else if opcode = mlx5CqeRespSend then
    some { wc with opcode := ibvWcRecv, status := ibvWcSuccess }
  else if opcode = mlx5CqeRespSendImm then
    some { wc with opcode := ibvWcRecv, wcFlags := wc.wcFlags ||| ibvWcWithImm,
                   immData := immInvalPkey v, status := ibvWcSuccess }
  else if opcode = mlx5CqeRespWrImm then
    some { wc with opcode := ibvWcRecvRdmaWithImm, wcFlags := wc.wcFlags ||| ibvWcWithImm,
                   immData := immInvalPkey v, status := ibvWcSuccess }
  else if opcode = mlx5CqeReqErr ∨ opcode = mlx5CqeRespErr then
    some { wc with status := ibvWcGeneralErr }
  else none

/-- The work completion after `memset` and the two fields read before the switch. -/
def wcOfCqe (v : List (BitVec 8)) : IbvWc :=
  { qpNum := sopDropQpn v &&& 0xffffff, byteLen := byteCnt v }

@[simp] theorem wcOfCqe_byteLen (v : List (BitVec 8)) : (wcOfCqe v).byteLen = byteCnt v := rfl
@[simp] theorem wcOfCqe_status (v : List (BitVec 8)) : (wcOfCqe v).status = 0 := rfl
@[simp] theorem wcOfCqe_opcode (v : List (BitVec 8)) : (wcOfCqe v).opcode = 0 := rfl
@[simp] theorem wcOfCqe_wcFlags (v : List (BitVec 8)) : (wcOfCqe v).wcFlags = 0 := rfl
@[simp] theorem wcOfCqe_immData (v : List (BitVec 8)) : (wcOfCqe v).immData = 0 := rfl
@[simp] theorem wcOfCqe_vendorErr (v : List (BitVec 8)) : (wcOfCqe v).vendorErr = 0 := rfl

theorem reqOpcode_opcode (sop : Nat) (wc : IbvWc) :
    (reqOpcode sop wc).opcode =
      if sop = mlx5OpcodeRdmaWrite ∨ sop = mlx5OpcodeRdmaWriteImm then ibvWcRdmaWrite
      else if sop = mlx5OpcodeRdmaRead then ibvWcRdmaRead else ibvWcSend := by
  unfold reqOpcode
  split_ifs <;> simp_all [mlx5OpcodeRdmaWrite, mlx5OpcodeRdmaWriteImm, mlx5OpcodeSend,
    mlx5OpcodeSendImm, mlx5OpcodeSendInval, mlx5OpcodeRdmaRead]

theorem reqOpcode_wcFlags (sop : Nat) (wc : IbvWc) :
    (reqOpcode sop wc).wcFlags =
      if sop = mlx5OpcodeRdmaWriteImm ∨ sop = mlx5OpcodeSendImm then wc.wcFlags ||| ibvWcWithImm
      else wc.wcFlags := by
  unfold reqOpcode
  split_ifs <;> simp_all [mlx5OpcodeRdmaWrite, mlx5OpcodeRdmaWriteImm, mlx5OpcodeSend,
    mlx5OpcodeSendImm, mlx5OpcodeSendInval, mlx5OpcodeRdmaRead]

/-- `reqOpcode` sets the opcode and the flags and nothing else. -/
theorem reqOpcode_eq (sop : Nat) (wc : IbvWc) :
    reqOpcode sop wc =
      { wc with opcode := (reqOpcode sop wc).opcode, wcFlags := (reqOpcode sop wc).wcFlags } := by
  unfold reqOpcode; split_ifs <;> rfl

/-- The work completion the mlx5 layout gives for a record `v` of opcode `op`. -/
structure Decoded (op : Nat) (v : List (BitVec 8)) (w : IbvWc) : Prop where
  qpNum : w.qpNum.toNat = (sopDropQpn v).toNat % 2 ^ 24
  status : w.status =
    if op = mlx5CqeReqErr ∨ op = mlx5CqeRespErr then ibvWcGeneralErr else ibvWcSuccess
  byteLen : w.byteLen = byteCnt v
  opcode_req : op = mlx5CqeReq → w.opcode =
    if (sopDropQpn v >>> 24).toNat = mlx5OpcodeRdmaWrite ∨
        (sopDropQpn v >>> 24).toNat = mlx5OpcodeRdmaWriteImm then ibvWcRdmaWrite
    else if (sopDropQpn v >>> 24).toNat = mlx5OpcodeRdmaRead then ibvWcRdmaRead else ibvWcSend
  opcode_recv : op = mlx5CqeRespSend ∨ op = mlx5CqeRespSendImm → w.opcode = ibvWcRecv
  opcode_recv_imm : op = mlx5CqeRespWrImm → w.opcode = ibvWcRecvRdmaWithImm
  wcFlags : w.wcFlags =
    if op = mlx5CqeReq ∧ ((sopDropQpn v >>> 24).toNat = mlx5OpcodeRdmaWriteImm ∨
        (sopDropQpn v >>> 24).toNat = mlx5OpcodeSendImm) ∨
      op = mlx5CqeRespSendImm ∨ op = mlx5CqeRespWrImm then ibvWcWithImm else 0
  immData : w.immData =
    if op = mlx5CqeRespSendImm ∨ op = mlx5CqeRespWrImm then immInvalPkey v else 0
  vendorErr : w.vendorErr = 0

theorem qpNum_wcOfCqe (v : List (BitVec 8)) :
    (wcOfCqe v).qpNum.toNat = (sopDropQpn v).toNat % 2 ^ 24 := by
  rw [wcOfCqe, BitVec.toNat_and, show (0xffffff : BitVec 32).toNat = 2 ^ 24 - 1 from rfl,
    Nat.and_pow_two_sub_one_eq_mod]

/-- The switch fills the work completion of every known opcode as the layout says. -/
theorem cqeSwitch_known {op : Nat} (v : List (BitVec 8)) (hop : op ∈ [mlx5CqeReq,
    mlx5CqeRespWrImm, mlx5CqeRespSend, mlx5CqeRespSendImm, mlx5CqeReqErr, mlx5CqeRespErr]) :
    ∃ w, cqeSwitch op v (wcOfCqe v) = some w ∧ Decoded op v w := by
  have hq := qpNum_wcOfCqe v
  simp only [List.mem_cons, List.mem_singleton, List.not_mem_nil, or_false] at hop
  rcases hop with rfl | rfl | rfl | rfl | rfl | rfl
  · rw [cqeSwitch, if_pos rfl, reqOpcode_eq]
    refine ⟨_, rfl, ?_⟩
    constructor <;> simp [reqOpcode_opcode, reqOpcode_wcFlags, mlx5CqeReq, mlx5CqeReqErr,
      mlx5CqeRespErr, mlx5CqeRespSendImm, mlx5CqeRespWrImm, mlx5CqeRespSend, hq]
  all_goals exact ⟨_, rfl, by constructor <;> simp [hq, mlx5CqeReq, mlx5CqeRespWrImm,
    mlx5CqeRespSend, mlx5CqeRespSendImm, mlx5CqeReqErr, mlx5CqeRespErr]⟩

/-! ## One poll -/

section Poll

variable (cq : Mlx5dvCq)

/-- The 64 bytes of the record at the head slot. -/
def headCqe (s : State) : List (BitVec 8) := s.cqBuf.load (cqe64Offset cq s.cqConsIndex) 64

/-- The state after a consumed record: `cq_cons_index++`, then
`dbrec[MLX5_CQ_SET_CI] = htobe32(cq_cons_index & 0xffffff)`. -/
def advance (s : State) : State :=
  { s with cqConsIndex := s.cqConsIndex + 1,
           dbrec := s.dbrec.store (4 * mlx5CqSetCi) (htobe32 (dbrecCi (s.cqConsIndex + 1))) }

/-- `manual_poll_cq(res, wc)`: the return value, the state after the call and the caller's `wc`. -/
def manualPollCq (s : State) (wc : IbvWc) : Int × State × IbvWc :=
  let cqe64 := headCqe cq s
  let opcode := mlx5dvGetCqeOpcode cqe64
  if opcode.toNat = mlx5CqeInvalid then (0, s, wc)
  else if mlx5dvGetCqeOwner cqe64 ≠ expectedOwner cq s.cqConsIndex then (0, s, wc)
  else match cqeSwitch opcode.toNat cqe64 (wcOfCqe cqe64) with
    | none => (0, s, wcOfCqe cqe64)
    | some wc' => (1, advance s, wc')

/-- The head record is consumed: a valid opcode, the expected owner, and a known opcode. -/
def Consumes (s : State) : Prop :=
  (mlx5dvGetCqeOpcode (headCqe cq s)).toNat ≠ mlx5CqeInvalid ∧
    mlx5dvGetCqeOwner (headCqe cq s) = expectedOwner cq s.cqConsIndex ∧
    (cqeSwitch (mlx5dvGetCqeOpcode (headCqe cq s)).toNat (headCqe cq s)
      (wcOfCqe (headCqe cq s))).isSome

instance (s : State) : Decidable (Consumes cq s) := by unfold Consumes; infer_instance

variable {cq}

theorem manualPollCq_of_consumes {s : State} (h : Consumes cq s) (wc : IbvWc) :
    (manualPollCq cq s wc).1 = 1 ∧ (manualPollCq cq s wc).2.1 = advance s := by
  obtain ⟨h1, h2, h3⟩ := h
  obtain ⟨wc', hw⟩ := Option.isSome_iff_exists.1 h3
  simp [manualPollCq, h1, h2, hw]

theorem manualPollCq_of_not_consumes {s : State} (h : ¬ Consumes cq s) (wc : IbvWc) :
    (manualPollCq cq s wc).1 = 0 ∧ (manualPollCq cq s wc).2.1 = s := by
  simp only [Consumes, not_and] at h
  dsimp only [manualPollCq]
  split_ifs with h1 h2
  · simp
  · simp
  · have h3 := h h1 (not_not.1 h2)
    split <;> simp_all

theorem manualPollCq_of_fresh {s : State} (wc : IbvWc)
    (hop : (mlx5dvGetCqeOpcode (headCqe cq s)).toNat ≠ mlx5CqeInvalid)
    (hown : mlx5dvGetCqeOwner (headCqe cq s) = expectedOwner cq s.cqConsIndex) :
    manualPollCq cq s wc =
      match cqeSwitch (mlx5dvGetCqeOpcode (headCqe cq s)).toNat (headCqe cq s)
        (wcOfCqe (headCqe cq s)) with
      | none => (0, s, wcOfCqe (headCqe cq s))
      | some wc' => (1, advance s, wc') := by
  simp only [manualPollCq, hop, hown, ne_eq, not_true_eq_false, if_false]

/-- A record with the expected owner and one of the six known opcodes is consumed, and the
work completion is the one the mlx5 layout gives. -/
theorem manualPollCq_decodes_known_record {s : State} (wc : IbvWc)
    (hown : mlx5dvGetCqeOwner (headCqe cq s) = expectedOwner cq s.cqConsIndex)
    (hop : (mlx5dvGetCqeOpcode (headCqe cq s)).toNat ∈ [mlx5CqeReq, mlx5CqeRespWrImm,
      mlx5CqeRespSend, mlx5CqeRespSendImm, mlx5CqeReqErr, mlx5CqeRespErr]) :
    (manualPollCq cq s wc).1 = 1 ∧ Decoded (mlx5dvGetCqeOpcode (headCqe cq s)).toNat
      (headCqe cq s) (manualPollCq cq s wc).2.2 := by
  obtain ⟨w, hw, hd⟩ := cqeSwitch_known _ hop
  have hinv : (mlx5dvGetCqeOpcode (headCqe cq s)).toNat ≠ mlx5CqeInvalid := fun h => by
    rw [h] at hop; revert hop; decide
  rw [manualPollCq_of_fresh wc hinv hown, hw]
  exact ⟨rfl, hd⟩

/-- A ring of four 64-byte slots. -/
def sampleCq : Mlx5dvCq where
  cqeCnt := 4
  cqeSize := 64
  cqeCnt_pow := ⟨2, rfl⟩
  cqeCnt_le := by decide
  cqeSize_cases := .inl rfl

/-- Every counter zero and every memory zeroed: the head record is a `MLX5_CQE_REQ` of owner 0. -/
def blankState : State := ⟨0, 0, 0, fun _ => 0, fun _ => 0, fun _ => 0, fun _ => 0, []⟩

theorem manualPollCq_decodes_blank_ring :
    (mlx5dvGetCqeOwner (headCqe sampleCq blankState) =
      expectedOwner sampleCq blankState.cqConsIndex ∧
    (mlx5dvGetCqeOpcode (headCqe sampleCq blankState)).toNat ∈ [mlx5CqeReq, mlx5CqeRespWrImm,
      mlx5CqeRespSend, mlx5CqeRespSendImm, mlx5CqeReqErr, mlx5CqeRespErr]) ∧
    (manualPollCq sampleCq blankState {}).1 = 1 ∧
      Decoded (mlx5dvGetCqeOpcode (headCqe sampleCq blankState)).toNat
        (headCqe sampleCq blankState) (manualPollCq sampleCq blankState {}).2.2 :=
  ⟨⟨by decide, by decide⟩, manualPollCq_decodes_known_record {} (by decide) (by decide)⟩

/-- A call that returns 0 leaves `cq_cons_index` and the doorbell record as they were. -/
theorem manualPollCq_eq_zero {s : State} {wc : IbvWc} (h : (manualPollCq cq s wc).1 = 0) :
    (manualPollCq cq s wc).2.1 = s := by
  by_cases hc : Consumes cq s
  · simp [manualPollCq_of_consumes hc wc] at h
  · exact (manualPollCq_of_not_consumes hc wc).2

theorem manualPollCq_ret {s : State} {wc : IbvWc} :
    (manualPollCq cq s wc).1 = 1 ↔ Consumes cq s := by
  by_cases hc : Consumes cq s
  · simp [manualPollCq_of_consumes hc wc, hc]
  · simp [manualPollCq_of_not_consumes hc wc, hc]

@[simp] theorem advance_cqConsIndex (s : State) : (advance s).cqConsIndex = s.cqConsIndex + 1 :=
  rfl

@[simp] theorem advance_cqBuf (s : State) : (advance s).cqBuf = s.cqBuf := rfl

@[simp] theorem advance_sqCurPost (s : State) : (advance s).sqCurPost = s.sqCurPost := rfl

@[simp] theorem advance_bfOffset (s : State) : (advance s).bfOffset = s.bfOffset := rfl

@[simp] theorem advance_sqBuf (s : State) : (advance s).sqBuf = s.sqBuf := rfl

@[simp] theorem advance_bfStores (s : State) : (advance s).bfStores = s.bfStores := rfl

@[simp] theorem advance_msg (s : State) : (advance s).msg = s.msg := rfl

theorem advance_dbrec (s : State) :
    (advance s).dbrec.load 0 4 = htobe32 (dbrecCi (s.cqConsIndex + 1)) := by
  simpa [mlx5CqSetCi] using Mem.load_store_self _ _ _

end Poll

end Mlx5ManualTrigger
