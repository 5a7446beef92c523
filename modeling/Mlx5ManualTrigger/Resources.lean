import Mlx5ManualTrigger.Bytes

/-!
# Resources of the manual-trigger program

`struct resources` splits in two here. `Setup` holds what `resources_create` fixes once: the
`mlx5dv_cq` and `mlx5dv_qp` views of the queues, the queue-pair number, the memory-region keys
and the address of the message buffer. `State` holds what the data path changes: the three
counters `sq_cur_post`, `cq_cons_index`, `bf_offset`, and the memories shared with the device.

The constants come from `mlx5dv.h` and `verbs.h`, which the source includes; the comments of
`manual_poll_cq` give the completion opcodes, and the sample log the work-completion opcodes.
-/

namespace Mlx5ManualTrigger

/-! ## Constants -/

/-- Modelled from the spec: the completion opcodes `MLX5_CQE_*` of `mlx5dv.h`. -/
def mlx5CqeReq : Nat := 0
/-- Modelled from the spec: `MLX5_CQE_RESP_WR_IMM`. -/
def mlx5CqeRespWrImm : Nat := 1
/-- Modelled from the spec: `MLX5_CQE_RESP_SEND`. -/
def mlx5CqeRespSend : Nat := 2
/-- Modelled from the spec: `MLX5_CQE_RESP_SEND_IMM`. -/
def mlx5CqeRespSendImm : Nat := 3
/-- Modelled from the spec: `MLX5_CQE_RESP_SEND_INV`. -/
def mlx5CqeRespSendInv : Nat := 4
/-- Modelled from the spec: `MLX5_CQE_REQ_ERR`. -/
def mlx5CqeReqErr : Nat := 13
/-- Modelled from the spec: `MLX5_CQE_RESP_ERR`. -/
def mlx5CqeRespErr : Nat := 14
/-- Modelled from the spec: `MLX5_CQE_INVALID`, the opcode of a slot hardware never wrote. -/
def mlx5CqeInvalid : Nat := 15

/-- Modelled from the spec: the send opcodes `MLX5_OPCODE_*` of `mlx5dv.h`. -/
def mlx5OpcodeSendInval : Nat := 0x01
/-- Modelled from the spec: `MLX5_OPCODE_RDMA_WRITE`. -/
def mlx5OpcodeRdmaWrite : Nat := 0x08
/-- Modelled from the spec: `MLX5_OPCODE_RDMA_WRITE_IMM`. -/
def mlx5OpcodeRdmaWriteImm : Nat := 0x09
/-- Modelled from the spec: `MLX5_OPCODE_SEND`. -/
def mlx5OpcodeSend : Nat := 0x0a
/-- Modelled from the spec: `MLX5_OPCODE_SEND_IMM`. -/
def mlx5OpcodeSendImm : Nat := 0x0b
/-- Modelled from the spec: `MLX5_OPCODE_RDMA_READ`. -/
def mlx5OpcodeRdmaRead : Nat := 0x10

/-- Modelled from the spec: `MLX5_WQE_CTRL_CQ_UPDATE`, the flag that asks for a completion. -/
def mlx5WqeCtrlCqUpdate : Nat := 8

/-- Modelled from the spec: the work-completion opcodes `IBV_WC_*` of `verbs.h`. -/
def ibvWcSend : Nat := 0
/-- Modelled from the spec: `IBV_WC_RDMA_WRITE`. -/
def ibvWcRdmaWrite : Nat := 1
/-- Modelled from the spec: `IBV_WC_RDMA_READ`. -/
def ibvWcRdmaRead : Nat := 2
/-- Modelled from the spec: `IBV_WC_RECV`. -/
def ibvWcRecv : Nat := 128
/-- Modelled from the spec: `IBV_WC_RECV_RDMA_WITH_IMM`. -/
def ibvWcRecvRdmaWithImm : Nat := 129

/-- Modelled from the spec: the status `IBV_WC_SUCCESS`. -/
def ibvWcSuccess : Nat := 0
/-- Modelled from the spec: `IBV_WC_GENERAL_ERR`. -/
def ibvWcGeneralErr : Nat := 21

/-- Modelled from the spec: the flag `IBV_WC_WITH_IMM`. -/
def ibvWcWithImm : BitVec 32 := 2

/-- `MLX5_CQ_SET_CI`, the consumer-index word of the doorbell record. -/
def mlx5CqSetCi : Nat := 0

/-- `MAX_POLL_CQ_TIMEOUT`, in milliseconds. -/
def maxPollCqTimeout : Nat := 5000

/-! ## What `resources_create` fixes -/

/-- The fields of `struct mlx5dv_cq` that `manual_poll_cq` reads: `cqe_cnt` slots, a power of
two of at most `2 ^ 23`, each of `cqe_size` bytes, 64 or 128. -/
structure Mlx5dvCq where
  cqeCnt : BitVec 32
  cqeSize : BitVec 32
  cqeCnt_pow : cqeCnt.toNat.isPowerOfTwo
  cqeCnt_le : cqeCnt.toNat ≤ 2 ^ 23
  cqeSize_cases : cqeSize = 64 ∨ cqeSize = 128

/-- The fields of `struct mlx5dv_qp` that `local_write` reads: `sq.wqe_cnt` slots of
`sq.stride` bytes, a power of two of them spanning at most `2 ^ 32` bytes, and the blueflame
register `bf.reg` (0 for `NULL`) with its half size `bf.size`. -/
structure Mlx5dvQp where
  wqeCnt : BitVec 32
  stride : BitVec 32
  bfReg : Nat
  bfSize : BitVec 32
  wqeCnt_pow : wqeCnt.toNat.isPowerOfTwo
  ring_fits : wqeCnt.toNat * stride.toNat ≤ 2 ^ 32

/-- What `resources_create` fixes for the data path. -/
structure Setup where
  cq : Mlx5dvCq
  qp : Mlx5dvQp
  /-- `res->qp->qp_num`. -/
  qpNum : BitVec 32
  /-- `res->mr->lkey` and `res->mr->rkey`. -/
  lkey : BitVec 32
  rkey : BitVec 32
  /-- The address of the message buffer `res->buf`. -/
  buf : BitVec 64
  /-- `config.msg_size`. -/
  msgSize : Nat

/-! ## What the data path changes -/

/-- One store to the blueflame register: its address and the eight bytes stored. -/
structure BfStore where
  addr : Nat
  data : List (BitVec 8)
  deriving DecidableEq, Repr

/-- The counters of `struct resources` and the memories the program shares with the device:
the message buffer, the send ring, the completion ring, the doorbell record, and the stores
made so far to the blueflame register, oldest first. -/
structure State where
  sqCurPost : BitVec 32
  cqConsIndex : BitVec 32
  bfOffset : BitVec 32
  msg : Mem
  sqBuf : Mem
  cqBuf : Mem
  dbrec : Mem
  bfStores : List BfStore

/-- `struct ibv_wc`, with the fields `manual_poll_cq` writes and `poll_completion` reads; the
defaults are those `memset` leaves. -/
structure IbvWc where
  status : Nat := 0
  opcode : Nat := 0
  vendorErr : BitVec 32 := 0
  byteLen : BitVec 32 := 0
  immData : BitVec 32 := 0
  qpNum : BitVec 32 := 0
  wcFlags : BitVec 32 := 0
  deriving DecidableEq, Repr

theorem Mlx5dvCq.one_le_cqeCnt (cq : Mlx5dvCq) : 1 ≤ cq.cqeCnt.toNat := by
  obtain ⟨k, hk⟩ := cq.cqeCnt_pow; rw [hk]; exact Nat.one_le_two_pow

theorem Mlx5dvQp.one_le_wqeCnt (qp : Mlx5dvQp) : 1 ≤ qp.wqeCnt.toNat := by
  obtain ⟨k, hk⟩ := qp.wqeCnt_pow; rw [hk]; exact Nat.one_le_two_pow

end Mlx5ManualTrigger
