import Mlx5ManualTrigger.Resources

/-!
# `connect_qp_self`: the queue pair connected to itself

`connect_qp_self` takes the queue pair that `ibv_create_qp` left in `RESET` through `INIT` and
`RTR` to `RTS`, one `ibv_modify_qp` each, and returns at the first call that fails.
`modify_qp_to_rtr` names the queue pair itself as the destination: its own number and LID, and
with a GID index the GID that `ibv_query_gid` read. `main` runs the write loop only when
`connect_qp_self` returns `0`.

`modifyQpToInit`, `modifyQpToRtr` and `modifyQpToRts` fill a zeroed `struct ibv_qp_attr` and its
mask as the source does; `ibvModifyQp` is the device: it takes the transition of an RC queue
pair that the attribute names only from the state before it and with every attribute the
transition requires in the mask, and then copies the masked attributes. `main` reads only the
value `connect_qp_self` returns.
-/

namespace Mlx5ManualTrigger

/-! ## `struct ibv_qp_attr` -/

/-- Modelled from the spec: the states of `enum ibv_qp_state` that `connect_qp_self` passes,
`IBV_QPS_RESET = 0` first. -/
inductive QpState
  | reset | init | rtr | rts
  deriving DecidableEq, Repr

/-- Modelled from the spec: the bits of `enum ibv_qp_attr_mask` of `verbs.h`, `IBV_QP_STATE`
first. -/
def ibvQpState : Nat := 2 ^ 0
/-- Modelled from the spec: `IBV_QP_ACCESS_FLAGS`. -/
def ibvQpAccessFlags : Nat := 2 ^ 3
/-- Modelled from the spec: `IBV_QP_PKEY_INDEX`. -/
def ibvQpPkeyIndex : Nat := 2 ^ 4
/-- Modelled from the spec: `IBV_QP_PORT`. -/
def ibvQpPort : Nat := 2 ^ 5
/-- Modelled from the spec: `IBV_QP_AV`. -/
def ibvQpAv : Nat := 2 ^ 7
/-- Modelled from the spec: `IBV_QP_PATH_MTU`. -/
def ibvQpPathMtu : Nat := 2 ^ 8
/-- Modelled from the spec: `IBV_QP_TIMEOUT`. -/
def ibvQpTimeout : Nat := 2 ^ 9
/-- Modelled from the spec: `IBV_QP_RETRY_CNT`. -/
def ibvQpRetryCnt : Nat := 2 ^ 10
/-- Modelled from the spec: `IBV_QP_RNR_RETRY`. -/
def ibvQpRnrRetry : Nat := 2 ^ 11
/-- Modelled from the spec: `IBV_QP_RQ_PSN`. -/
def ibvQpRqPsn : Nat := 2 ^ 12
/-- Modelled from the spec: `IBV_QP_MAX_QP_RD_ATOMIC`. -/
def ibvQpMaxQpRdAtomic : Nat := 2 ^ 13
/-- Modelled from the spec: `IBV_QP_MIN_RNR_TIMER`. -/
def ibvQpMinRnrTimer : Nat := 2 ^ 15
/-- Modelled from the spec: `IBV_QP_SQ_PSN`. -/
def ibvQpSqPsn : Nat := 2 ^ 16
/-- Modelled from the spec: `IBV_QP_MAX_DEST_RD_ATOMIC`. -/
def ibvQpMaxDestRdAtomic : Nat := 2 ^ 17
/-- Modelled from the spec: `IBV_QP_DEST_QPN`. -/
def ibvQpDestQpn : Nat := 2 ^ 20

/-- Modelled from the spec: the access flags `IBV_ACCESS_LOCAL_WRITE`, `IBV_ACCESS_REMOTE_WRITE`
and `IBV_ACCESS_REMOTE_READ` of `verbs.h`. -/
def ibvAccessLocalWrite : Nat := 1
/-- Modelled from the spec: `IBV_ACCESS_REMOTE_WRITE`. -/
def ibvAccessRemoteWrite : Nat := 2
/-- Modelled from the spec: `IBV_ACCESS_REMOTE_READ`. -/
def ibvAccessRemoteRead : Nat := 4
/-- Modelled from the spec: `IBV_MTU_256`. -/
def ibvMtu256 : Nat := 1
/-- Modelled from the spec: `EINVAL`, what `ibv_modify_qp` returns for a transition it refuses. -/
def einval : Nat := 22

/-- The fields of `struct ibv_global_route` that `modify_qp_to_rtr` sets, zero as `memset`
leaves them. -/
structure GlobalRoute where
  dgid : List (BitVec 8) := List.replicate 16 0
  flowLabel : Nat := 0
  sgidIndex : Nat := 0
  hopLimit : Nat := 0
  trafficClass : Nat := 0
  deriving DecidableEq, Repr

/-- The fields of `struct ibv_ah_attr` that `modify_qp_to_rtr` sets. -/
structure AhAttr where
  grh : GlobalRoute := {}
  dlid : BitVec 16 := 0
  sl : Nat := 0
  srcPathBits : Nat := 0
  isGlobal : Nat := 0
  portNum : Nat := 0
  deriving DecidableEq, Repr

/-- The fields of `struct ibv_qp_attr` that the `modify_qp_to_*` set, zero as `memset` leaves
them; also the attributes a queue pair holds. -/
structure QpAttr where
  qpState : QpState := .reset
  pathMtu : Nat := 0
  rqPsn : Nat := 0
  sqPsn : Nat := 0
  destQpNum : BitVec 32 := 0
  qpAccessFlags : Nat := 0
  ahAttr : AhAttr := {}
  pkeyIndex : Nat := 0
  maxRdAtomic : Nat := 0
  maxDestRdAtomic : Nat := 0
  minRnrTimer : Nat := 0
  portNum : Nat := 0
  timeout : Nat := 0
  retryCnt : Nat := 0
  rnrRetry : Nat := 0
  deriving DecidableEq, Repr

/-- `config.ib_port`, as the `uint8_t` port fields hold it, and `config.gid_idx`. -/
structure Config where
  ibPort : Nat
  gidIdx : Int

/-! ## The device -/

/-- Modelled from the spec: the attributes `ibv_modify_qp` requires for a transition of an RC
queue pair, and none for a transition it does not make. -/
def requiredAttrs : QpState → QpState → Option Nat
  | .reset, .init => some (ibvQpState ||| ibvQpPkeyIndex ||| ibvQpPort ||| ibvQpAccessFlags)
  | .init, .rtr => some (ibvQpState ||| ibvQpAv ||| ibvQpPathMtu ||| ibvQpDestQpn |||
      ibvQpRqPsn ||| ibvQpMaxDestRdAtomic ||| ibvQpMinRnrTimer)
  | .rtr, .rts => some (ibvQpState ||| ibvQpSqPsn ||| ibvQpMaxQpRdAtomic ||| ibvQpRetryCnt |||
      ibvQpRnrRetry ||| ibvQpTimeout)
  | _, _ => none

/-- The attributes of `attr` whose bit is in `mask`, over those of `qp`. -/
def QpAttr.update (qp attr : QpAttr) (mask : Nat) : QpAttr :=
  let has (b : Nat) : Bool := mask &&& b != 0
  { qpState := if has ibvQpState then attr.qpState else qp.qpState
    pathMtu := if has ibvQpPathMtu then attr.pathMtu else qp.pathMtu
    rqPsn := if has ibvQpRqPsn then attr.rqPsn else qp.rqPsn
    sqPsn := if has ibvQpSqPsn then attr.sqPsn else qp.sqPsn
    destQpNum := if has ibvQpDestQpn then attr.destQpNum else qp.destQpNum
    qpAccessFlags := if has ibvQpAccessFlags then attr.qpAccessFlags else qp.qpAccessFlags
    ahAttr := if has ibvQpAv then attr.ahAttr else qp.ahAttr
    pkeyIndex := if has ibvQpPkeyIndex then attr.pkeyIndex else qp.pkeyIndex
    maxRdAtomic := if has ibvQpMaxQpRdAtomic then attr.maxRdAtomic else qp.maxRdAtomic
    maxDestRdAtomic :=
      if has ibvQpMaxDestRdAtomic then attr.maxDestRdAtomic else qp.maxDestRdAtomic
    minRnrTimer := if has ibvQpMinRnrTimer then attr.minRnrTimer else qp.minRnrTimer
    portNum := if has ibvQpPort then attr.portNum else qp.portNum
    timeout := if has ibvQpTimeout then attr.timeout else qp.timeout
    retryCnt := if has ibvQpRetryCnt then attr.retryCnt else qp.retryCnt
    rnrRetry := if has ibvQpRnrRetry then attr.rnrRetry else qp.rnrRetry }

/-- `ibv_modify_qp` against a device that returns `rc` for a transition it can take: the
transition from the queue pair's state to the attribute's, with the attributes it requires in
the mask, copies the masked attributes when `rc = 0`; any other leaves the queue pair as it was,
with `EINVAL`. -/
def ibvModifyQp (rc : Nat) (qp attr : QpAttr) (mask : Nat) : Nat × QpAttr :=
  match requiredAttrs qp.qpState attr.qpState with
  | some req =>
    if req &&& mask = req then (if rc = 0 then (0, qp.update attr mask) else (rc, qp))
    else (einval, qp)
  | none => (einval, qp)

/-! ## `connect_qp_self` -/

/-- `modify_qp_to_init`: the port, partition key 0 and the three access rights. -/
def modifyQpToInit (cfg : Config) (rc : Nat) (qp : QpAttr) : Nat × QpAttr :=
  ibvModifyQp rc qp
    { qpState := .init, portNum := cfg.ibPort, pkeyIndex := 0,
      qpAccessFlags := ibvAccessLocalWrite ||| ibvAccessRemoteRead ||| ibvAccessRemoteWrite }
    (ibvQpState ||| ibvQpPkeyIndex ||| ibvQpPort ||| ibvQpAccessFlags)

/-- The `ah_attr` of `modify_qp_to_rtr`: the destination LID on `config.ib_port`; with a GID
index, a global address with the destination GID, through port 1 whatever `config.ib_port`
is. -/
def rtrAhAttr (cfg : Config) (lid : BitVec 16) (gid : List (BitVec 8)) : AhAttr :=
  let ah : AhAttr :=
    { isGlobal := 0, dlid := lid, sl := 0, srcPathBits := 0, portNum := cfg.ibPort }
  if 0 ≤ cfg.gidIdx then
    { ah with
      isGlobal := 1, portNum := 1,
      grh :=
        { dgid := gid, flowLabel := 0, hopLimit := 1, sgidIndex := cfg.gidIdx.toNat % 2 ^ 8,
          trafficClass := 0 } }
  else ah

/-- `modify_qp_to_rtr` with the destination `qp_num`, `lid` and `gid`. -/
def modifyQpToRtr (cfg : Config) (rc : Nat) (qp : QpAttr) (qpNum : BitVec 32)
    (lid : BitVec 16) (gid : List (BitVec 8)) : Nat × QpAttr :=
  ibvModifyQp rc qp
    { qpState := .rtr, pathMtu := ibvMtu256, destQpNum := qpNum, rqPsn := 0,
      maxDestRdAtomic := 1, minRnrTimer := 0x12, ahAttr := rtrAhAttr cfg lid gid }
    (ibvQpState ||| ibvQpAv ||| ibvQpPathMtu ||| ibvQpDestQpn ||| ibvQpRqPsn |||
      ibvQpMaxDestRdAtomic ||| ibvQpMinRnrTimer)

/-- `modify_qp_to_rts`. -/
def modifyQpToRts (rc : Nat) (qp : QpAttr) : Nat × QpAttr :=
  ibvModifyQp rc qp
    { qpState := .rts, timeout := 0x12, retryCnt := 6, rnrRetry := 0, sqPsn := 0,
      maxRdAtomic := 1 }
    (ibvQpState ||| ibvQpTimeout ||| ibvQpRetryCnt ||| ibvQpRnrRetry ||| ibvQpSqPsn |||
      ibvQpMaxQpRdAtomic)

/-- What the calls of `connect_qp_self` return: `ibv_query_gid` with the GID it reads, and the
device for each transition. -/
structure ConnectCalls where
  queryGid : Nat
  gid : List (BitVec 8)
  toInit : Nat
  toRtr : Nat
  toRts : Nat

/-- `connect_qp_self` on the queue pair `qp` with number `qp_num` and the port's `lid`: its
return value and the queue pair after it. -/
def connectQpSelf (cfg : Config) (c : ConnectCalls) (qpNum : BitVec 32) (lid : BitVec 16)
    (qp : QpAttr) : Nat × QpAttr :=
  if 0 ≤ cfg.gidIdx ∧ c.queryGid ≠ 0 then (c.queryGid, qp)
  else
    let myGid := if 0 ≤ cfg.gidIdx then c.gid else List.replicate 16 0
    let r₁ := modifyQpToInit cfg c.toInit qp
    if r₁.1 ≠ 0 then r₁
    else
      let r₂ := modifyQpToRtr cfg c.toRtr r₁.2 qpNum lid myGid
      if r₂.1 ≠ 0 then r₂ else modifyQpToRts c.toRts r₂.2

/-- Every call of `connect_qp_self` succeeding, the GID all zero. -/
def connectSucceeds : ConnectCalls := ⟨0, List.replicate 16 0, 0, 0, 0⟩

end Mlx5ManualTrigger
