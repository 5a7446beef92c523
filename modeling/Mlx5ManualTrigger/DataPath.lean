import Mlx5ManualTrigger.Program

/-!
# The RDMA write of `local_write`

`local_write` clears `res->buf` to `8 8 8 8 0 0 0 0 …` (`memset(res->buf, 8, 4)` over zeros)
and posts an RDMA write of its first four bytes to `res->buf + 4`, on the queue pair that
`connect_qp_self` connected to itself; once the completion is polled it prints the first eight
bytes "after local write".

The device is modelled by what it does with a doorbell: it fetches the WQE from the slot the
doorbell's index names, and it writes a successful completion only after executing the write,
which checks the opcode, both keys and both ranges against `res->mr`.

`DataInv` holds along every run of `main` against this device. With it, each call of
`local_write` that returns 0 leaves the buffer reading `8 8 8 8 8 8 8 8`: the WQE in the slot
the device reads is the one `local_write` built, and it is valid for the device.
-/

namespace Mlx5ManualTrigger

/-! ## The device -/

section Device

variable (cfg : Setup)

/-- The offset in `res->buf` of the `n` bytes at address `a`, when they lie inside the memory
region `res->mr` of `config.msg_size` bytes. -/
def mrOffset (a n : Nat) : Option Nat :=
  if cfg.buf.toNat ≤ a ∧ a + n ≤ cfg.buf.toNat + cfg.msgSize then some (a - cfg.buf.toNat)
  else none

/-- The device executing the RDMA-write WQE `f` on the buffer `m`, `res->mr` being the queue
pair's only memory region: both keys must be the region's and both ranges inside it; then the
`byte_count` bytes at `addr` are copied to `raddr`. -/
def rdmaWrite (f : WqeFields) (m : Mem) : Option Mem :=
  if f.opcode = mlx5OpcodeRdmaWrite ∧ f.lkey = cfg.lkey.toNat ∧ f.rkey = cfg.rkey.toNat then
    match mrOffset cfg f.addr f.byteCount, mrOffset cfg f.raddr f.byteCount with
    | some src, some dst => some (m.store dst (m.load src f.byteCount))
    | _, _ => none
  else none

/-- The slot the device fetches a doorbell's WQE from: the WQE index of the control segment the
doorbell carries, modulo `sq.wqe_cnt`. -/
def wqeSlot (d : List (BitVec 8)) : Nat :=
  ctrlWqeIndex d % cfg.qp.wqeCnt.toNat * cfg.qp.stride.toNat

/-- The device's DMA: it reports the success of the WQE behind doorbell `b` only once it has
executed that WQE, fetched from its slot, on the buffer, which it leaves as `m`. -/
def HwData (σ : CqSys) (b : BfStore) (rec : List (BitVec 8)) (m : Mem) : Prop :=
  ReqFor b.data rec →
    rdmaWrite cfg (decodeWqe (σ.st.sqBuf.load (wqeSlot cfg b.data) 48)) σ.st.msg = some m

variable (r : Nat)

/-- The worlds a run of `main` with `repeat_count = r` reaches against that device. -/
def DataReachable (w : World) : Prop :=
  ∃ w₀, MainInit cfg w₀ ∧ Relation.ReflTransGen (MainStep cfg r (HwData cfg)) w₀ w

/-- What the buffer and the slots hold at each position of `main`. At the loop test after a
call, and at `main_exit` with `rc = 0`, the copy was made; inside `poll_completion` of call `i`,
before the device completes WQE `i` the slot its doorbell names holds `local_write`'s WQE and the
buffer is as `local_write` cleared it, and after, a success of WQE `i` means the copy was made. -/
def DataInv (w : World) : Prop :=
  match w.pc with
  | .loop i => 0 < i → w.sys.st.msg.load 0 8 = List.replicate 8 8
  | .poll i _ _ =>
      (w.sys.hist.length = i ∧ (∃ b : BfStore, w.sys.st.bfStores[i]? = some b ∧
          ∃ p, decodeWqe (w.sys.st.sqBuf.load (wqeSlot cfg b.data) 48) = localWriteWqe cfg p) ∧
        w.sys.st.msg.load 0 8 = List.replicate 4 8 ++ List.replicate 4 0) ∨
      (w.sys.hist.length = i + 1 ∧
        (OwnSuccess w.sys i → w.sys.st.msg.load 0 8 = List.replicate 8 8))
  | .exit rc => rc = 0 → 0 < r → w.sys.st.msg.load 0 8 = List.replicate 8 8
  | .undefined => True

end Device

/-! ## `local_write`'s WQE on the device -/

section Copy

variable {cfg : Setup}

/-- The WQE of `local_write` copies bytes 0 to 4 of the buffer to bytes 4 to 8. -/
theorem rdmaWrite_localWriteWqe (hmsg : 8 ≤ cfg.msgSize) (p : Nat) (m : Mem) :
    rdmaWrite cfg (localWriteWqe cfg p) m = some (m.store 4 (m.load 0 4)) := by
  have h1 : mrOffset cfg cfg.buf.toNat 4 = some 0 := by
    rw [mrOffset, if_pos (by omega), Nat.sub_self]
  have h2 : mrOffset cfg (cfg.buf.toNat + 4) 4 = some 4 := by
    rw [mrOffset, if_pos (by omega), Nat.add_sub_cancel_left]
  simp only [rdmaWrite, localWriteWqe, h1, h2, and_self, if_true]

/-- `memset(res->buf, 0, config.msg_size); memset(res->buf, 8, 4)` as the first eight bytes. -/
theorem load_clearMsg (hmsg : 8 ≤ cfg.msgSize) (m : Mem) :
    (clearMsg cfg m).load 0 8 = List.replicate 4 8 ++ List.replicate 4 0 := by
  rw [clearMsg, Mem.load_add _ 0 4 4, Mem.load_store_of_length (List.length_replicate _ _),
    Mem.load_store_of_disjoint (by simp), Mem.load_store_inner (by simp; omega)]
  simp only [List.drop_replicate, List.take_replicate]
  congr
  omega

/-- The copy made on a buffer as `local_write` cleared it reads eight 8s. -/
theorem load_copy_of_cleared {m : Mem}
    (h : m.load 0 8 = List.replicate 4 8 ++ List.replicate 4 0) :
    (m.store 4 (m.load 0 4)).load 0 8 = List.replicate 8 8 := by
  have h4 : m.load 0 4 = List.replicate 4 8 := by
    rw [← Mem.take_load m 0 8 4 (by omega), h]; rfl
  rw [Mem.load_add _ 0 4 4, Mem.load_store_of_disjoint (by simp),
    Mem.load_store_of_length (Mem.length_load _ _ _), h4]
  rfl

/-- With `sq.wqe_cnt ≤ 2 ^ 16`, the slot the device takes from a doorbell of `local_write` is
the slot `buildWqe` filled. -/
theorem wqeSlot_buildWqe (hW : cfg.qp.wqeCnt.toNat ≤ 2 ^ 16) (s : State) :
    wqeSlot cfg ((buildWqe cfg s).sqBuf.load (wqeAddr cfg s) 8) = wqeAddr cfg s := by
  have ha := @toNat_wqeOffset cfg.qp s.sqCurPost.toNat
  rw [BitVec.ofNat_toNat, BitVec.setWidth_eq] at ha
  rw [wqeSlot, (ctrl_buildWqe le_rfl).1, Nat.mod_mod_of_dvd _ (cfg.qp.wqeCnt_dvd hW), wqeAddr, ha]

/-- A call of `local_write` that rings its doorbell leaves in the slot the device takes from
that doorbell the WQE it meant to build; the doorbell names an RDMA write of the queue pair. -/
theorem localWriteBegin_slot (hW : cfg.qp.wqeCnt.toNat ≤ 2 ^ 16)
    (hqpn : cfg.qpNum.toNat < 2 ^ 24) (hbuf : cfg.buf.toNat + 4 < 2 ^ 64) (s : State)
    (hbf : cfg.qp.bfReg ≠ 0 ∧ cfg.qp.bfSize ≠ 0) :
    ∃ d, (localWriteBegin cfg s).1.bfStores =
        s.bfStores ++ [⟨cfg.qp.bfReg + s.bfOffset.toNat, d⟩] ∧
      decodeWqe ((localWriteBegin cfg s).1.sqBuf.load (wqeSlot cfg d) 48) =
        localWriteWqe cfg (s.sqCurPost.toNat % 2 ^ 16) ∧
      ctrlOpcode d = mlx5OpcodeRdmaWrite ∧ ctrlQpn d = cfg.qpNum.toNat % 2 ^ 24 := by
  rw [localWriteBegin_of_bf hbf]
  obtain ⟨-, hop, -, hq, -⟩ := @ctrl_buildWqe cfg s 8 le_rfl
  refine ⟨(buildWqe cfg s).sqBuf.load (wqeAddr cfg s) 8, rfl, ?_, hop, hq⟩
  rw [ringDoorbell_sqBuf, wqeSlot_buildWqe hW]
  exact decodeWqe_buildWqe hqpn hbuf

end Copy

/-! ## Each step keeps `DataInv` -/

section Steps

variable {cfg : Setup} {r : Nat}

/-- Before the device completes WQE `i`, executing it copies bytes 0 to 4 of the buffer, which
`local_write` cleared, to bytes 4 to 8. -/
theorem DataInv.rdmaWrite_slot (hmsg : 8 ≤ cfg.msgSize) {σ : CqSys} {i : Nat}
    {start : BitVec 64} {wc : IbvWc} {b : BfStore} (hd : DataInv cfg r ⟨σ, .poll i start wc⟩)
    (hh : σ.hist.length = i) (hb : σ.st.bfStores[i]? = some b) :
    rdmaWrite cfg (decodeWqe (σ.st.sqBuf.load (wqeSlot cfg b.data) 48)) σ.st.msg =
        some (σ.st.msg.store 4 (σ.st.msg.load 0 4)) ∧
      σ.st.msg.load 0 8 = List.replicate 4 8 ++ List.replicate 4 0 := by
  rcases hd with ⟨-, ⟨b', hb', p, hdec⟩, hm⟩ | ⟨hh', -⟩
  · obtain rfl : b = b' := Option.some_inj.1 (hb.symm.trans hb')
    exact ⟨hdec ▸ rdmaWrite_localWriteWqe hmsg p _, hm⟩
  · exact absurd (hh.symm.trans hh') (by omega)

theorem dataInv_init {w : World} (h : MainInit cfg w) : DataInv cfg r w := by
  obtain ⟨σ, pc⟩ := w
  obtain ⟨-, -, hpc⟩ := h
  dsimp only at hpc
  subst hpc
  exact fun h0 => absurd h0 (Nat.lt_irrefl 0)

theorem dataInv_begin (hW : cfg.qp.wqeCnt.toNat ≤ 2 ^ 16) (hqpn : cfg.qpNum.toNat < 2 ^ 24)
    (hbuf : cfg.buf.toNat + 4 < 2 ^ 64) (hmsg : 8 ≤ cfg.msgSize) {σ : CqSys} {i : Nat}
    (start : BitVec 64) (wc : IbvWc) (hm : MainInv cfg r ⟨σ, .loop i⟩) :
    DataInv cfg r (beginWrite cfg σ i start wc) := by
  obtain ⟨-, -, -, -, -, hh, hb, -⟩ := hm
  rw [beginWrite_of_le hmsg]
  set st : State := { σ.st with msg := clearMsg cfg σ.st.msg }
  by_cases hbf : cfg.qp.bfReg ≠ 0 ∧ cfg.qp.bfSize ≠ 0
  · obtain ⟨d, hs, hdec, -⟩ := localWriteBegin_slot hW hqpn hbuf st hbf
    rw [localWriteBegin_of_bf hbf, if_pos rfl, ← localWriteBegin_of_bf hbf]
    refine .inl ⟨hh, ⟨⟨cfg.qp.bfReg + st.bfOffset.toNat, d⟩, ?_, _, hdec⟩, ?_⟩
    · rw [hs, ← hb]
      exact List.getElem?_concat_length _ _
    · rw [localWriteBegin_msg]
      exact load_clearMsg hmsg _
  · rw [localWriteBegin_of_not_bf (by tauto)]
    exact fun h => absurd h (by decide)

theorem dataInv_done {σ : CqSys} {i : Nat} (hm : MainInv cfg r ⟨σ, .loop i⟩)
    (hd : DataInv cfg r ⟨σ, .loop i⟩) (hr : ¬ i < r) : DataInv cfg r ⟨σ, .exit 0⟩ := by
  obtain ⟨-, -, -, hir, -⟩ := hm
  exact fun _ h0 => hd (by omega)

theorem dataInv_poll {σ : CqSys} {i : Nat} {start : BitVec 64} {wc : IbvWc} (now : BitVec 64)
    (hm : MainInv cfg r ⟨σ, .poll i start wc⟩)
    (hd : DataInv cfg r ⟨σ, .poll i start wc⟩) :
    DataInv cfg r (pollRound cfg σ i start wc now) := by
  obtain ⟨hcq, -, hcomp, -, ht, -, -⟩ := hm
  dsimp only at hcq hcomp ht
  by_cases hc : Consumes cfg.cq σ.st
  · obtain ⟨b, rec, hb, hr, -, hiff⟩ := consumed_completion hcq hcomp hc wc
    rw [pollRound_of_consumes now hc]
    subst ht
    split_ifs with hs
    · have hlt := (List.getElem?_eq_some_iff.1 hr).1
      rcases hd with ⟨hh, -⟩ | ⟨-, hown⟩
      · dsimp only at hh; omega
      · exact fun _ => hown ⟨b, rec, hb, hr, hiff.1 hs⟩
    · simp [DataInv]
  · rw [pollRound_of_not_consumes now hc]
    split_ifs
    · exact hd
    · simp [DataInv]

theorem dataInv_hw (hmsg : 8 ≤ cfg.msgSize) {σ : CqSys} {pc : Pc} {b : BfStore}
    {rec : List (BitVec 8)} {m : Mem} (hm : MainInv cfg r ⟨σ, pc⟩)
    (hd : DataInv cfg r ⟨σ, pc⟩) (hb : σ.st.bfStores[σ.hist.length]? = some b)
    (hdma : HwData cfg σ b rec m) :
    DataInv cfg r ⟨(hwWrite cfg.cq σ rec).setMsg m, pc⟩ := by
  obtain ⟨hcq, -, -, hpc⟩ := hm
  have hlt := (List.getElem?_eq_some_iff.1 hb).1
  cases pc with
  | loop i => exact absurd hlt (by obtain ⟨-, -, h1, h2, -⟩ := hpc; dsimp only at h1 h2; omega)
  | undefined => trivial
  | exit rc =>
    rintro rfl -
    obtain ⟨h1, h2, -⟩ := hpc.2 rfl
    exact absurd hlt (by have := hcq.taken_le; dsimp only at h1 h2 this; omega)
  | poll i start wc =>
    obtain ⟨-, -, hbi, -⟩ := hpc
    dsimp only at hbi
    by_cases hh : σ.hist.length = i
    · subst hh
      obtain ⟨hw, hclr⟩ := hd.rdmaWrite_slot hmsg rfl hb
      refine .inr ⟨by simp, fun ⟨b', rec', h1, h2, h3⟩ => ?_⟩
      simp only [CqSys.setMsg_bfStores, hwWrite_bfStores, hb, Option.some_inj,
        CqSys.setMsg_hist, hwWrite_hist, List.getElem?_concat_length] at h1 h2
      subst h1 h2
      rw [CqSys.setMsg_msg, Option.some_inj.1 ((hdma h3).symm.trans hw)]
      exact load_copy_of_cleared hclr
    · rcases hd with ⟨hh', -⟩ | ⟨hh', -⟩
      · exact absurd hh' hh
      · exact absurd hlt (by dsimp only at hh'; omega)

theorem dataInv_step (hW : cfg.qp.wqeCnt.toNat ≤ 2 ^ 16) (hqpn : cfg.qpNum.toNat < 2 ^ 24)
    (hbuf : cfg.buf.toNat + 4 < 2 ^ 64) (hmsg : 8 ≤ cfg.msgSize) {w w' : World}
    (hm : MainInv cfg r w) (hd : DataInv cfg r w) (h : MainStep cfg r (HwData cfg) w w') :
    DataInv cfg r w' := by
  cases h with
  | begin start wc => exact dataInv_begin hW hqpn hbuf hmsg start wc hm
  | done hr => exact dataInv_done hm hd hr
  | poll now => exact dataInv_poll now hm hd
  | hw m hb _ _ _ hdma => exact dataInv_hw hmsg hm hd hb hdma

theorem DataReachable.inv (hW : cfg.qp.wqeCnt.toNat ≤ 2 ^ 16) (hqpn : cfg.qpNum.toNat < 2 ^ 24)
    (hbuf : cfg.buf.toNat + 4 < 2 ^ 64) (hmsg : 8 ≤ cfg.msgSize) {w : World}
    (h : DataReachable cfg r w) : MainInv cfg r w ∧ DataInv cfg r w := by
  obtain ⟨w₀, h₀, hr⟩ := h
  induction hr with
  | refl => exact ⟨mainInv_init h₀, dataInv_init h₀⟩
  | tail _ hst ih =>
    exact ⟨mainInv_step ih.1 hst, dataInv_step hW hqpn hbuf hmsg ih.1 ih.2 hst⟩

/-- Runs against the device are runs of `main`, so what `main` keeps over its runs
(`MainReachable.inv`) holds along them. -/
theorem DataReachable.mainReachable {w : World} (h : DataReachable cfg r w) :
    MainReachable cfg r w := by
  obtain ⟨w₀, h₀, hr⟩ := h
  exact ⟨w₀, h₀, hr.mono fun _ _ => MainStep.mono fun _ _ _ _ _ => trivial⟩

end Steps

/-! ## What `local_write` prints -/

section Copied

variable {cfg : Setup} {r : Nat}

/-- Along every run of `main` against the device, each call of `local_write` that returns 0
leaves `res->buf` reading `8 8 8 8 8 8 8 8`, the bytes it prints "after local write". -/
theorem local_write_copies_message (hW : cfg.qp.wqeCnt.toNat ≤ 2 ^ 16)
    (hqpn : cfg.qpNum.toNat < 2 ^ 24) (hbuf : cfg.buf.toNat + 4 < 2 ^ 64)
    (hmsg : 8 ≤ cfg.msgSize) {w : World} (h : DataReachable cfg r w) :
    (∀ i, w.pc = .loop i → 0 < i → w.sys.st.msg.load 0 8 = List.replicate 8 8) ∧
    (w.pc = .exit 0 → 0 < r → w.sys.st.msg.load 0 8 = List.replicate 8 8) := by
  have hd := (h.inv hW hqpn hbuf hmsg).2
  obtain ⟨σ, pc⟩ := w
  refine ⟨fun i hi => ?_, fun hi => ?_⟩
  · subst hi
    exact hd
  · subst hi
    exact hd rfl

/-- The sample run against the device: call 0 posts its WQE, the device executes it. -/
theorem dataReachable_oneWriteDone : DataReachable sampleSetup 1 oneWriteDone := by
  have hpost : DataReachable sampleSetup 1 ⟨postedSys, .poll 0 0 {}⟩ :=
    ⟨_, mainInit_freshRing, .single (beginWrite_freshRing ▸ .begin 0 {} (by decide))⟩
  have hd := (hpost.inv (by decide) (by decide) (by decide) (by decide)).2
  exact ⟨_, mainInit_freshRing,
    oneWriteDone_run fun _ => (hd.rdmaWrite_slot (by decide) rfl rfl).1⟩

theorem local_write_copies_message_one_write :
    sampleSetup.qp.wqeCnt.toNat ≤ 2 ^ 16 ∧ sampleSetup.qpNum.toNat < 2 ^ 24 ∧
    sampleSetup.buf.toNat + 4 < 2 ^ 64 ∧ 8 ≤ sampleSetup.msgSize ∧
    DataReachable sampleSetup 1 oneWriteDone ∧
    ((∀ i, oneWriteDone.pc = .loop i → 0 < i →
        oneWriteDone.sys.st.msg.load 0 8 = List.replicate 8 8) ∧
      (oneWriteDone.pc = .exit 0 → 0 < 1 →
        oneWriteDone.sys.st.msg.load 0 8 = List.replicate 8 8)) :=
  ⟨by decide, by decide, by decide, by decide, dataReachable_oneWriteDone,
    local_write_copies_message (by decide) (by decide) (by decide) (by decide)
      dataReachable_oneWriteDone⟩

end Copied

end Mlx5ManualTrigger
