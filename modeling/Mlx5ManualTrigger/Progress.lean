import Mlx5ManualTrigger.DataPath

/-!
# `main` completes against a cooperating device

The invariants of the other modules hold in every world a run reaches; here a run gets to the
end. The device cooperates: after each doorbell it executes the WQE and writes an
`MLX5_CQE_REQ` for it, with the owner bit of the record's lap. Then from any state
`resources_create` leaves, for every `repeat_count`, `main` reaches `main_exit` with `rc = 0`:

1. call `i` rings its doorbell (`local_write` passes the blueflame check);
2. the device's guard lets it write record `i`, since record `i - 1` was consumed, and the copy
   is valid for it (`DataInv.rdmaWrite_slot`);
3. the first poll consumes record `i` (`consumes_of_lt`), whose status is `IBV_WC_SUCCESS`;

through every wrap of the completion ring, of the send ring and of the 24-bit doorbell record.
-/

namespace Mlx5ManualTrigger

/-! ## The device's completion -/

/-- The completion a cooperating device writes as its `p`-th record for a WQE of `local_write`:
`MLX5_CQE_REQ` with the owner bit of lap `p / cqe_cnt`, naming `MLX5_OPCODE_RDMA_WRITE` and
the queue pair in `sop_drop_qpn`. -/
def reqCqe (cfg : Setup) (p : Nat) : List (BitVec 8) :=
  List.replicate 56 0 ++
    htobe32 (.ofNat 32 (mlx5OpcodeRdmaWrite * 2 ^ 24 + cfg.qpNum.toNat % 2 ^ 24)) ++
    [0, 0, 0, .ofNat 8 (p / cfg.cq.cqeCnt.toNat % 2)]

section Record

variable (cfg : Setup) (p : Nat)

theorem length_reqCqe : (reqCqe cfg p).length = 64 := by simp [reqCqe]

theorem opOwn_reqCqe : opOwn (reqCqe cfg p) = .ofNat 8 (p / cfg.cq.cqeCnt.toNat % 2) := by
  rw [opOwn, reqCqe, List.getD_eq_getElem?_getD, List.getElem?_append_right (by simp)]
  simp

theorem sopDropQpn_reqCqe : sopDropQpn (reqCqe cfg p) =
    .ofNat 32 (mlx5OpcodeRdmaWrite * 2 ^ 24 + cfg.qpNum.toNat % 2 ^ 24) := by
  rw [sopDropQpn, be32At, reqCqe, List.append_assoc, List.drop_left' (by simp),
    List.take_left' (by simp), be32toh_htobe32]

theorem opcode_reqCqe : (mlx5dvGetCqeOpcode (reqCqe cfg p)).toNat = mlx5CqeReq := by
  rw [mlx5dvGetCqeOpcode, opOwn_reqCqe]
  rcases Nat.mod_two_eq_zero_or_one (p / cfg.cq.cqeCnt.toNat) with h | h <;> rw [h] <;> decide

/-- The record is one the hardware may write as its `p`-th. -/
theorem hwRecord_reqCqe : HwRecord cfg.cq p (reqCqe cfg p) := by
  refine ⟨length_reqCqe cfg p, by rw [opcode_reqCqe]; decide, ?_⟩
  rw [mlx5dvGetCqeOwner, opOwn_reqCqe]
  rcases Nat.mod_two_eq_zero_or_one (p / cfg.cq.cqeCnt.toNat) with h | h <;> rw [h] <;> decide

/-- The record is the success of a doorbell that names an RDMA write of the queue pair. -/
theorem reqFor_reqCqe {d : List (BitVec 8)} (hop : ctrlOpcode d = mlx5OpcodeRdmaWrite)
    (hq : ctrlQpn d = cfg.qpNum.toNat % 2 ^ 24) : ReqFor d (reqCqe cfg p) := by
  have := Nat.mod_lt cfg.qpNum.toNat (by decide : 0 < 2 ^ 24)
  refine ⟨opcode_reqCqe cfg p, ?_, ?_⟩ <;>
    rw [sopDropQpn_reqCqe] <;> simp only [BitVec.toNat_ushiftRight, BitVec.toNat_ofNat, hop, hq,
      mlx5OpcodeRdmaWrite, Nat.shiftRight_eq_div_pow] <;> omega

end Record

/-! ## One call after another -/

section Run

variable {cfg : Setup} {r : Nat}

/-- From the loop test of call `i < r`, `main` and the device reach the loop test of call
`i + 1`: the doorbell, the device's copy and completion, a poll that takes it. -/
theorem loop_succ (hbf : cfg.qp.bfReg ≠ 0 ∧ cfg.qp.bfSize ≠ 0)
    (hW : cfg.qp.wqeCnt.toNat ≤ 2 ^ 16) (hqpn : cfg.qpNum.toNat < 2 ^ 24)
    (hbuf : cfg.buf.toNat + 4 < 2 ^ 64) (hmsg : 8 ≤ cfg.msgSize) {w₀ : World}
    (h₀ : MainInit cfg w₀) {σ : CqSys} {i : Nat} (hr : i < r)
    (h : Relation.ReflTransGen (MainStep cfg r (HwData cfg)) w₀ ⟨σ, .loop i⟩) :
    ∃ σ', Relation.ReflTransGen (MainStep cfg r (HwData cfg)) w₀ ⟨σ', .loop (i + 1)⟩ := by
  have inv := fun {w} (h : Relation.ReflTransGen (MainStep cfg r (HwData cfg)) w₀ w) =>
    DataReachable.inv hW hqpn hbuf hmsg ⟨w₀, h₀, h⟩
  obtain ⟨⟨-, -, -, -, ht, hh, hb, -⟩, -⟩ := inv h
  dsimp only at ht hh hb
  subst hh
  -- the doorbell of call `i`
  obtain ⟨d, hs, -, hop, hq⟩ :=
    localWriteBegin_slot hW hqpn hbuf { σ.st with msg := clearMsg cfg σ.st.msg } hbf
  have h₁ := h.tail (.begin_of_bf 0 {} hmsg hbf hr)
  generalize (localWriteBegin cfg { σ.st with msg := clearMsg cfg σ.st.msg }).1 = s₁ at hs h₁
  have hb₁ :
      s₁.bfStores[σ.hist.length]? = some ⟨cfg.qp.bfReg + σ.st.bfOffset.toNat, d⟩ := by
    rw [hs, ← hb]
    exact List.getElem?_concat_length _ _
  -- the device copies and writes record `i`
  have hmay : HwMayWrite cfg.cq σ.hist.length s₁ :=
    (hwMayWrite_iff (inv h₁).1.cq).2 (by have := cfg.cq.one_le_cqeCnt; dsimp only; omega)
  have hdata : HwData cfg ⟨s₁, σ.hist, σ.taken⟩ ⟨_, d⟩ (reqCqe cfg σ.hist.length)
      (s₁.msg.store 4 (s₁.msg.load 0 4)) := fun _ =>
    ((inv h₁).2.rdmaWrite_slot hmsg rfl hb₁).1
  have hreq := reqFor_reqCqe cfg σ.hist.length hop hq
  have h₂ := h₁.tail (.hw _ hb₁ hmay (hwRecord_reqCqe cfg _) (.inl hreq) hdata)
  -- the first poll takes it
  obtain ⟨⟨hcq₂, -, hcomp₂, -⟩, -⟩ := inv h₂
  dsimp only at hcq₂ hcomp₂
  have hr₂ : (σ.hist ++ [reqCqe cfg σ.hist.length])[σ.taken]? =
      some (reqCqe cfg σ.hist.length) := by
    rw [ht]
    exact List.getElem?_concat_length _ _
  obtain ⟨hlt, hrec₂⟩ := List.getElem?_eq_some_iff.1 hr₂
  have hop₂ : (mlx5dvGetCqeOpcode (σ.hist ++ [reqCqe cfg σ.hist.length])[σ.taken]).toNat ∈
      [mlx5CqeReq, mlx5CqeRespWrImm, mlx5CqeRespSend, mlx5CqeRespSendImm, mlx5CqeReqErr,
        mlx5CqeRespErr] := by
    rw [hrec₂, opcode_reqCqe]
    exact List.mem_cons_self _ _
  have hc := consumes_of_lt hcq₂ hlt hop₂
  obtain ⟨b, rec, hb₂, hr₂', -, hiff⟩ := consumed_completion hcq₂ hcomp₂ hc {}
  simp only [CqSys.setMsg_bfStores, CqSys.setMsg_hist, CqSys.setMsg_taken, hwWrite_bfStores,
    hwWrite_hist, hwWrite_taken, ht] at hb₂ hr₂'
  obtain rfl := Option.some_inj.1 (hr₂'.symm.trans (ht ▸ hr₂))
  obtain rfl := Option.some_inj.1 (hb₂.symm.trans hb₁)
  exact ⟨_, h₂.tail (.poll_of_success 0 hc (hiff.2 hreq))⟩

/-- Against a device that completes every WQE with its success, `main` with any
`repeat_count` runs from any state `resources_create` leaves to `main_exit` with `rc = 0`. The
assumptions are `resources_create`'s blueflame check and the bounds of `DataReachable.inv`. -/
theorem main_completes (hbf : cfg.qp.bfReg ≠ 0 ∧ cfg.qp.bfSize ≠ 0)
    (hW : cfg.qp.wqeCnt.toNat ≤ 2 ^ 16) (hqpn : cfg.qpNum.toNat < 2 ^ 24)
    (hbuf : cfg.buf.toNat + 4 < 2 ^ 64) (hmsg : 8 ≤ cfg.msgSize) {w₀ : World}
    (h₀ : MainInit cfg w₀) (r : Nat) :
    ∃ w, Relation.ReflTransGen (MainStep cfg r (HwData cfg)) w₀ w ∧ w.pc = .exit 0 := by
  have hloop : ∀ i ≤ r, ∃ σ,
      Relation.ReflTransGen (MainStep cfg r (HwData cfg)) w₀ ⟨σ, .loop i⟩ := by
    intro i hi
    induction i with
    | zero =>
      obtain ⟨σ₀, pc₀⟩ := w₀
      obtain ⟨-, -, hpc⟩ := h₀
      dsimp only at hpc
      subst hpc
      exact ⟨σ₀, .refl⟩
    | succ i ih =>
      obtain ⟨σ, h⟩ := ih (by omega)
      exact loop_succ hbf hW hqpn hbuf hmsg h₀ (by omega) h
  obtain ⟨σ, h⟩ := hloop r le_rfl
  exact ⟨_, h.tail (.done (Nat.lt_irrefl r)), rfl⟩

theorem main_completes_three_writes :
    (sampleSetup.qp.bfReg ≠ 0 ∧ sampleSetup.qp.bfSize ≠ 0) ∧
    sampleSetup.qp.wqeCnt.toNat ≤ 2 ^ 16 ∧ sampleSetup.qpNum.toNat < 2 ^ 24 ∧
    sampleSetup.buf.toNat + 4 < 2 ^ 64 ∧ 8 ≤ sampleSetup.msgSize ∧
    MainInit sampleSetup ⟨freshRing, .loop 0⟩ ∧
    ∃ w, Relation.ReflTransGen (MainStep sampleSetup 3 (HwData sampleSetup))
      ⟨freshRing, .loop 0⟩ w ∧ w.pc = .exit 0 :=
  ⟨by decide, by decide, by decide, by decide, by decide, mainInit_freshRing,
    main_completes (by decide) (by decide) (by decide) (by decide) (by decide)
      mainInit_freshRing 3⟩

end Run

end Mlx5ManualTrigger
