import Mlx5ManualTrigger.CqRing
import Mlx5ManualTrigger.SendRing

/-!
# `main`'s write loop against the hardware

`main` calls `local_write` `repeat_count` times and goes to `main_exit` at the first nonzero
return. Each call builds a WQE, rings the doorbell and runs `poll_completion`: calls of
`manual_poll_cq` until one returns 1 or the clock shows `MAX_POLL_CQ_TIMEOUT` milliseconds
since the first reading. The hardware executes the WQEs whose doorbells were rung, in order,
and at any later time (or never) writes the completion of the oldest one not yet completed:
a `MLX5_CQE_REQ` naming the WQE's opcode and queue pair, or a `MLX5_CQE_REQ_ERR`.

`MainInv` holds in every reachable world:

1. the ring invariant `CqInv`, with at most one doorbell not yet consumed;
2. at the loop test of call `i`, `i` doorbells were rung and `i` completions were written and
   consumed, each the success of its own WQE;
3. inside `poll_completion` of call `i`, the `i`-th doorbell was rung and nothing of it was
   consumed yet.

`main_exit` is final: no step of `main` leaves it, so no doorbell follows a failure.
`local_write` writes 4 bytes of `res->buf` and its print loops read 8: with
`config.msg_size < 8` the first call is undefined behaviour, where the model stops
(`Pc.undefined`).
-/

namespace Mlx5ManualTrigger

/-- Where `main` is. -/
inductive Pc
  /-- The loop test before call `i` of `local_write`. -/
  | loop (i : Nat)
  /-- Inside `poll_completion` of call `i`, which read the clock as `start`, with its `wc`. -/
  | poll (i : Nat) (start : BitVec 64) (wc : IbvWc)
  /-- `main_exit` with `rc`. -/
  | exit (rc : Nat)
  /-- Undefined behaviour: `local_write` went past the `config.msg_size` bytes of `res->buf`. -/
  | undefined

/-- `main`'s position with the state of both rings. -/
structure World where
  sys : CqSys
  pc : Pc

/-- `poll_completion`'s return value after its last `manual_poll_cq`. -/
def pollCompletionRc (pollResult : Int) (wc : IbvWc) : Nat :=
  if pollResult < 0 then 1
  else if pollResult = 0 then 1
  else if wc.status ≠ ibvWcSuccess then 1 else 0

/-- A successful completion of the WQE whose doorbell carried `d`: `MLX5_CQE_REQ` with the
WQE's opcode and queue pair in `sop_drop_qpn`. -/
def ReqFor (d rec : List (BitVec 8)) : Prop :=
  (mlx5dvGetCqeOpcode rec).toNat = mlx5CqeReq ∧ (sopDropQpn rec >>> 24).toNat = ctrlOpcode d ∧
    (sopDropQpn rec).toNat % 2 ^ 24 = ctrlQpn d

/-- The completions the hardware may write for that WQE: that one, or a `MLX5_CQE_REQ_ERR`. -/
def Completes (d rec : List (BitVec 8)) : Prop :=
  ReqFor d rec ∨ (mlx5dvGetCqeOpcode rec).toNat = mlx5CqeReqErr

/-- The `k`-th completion written is the success of the `k`-th WQE. -/
def OwnSuccess (σ : CqSys) (k : Nat) : Prop :=
  ∃ (b : BfStore) (rec : List (BitVec 8)), σ.st.bfStores[k]? = some b ∧
    σ.hist[k]? = some rec ∧ ReqFor b.data rec

/-- The rings with the registered buffer replaced by `m`, as a DMA write of the hardware
leaves it. -/
def CqSys.setMsg (σ : CqSys) (m : Mem) : CqSys := ⟨{ σ.st with msg := m }, σ.hist, σ.taken⟩

section SetMsg

variable (σ : CqSys) (m : Mem)

@[simp] theorem CqSys.setMsg_hist : (σ.setMsg m).hist = σ.hist := rfl
@[simp] theorem CqSys.setMsg_taken : (σ.setMsg m).taken = σ.taken := rfl
@[simp] theorem CqSys.setMsg_msg : (σ.setMsg m).st.msg = m := rfl
@[simp] theorem CqSys.setMsg_sqBuf : (σ.setMsg m).st.sqBuf = σ.st.sqBuf := rfl
@[simp] theorem CqSys.setMsg_bfStores : (σ.setMsg m).st.bfStores = σ.st.bfStores := rfl
@[simp] theorem CqSys.setMsg_sqCurPost : (σ.setMsg m).st.sqCurPost = σ.st.sqCurPost := rfl
@[simp] theorem CqSys.setMsg_bfOffset : (σ.setMsg m).st.bfOffset = σ.st.bfOffset := rfl

end SetMsg

/-- A hardware that may write anything to the registered buffer when it completes a WQE. -/
def anyDma (_ : CqSys) (_ : BfStore) (_ : List (BitVec 8)) (_ : Mem) : Prop := True

section Main

variable (cfg : Setup) (r : Nat)

/-- Call `i` of `local_write` up to `poll_completion`, which reads the clock as `start`; `wc` is
`poll_completion`'s uninitialised local. Its `memset`s and its print loop over `buf[0..8)` are
undefined under 8 bytes; past them a -1 at the blueflame check ends `main`. -/
def beginWrite (σ : CqSys) (i : Nat) (start : BitVec 64) (wc : IbvWc) : World :=
  if cfg.msgSize < 8 then ⟨σ, .undefined⟩
  else
    let st := { σ.st with msg := clearMsg cfg σ.st.msg }
    ⟨{ σ with st := (localWriteBegin cfg st).1 },
      if (localWriteBegin cfg st).2 then .poll i start wc else .exit 1⟩

/-- One round of `poll_completion`'s `do … while`: a call of `manual_poll_cq`, then the clock
reads `now`. The loop goes on while the call returns 0 and `now - start` is under
`MAX_POLL_CQ_TIMEOUT`; otherwise `local_write` returns, and a nonzero return ends `main`. -/
def pollRound (σ : CqSys) (i : Nat) (start : BitVec 64) (wc : IbvWc) (now : BitVec 64) : World :=
  ⟨pollStep cfg.cq σ wc,
    if (manualPollCq cfg.cq σ.st wc).1 = 0 ∧ (now - start).toNat < maxPollCqTimeout then
      .poll i start (manualPollCq cfg.cq σ.st wc).2.2
    else if pollCompletionRc (manualPollCq cfg.cq σ.st wc).1
        (manualPollCq cfg.cq σ.st wc).2.2 ≠ 0 then .exit 1
    else .loop (i + 1)⟩

/-- A step of `main` with `repeat_count = r`, or of the hardware. The hardware completes its
oldest uncompleted WQE, having written the registered buffer as `m`; `dma` says which buffers
it may leave. -/
inductive MainStep (dma : CqSys → BfStore → List (BitVec 8) → Mem → Prop) :
    World → World → Prop
  | begin {σ : CqSys} {i : Nat} (start : BitVec 64) (wc : IbvWc) :
      i < r → MainStep dma ⟨σ, .loop i⟩ (beginWrite cfg σ i start wc)
  | done {σ : CqSys} {i : Nat} : ¬ i < r → MainStep dma ⟨σ, .loop i⟩ ⟨σ, .exit 0⟩
  | poll {σ : CqSys} {i : Nat} {start : BitVec 64} {wc : IbvWc} (now : BitVec 64) :
      MainStep dma ⟨σ, .poll i start wc⟩ (pollRound cfg σ i start wc now)
  | hw {σ : CqSys} {pc : Pc} {b : BfStore} {rec : List (BitVec 8)} (m : Mem) :
      σ.st.bfStores[σ.hist.length]? = some b → HwMayWrite cfg.cq σ.hist.length σ.st →
      HwRecord cfg.cq σ.hist.length rec → Completes b.data rec → dma σ b rec m →
      MainStep dma ⟨σ, pc⟩ ⟨(hwWrite cfg.cq σ rec).setMsg m, pc⟩

/-- What `resources_create` leaves, before the loop. -/
def MainInit (w : World) : Prop := CqInit cfg.cq w.sys ∧ SendInit w.sys.st ∧ w.pc = .loop 0

/-- The worlds a run of `main` with `repeat_count = r` and any hardware reaches. -/
def MainReachable (w : World) : Prop :=
  ∃ w₀, MainInit cfg w₀ ∧ Relation.ReflTransGen (MainStep cfg r anyDma) w₀ w

/-- What holds at each position of `main`. -/
def PcInv (w : World) : Prop :=
  match w.pc with
  | .loop i => i ≤ r ∧ w.sys.taken = i ∧ w.sys.hist.length = i ∧
      w.sys.st.bfStores.length = i ∧ ∀ k < i, OwnSuccess w.sys k
  | .poll i _ _ => i < r ∧ w.sys.taken = i ∧ w.sys.st.bfStores.length = i + 1 ∧
      ∀ k < i, OwnSuccess w.sys k
  | .exit rc => w.sys.st.bfStores.length ≤ w.sys.taken + 1 ∧
      (rc = 0 → w.sys.taken = r ∧ w.sys.st.bfStores.length = r ∧
        ∀ k < r, OwnSuccess w.sys k)
  | .undefined => w.sys.hist.length = w.sys.taken ∧ w.sys.st.bfStores.length = w.sys.taken

/-- The invariant of `main` with the hardware. -/
structure MainInv (w : World) : Prop where
  cq : CqInv cfg.cq w.sys
  hist_le : w.sys.hist.length ≤ w.sys.st.bfStores.length
  completes : ∀ (k : Nat) (rec : List (BitVec 8)), w.sys.hist[k]? = some rec →
    ∃ b : BfStore, w.sys.st.bfStores[k]? = some b ∧ Completes b.data rec
  pc : PcInv r w

variable {cfg r}

/-! ## Frames -/

theorem getElem?_of_prefix {α : Type} {xs ys : List α} (h : xs <+: ys) {k : Nat} {a : α}
    (hk : xs[k]? = some a) : ys[k]? = some a := by
  obtain ⟨l, rfl⟩ := h
  rwa [List.getElem?_append_left (List.getElem?_eq_some_iff.1 hk).1]

theorem getElem?_append_singleton {α : Type} {l : List α} {a b : α} {k : Nat}
    (h : (l ++ [a])[k]? = some b) : l[k]? = some b ∨ (k = l.length ∧ b = a) := by
  by_cases hk : k < l.length
  · rw [List.getElem?_append_left hk] at h; exact .inl h
  · have := (List.getElem?_eq_some_iff.1 h).1
    rw [List.length_append, List.length_singleton] at this
    obtain rfl : k = l.length := by omega
    rw [List.getElem?_concat_length, Option.some_inj] at h
    exact .inr ⟨rfl, h.symm⟩

theorem OwnSuccess.mono {σ σ' : CqSys} {k : Nat} (h : OwnSuccess σ k)
    (hb : σ.st.bfStores <+: σ'.st.bfStores) (hh : σ.hist <+: σ'.hist) : OwnSuccess σ' k := by
  obtain ⟨b, rec, h1, h2, h3⟩ := h
  exact ⟨b, rec, getElem?_of_prefix hb h1, getElem?_of_prefix hh h2, h3⟩

/-- The ring invariant reads only the completion side of the state. -/
theorem CqInv.congr {cq : Mlx5dvCq} {σ : CqSys} {st : State} (hi : CqInv cq σ)
    (hc : st.cqConsIndex = σ.st.cqConsIndex) (hb : st.cqBuf = σ.st.cqBuf)
    (hd : st.dbrec = σ.st.dbrec) : CqInv cq ⟨st, σ.hist, σ.taken⟩ := by
  obtain ⟨h1, h2, h3, h4, h5, h6, h7⟩ := hi
  exact ⟨h1, h2, hc ▸ h3, hd ▸ h4, h5, hb ▸ h6, hb ▸ h7⟩

/-! ## `local_write`'s buffer -/

theorem beginWrite_of_lt {σ : CqSys} {i : Nat} {start : BitVec 64} {wc : IbvWc}
    (hmsg : cfg.msgSize < 8) : beginWrite cfg σ i start wc = ⟨σ, .undefined⟩ := by
  rw [beginWrite, if_pos hmsg]

/-- With eight bytes or more, call `i` is `local_write` on the buffer it cleared. -/
theorem beginWrite_of_le {σ : CqSys} {i : Nat} {start : BitVec 64} {wc : IbvWc}
    (hmsg : 8 ≤ cfg.msgSize) : beginWrite cfg σ i start wc =
      ⟨{ σ with st := (localWriteBegin cfg { σ.st with msg := clearMsg cfg σ.st.msg }).1 },
        if (localWriteBegin cfg { σ.st with msg := clearMsg cfg σ.st.msg }).2 then
          .poll i start wc else .exit 1⟩ := by
  rw [beginWrite, if_neg (by omega)]

/-! ## Each step keeps `MainInv` -/

theorem mainInv_begin {σ : CqSys} {i : Nat} (start : BitVec 64) (wc : IbvWc)
    (hi : MainInv cfg r ⟨σ, .loop i⟩) (hr : i < r) :
    MainInv cfg r (beginWrite cfg σ i start wc) := by
  obtain ⟨hcq, hle, hcomp, -, ht, hh, hb, hown⟩ := hi
  dsimp only at hcq hle hcomp ht hh hb hown
  by_cases hmsg : cfg.msgSize < 8
  · rw [beginWrite_of_lt hmsg]
    exact ⟨hcq, hle, hcomp, show σ.hist.length = σ.taken ∧ σ.st.bfStores.length = σ.taken by omega⟩
  rw [beginWrite_of_le (by omega)]
  set st : State := { σ.st with msg := clearMsg cfg σ.st.msg }
  obtain ⟨h1, h2, h3⟩ := @localWriteBegin_cq cfg st
  have hcq' := hcq.congr h1 h2 h3
  rcases localWriteBegin_cases cfg st with ⟨hf, hs⟩ | ⟨htr, d, hs⟩
  · refine ⟨hcq', ?_, ?_, ?_⟩ <;> simp only [hf, hs, PcInv, Bool.false_eq_true, if_false]
    · exact hle
    · exact hcomp
    · exact ⟨by omega, fun h => absurd h (by decide)⟩
  · rw [show st.bfStores = σ.st.bfStores from rfl] at hs
    have hp : σ.st.bfStores <+: (localWriteBegin cfg st).1.bfStores :=
      hs ▸ List.prefix_append _ _
    refine ⟨hcq', ?_, ?_, ?_⟩ <;> simp only [htr, PcInv, if_true]
    · rw [hs, List.length_append]; omega
    · intro k rec hk
      obtain ⟨b, hb, hc⟩ := hcomp k rec hk
      exact ⟨b, getElem?_of_prefix hp hb, hc⟩
    · refine ⟨hr, ht, by rw [hs, List.length_append, hb]; rfl, fun k hk => ?_⟩
      exact (hown k hk).mono hp (List.prefix_refl _)

theorem mainInv_done {σ : CqSys} {i : Nat} (hi : MainInv cfg r ⟨σ, .loop i⟩) (hr : ¬ i < r) :
    MainInv cfg r ⟨σ, .exit 0⟩ := by
  obtain ⟨hcq, hle, hcomp, hir, ht, hh, hb, hown⟩ := hi
  dsimp only at hcq hle hcomp hir ht hh hb hown
  have hi : i = r := by omega
  subst hi
  exact ⟨hcq, hle, hcomp, show σ.st.bfStores.length ≤ σ.taken + 1 by omega,
    fun _ => ⟨ht, hb, hown⟩⟩

theorem OwnSuccess.hwWrite {cq : Mlx5dvCq} {σ : CqSys} {rec : List (BitVec 8)} {k : Nat}
    (h : OwnSuccess σ k) : OwnSuccess (hwWrite cq σ rec) k :=
  h.mono (by rw [hwWrite_bfStores]) (by rw [hwWrite_hist]; exact List.prefix_append _ _)

theorem mainInv_hw {σ : CqSys} {pc : Pc} {b : BfStore} {rec : List (BitVec 8)}
    (hi : MainInv cfg r ⟨σ, pc⟩) (hb : σ.st.bfStores[σ.hist.length]? = some b)
    (hg : HwMayWrite cfg.cq σ.hist.length σ.st) (hrec : HwRecord cfg.cq σ.hist.length rec)
    (hc : Completes b.data rec) : MainInv cfg r ⟨hwWrite cfg.cq σ rec, pc⟩ := by
  obtain ⟨hcq, hle, hcomp, hpc⟩ := hi
  dsimp only at hcq hle hcomp hpc
  have hlt := (List.getElem?_eq_some_iff.1 hb).1
  refine ⟨cqInv_hwWrite hcq hg hrec, ?_, fun k rec' hk => ?_, ?_⟩
  · simp only [hwWrite_hist, hwWrite_bfStores, List.length_append, List.length_singleton]; omega
  · simp only [hwWrite_hist, hwWrite_bfStores] at hk ⊢
    rcases getElem?_append_singleton hk with hk | ⟨rfl, rfl⟩
    · exact hcomp k rec' hk
    · exact ⟨b, hb, hc⟩
  · cases pc with
    | loop i => exact absurd hlt (by simp only [PcInv] at hpc; omega)
    | poll i start wc =>
      obtain ⟨h1, h2, h3, h4⟩ := hpc
      simp only [PcInv, hwWrite_taken, hwWrite_bfStores]
      exact ⟨h1, h2, h3, fun k hk => (h4 k hk).hwWrite⟩
    | exit rc =>
      obtain ⟨h1, h2⟩ := hpc
      simp only [PcInv, hwWrite_taken, hwWrite_bfStores]
      exact ⟨h1, fun h0 => (h2 h0).imp_right (.imp_right fun h k hk => (h k hk).hwWrite)⟩
    | undefined => exact absurd hlt (by simp only [PcInv] at hpc; omega)

/-- A poll that consumes reads the `taken`-th completion, that of the `taken`-th WQE, and its
`wc.status` is `IBV_WC_SUCCESS` exactly when the completion is the WQE's success. -/
theorem consumed_completion {σ : CqSys} (hcq : CqInv cfg.cq σ)
    (hcomp : ∀ (k : Nat) (rec : List (BitVec 8)), σ.hist[k]? = some rec →
      ∃ b : BfStore, σ.st.bfStores[k]? = some b ∧ Completes b.data rec)
    (hc : Consumes cfg.cq σ.st) (wc : IbvWc) :
    ∃ (b : BfStore) (rec : List (BitVec 8)), σ.st.bfStores[σ.taken]? = some b ∧
      σ.hist[σ.taken]? = some rec ∧ headCqe cfg.cq σ.st = rec ∧
      ((manualPollCq cfg.cq σ.st wc).2.2.status = ibvWcSuccess ↔ ReqFor b.data rec) := by
  have hlt : σ.taken < σ.hist.length :=
    Nat.lt_of_le_of_ne hcq.taken_le fun h => not_consumes_of_eq hcq h.symm hc
  have hhead := (head_of_lt hcq hlt).1
  obtain ⟨b, hb, hcb⟩ := hcomp _ _ (List.getElem?_eq_getElem hlt)
  refine ⟨b, _, hb, List.getElem?_eq_getElem hlt, hhead, ?_⟩
  have hop : (mlx5dvGetCqeOpcode (headCqe cfg.cq σ.st)).toNat ∈ [mlx5CqeReq, mlx5CqeRespWrImm,
      mlx5CqeRespSend, mlx5CqeRespSendImm, mlx5CqeReqErr, mlx5CqeRespErr] := by
    rw [hhead]; rcases hcb with h | h
    · simp [h.1]
    · simp [h]
  obtain ⟨w, hw, hd⟩ := cqeSwitch_known (headCqe cfg.cq σ.st) hop
  have hwc : (manualPollCq cfg.cq σ.st wc).2.2 = w := by
    rw [manualPollCq_of_fresh wc hc.1 hc.2.1, hw]
  have hst := hd.status
  rw [← hwc, hhead] at hst
  rcases hcb with h | h
  · exact iff_of_true (by rw [hst, h.1]; decide) h
  · exact iff_of_false (by rw [hst, h]; decide) fun hr => absurd (h ▸ hr.1) (by decide)

/-- A round that consumes ends `poll_completion`: `local_write` returns 0 on a success. -/
theorem pollRound_of_consumes {σ : CqSys} {i : Nat} {start : BitVec 64} {wc : IbvWc}
    (now : BitVec 64) (hc : Consumes cfg.cq σ.st) :
    pollRound cfg σ i start wc now = ⟨⟨advance σ.st, σ.hist, σ.taken + 1⟩,
      if (manualPollCq cfg.cq σ.st wc).2.2.status = ibvWcSuccess then .loop (i + 1)
      else .exit 1⟩ := by
  obtain ⟨h1, h2⟩ := manualPollCq_of_consumes hc wc
  by_cases hs : (manualPollCq cfg.cq σ.st wc).2.2.status = ibvWcSuccess <;>
    simp [pollRound, pollStep, pollCompletionRc, h1, h2, hs]

/-- A round that finds nothing polls again, or times out and ends `main`. -/
theorem pollRound_of_not_consumes {σ : CqSys} {i : Nat} {start : BitVec 64} {wc : IbvWc}
    (now : BitVec 64) (hc : ¬ Consumes cfg.cq σ.st) :
    pollRound cfg σ i start wc now = ⟨σ,
      if (now - start).toNat < maxPollCqTimeout then
        .poll i start (manualPollCq cfg.cq σ.st wc).2.2
      else .exit 1⟩ := by
  obtain ⟨h1, h2⟩ := manualPollCq_of_not_consumes hc wc
  by_cases ht : (now - start).toNat < maxPollCqTimeout <;>
    simp [pollRound, pollStep, pollCompletionRc, h1, h2, ht]

/-- Call `i < r` of `local_write`, on a buffer of eight bytes or more and past the blueflame
check, rings its doorbell and polls. -/
theorem MainStep.begin_of_bf {dma} {σ : CqSys} {i : Nat} (start : BitVec 64) (wc : IbvWc)
    (hmsg : 8 ≤ cfg.msgSize) (hbf : cfg.qp.bfReg ≠ 0 ∧ cfg.qp.bfSize ≠ 0) (hr : i < r) :
    MainStep cfg r dma ⟨σ, .loop i⟩
      ⟨⟨(localWriteBegin cfg { σ.st with msg := clearMsg cfg σ.st.msg }).1, σ.hist, σ.taken⟩,
        .poll i start wc⟩ := by
  have h := @beginWrite_of_le cfg σ i start wc hmsg
  rw [localWriteBegin_of_bf hbf, if_pos rfl, ← localWriteBegin_of_bf hbf] at h
  exact h ▸ .begin start wc hr

/-- A poll that consumes a success ends call `i` of `local_write` with 0. -/
theorem MainStep.poll_of_success {dma} {σ : CqSys} {i : Nat} {start : BitVec 64} {wc : IbvWc}
    (now : BitVec 64) (hc : Consumes cfg.cq σ.st)
    (hs : (manualPollCq cfg.cq σ.st wc).2.2.status = ibvWcSuccess) :
    MainStep cfg r dma ⟨σ, .poll i start wc⟩
      ⟨⟨advance σ.st, σ.hist, σ.taken + 1⟩, .loop (i + 1)⟩ := by
  have h : pollRound cfg σ i start wc now = _ := pollRound_of_consumes now hc
  rw [if_pos hs] at h
  exact h ▸ .poll now

theorem mainInv_poll {σ : CqSys} {i : Nat} {start : BitVec 64} {wc : IbvWc} (now : BitVec 64)
    (hi : MainInv cfg r ⟨σ, .poll i start wc⟩) :
    MainInv cfg r (pollRound cfg σ i start wc now) := by
  obtain ⟨hcq, hle, hcomp, hir, ht, hb, hown⟩ := hi
  dsimp only at hcq hle hcomp hir ht hb hown
  by_cases hc : Consumes cfg.cq σ.st
  · obtain ⟨b, rec, hb', hr', -, hiff⟩ := consumed_completion hcq hcomp hc wc
    have hcq' := cqInv_pollStep hcq wc
    simp only [pollStep, (manualPollCq_of_consumes hc wc).1, (manualPollCq_of_consumes hc wc).2,
      if_true] at hcq'
    have hlt := (List.getElem?_eq_some_iff.1 hr').1
    rw [pollRound_of_consumes now hc]
    split_ifs with hs
    · refine ⟨hcq', hle, hcomp, ?_⟩
      dsimp only [PcInv]
      refine ⟨by omega, by omega, by omega, by simpa using hb, fun k hk => ?_⟩
      rcases Nat.lt_succ_iff_lt_or_eq.1 hk with hk | rfl
      · exact (hown k hk).mono (List.prefix_refl _) (List.prefix_refl _)
      · exact ht ▸ ⟨b, rec, hb', hr', hiff.1 hs⟩
    · exact ⟨hcq', hle, hcomp, show σ.st.bfStores.length ≤ σ.taken + 1 + 1 by omega,
        fun h => absurd h (by decide)⟩
  · rw [pollRound_of_not_consumes now hc]
    split_ifs
    · exact ⟨hcq, hle, hcomp, hir, ht, hb, hown⟩
    · exact ⟨hcq, hle, hcomp, show σ.st.bfStores.length ≤ σ.taken + 1 by omega,
        fun h => absurd h (by decide)⟩

theorem mainInv_init {w : World} (h : MainInit cfg w) : MainInv cfg r w := by
  obtain ⟨hcq, ⟨-, -, hs⟩, hpc⟩ := h
  obtain ⟨σ, pc⟩ := w
  dsimp only at hcq hs hpc
  subst hpc
  have hh := hcq.1
  refine ⟨cqInv_init hcq, by simp [hh], fun k rec hk => by simp [hh] at hk, ?_⟩
  exact ⟨Nat.zero_le r, hcq.2.1, by simp [hh], by simp [hs], fun k hk => absurd hk (by omega)⟩

/-- The invariant reads neither the registered buffer nor anything the hardware's DMA writes. -/
theorem MainInv.setMsg {σ : CqSys} {pc : Pc} (hi : MainInv cfg r ⟨σ, pc⟩) (m : Mem) :
    MainInv cfg r ⟨σ.setMsg m, pc⟩ :=
  ⟨hi.cq.congr rfl rfl rfl, hi.hist_le, hi.completes, hi.pc⟩

/-- Whatever the hardware writes to the buffer, each step keeps `MainInv`. -/
theorem mainInv_step {dma} {w w' : World} (hi : MainInv cfg r w)
    (h : MainStep cfg r dma w w') : MainInv cfg r w' := by
  cases h with
  | begin start wc hr => exact mainInv_begin start wc hi hr
  | done hr => exact mainInv_done hi hr
  | poll now => exact mainInv_poll now hi
  | hw m hb hg hrec hc => exact (mainInv_hw hi hb hg hrec hc).setMsg m

theorem MainReachable.inv {w : World} (h : MainReachable cfg r w) : MainInv cfg r w := by
  obtain ⟨w₀, h₀, hr⟩ := h
  induction hr with
  | refl => exact mainInv_init h₀
  | tail _ hst ih => exact mainInv_step ih hst

/-- At `main_exit` only the hardware moves: `main` stays there and rings no doorbell. -/
theorem exit_step {dma} {w w' : World} {rc : Nat} (hpc : w.pc = .exit rc)
    (h : MainStep cfg r dma w w') :
    w'.pc = .exit rc ∧ w'.sys.st.bfStores = w.sys.st.bfStores := by
  cases h with
  | @hw σ _ _ rec => exact ⟨hpc, hwWrite_bfStores cfg.cq σ rec⟩
  | begin => cases hpc
  | done => cases hpc
  | poll => cases hpc

theorem exit_steps {dma} {w w' : World} {rc : Nat} (hpc : w.pc = .exit rc)
    (h : Relation.ReflTransGen (MainStep cfg r dma) w w') :
    w'.pc = .exit rc ∧ w'.sys.st.bfStores = w.sys.st.bfStores := by
  induction h with
  | refl => exact ⟨hpc, rfl⟩
  | tail _ hst ih => exact (exit_step ih.1 hst).imp_right (·.trans ih.2)

/-! ## Post/complete correlation -/

/-- Along every run of `main` at most one WQE is outstanding, and each call of `local_write`
completes by its own completion, consumed in order; `main_exit` is final. -/
theorem main_loop_correlates {w : World} (h : MainReachable cfg r w) :
    w.sys.taken ≤ w.sys.hist.length ∧ w.sys.hist.length ≤ w.sys.st.bfStores.length ∧
    w.sys.st.bfStores.length ≤ w.sys.taken + 1 ∧
    w.sys.st.bfStores.length - w.sys.taken ≤ cfg.qp.wqeCnt.toNat ∧
    w.sys.st.bfStores.length - w.sys.taken ≤ cfg.cq.cqeCnt.toNat ∧
    w.sys.st.cqConsIndex = .ofNat 32 w.sys.taken ∧
    (∀ i, w.pc = .loop i → w.sys.taken = i ∧ w.sys.hist.length = i ∧
      w.sys.st.bfStores.length = i ∧ ∀ k < i, OwnSuccess w.sys k) ∧
    (∀ i start wc, w.pc = .poll i start wc → w.sys.taken = i ∧
      w.sys.st.bfStores.length = i + 1 ∧ ∀ wc', (manualPollCq cfg.cq w.sys.st wc').1 = 1 →
        ∃ (b : BfStore) (rec : List (BitVec 8)), w.sys.st.bfStores[i]? = some b ∧
          w.sys.hist[i]? = some rec ∧ headCqe cfg.cq w.sys.st = rec ∧
          ((manualPollCq cfg.cq w.sys.st wc').2.2.status = ibvWcSuccess ↔ ReqFor b.data rec)) ∧
    (w.pc = .exit 0 → w.sys.taken = r ∧ w.sys.st.bfStores.length = r ∧
      ∀ k < r, OwnSuccess w.sys k) ∧
    ∀ rc w', w.pc = .exit rc → Relation.ReflTransGen (MainStep cfg r anyDma) w w' →
      w'.pc = .exit rc ∧ w'.sys.st.bfStores = w.sys.st.bfStores := by
  obtain ⟨hcq, hle, hcomp, hpc⟩ := h.inv
  have hout : w.sys.st.bfStores.length ≤ w.sys.taken + 1 := by
    obtain ⟨σ, pc⟩ := w
    cases pc with
    | loop i => obtain ⟨-, h1, -, h2, -⟩ := hpc; dsimp only at h1 h2 ⊢; omega
    | poll i _ _ => obtain ⟨-, h1, h2, -⟩ := hpc; dsimp only at h1 h2 ⊢; omega
    | exit rc => exact hpc.1
    | undefined => obtain ⟨-, h2⟩ := hpc; dsimp only at h2 ⊢; omega
  have hW := cfg.qp.one_le_wqeCnt
  have hN := cfg.cq.one_le_cqeCnt
  refine ⟨hcq.taken_le, hle, hout, by omega, by omega, hcq.cons, fun i hi => ?_,
    fun i start wc hi => ?_, fun hi => ?_, fun rc w' hi => exit_steps hi⟩
  · obtain ⟨σ, pc⟩ := w
    subst hi
    exact hpc.2
  · obtain ⟨σ, pc⟩ := w
    subst hi
    obtain ⟨-, ht, hb, -⟩ := hpc
    dsimp only at ht hb ⊢
    refine ⟨ht, hb, fun wc' h1 => ?_⟩
    subst ht
    exact consumed_completion hcq hcomp (manualPollCq_ret.1 h1) wc'
  · obtain ⟨σ, pc⟩ := w
    subst hi
    exact hpc.2 rfl

/-- The completion the hardware writes for the sample WQE: `MLX5_CQE_REQ` of an RDMA write on
queue pair 0x123, owner bit 0. -/
def sampleReqCqe : List (BitVec 8) := List.replicate 56 0 ++ [0x08, 0x00, 0x01, 0x23, 0, 0, 0, 0]

/-- The rings after call 0 of `local_write` rang its doorbell. -/
def postedSys : CqSys := (beginWrite sampleSetup freshRing 0 0 {}).sys

/-- The buffer once the device executed WQE 0: bytes 0 to 4 copied to bytes 4 to 8. -/
def copiedMsg : Mem := postedSys.st.msg.store 4 (postedSys.st.msg.load 0 4)

/-- The rings after the hardware completed WQE 0, having written the buffer. -/
def completedSys : CqSys := (hwWrite sampleCq postedSys sampleReqCqe).setMsg copiedMsg

/-- `main_exit` after one successful `local_write`, from the fresh ring. -/
def oneWriteDone : World := ⟨⟨advance completedSys.st, completedSys.hist, 1⟩, .exit 0⟩

theorem mainInit_freshRing : MainInit sampleSetup ⟨freshRing, .loop 0⟩ :=
  ⟨cqInit_freshRing, ⟨rfl, rfl, rfl⟩, rfl⟩

/-- Call 0 of `local_write` on the fresh ring rings its doorbell. -/
theorem beginWrite_freshRing :
    beginWrite sampleSetup freshRing 0 0 {} = ⟨postedSys, .poll 0 0 {}⟩ := by
  rw [beginWrite_of_le (by decide), localWriteBegin_of_bf (by decide)]
  rfl

/-- `main` with `repeat_count = 1` against a hardware that may make the copy of WQE 0: the
doorbell, the hardware's completion, the poll that takes it, the loop test, `main_exit`. -/
theorem oneWriteDone_run {dma : CqSys → BfStore → List (BitVec 8) → Mem → Prop}
    (hd : dma postedSys ⟨0x1000, postedSys.st.sqBuf.load 0 8⟩ sampleReqCqe copiedMsg) :
    Relation.ReflTransGen (MainStep sampleSetup 1 dma) ⟨freshRing, .loop 0⟩ oneWriteDone := by
  have h1 : MainStep sampleSetup 1 dma (beginWrite sampleSetup freshRing 0 0 {})
      ⟨completedSys, .poll 0 0 {}⟩ := by
    rw [beginWrite_freshRing]
    exact .hw copiedMsg (by rfl : postedSys.st.bfStores[0]? =
        some ⟨0x1000, postedSys.st.sqBuf.load 0 8⟩)
      (by unfold HwMayWrite; decide) (by unfold HwRecord; decide)
      (.inl (by unfold ReqFor; decide)) hd
  have h2 : MainStep sampleSetup 1 dma ⟨completedSys, .poll 0 0 {}⟩
      ⟨oneWriteDone.sys, .loop 1⟩ := .poll_of_success 0 (by decide) (by decide)
  exact .tail (.tail (.tail (.single (.begin 0 {} (by decide))) h1) h2) (.done (by decide))

theorem mainReachable_oneWriteDone : MainReachable sampleSetup 1 oneWriteDone :=
  ⟨_, mainInit_freshRing, oneWriteDone_run trivial⟩

theorem main_loop_correlates_one_write :
    MainReachable sampleSetup 1 oneWriteDone ∧
    (oneWriteDone.sys.taken ≤ oneWriteDone.sys.hist.length ∧
    oneWriteDone.sys.hist.length ≤ oneWriteDone.sys.st.bfStores.length ∧
    oneWriteDone.sys.st.bfStores.length ≤ oneWriteDone.sys.taken + 1 ∧
    oneWriteDone.sys.st.bfStores.length - oneWriteDone.sys.taken ≤ sampleSetup.qp.wqeCnt.toNat ∧
    oneWriteDone.sys.st.bfStores.length - oneWriteDone.sys.taken ≤ sampleSetup.cq.cqeCnt.toNat ∧
    oneWriteDone.sys.st.cqConsIndex = .ofNat 32 oneWriteDone.sys.taken ∧
    (∀ i, oneWriteDone.pc = .loop i → oneWriteDone.sys.taken = i ∧
      oneWriteDone.sys.hist.length = i ∧ oneWriteDone.sys.st.bfStores.length = i ∧
      ∀ k < i, OwnSuccess oneWriteDone.sys k) ∧
    (∀ i start wc, oneWriteDone.pc = .poll i start wc → oneWriteDone.sys.taken = i ∧
      oneWriteDone.sys.st.bfStores.length = i + 1 ∧
      ∀ wc', (manualPollCq sampleSetup.cq oneWriteDone.sys.st wc').1 = 1 →
        ∃ (b : BfStore) (rec : List (BitVec 8)), oneWriteDone.sys.st.bfStores[i]? = some b ∧
          oneWriteDone.sys.hist[i]? = some rec ∧
          headCqe sampleSetup.cq oneWriteDone.sys.st = rec ∧
          ((manualPollCq sampleSetup.cq oneWriteDone.sys.st wc').2.2.status = ibvWcSuccess ↔
            ReqFor b.data rec)) ∧
    (oneWriteDone.pc = .exit 0 → oneWriteDone.sys.taken = 1 ∧
      oneWriteDone.sys.st.bfStores.length = 1 ∧ ∀ k < 1, OwnSuccess oneWriteDone.sys k) ∧
    ∀ rc w', oneWriteDone.pc = .exit rc →
      Relation.ReflTransGen (MainStep sampleSetup 1 anyDma) oneWriteDone w' →
      w'.pc = .exit rc ∧ w'.sys.st.bfStores = oneWriteDone.sys.st.bfStores) :=
  ⟨mainReachable_oneWriteDone, main_loop_correlates mainReachable_oneWriteDone⟩

/-- A hardware whose DMA writes obey `dma` is one that obeys any weaker `dma'`. -/
theorem MainStep.mono {dma dma' : CqSys → BfStore → List (BitVec 8) → Mem → Prop}
    (hd : ∀ σ b rec m, dma σ b rec m → dma' σ b rec m) {w w' : World}
    (h : MainStep cfg r dma w w') : MainStep cfg r dma' w w' := by
  cases h with
  | begin start wc hr => exact .begin start wc hr
  | done hr => exact .done hr
  | poll now => exact .poll now
  | hw m hb hg hrec hc hm => exact .hw m hb hg hrec hc (hd _ _ _ _ hm)

end Main

end Mlx5ManualTrigger
