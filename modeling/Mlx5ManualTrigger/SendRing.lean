import Mlx5ManualTrigger.LocalWrite

/-!
# The send ring over any run of `local_write`

Only `local_write` writes `sq_cur_post`, `bf_offset` and the blueflame register; a poll, the
hardware or anything else between two calls leaves them alone. From `resources_create`'s
`sq_cur_post = 0`, `bf_offset = 0`, every run keeps `SendInv`: after `n` doorbells

1. `sq_cur_post = n mod 2 ^ 32` and `bf_offset = (n mod 2) * bf.size`;
2. the `j`-th doorbell went to `bf.reg + (j mod 2) * bf.size` and carries the index
   `j mod 2 ^ 16`.

The run may hold calls that return -1 at the blueflame check; they change neither.
-/

namespace Mlx5ManualTrigger

section Send

variable (cfg : Setup)

/-- A call of `local_write` up to its `poll_completion`, or a step of anything else, which
leaves the send side alone. -/
inductive SendStep : State → State → Prop
  | localWrite (s : State) : SendStep s (localWriteBegin cfg s).1
  | other {s s' : State} : s'.sqCurPost = s.sqCurPost → s'.bfOffset = s.bfOffset →
      s'.bfStores = s.bfStores → SendStep s s'

/-- The send side `resources_create` leaves: `sq_cur_post = 0`, `bf_offset = 0`, no doorbell. -/
def SendInit (s : State) : Prop := s.sqCurPost = 0 ∧ s.bfOffset = 0 ∧ s.bfStores = []

/-- The states a run reaches from `resources_create`'s. -/
def SendReachable (s : State) : Prop :=
  ∃ s₀, SendInit s₀ ∧ Relation.ReflTransGen (SendStep cfg) s₀ s

/-- The send-side invariant, with `n` the number of doorbells so far. -/
structure SendInv (s : State) : Prop where
  post : s.sqCurPost = .ofNat 32 s.bfStores.length
  offset : s.bfOffset.toNat = s.bfStores.length % 2 * cfg.qp.bfSize.toNat
  addr : ∀ j (h : j < s.bfStores.length),
    s.bfStores[j].addr = cfg.qp.bfReg + j % 2 * cfg.qp.bfSize.toNat
  stamp : ∀ j (h : j < s.bfStores.length), ctrlWqeIndex s.bfStores[j].data = j % 2 ^ 16
  rung : s.bfStores ≠ [] → cfg.qp.bfSize ≠ 0

variable {cfg}

/-! ## One step -/

/-- `bf_offset ^= bf.size` flips between the two halves. -/
theorem toNat_xor_bfSize {o z : BitVec 32} {n : Nat} (h : o.toNat = n % 2 * z.toNat) :
    (o ^^^ z).toNat = (n + 1) % 2 * z.toNat := by
  rcases Nat.mod_two_eq_zero_or_one n with hn | hn
  · have ho : o = 0 := BitVec.eq_of_toNat_eq (by simp [h, hn])
    simp [ho, show (n + 1) % 2 = 1 by omega]
  · have ho : o = z := BitVec.eq_of_toNat_eq (by simp [h, hn])
    rw [ho, BitVec.xor_self, show (n + 1) % 2 = 0 by omega, Nat.zero_mul]; rfl

/-- The invariant reads only the send side. -/
theorem SendInv.congr {s s' : State} (hi : SendInv cfg s) (hp : s'.sqCurPost = s.sqCurPost)
    (ho : s'.bfOffset = s.bfOffset) (hs : s'.bfStores = s.bfStores) : SendInv cfg s' := by
  obtain ⟨h1, h2, h3, h4, h5⟩ := hi
  rw [← hp, ← ho, ← hs] at *
  exact ⟨h1, h2, h3, h4, h5⟩

theorem sendInv_init {s : State} (h : SendInit s) : SendInv cfg s := by
  obtain ⟨hp, ho, hs⟩ := h
  exact ⟨by simp [hp, hs], by simp [ho, hs], by simp [hs], by simp [hs], by simp [hs]⟩

/-- A doorbell appends the `n`-th store and moves both counters on. -/
theorem sendInv_doorbell {s : State} (hi : SendInv cfg s)
    (hbf : cfg.qp.bfReg ≠ 0 ∧ cfg.qp.bfSize ≠ 0) :
    SendInv cfg (ringDoorbell cfg (buildWqe cfg s)) := by
  constructor
  · rw [ringDoorbell_sqCurPost, buildWqe_sqCurPost, hi.post, ofNat_add_one]; simp
  · simpa using toNat_xor_bfSize hi.offset
  · intro j hj
    simp only [ringDoorbell_bfStores, buildWqe_bfStores, buildWqe_bfOffset, List.length_append,
      List.length_singleton] at hj ⊢
    rcases Nat.lt_succ_iff_lt_or_eq.1 hj with hj | rfl
    · rw [List.getElem_append_left hj, hi.addr j hj]
    · simp [hi.offset]
  · intro j hj
    simp only [ringDoorbell_bfStores, buildWqe_bfStores, List.length_append,
      List.length_singleton] at hj ⊢
    rcases Nat.lt_succ_iff_lt_or_eq.1 hj with hj | rfl
    · rw [List.getElem_append_left hj, hi.stamp j hj]
    · simp only [List.getElem_append_right (Nat.le_refl _), Nat.sub_self, List.getElem_singleton,
        wqeAddr_buildWqe, (ctrl_buildWqe (Nat.le_refl 8)).1, hi.post, BitVec.toNat_ofNat]
      omega
  · exact fun _ => hbf.2

theorem sendInv_localWrite {s : State} (hi : SendInv cfg s) :
    SendInv cfg (localWriteBegin cfg s).1 := by
  by_cases hbf : cfg.qp.bfReg ≠ 0 ∧ cfg.qp.bfSize ≠ 0
  · rw [localWriteBegin_of_bf hbf]
    exact sendInv_doorbell (hi.congr rfl rfl rfl) hbf
  · rw [localWriteBegin_of_not_bf (by tauto)]
    exact hi.congr rfl rfl rfl

theorem sendInv_step {s s' : State} (hi : SendInv cfg s) (h : SendStep cfg s s') :
    SendInv cfg s' := by
  cases h with
  | localWrite => exact sendInv_localWrite hi
  | other hp ho hs => exact hi.congr hp ho hs

theorem SendReachable.inv {s : State} (h : SendReachable cfg s) : SendInv cfg s := by
  obtain ⟨s₀, h₀, hr⟩ := h
  induction hr with
  | refl => exact sendInv_init h₀
  | tail _ hst ih => exact sendInv_step ih hst

/-! ## The trigger register (`bf_offset`) -/

/-- After `n` doorbells of any run, `sq_cur_post = n mod 2 ^ 32` and `bf_offset` is the half
`n mod 2`, in step with `sq_cur_post`; the `j`-th doorbell went to half `j mod 2`, so no two
consecutive doorbells went to the same half. -/
theorem bf_offset_alternates {s : State} (h : SendReachable cfg s) :
    s.sqCurPost.toNat = s.bfStores.length % 2 ^ 32 ∧
    s.bfOffset.toNat = s.bfStores.length % 2 * cfg.qp.bfSize.toNat ∧
    s.bfOffset.toNat = s.sqCurPost.toNat % 2 * cfg.qp.bfSize.toNat ∧
    (∀ j (hj : j < s.bfStores.length),
      s.bfStores[j].addr = cfg.qp.bfReg + j % 2 * cfg.qp.bfSize.toNat) ∧
    ∀ j (hj : j + 1 < s.bfStores.length), s.bfStores[j].addr ≠ s.bfStores[j + 1].addr := by
  have hi := h.inv
  have hp : s.sqCurPost.toNat = s.bfStores.length % 2 ^ 32 := by rw [hi.post, BitVec.toNat_ofNat]
  refine ⟨hp, hi.offset, by rw [hi.offset, hp, Nat.mod_mod_of_dvd _ (by decide : 2 ∣ 2 ^ 32)],
    hi.addr, fun j hj => ?_⟩
  have hS : cfg.qp.bfSize.toNat ≠ 0 := fun h0 =>
    hi.rung (List.ne_nil_of_length_pos (by omega)) (BitVec.eq_of_toNat_eq h0)
  rw [hi.addr j (by omega), hi.addr (j + 1) hj]
  rcases Nat.mod_two_eq_zero_or_one j with h2 | h2
  · rw [h2, show (j + 1) % 2 = 1 by omega]; omega
  · rw [h2, show (j + 1) % 2 = 0 by omega]; omega

/-- Two calls of `local_write` from `resources_create`'s state. -/
def twoPosts : State :=
  (localWriteBegin sampleSetup (localWriteBegin sampleSetup blankState).1).1

theorem sendReachable_twoPosts : SendReachable sampleSetup twoPosts :=
  ⟨blankState, ⟨rfl, rfl, rfl⟩, .tail (.tail .refl (.localWrite _)) (.localWrite _)⟩

theorem bf_offset_alternates_twoPosts :
    SendReachable sampleSetup twoPosts ∧
    (twoPosts.sqCurPost.toNat = twoPosts.bfStores.length % 2 ^ 32 ∧
    twoPosts.bfOffset.toNat = twoPosts.bfStores.length % 2 * sampleSetup.qp.bfSize.toNat ∧
    twoPosts.bfOffset.toNat = twoPosts.sqCurPost.toNat % 2 * sampleSetup.qp.bfSize.toNat ∧
    (∀ j (hj : j < twoPosts.bfStores.length),
      twoPosts.bfStores[j].addr = sampleSetup.qp.bfReg + j % 2 * sampleSetup.qp.bfSize.toNat) ∧
    ∀ j (hj : j + 1 < twoPosts.bfStores.length),
      twoPosts.bfStores[j].addr ≠ twoPosts.bfStores[j + 1].addr) :=
  ⟨sendReachable_twoPosts, bf_offset_alternates sendReachable_twoPosts⟩

/-! ## The send-ring slot and the 16-bit index -/

/-- After `n` doorbells of any run, the next WQE goes to slot `n mod wqe_cnt` and is stamped
`n mod 2 ^ 16`; when `wqe_cnt ≤ 2 ^ 16` the slot hardware takes from the stamp is the slot
written; every doorbell so far carries its own number's stamp; and consecutive posts take
consecutive slots modulo `wqe_cnt`, across both wraps. -/
theorem sq_slot_matches_index (hbf : cfg.qp.bfReg ≠ 0 ∧ cfg.qp.bfSize ≠ 0) {s : State}
    (h : SendReachable cfg s) :
    s.sqCurPost.toNat = s.bfStores.length % 2 ^ 32 ∧
    wqeAddr cfg s = s.bfStores.length % cfg.qp.wqeCnt.toNat * cfg.qp.stride.toNat ∧
    ctrlWqeIndex ((localWriteBegin cfg s).1.sqBuf.load (wqeAddr cfg s) 16) =
      s.bfStores.length % 2 ^ 16 ∧
    (cfg.qp.wqeCnt.toNat ≤ 2 ^ 16 →
      ctrlWqeIndex ((localWriteBegin cfg s).1.sqBuf.load (wqeAddr cfg s) 16) %
        cfg.qp.wqeCnt.toNat * cfg.qp.stride.toNat = wqeAddr cfg s) ∧
    (∀ j (hj : j < s.bfStores.length), ctrlWqeIndex s.bfStores[j].data = j % 2 ^ 16) ∧
    (wqeIdx cfg.qp (s.sqCurPost + 1)).toNat =
      ((wqeIdx cfg.qp s.sqCurPost).toNat + 1) % cfg.qp.wqeCnt.toNat := by
  have hi := h.inv
  have hp : s.sqCurPost.toNat = s.bfStores.length % 2 ^ 32 := by rw [hi.post, BitVec.toNat_ofNat]
  have ha : wqeAddr cfg s = s.bfStores.length % cfg.qp.wqeCnt.toNat * cfg.qp.stride.toNat := by
    rw [wqeAddr, hi.post, toNat_wqeOffset]
  have hc : ctrlWqeIndex ((localWriteBegin cfg s).1.sqBuf.load (wqeAddr cfg s) 16) =
      s.bfStores.length % 2 ^ 16 := by
    rw [localWriteBegin_of_bf hbf]
    exact (ctrl_buildWqe (by omega)).1.trans (by rw [hp]; omega)
  refine ⟨hp, ha, hc, fun hW => ?_, hi.stamp, ?_⟩
  · rw [hc, ha, Nat.mod_mod_of_dvd _ (cfg.qp.wqeCnt_dvd hW)]
  · rw [hi.post, ofNat_add_one, toNat_wqeIdx, toNat_wqeIdx, Nat.mod_add_mod]

theorem sq_slot_matches_index_twoPosts :
    (sampleSetup.qp.bfReg ≠ 0 ∧ sampleSetup.qp.bfSize ≠ 0) ∧
    SendReachable sampleSetup twoPosts ∧
    (twoPosts.sqCurPost.toNat = twoPosts.bfStores.length % 2 ^ 32 ∧
    wqeAddr sampleSetup twoPosts =
      twoPosts.bfStores.length % sampleSetup.qp.wqeCnt.toNat * sampleSetup.qp.stride.toNat ∧
    ctrlWqeIndex ((localWriteBegin sampleSetup twoPosts).1.sqBuf.load
      (wqeAddr sampleSetup twoPosts) 16) = twoPosts.bfStores.length % 2 ^ 16 ∧
    (sampleSetup.qp.wqeCnt.toNat ≤ 2 ^ 16 →
      ctrlWqeIndex ((localWriteBegin sampleSetup twoPosts).1.sqBuf.load
        (wqeAddr sampleSetup twoPosts) 16) % sampleSetup.qp.wqeCnt.toNat *
          sampleSetup.qp.stride.toNat = wqeAddr sampleSetup twoPosts) ∧
    (∀ j (hj : j < twoPosts.bfStores.length),
      ctrlWqeIndex twoPosts.bfStores[j].data = j % 2 ^ 16) ∧
    (wqeIdx sampleSetup.qp (twoPosts.sqCurPost + 1)).toNat =
      ((wqeIdx sampleSetup.qp twoPosts.sqCurPost).toNat + 1) % sampleSetup.qp.wqeCnt.toNat) :=
  ⟨by decide, sendReachable_twoPosts, sq_slot_matches_index (by decide) sendReachable_twoPosts⟩

end Send

end Mlx5ManualTrigger
