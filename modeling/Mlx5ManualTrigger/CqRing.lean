import Mlx5ManualTrigger.PollCq

/-!
# The completion ring against any hardware producer

The hardware writes its `p`-th record, with an opcode other than `MLX5_CQE_INVALID` and the
owner bit `⌊p / cqe_cnt⌋ mod 2`, into slot `p mod cqe_cnt`, whenever the doorbell record shows
fewer than `cqe_cnt` records outstanding. Software calls `manual_poll_cq`. Every interleaving
of the two, from the state `resources_create` leaves, keeps `CqInv`:

1. `c ≤ p ≤ c + cqe_cnt`, where `c` counts the polls that returned 1 and `p` the writes;
2. `cq_cons_index` and the doorbell record are `c` modulo `2 ^ 32` and `2 ^ 24`;
3. the slots of the records `c, …, p - 1` hold them, and the slots of the counts
   `p, …, c + cqe_cnt - 1` are stale for that count: invalid, or of the other lap.

So a poll returns 1 exactly on the record the hardware wrote as its `c`-th (`cqInv_poll`),
and an unknown opcode at the head is never passed: every later poll returns 0
(`unknown_head_stalls`).
-/

namespace Mlx5ManualTrigger

section Ring

variable (cq : Mlx5dvCq)

/-- The offset of the record of count `j`: slot `j mod cqe_cnt`, at the slot's offset
`cqe_size - 64`. -/
def slotOffset (j : Nat) : Nat :=
  j % cq.cqeCnt.toNat * cq.cqeSize.toNat + (cq.cqeSize.toNat - 64)

/-- The 64 bytes in the slot of count `j`. -/
def slotCqe (buf : Mem) (j : Nat) : List (BitVec 8) := buf.load (slotOffset cq j) 64

/-- A record the hardware may write as its `p`-th. -/
def HwRecord (p : Nat) (r : List (BitVec 8)) : Prop :=
  r.length = 64 ∧ (mlx5dvGetCqeOpcode r).toNat ≠ mlx5CqeInvalid ∧
    (mlx5dvGetCqeOwner r).toNat = p / cq.cqeCnt.toNat % 2

/-- The hardware writes its `p`-th record only while `(p - be32toh(dbrec)) mod 2 ^ 24` is
below `cqe_cnt`. -/
def HwMayWrite (p : Nat) (s : State) : Prop :=
  ((p : Int) - (be32toh (s.dbrec.load 0 4)).toNat) % 2 ^ 24 < cq.cqeCnt.toNat

/-- A slot that must not be consumed at count `j`: invalid, or with the other lap's owner. -/
def Stale (j : Nat) (v : List (BitVec 8)) : Prop :=
  (mlx5dvGetCqeOpcode v).toNat = mlx5CqeInvalid ∨
    (mlx5dvGetCqeOwner v).toNat ≠ j / cq.cqeCnt.toNat % 2

/-- The ring with its ghost record: the records the hardware wrote, oldest first, and the
number of polls that returned 1. -/
structure CqSys where
  st : State
  hist : List (List (BitVec 8))
  taken : Nat

/-- The hardware writes record `r` as its `hist.length`-th. -/
def hwWrite (σ : CqSys) (r : List (BitVec 8)) : CqSys :=
  { σ with st := { σ.st with cqBuf := σ.st.cqBuf.store (slotOffset cq σ.hist.length) r },
           hist := σ.hist ++ [r] }

/-- One call of `manual_poll_cq`, with the caller's `wc`. -/
def pollStep (σ : CqSys) (wc : IbvWc) : CqSys :=
  { st := (manualPollCq cq σ.st wc).2.1, hist := σ.hist,
    taken := if (manualPollCq cq σ.st wc).1 = 1 then σ.taken + 1 else σ.taken }

@[simp] theorem pollStep_hist (σ : CqSys) (wc : IbvWc) : (pollStep cq σ wc).hist = σ.hist := rfl

@[simp] theorem hwWrite_hist (σ : CqSys) (r : List (BitVec 8)) :
    (hwWrite cq σ r).hist = σ.hist ++ [r] := rfl

@[simp] theorem hwWrite_taken (σ : CqSys) (r : List (BitVec 8)) :
    (hwWrite cq σ r).taken = σ.taken := rfl

@[simp] theorem hwWrite_bfStores (σ : CqSys) (r : List (BitVec 8)) :
    (hwWrite cq σ r).st.bfStores = σ.st.bfStores := rfl

@[simp] theorem hwWrite_cqConsIndex (σ : CqSys) (r : List (BitVec 8)) :
    (hwWrite cq σ r).st.cqConsIndex = σ.st.cqConsIndex := rfl

@[simp] theorem hwWrite_dbrec (σ : CqSys) (r : List (BitVec 8)) :
    (hwWrite cq σ r).st.dbrec = σ.st.dbrec := rfl

@[simp] theorem hwWrite_sqCurPost (σ : CqSys) (r : List (BitVec 8)) :
    (hwWrite cq σ r).st.sqCurPost = σ.st.sqCurPost := rfl

@[simp] theorem hwWrite_bfOffset (σ : CqSys) (r : List (BitVec 8)) :
    (hwWrite cq σ r).st.bfOffset = σ.st.bfOffset := rfl

/-- A hardware write or a poll. -/
inductive CqStep : CqSys → CqSys → Prop
  | hw {σ : CqSys} {r : List (BitVec 8)} :
      HwMayWrite cq σ.hist.length σ.st → HwRecord cq σ.hist.length r →
      CqStep σ (hwWrite cq σ r)
  | poll {σ : CqSys} (wc : IbvWc) : CqStep σ (pollStep cq σ wc)

/-- What `resources_create` leaves: no record written, `cq_cons_index = 0`, a zero doorbell
record, and every slot `MLX5_CQE_INVALID` with any owner bit. -/
def CqInit (σ : CqSys) : Prop :=
  σ.hist = [] ∧ σ.taken = 0 ∧ σ.st.cqConsIndex = 0 ∧ σ.st.dbrec.load 0 4 = htobe32 0 ∧
    ∀ j < cq.cqeCnt.toNat, (mlx5dvGetCqeOpcode (slotCqe cq σ.st.cqBuf j)).toNat = mlx5CqeInvalid

/-- The states some interleaving reaches from `resources_create`'s. -/
def CqReachable (σ : CqSys) : Prop :=
  ∃ σ₀, CqInit cq σ₀ ∧ Relation.ReflTransGen (CqStep cq) σ₀ σ

/-- The ring invariant. -/
structure CqInv (σ : CqSys) : Prop where
  taken_le : σ.taken ≤ σ.hist.length
  hist_le : σ.hist.length ≤ σ.taken + cq.cqeCnt.toNat
  cons : σ.st.cqConsIndex = .ofNat 32 σ.taken
  dbrec : σ.st.dbrec.load 0 4 = htobe32 (.ofNat 32 (σ.taken % 2 ^ 24))
  written : ∀ j (h : j < σ.hist.length), HwRecord cq j σ.hist[j]
  fresh : ∀ j (h : j < σ.hist.length), σ.taken ≤ j → slotCqe cq σ.st.cqBuf j = σ.hist[j]
  stale : ∀ j, σ.hist.length ≤ j → j < σ.taken + cq.cqeCnt.toNat →
    Stale cq j (slotCqe cq σ.st.cqBuf j)

variable {cq}

/-! ## Slots -/

theorem slotOffset_add_cqeCnt (j : Nat) :
    slotOffset cq (j + cq.cqeCnt.toNat) = slotOffset cq j := by
  simp [slotOffset]

/-- Records of different slots do not overlap. -/
theorem slot_disjoint {i j : Nat} (h : i % cq.cqeCnt.toNat ≠ j % cq.cqeCnt.toNat) :
    slotOffset cq i + 64 ≤ slotOffset cq j ∨ slotOffset cq j + 64 ≤ slotOffset cq i := by
  unfold slotOffset
  rcases Nat.lt_or_gt_of_ne h with h | h
  · have := Nat.mul_le_mul_right cq.cqeSize.toNat h
    rcases cq.cqeSize_toNat with hs | hs <;> rw [hs] at * <;> omega
  · have := Nat.mul_le_mul_right cq.cqeSize.toNat h
    rcases cq.cqeSize_toNat with hs | hs <;> rw [hs] at * <;> omega

/-- Counts less than `cqe_cnt` apart and different use different slots. -/
theorem mod_ne_of_lt {i j : Nat} (hij : i < j) (hj : j < i + cq.cqeCnt.toNat) :
    i % cq.cqeCnt.toNat ≠ j % cq.cqeCnt.toNat := by
  intro h
  have := Nat.sub_mod_eq_zero_of_mod_eq h.symm
  have := Nat.eq_zero_of_dvd_of_lt (Nat.dvd_of_mod_eq_zero this) (by omega : j - i < _)
  omega

theorem slotCqe_store_of_ne {buf : Mem} {r : List (BitVec 8)} (hr : r.length = 64) {i j : Nat}
    (h : i % cq.cqeCnt.toNat ≠ j % cq.cqeCnt.toNat) :
    slotCqe cq (buf.store (slotOffset cq i) r) j = slotCqe cq buf j :=
  Mem.load_store_of_disjoint (by rw [hr]; exact (slot_disjoint h).symm)

theorem slotCqe_store_self {buf : Mem} {r : List (BitVec 8)} (hr : r.length = 64) (i : Nat) :
    slotCqe cq (buf.store (slotOffset cq i) r) i = r := by
  rw [slotCqe, ← hr]; exact Mem.load_store_self _ _ _

theorem headCqe_eq {s : State} {c : Nat} (h : s.cqConsIndex = .ofNat 32 c) :
    headCqe cq s = slotCqe cq s.cqBuf c := by
  rw [headCqe, h, cqe64Offset_eq]; rfl

/-! ## The hardware sees the ring as software left it -/

/-- Under the invariant the hardware's guard says: fewer than `cqe_cnt` records outstanding. -/
theorem hwMayWrite_iff {σ : CqSys} (hi : CqInv cq σ) :
    HwMayWrite cq σ.hist.length σ.st ↔ σ.hist.length < σ.taken + cq.cqeCnt.toNat := by
  have h1 := hi.taken_le
  have h2 := hi.hist_le
  have h3 := cq.cqeCnt_le
  rw [HwMayWrite, hi.dbrec, be32toh_htobe32, BitVec.toNat_ofNat]
  omega

/-! ## Each step keeps the invariant -/

theorem cqInv_init {σ : CqSys} (h : CqInit cq σ) : CqInv cq σ := by
  obtain ⟨hh, ht, hc, hd, hs⟩ := h
  refine ⟨by simp [hh, ht], by simp [hh, ht], by simp [hc, ht], by simp [hd, ht], ?_, ?_, ?_⟩
  · simp [hh]
  · simp [hh]
  · intro j _ hj
    rw [ht, Nat.zero_add] at hj
    exact .inl (hs j hj)

theorem cqInv_hwWrite {σ : CqSys} {r : List (BitVec 8)} (hi : CqInv cq σ)
    (hg : HwMayWrite cq σ.hist.length σ.st) (hr : HwRecord cq σ.hist.length r) :
    CqInv cq (hwWrite cq σ r) := by
  have hg := (hwMayWrite_iff hi).1 hg
  have hp := hi.hist_le
  constructor
  · simpa [hwWrite] using Nat.le_succ_of_le hi.taken_le
  · simp [hwWrite]; omega
  · rw [hwWrite_cqConsIndex, hwWrite_taken]; exact hi.cons
  · rw [hwWrite_dbrec, hwWrite_taken]; exact hi.dbrec
  · intro j hj
    simp only [hwWrite, List.length_append, List.length_singleton] at hj
    rcases Nat.lt_succ_iff_lt_or_eq.1 hj with hj | rfl
    · simpa [hwWrite, List.getElem_append_left hj] using hi.written j hj
    · simpa [hwWrite] using hr
  · intro j hj hc
    simp only [hwWrite, List.length_append, List.length_singleton] at hj hc ⊢
    rcases Nat.lt_succ_iff_lt_or_eq.1 hj with hj | rfl
    · rw [slotCqe_store_of_ne hr.1 (mod_ne_of_lt hj (by omega)).symm,
        List.getElem_append_left hj]
      exact hi.fresh j hj hc
    · simp [slotCqe_store_self hr.1]
  · intro j hj hj'
    have := hi.taken_le
    simp only [hwWrite, List.length_append, List.length_singleton] at hj hj' ⊢
    rw [slotCqe_store_of_ne hr.1 (mod_ne_of_lt (by omega) (by omega))]
    exact hi.stale j (by omega) hj'

/-- At count `c < p` the head is the hardware's `c`-th record, of the expected owner. -/
theorem head_of_lt {σ : CqSys} (hi : CqInv cq σ) (hlt : σ.taken < σ.hist.length) :
    headCqe cq σ.st = σ.hist[σ.taken] ∧
      mlx5dvGetCqeOwner (headCqe cq σ.st) = expectedOwner cq σ.st.cqConsIndex := by
  have hh : headCqe cq σ.st = σ.hist[σ.taken] := by
    rw [headCqe_eq hi.cons, hi.fresh _ hlt le_rfl]
  refine ⟨hh, ?_⟩
  apply BitVec.eq_of_toNat_eq
  rw [hh, (hi.written _ hlt).2.2, hi.cons, toNat_expectedOwner]

/-- At count `c = p` the head is stale, and the poll returns 0. -/
theorem not_consumes_of_eq {σ : CqSys} (hi : CqInv cq σ) (heq : σ.hist.length = σ.taken) :
    ¬ Consumes cq σ.st := by
  rintro ⟨h1, h2, -⟩
  have hs := hi.stale σ.taken heq.le (Nat.lt_add_of_pos_right cq.one_le_cqeCnt)
  rw [← headCqe_eq hi.cons] at hs
  rcases hs with hs | hs
  · exact h1 hs
  · rw [h2, hi.cons, toNat_expectedOwner] at hs; exact hs rfl

/-- At count `c < p` a record of an opcode the switch knows is consumed. -/
theorem consumes_of_lt {σ : CqSys} (hi : CqInv cq σ) (hlt : σ.taken < σ.hist.length)
    (hop : (mlx5dvGetCqeOpcode σ.hist[σ.taken]).toNat ∈ [mlx5CqeReq, mlx5CqeRespWrImm,
      mlx5CqeRespSend, mlx5CqeRespSendImm, mlx5CqeReqErr, mlx5CqeRespErr]) :
    Consumes cq σ.st := by
  obtain ⟨hh, hown⟩ := head_of_lt hi hlt
  obtain ⟨w, hw, -⟩ := cqeSwitch_known σ.hist[σ.taken] hop
  refine ⟨hh ▸ (hi.written _ hlt).2.1, hown, ?_⟩
  rw [hh, hw]
  rfl

theorem cqInv_advance {σ : CqSys} (hi : CqInv cq σ) (hlt : σ.taken < σ.hist.length) :
    CqInv cq ⟨advance σ.st, σ.hist, σ.taken + 1⟩ := by
  have hp := hi.hist_le
  constructor <;> dsimp only
  · exact hlt
  · omega
  · rw [advance_cqConsIndex, hi.cons, ofNat_add_one]
  · rw [advance_dbrec, hi.cons, ofNat_add_one]
    congr 1
    apply BitVec.eq_of_toNat_eq
    rw [toNat_dbrecCi, BitVec.toNat_ofNat]
    omega
  · exact hi.written
  · exact fun j hj hc => hi.fresh j hj (by omega)
  · intro j hj hj'
    rw [advance_cqBuf]
    by_cases he : j = σ.taken + cq.cqeCnt.toNat
    · subst he
      right
      rw [slotCqe, slotOffset_add_cqeCnt, ← slotCqe, hi.fresh _ hlt le_rfl,
        (hi.written _ hlt).2.2]
      exact (lap_parity_succ cq.one_le_cqeCnt).symm
    · exact hi.stale j hj (by omega)

theorem cqInv_pollStep {σ : CqSys} (hi : CqInv cq σ) (wc : IbvWc) :
    CqInv cq (pollStep cq σ wc) := by
  by_cases hc : Consumes cq σ.st
  · have hlt : σ.taken < σ.hist.length :=
      Nat.lt_of_le_of_ne hi.taken_le fun h => not_consumes_of_eq hi h.symm hc
    obtain ⟨h1, h2⟩ := manualPollCq_of_consumes hc wc
    simpa [pollStep, h1, h2] using cqInv_advance hi hlt
  · obtain ⟨h1, h2⟩ := manualPollCq_of_not_consumes hc wc
    simpa [pollStep, h1, h2] using hi

theorem cqInv_step {σ σ' : CqSys} (hi : CqInv cq σ) (h : CqStep cq σ σ') : CqInv cq σ' := by
  cases h with
  | hw hg hr => exact cqInv_hwWrite hi hg hr
  | poll wc => exact cqInv_pollStep hi wc

theorem cqInv_of_steps {σ σ' : CqSys} (hi : CqInv cq σ)
    (h : Relation.ReflTransGen (CqStep cq) σ σ') : CqInv cq σ' := by
  induction h with
  | refl => exact hi
  | tail _ hs ih => exact cqInv_step ih hs

theorem CqReachable.inv {σ : CqSys} (h : CqReachable cq σ) : CqInv cq σ := by
  obtain ⟨σ₀, h0, hs⟩ := h
  exact cqInv_of_steps (cqInv_init h0) hs

/-! ## Safety of every interleaving -/

/-- Completion-ring safety: in every reachable state `c ≤ p ≤ c + cqe_cnt`, the consumer index
and the doorbell record are `c` modulo `2 ^ 32` and `2 ^ 24`, a poll that returns 0 changes
neither, and a poll that returns 1 reads the hardware's `c`-th record. -/
theorem cq_ring_safe {σ : CqSys} (h : CqReachable cq σ) :
    σ.taken ≤ σ.hist.length ∧ σ.hist.length ≤ σ.taken + cq.cqeCnt.toNat ∧
    σ.st.cqConsIndex.toNat = σ.taken % 2 ^ 32 ∧
    σ.st.dbrec.load 0 4 = htobe32 (.ofNat 32 (σ.taken % 2 ^ 24)) ∧
    ∀ wc, ((manualPollCq cq σ.st wc).1 = 0 →
        (manualPollCq cq σ.st wc).2.1.cqConsIndex = σ.st.cqConsIndex ∧
        (manualPollCq cq σ.st wc).2.1.dbrec = σ.st.dbrec) ∧
      ((manualPollCq cq σ.st wc).1 = 1 → σ.hist[σ.taken]? = some (headCqe cq σ.st)) := by
  have hi := h.inv
  refine ⟨hi.taken_le, hi.hist_le, by rw [hi.cons, BitVec.toNat_ofNat], hi.dbrec,
    fun wc => ⟨?_, ?_⟩⟩
  · intro h0; rw [manualPollCq_eq_zero h0]; exact ⟨rfl, rfl⟩
  · intro h1
    have hlt : σ.taken < σ.hist.length := Nat.lt_of_le_of_ne hi.taken_le fun he =>
      not_consumes_of_eq hi he.symm (manualPollCq_ret.1 h1)
    rw [List.getElem?_eq_getElem hlt, (head_of_lt hi hlt).1]

/-- The ring as `resources_create` may leave it: every byte `0xf0`, so every slot reads
`MLX5_CQE_INVALID` with owner bit 0. -/
def freshRing : CqSys :=
  ⟨⟨0, 0, 0, fun _ => 0, fun _ => 0, fun _ => 0xf0, fun _ => 0, []⟩, [], 0⟩

theorem cqInit_freshRing : CqInit sampleCq freshRing := by
  unfold CqInit
  decide

/-- Record `p` of a `MLX5_CQE_REQ` on `sampleCq`: zeros but the owner bit of its lap. -/
def sampleRecord (p : Nat) : List (BitVec 8) := List.replicate 63 0 ++ [.ofNat 8 (p / 4 % 2)]

/-- `freshRing` after the hardware wrote records `0` to `n`, each polled once before the next. -/
def lapRing : Nat → CqSys
  | 0 => hwWrite sampleCq freshRing (sampleRecord 0)
  | n + 1 => hwWrite sampleCq (pollStep sampleCq (lapRing n) {}) (sampleRecord (n + 1))

theorem hwRecord_sampleRecord (p : Nat) :
    HwRecord sampleCq p (sampleRecord p) ∧
      (mlx5dvGetCqeOpcode (sampleRecord p)).toNat = mlx5CqeReq := by
  have h4 : sampleCq.cqeCnt.toNat = 4 := rfl
  rcases Nat.mod_two_eq_zero_or_one (p / 4) with h | h <;>
    simp only [HwRecord, h4, sampleRecord, h] <;> decide

/-- A ring holding one unconsumed `sampleRecord` at its head lets the next poll take it. -/
theorem consumes_sampleRecord {σ : CqSys} {n : Nat} (hi : CqInv sampleCq σ) (ht : σ.taken = n)
    (hl : σ.hist.length = n + 1) (hh : σ.hist[n]? = some (sampleRecord n)) :
    Consumes sampleCq σ.st := by
  have hlt : σ.taken < σ.hist.length := by omega
  have hrec : σ.hist[σ.taken] = sampleRecord n := by
    rw [← Option.some_inj, ← List.getElem?_eq_getElem, ht, hh]
  exact consumes_of_lt hi hlt (by rw [hrec, (hwRecord_sampleRecord n).2]; decide)

/-- Every `lapRing n` is reachable, with `n` records consumed and the `n`-th one unconsumed at
the head: the ring wraps every four records and the owner bit flips with each lap. -/
theorem lapRing_spec (n : Nat) :
    CqReachable sampleCq (lapRing n) ∧ (lapRing n).taken = n ∧
      (lapRing n).hist.length = n + 1 ∧ (lapRing n).hist[n]? = some (sampleRecord n) := by
  have h4 : sampleCq.cqeCnt.toNat = 4 := rfl
  induction n with
  | zero =>
    have hm := (hwMayWrite_iff (cqInv_init cqInit_freshRing)).2 (by simp [freshRing, h4])
    exact ⟨⟨_, cqInit_freshRing, .single (.hw hm (hwRecord_sampleRecord 0).1)⟩, rfl, rfl, rfl⟩
  | succ n ih =>
    obtain ⟨⟨σ₀, h₀, hs⟩, ht, hl, hh⟩ := ih
    have hc := consumes_sampleRecord (cqInv_of_steps (cqInv_init h₀) hs) ht hl hh
    -- the poll takes record `n`, then the hardware writes record `n + 1`
    have hp : Relation.ReflTransGen (CqStep sampleCq) σ₀ (pollStep sampleCq (lapRing n) {}) :=
      hs.tail (.poll {})
    have hpt : (pollStep sampleCq (lapRing n) {}).taken = n + 1 := by
      rw [pollStep, if_pos (manualPollCq_of_consumes hc _).1, ht]
    have hpl : (pollStep sampleCq (lapRing n) {}).hist.length = n + 1 := by
      rw [pollStep_hist, hl]
    have hm := (hwMayWrite_iff (cqInv_of_steps (cqInv_init h₀) hp)).2 (by rw [hpt, hpl, h4]; omega)
    have hw : CqStep sampleCq (pollStep sampleCq (lapRing n) {}) (lapRing (n + 1)) := by
      rw [lapRing]
      exact .hw hm (by rw [hpl]; exact (hwRecord_sampleRecord (n + 1)).1)
    refine ⟨⟨σ₀, h₀, hp.tail hw⟩, hpt, ?_, ?_⟩
    · rw [lapRing, hwWrite_hist, List.length_append, hpl]
      rfl
    · rw [lapRing, hwWrite_hist, List.getElem?_append_right (by omega), hpl, Nat.sub_self]
      rfl

/-- The ring after a lap: record 4 sits in slot 0 with owner bit 1, and the poll takes it. -/
theorem cq_ring_safe_lap :
    CqReachable sampleCq (lapRing 4) ∧ (manualPollCq sampleCq (lapRing 4).st {}).1 = 1 ∧
    ((lapRing 4).taken ≤ (lapRing 4).hist.length ∧
    (lapRing 4).hist.length ≤ (lapRing 4).taken + sampleCq.cqeCnt.toNat ∧
    (lapRing 4).st.cqConsIndex.toNat = (lapRing 4).taken % 2 ^ 32 ∧
    (lapRing 4).st.dbrec.load 0 4 = htobe32 (.ofNat 32 ((lapRing 4).taken % 2 ^ 24)) ∧
    ∀ wc, ((manualPollCq sampleCq (lapRing 4).st wc).1 = 0 →
        (manualPollCq sampleCq (lapRing 4).st wc).2.1.cqConsIndex = (lapRing 4).st.cqConsIndex ∧
        (manualPollCq sampleCq (lapRing 4).st wc).2.1.dbrec = (lapRing 4).st.dbrec) ∧
      ((manualPollCq sampleCq (lapRing 4).st wc).1 = 1 →
        (lapRing 4).hist[(lapRing 4).taken]? = some (headCqe sampleCq (lapRing 4).st))) :=
  have ⟨h, ht, hl, hh⟩ := lapRing_spec 4
  ⟨h, manualPollCq_ret.2 (consumes_sampleRecord h.inv ht hl hh), cq_ring_safe h⟩

/-! ## An unknown opcode at the head -/

/-- Once the head record has an opcode the switch does not know, no later poll returns 1,
whatever the hardware writes. -/
theorem unknown_head_stalls {σ σ' : CqSys} (h : CqReachable cq σ)
    (hlt : σ.taken < σ.hist.length)
    (hunk : cqeSwitch (mlx5dvGetCqeOpcode σ.hist[σ.taken]).toNat σ.hist[σ.taken]
      (wcOfCqe σ.hist[σ.taken]) = none)
    (hs : Relation.ReflTransGen (CqStep cq) σ σ') :
    σ'.taken = σ.taken ∧ σ'.st.cqConsIndex = σ.st.cqConsIndex ∧
      ∀ wc, (manualPollCq cq σ'.st wc).1 = 0 := by
  have stuck : ∀ {τ : CqSys}, CqInv cq τ → τ.taken = σ.taken → σ.hist <+: τ.hist →
      ¬ Consumes cq τ.st := by
    intro τ hτ ht hp hc
    have hlt' : τ.taken < τ.hist.length := ht ▸ Nat.lt_of_lt_of_le hlt hp.length_le
    have hh := (head_of_lt hτ hlt').1
    simp only [ht, ← hp.getElem hlt] at hh
    simp [Consumes, hh, hunk] at hc
  have key : CqInv cq σ' ∧ σ'.taken = σ.taken ∧ σ.hist <+: σ'.hist := by
    induction hs with
    | refl => exact ⟨h.inv, rfl, List.prefix_refl _⟩
    | tail _ hstep ih =>
      obtain ⟨hi, ht, hp⟩ := ih
      refine ⟨cqInv_step hi hstep, ?_⟩
      cases hstep with
      | hw => rw [hwWrite_taken, hwWrite_hist]; exact ⟨ht, hp.trans (List.prefix_append _ _)⟩
      | poll wc =>
        have h0 := (manualPollCq_of_not_consumes (stuck hi ht hp) wc).1
        simp [pollStep, h0, ht, hp]
  obtain ⟨hi, ht, hp⟩ := key
  refine ⟨ht, by rw [hi.cons, h.inv.cons, ht], fun wc => ?_⟩
  exact (manualPollCq_of_not_consumes (stuck hi ht hp) wc).1

/-- A `MLX5_CQE_RESP_SEND_INV` record of owner 0: the responder's side of a send with
invalidate. -/
def sendInvCqe : List (BitVec 8) := List.replicate 63 0 ++ [0x40]

/-- The fresh ring after the hardware wrote `sendInvCqe` as its first record. -/
def stuckRing : CqSys := hwWrite sampleCq freshRing sendInvCqe

/-- The record is never consumed: the consumer index stays 0 and every poll returns 0, in
every run from there. -/
theorem send_inv_head_never_consumed :
    CqReachable sampleCq stuckRing ∧ stuckRing.taken < stuckRing.hist.length ∧
    ∀ σ', Relation.ReflTransGen (CqStep sampleCq) stuckRing σ' →
      σ'.taken = 0 ∧ σ'.st.cqConsIndex = 0 ∧
        ∀ wc, (manualPollCq sampleCq σ'.st wc).1 = 0 := by
  have hr : CqReachable sampleCq stuckRing := ⟨freshRing, by unfold CqInit; decide,
    .single (.hw (by unfold HwMayWrite; decide) (by unfold HwRecord; decide))⟩
  exact ⟨hr, by decide, fun σ' hs => unknown_head_stalls hr (by decide) (by decide) hs⟩

end Ring

end Mlx5ManualTrigger
