import Mlx5ManualTrigger.Resources

/-!
# Handles: `resources_create`, `resources_destroy` and `main_exit`

`main` owns eight things it must release: the device list of `resources_create`, the six
handles of `struct resources` (device context, protection domain, completion queue, message
buffer, memory region, queue pair), and `config.dev_name`, which the device loop `strdup`s when
no `-d` was given. `resources_create` acquires them in order and, at its first failure, jumps
to `resources_create_exit`, which releases each handle that is not `NULL`, queue pair first.
`main_exit` calls `resources_destroy` and frees `config.dev_name` on every path. A release call
of the verbs may fail and then leaves its handle live; `resources_create_exit` ignores it and
sets the pointer to `NULL` all the same.

1. `replay` checks a sequence of acquisitions and releases: a handle is acquired only when it is
   not held and what it is made from is held, and released only when it is held and nothing
   made from it is;
2. `runOps_replay`: the calls of `resources_create` up to its first failure replay, each being
   allowed after the ones before it; `replay_releaseHeld`: releases over an order that puts
   children first replay while no call fails, and `replay_live`: a handle whose release failed
   stays live;
3. `replay_mainEvents_iff`: for every outcome of every call, the events of `main` from
   `resources_create` on replay to no handle exactly when no release call fails.

The probe for `max_inline_data` halves `inlineLimit` from 512 until `ibv_create_qp` accepts it.
-/

namespace Mlx5ManualTrigger

/-! ## Handles and events -/

/-- What `main` must release: the `dev_list` of `resources_create`, the handles of
`struct resources`, and `config.dev_name`. -/
inductive Res
  | devList | ibCtx | pd | cq | buf | mr | qp | devName
  deriving Repr

/-- Handles compared by constructor index: a comparison that `decide` evaluates. -/
instance : DecidableEq Res := fun a b =>
  decidable_of_iff (a.toCtorIdx = b.toCtorIdx)
    ⟨fun h => by cases a <;> cases b <;> first | rfl | exact absurd h (by decide), congrArg _⟩

deriving instance Fintype for Res

/-- What a handle is made from, held when it is acquired: `ib_dev` comes from the device list,
the protection domain and the completion queue from the context, the memory region from the
protection domain and the buffer, the queue pair from the protection domain and the queue. -/
def Res.parents : Res → List Res
  | .ibCtx => [.devList]
  | .pd | .cq => [.ibCtx]
  | .mr => [.pd, .buf]
  | .qp => [.pd, .cq]
  | _ => []

/-- What must be released before a handle. A context does not keep the device list:
`resources_create` frees the list with the context open. -/
def Res.children : Res → List Res
  | .ibCtx => [.pd, .cq]
  | .pd => [.mr, .qp]
  | .cq => [.qp]
  | .buf => [.mr]
  | _ => []

/-- The handle is released by a verbs call, which may fail; `free` and `ibv_free_device_list`
return nothing. -/
def Res.verbs : Res → Bool
  | .ibCtx | .pd | .cq | .mr | .qp => true
  | _ => false

theorem Res.not_mem_children (r : Res) : r ∉ r.children := by
  cases r <;> decide

/-- A call that acquires or releases a handle. -/
inductive Ev
  | acquire (r : Res)
  | release (r : Res)
  deriving DecidableEq, Repr

/-- The handles held after an event. -/
def Ev.update (h : Res → Bool) : Ev → Res → Bool
  | .acquire r => Function.update h r true
  | .release r => Function.update h r false

/-- An event is allowed: an acquisition of a handle not held whose parents are held, or a
release of a held handle whose children are not. -/
def Ev.allowed (h : Res → Bool) : Ev → Bool
  | .acquire r => !h r && r.parents.all h
  | .release r => h r && r.children.all fun c => !h c

/-- The events one after another from the handles `h`; `none` at the first that is not
allowed. -/
def replay (h : Res → Bool) : List Ev → Option (Res → Bool)
  | [] => some h
  | e :: es => if e.allowed h then replay (e.update h) es else none

theorem replay_append (h : Res → Bool) (es es' : List Ev) :
    replay h (es ++ es') = (replay h es).bind fun h' => replay h' es' := by
  induction es generalizing h with
  | nil => rfl
  | cons e es ih => by_cases he : e.allowed h <;> simp [replay, he, ih]

theorem foldl_of_replay {h g : Res → Bool} {es : List Ev} (he : replay h es = some g) :
    es.foldl Ev.update h = g := by
  induction es generalizing h with
  | nil => exact Option.some_inj.1 he
  | cons e es ih =>
    rw [replay] at he
    split_ifs at he
    exact ih he

/-- A live handle stays live through every event that is not its release. -/
theorem replay_live {h g : Res → Bool} {es : List Ev} {x : Res} (hx : h x = true)
    (hr : Ev.release x ∉ es) (he : replay h es = some g) : g x = true := by
  induction es generalizing h with
  | nil => exact Option.some_inj.1 he ▸ hx
  | cons e es ih =>
    rw [replay] at he
    split_ifs at he
    refine ih ?_ (fun h' => hr (List.mem_cons_of_mem _ h')) he
    cases e with
    | acquire r => simp [Ev.update, Function.update_apply, hx]
    | release r =>
      have hxr : x ≠ r := fun h' => hr (h' ▸ List.mem_cons_self _ _)
      simp [Ev.update, Function.update_apply, hxr, hx]

/-! ## Releases -/

section Release

variable (fails : Res → Bool)

/-- Each handle of `order` that is not `NULL` released, in that order, and set to `NULL`; a
release call that `fails` leaves its handle live. -/
def releaseHeld (h : Res → Bool) : List Res → (Res → Bool) × List Ev
  | [] => (h, [])
  | r :: rs =>
    if h r then
      let p := releaseHeld (Function.update h r false) rs
      (p.1, if r.verbs && fails r then p.2 else .release r :: p.2)
    else releaseHeld h rs

/-- Some release call of `order` on the handles `h` fails. -/
def releaseFails (h : Res → Bool) (order : List Res) : Bool :=
  (order.filter h).any fun r => r.verbs && fails r

variable {fails}

theorem releaseFails_eq_false {h : Res → Bool} {order : List Res} :
    releaseFails fails h order = false ↔
      ∀ y ∈ order, h y = true → (y.verbs && fails y) = false := by
  simp [releaseFails, List.any_eq_false]

theorem releaseFails_eq_true {h : Res → Bool} {order : List Res} :
    releaseFails fails h order = true ↔
      ∃ y ∈ order, h y = true ∧ y.verbs = true ∧ fails y = true := by
  simp [releaseFails, and_assoc]

/-- A handle set after another was set to `NULL` was set before, and is not that one. -/
theorem update_false_eq_true {h : Res → Bool} {r y : Res} :
    Function.update h r false y = true ↔ h y = true ∧ y ≠ r := by
  by_cases hy : y = r
  · subst hy; simp
  · simp [Function.update_noteq hy, hy]

/-- After the releases no handle of `order` is set. -/
theorem releaseHeld_fst {h : Res → Bool} {order : List Res} {x : Res} :
    (releaseHeld fails h order).1 x = true ↔ h x = true ∧ x ∉ order := by
  induction order generalizing h with
  | nil => exact (and_iff_left (List.not_mem_nil x)).symm
  | cons r rs ih =>
    by_cases hr : h r = true
    · rw [releaseHeld, if_pos hr]
      simp [ih, update_false_eq_true, and_assoc]
    · rw [releaseHeld, if_neg hr, ih]
      by_cases hx : x = r
      · subst hx; simp [hr]
      · simp [hx]

/-- The events are releases of handles of `order` that were held, by calls that succeed. -/
theorem mem_releaseHeld {h : Res → Bool} {order : List Res} {e : Ev}
    (he : e ∈ (releaseHeld fails h order).2) :
    ∃ y ∈ order, e = .release y ∧ h y = true ∧ (y.verbs && fails y) = false := by
  induction order generalizing h with
  | nil => cases he
  | cons r rs ih =>
    have htail : e ∈ (releaseHeld fails (Function.update h r false) rs).2 →
        ∃ y ∈ r :: rs, e = .release y ∧ h y = true ∧ (y.verbs && fails y) = false := fun he => by
      obtain ⟨y, hy, rfl, hhy, hf⟩ := ih he
      exact ⟨y, List.mem_cons_of_mem _ hy, rfl, (update_false_eq_true.1 hhy).1, hf⟩
    by_cases hr : h r = true
    · rw [releaseHeld, if_pos hr] at he
      dsimp only at he
      split_ifs at he with hf
      · exact htail he
      · rcases List.mem_cons.1 he with rfl | he
        · exact ⟨r, List.mem_cons_self _ _, rfl, hr, by simpa using hf⟩
        · exact htail he
    · rw [releaseHeld, if_neg hr] at he
      obtain ⟨y, hy, rfl, hhy, hf⟩ := ih he
      exact ⟨y, List.mem_cons_of_mem _ hy, rfl, hhy, hf⟩

/-- Over an order that releases the children of a handle before it, and holds every held child
of its handles, the releases replay when no call fails. -/
theorem replay_releaseHeld {h : Res → Bool} {order : List Res}
    (hpw : order.Pairwise fun a b => b ∉ a.children)
    (hcov : ∀ y ∈ order, ∀ c ∈ y.children, h c = true → c ∈ order)
    (hok : ∀ y ∈ order, h y = true → (y.verbs && fails y) = false) :
    replay h (releaseHeld fails h order).2 = some (releaseHeld fails h order).1 := by
  induction order generalizing h with
  | nil => rfl
  | cons r rs ih =>
    obtain ⟨hr, hpw⟩ := List.pairwise_cons.1 hpw
    -- a handle of the tail that is still held was held, and is not `r`
    have hcov' {h' : Res → Bool} (hh : ∀ c, h' c = true → h c = true ∧ c ≠ r) :
        ∀ y ∈ rs, ∀ c ∈ y.children, h' c = true → c ∈ rs := fun y hy c hc hc' => by
      obtain ⟨hhc, hcr⟩ := hh c hc'
      exact (List.mem_cons.1 (hcov y (List.mem_cons_of_mem _ hy) c hc hhc)).resolve_left hcr
    by_cases hh : h r = true
    · have ha : (Ev.release r).allowed h = true := by
        simp only [Ev.allowed, hh, Bool.true_and, List.all_eq_true, Bool.not_eq_true']
        intro c hc
        by_contra hhc
        rcases List.mem_cons.1 (hcov r (List.mem_cons_self _ _) c hc (by simpa using hhc))
          with rfl | hcr
        · exact Res.not_mem_children _ hc
        · exact hr c hcr hc
      rw [releaseHeld, if_pos hh]
      dsimp only
      rw [if_neg (by simp [hok r (List.mem_cons_self _ _) hh]), replay, if_pos ha]
      change replay (Function.update h r false) _ = _
      exact ih hpw (hcov' fun c hc => update_false_eq_true.1 hc) fun y hy hy' =>
        hok y (List.mem_cons_of_mem _ hy) (update_false_eq_true.1 hy').1
    · rw [releaseHeld, if_neg hh]
      refine ih hpw (hcov' fun c hc => ⟨hc, by rintro rfl; exact hh hc⟩) fun y hy hy' =>
        hok y (List.mem_cons_of_mem _ hy) hy'

end Release

/-! ## `resources_create` -/

/-- What the calls of `resources_create` return, and `config.dev_name` before it. -/
structure Verbs where
  /-- `config.dev_name`: set by `-d`, or `NULL`. -/
  devName : Option String
  /-- `ibv_get_device_list`: `NULL`, or the names of its `num_devices` devices. -/
  deviceList : Option (List String)
  openDevice : Bool
  queryPort : Bool
  allocPd : Bool
  createCq : Bool
  malloc : Bool
  regMr : Bool
  /-- `ibv_create_qp` with `cap.max_inline_data = n`. -/
  createQp : Nat → Bool
  /-- `mlx5dv_init_obj`: the queue pair's fields, or a failure. -/
  initObj : Option Mlx5dvQp
  /-- The release calls of `resources_create_exit` that fail; it ignores what they return. -/
  exitFails : Res → Bool

/-- The handles before `resources_create`: `resources_init` zeroes `struct resources`, and
`config.dev_name` is set by `-d` or not at all. -/
def heldAtStart (given : Bool) (r : Res) : Bool := given && r == .devName

theorem heldAtStart_eq_empty {given : Bool} :
    heldAtStart given = (fun _ => false) ↔ given = false :=
  ⟨fun h => by simpa [heldAtStart] using congrFun h .devName, by rintro rfl; rfl⟩

/-- The device loop of `resources_create`: the first device named `config.dev_name`, which is
set to the first device's name when it is `NULL`. Returns `config.dev_name` and `ib_dev`. -/
def findDevice : Option String → List String → Option String × Option String
  | n, [] => (n, none)
  | none, d :: _ => (some d, some d)
  | some n, d :: ds => if d = n then (some n, some d) else findDevice (some n) ds

/-- The probe of `resources_create`: `ibv_create_qp` with `max_inline_data = inlineLimit`,
halving `inlineLimit` while the call fails and `inlineLimit >= 1`. Returns the final
`inlineLimit`, which becomes `res->max_inline_data`, and whether a queue pair was created. -/
def probeInline (createQp : Nat → Bool) (inlineLimit : Nat) : Nat × Bool :=
  if h : 1 ≤ inlineLimit then
    if createQp inlineLimit then (inlineLimit, true) else probeInline createQp (inlineLimit / 2)
  else (inlineLimit, false)
termination_by inlineLimit
decreasing_by omega

/-- A step of `resources_create`. -/
inductive Op
  /-- A call that returns a handle, or `NULL` and then `rc = 1`. -/
  | acquire (r : Res) (ok : Bool)
  /-- A call that releases a handle. -/
  | release (r : Res)
  /-- A call or test that fails with `rc = 1`. -/
  | check (ok : Bool)
  /-- A handle acquired only when `cond` holds, and never failing. -/
  | acquireIf (r : Res) (cond : Bool)

/-- The step does not fail. -/
def Op.runs : Op → Bool
  | .acquire _ ok | .check ok => ok
  | .release _ | .acquireIf _ _ => true

/-- The events of the step when it does not fail. -/
def Op.events : Op → List Ev
  | .acquire r _ => [.acquire r]
  | .release r => [.release r]
  | .check _ => []
  | .acquireIf r cond => if cond then [.acquire r] else []

/-- The steps `ops` from the handles `h`, up to the first that fails: whether none did, the
handles, the events. -/
def runOps (h : Res → Bool) : List Op → Bool × (Res → Bool) × List Ev
  | [] => (true, h, [])
  | o :: ops =>
    if o.runs then
      let p := runOps (o.events.foldl Ev.update h) ops
      (p.1, p.2.1, o.events ++ p.2.2)
    else (false, h, [])

/-- The steps of `resources_create` up to `resources_create_exit`, in the source's order, from
`ibv_get_device_list` to the blueflame check. -/
def resourcesCreateOps (v : Verbs) : List Op :=
  let devices := v.deviceList.getD []
  [.acquire .devList v.deviceList.isSome,
   .check !devices.isEmpty,
   .acquireIf .devName v.devName.isNone,
   .check (findDevice v.devName devices).2.isSome,
   .acquire .ibCtx v.openDevice,
   .release .devList,
   .check v.queryPort,
   .acquire .pd v.allocPd,
   .acquire .cq v.createCq,
   .acquire .buf v.malloc,
   .acquire .mr v.regMr,
   .acquire .qp ((probeInline v.createQp 512).2 || v.createQp 0),
   .check v.initObj.isSome,
   .check (v.initObj.any fun qp => decide (qp.bfReg ≠ 0 ∧ qp.bfSize ≠ 0))]

/-- The releases of `resources_create_exit`, in the source's order. -/
def createExitOrder : List Res := [.qp, .mr, .buf, .cq, .pd, .ibCtx, .devList]

/-- The releases of `resources_destroy`, in the source's order. -/
def destroyOrder : List Res := [.qp, .mr, .buf, .cq, .pd, .ibCtx]

/-- `resources_create_exit`: `rc = 0` after the last step; otherwise `rc = 1`, and each handle
that is not `NULL` released and set to `NULL`, whether or not its release call `fails`. -/
def createExit (fails : Res → Bool) (ok : Bool) (h : Res → Bool) (t : List Ev) :
    Nat × (Res → Bool) × List Ev :=
  if ok then (0, h, t)
  else (1, (releaseHeld fails h createExitOrder).1, t ++ (releaseHeld fails h createExitOrder).2)

/-- `resources_create`: its return value, the handles it leaves, its events. -/
def resourcesCreate (v : Verbs) : Nat × (Res → Bool) × List Ev :=
  let r := runOps (heldAtStart v.devName.isSome) (resourcesCreateOps v)
  createExit v.exitFails r.1 r.2.1 r.2.2

/-- `resources_destroy`: each handle of `struct resources` that is not `NULL` released, queue
pair first; `rc = 1` when one of the calls `fails`, which leaves its handle live. -/
def resourcesDestroy (fails : Res → Bool) (h : Res → Bool) : Nat × List Ev :=
  (if releaseFails fails h destroyOrder then 1 else 0, (releaseHeld fails h destroyOrder).2)

/-- The events of `main_exit`: `resources_destroy`, then the `free` of `config.dev_name` when it
is set. -/
def mainExitEvents (fails : Res → Bool) (h : Res → Bool) : List Ev :=
  (resourcesDestroy fails h).2 ++ if h .devName then [.release .devName] else []

/-- The events of `main` from `resources_init` on: `resources_create`, then `main_exit`, which
every path reaches. `connect_qp_self` and `local_write` acquire and release nothing. -/
def mainEvents (v : Verbs) (fails : Res → Bool) : List Ev :=
  (resourcesCreate v).2.2 ++ mainExitEvents fails (resourcesCreate v).2.1

/-- No release call of `main` fails: neither those of `resources_create_exit`, when a step of
`resources_create` failed, nor those of `resources_destroy`. -/
def ReleasesSucceed (v : Verbs) (fails : Res → Bool) : Prop :=
  let r := runOps (heldAtStart v.devName.isSome) (resourcesCreateOps v)
  (r.1 = false → releaseFails v.exitFails r.2.1 createExitOrder = false) ∧
    (resourcesDestroy fails (resourcesCreate v).2.1).1 = 0

/-! ## The calls of `resources_create` -/

section Create

/-- The step with its call succeeding. -/
def Op.erase : Op → Op
  | .acquire r _ => .acquire r true
  | .check _ => .check true
  | o => o

@[simp] theorem Op.runs_erase (o : Op) : o.erase.runs = true := by cases o <;> rfl

@[simp] theorem Op.events_erase (o : Op) : o.erase.events = o.events := by cases o <;> rfl

/-- Each step's events are allowed from the handles the steps before it leave, whether or not
its call succeeds. -/
def opsAllowed (h : Res → Bool) : List Op → Bool
  | [] => true
  | o :: ops =>
    match replay h o.events with
    | some h' => opsAllowed h' ops
    | none => false

theorem opsAllowed_map_erase (h : Res → Bool) (ops : List Op) :
    opsAllowed h (ops.map Op.erase) = opsAllowed h ops := by
  induction ops generalizing h with
  | nil => rfl
  | cons o ops ih => simp only [List.map_cons, opsAllowed, Op.events_erase, ih]

/-- The steps up to the first that fails replay to the handles they leave. -/
theorem runOps_replay {h : Res → Bool} {ops : List Op} (ha : opsAllowed h ops = true) :
    replay h (runOps h ops).2.2 = some (runOps h ops).2.1 := by
  induction ops generalizing h with
  | nil => rfl
  | cons o ops ih =>
    rw [opsAllowed] at ha
    split at ha
    next h' he =>
      by_cases ho : o.runs
      · rw [runOps, if_pos ho]
        dsimp only
        rw [replay_append, he, Option.some_bind, foldl_of_replay he]
        exact ih ha
      · rw [runOps, if_neg ho]
        rfl
    next => cases ha

theorem runOps_fst (h : Res → Bool) (ops : List Op) : (runOps h ops).1 = ops.all Op.runs := by
  induction ops generalizing h with
  | nil => rfl
  | cons o ops ih => by_cases ho : o.runs <;> simp [runOps, ho, ih]

/-- When every step runs, the steps are those of the run where every call succeeds. -/
theorem runOps_map_erase {h : Res → Bool} {ops : List Op} (hall : ops.all Op.runs = true) :
    runOps h (ops.map Op.erase) = runOps h ops := by
  induction ops generalizing h with
  | nil => rfl
  | cons o ops ih =>
    simp only [List.all_cons, Bool.and_eq_true] at hall
    simp only [List.map_cons, runOps, Op.runs_erase, Op.events_erase, hall.1, if_true,
      ih hall.2]

/-- `resources_create` with every call succeeding, and `config.dev_name` set by `-d` when
`given`. -/
def createShape (given : Bool) : List Op :=
  [.acquire .devList true, .check true, .acquireIf .devName !given, .check true,
   .acquire .ibCtx true, .release .devList, .check true, .acquire .pd true, .acquire .cq true,
   .acquire .buf true, .acquire .mr true, .acquire .qp true, .check true, .check true]

theorem map_erase_resourcesCreateOps (v : Verbs) :
    (resourcesCreateOps v).map Op.erase = createShape v.devName.isSome := by
  rcases v with ⟨_ | _⟩ <;> rfl

/-- Each call of `resources_create` is allowed after the ones before it, and when they all
succeed the device list has been freed. -/
theorem createShape_allowed (given : Bool) :
    opsAllowed (heldAtStart given) (createShape given) = true ∧
      (runOps (heldAtStart given) (createShape given)).2.1 .devList = false := by
  cases given <;> decide

/-- Whatever the calls return, `resources_create` replays to the handles it holds at
`resources_create_exit`. -/
theorem replay_resourcesCreateOps (v : Verbs) :
    replay (heldAtStart v.devName.isSome)
        (runOps (heldAtStart v.devName.isSome) (resourcesCreateOps v)).2.2 =
      some (runOps (heldAtStart v.devName.isSome) (resourcesCreateOps v)).2.1 := by
  refine runOps_replay ?_
  rw [← opsAllowed_map_erase, map_erase_resourcesCreateOps]
  exact (createShape_allowed _).1

/-- `resources_create` returns `0` exactly when every call succeeds. -/
theorem resourcesCreate_rc (v : Verbs) :
    (resourcesCreate v).1 = 0 ↔ (resourcesCreateOps v).all Op.runs := by
  simp only [resourcesCreate, createExit, runOps_fst]
  split <;> simp_all

end Create

/-! ## Every run of `main` -/

section Runs

variable {fails : Res → Bool}

/-- Both release orders put a handle's children, all in the order, before it. -/
theorem createExitOrder_children :
    createExitOrder.Pairwise (fun a b => b ∉ a.children) ∧
      ∀ y ∈ createExitOrder, ∀ c ∈ y.children, c ∈ createExitOrder := by
  decide

theorem destroyOrder_children :
    destroyOrder.Pairwise (fun a b => b ∉ a.children) ∧
      ∀ y ∈ destroyOrder, ∀ c ∈ y.children, c ∈ destroyOrder := by
  decide

/-- `resources_create_exit` releases every handle but `config.dev_name`, and `resources_destroy`
those of `struct resources`. -/
theorem mem_createExitOrder : ∀ x : Res, x ≠ .devName → x ∈ createExitOrder := by
  decide

theorem mem_destroyOrder : ∀ x : Res, x ≠ .devList → x ≠ .devName → x ∈ destroyOrder := by
  decide

/-- `main_exit` releases no handle whose call fails, and `free`s only `config.dev_name`. -/
theorem release_not_mem_mainExitEvents {p : Res → Bool} {x : Res} (hv : x.verbs = true)
    (hx : p x = false ∨ fails x = true) : Ev.release x ∉ mainExitEvents fails p := by
  rw [mainExitEvents, List.mem_append]
  rintro (he | he)
  · obtain ⟨y, -, hy, hpy, hf⟩ := mem_releaseHeld he
    cases hy
    rcases hx with hx | hx <;> simp_all
  · split_ifs at he
    · obtain rfl : x = .devName := by simpa using he
      cases hv
    · cases he

/-- `main_exit` from the handles `p`, the device list not among them, releases them all exactly
when `resources_destroy` returns `0`. -/
theorem replay_mainExitEvents {p : Res → Bool} (hdl : p .devList = false) :
    replay p (mainExitEvents fails p) = some (fun _ => false) ↔
      (resourcesDestroy fails p).1 = 0 := by
  by_cases hrf : releaseFails fails p destroyOrder
  · -- a failed call leaves its handle live
    obtain ⟨x, -, hpx, hv, hf⟩ := releaseFails_eq_true.1 hrf
    simp only [resourcesDestroy, hrf, if_true, one_ne_zero, iff_false]
    exact fun he => Bool.false_ne_true
      (replay_live hpx (release_not_mem_mainExitEvents hv (.inr hf)) he)
  · obtain ⟨hpw, hcov⟩ := destroyOrder_children
    simp only [resourcesDestroy, hrf, Bool.false_eq_true, if_false, iff_true]
    rw [mainExitEvents, replay_append, resourcesDestroy, replay_releaseHeld hpw
      (fun y hy c hc _ => hcov y hy c hc) (releaseFails_eq_false.1 (by simpa using hrf)),
      Option.some_bind]
    -- after `resources_destroy` only `config.dev_name` may be held
    have hleft (x : Res) (hx : (releaseHeld fails p destroyOrder).1 x = true) : x = .devName := by
      obtain ⟨hpx, hxo⟩ := releaseHeld_fst.1 hx
      by_contra hxn
      exact hxo (mem_destroyOrder x (by rintro rfl; simp [hdl] at hpx) hxn)
    have hd : (releaseHeld fails p destroyOrder).1 .devName = p .devName := by
      rw [Bool.eq_iff_iff, releaseHeld_fst]
      exact and_iff_left (by decide)
    split_ifs with hn
    · rw [replay, if_pos (by simp [Ev.allowed, hd, hn, Res.children])]
      refine congrArg some (funext fun x => ?_)
      by_cases hx : x = .devName
      · rw [hx, Ev.update, Function.update_same]
      · rw [Ev.update, Function.update_noteq hx]
        exact Bool.eq_false_iff.2 fun h => hx (hleft x h)
    · refine congrArg some (funext fun x => Bool.eq_false_iff.2 fun hx => ?_)
      obtain rfl := hleft x hx
      exact hn (hd ▸ hx)

/-- For every outcome of every call of `resources_create`, `resources_create_exit` and
`resources_destroy`, `main` from `resources_create` on acquires and releases its handles in an
allowed order and ends holding none exactly when none of the release calls fails. -/
theorem replay_mainEvents_iff (v : Verbs) (fails : Res → Bool) :
    replay (heldAtStart v.devName.isSome) (mainEvents v fails) = some (fun _ => false) ↔
      ReleasesSucceed v fails := by
  have hrun := replay_resourcesCreateOps v
  have hdl : (runOps (heldAtStart v.devName.isSome) (resourcesCreateOps v)).1 = true →
      (runOps (heldAtStart v.devName.isSome) (resourcesCreateOps v)).2.1 .devList = false :=
    fun hok => by
      rw [runOps_fst] at hok
      rw [← runOps_map_erase hok, map_erase_resourcesCreateOps]
      exact (createShape_allowed _).2
  unfold ReleasesSucceed mainEvents resourcesCreate createExit
  generalize runOps (heldAtStart v.devName.isSome) (resourcesCreateOps v) = r at hrun hdl ⊢
  obtain ⟨ok, p, es⟩ := r
  dsimp only at hrun hdl ⊢
  cases ok with
  | true =>
    -- every step ran: `main_exit` releases what they acquired
    simp only [if_true, Bool.true_eq_false, false_implies, true_and]
    rw [replay_append, hrun, Option.some_bind]
    exact replay_mainExitEvents (hdl rfl)
  | false =>
    -- a step failed: `resources_create_exit` releases what the steps before it acquired
    simp only [Bool.false_eq_true, if_false, forall_const]
    obtain ⟨hpw, hcov⟩ := createExitOrder_children
    have hp' (y : Res) (hy : (releaseHeld v.exitFails p createExitOrder).1 y = true) :
        y = .devName := by
      by_contra hyn
      exact (releaseHeld_fst.1 hy).2 (mem_createExitOrder y hyn)
    have hrc : (resourcesDestroy fails (releaseHeld v.exitFails p createExitOrder).1).1 = 0 := by
      rw [resourcesDestroy, if_neg (Bool.not_eq_true _ ▸ releaseFails_eq_false.2 fun y hy hpy =>
        absurd (hp' y hpy) (by rintro rfl; simp [destroyOrder] at hy))]
    rw [List.append_assoc, replay_append, hrun, Option.some_bind, and_iff_left hrc]
    constructor
    · intro he
      rw [Bool.eq_false_iff]
      intro hrf
      obtain ⟨x, hx, hpx, hv, hf⟩ := releaseFails_eq_true.1 hrf
      -- the handle whose release failed is never released again
      have hnot : Ev.release x ∉ (releaseHeld v.exitFails p createExitOrder).2 ++
          mainExitEvents fails (releaseHeld v.exitFails p createExitOrder).1 := by
        rw [List.mem_append]
        rintro (h | h)
        · obtain ⟨y, -, hy, -, hfy⟩ := mem_releaseHeld h
          cases hy
          simp [hv, hf] at hfy
        · exact release_not_mem_mainExitEvents hv
            (.inl (Bool.eq_false_iff.2 fun h' => (releaseHeld_fst.1 h').2 hx)) h
      exact Bool.false_ne_true (replay_live hpx hnot he)
    · intro hok
      rw [replay_append, replay_releaseHeld hpw (fun y hy c hc _ => hcov y hy c hc)
        (releaseFails_eq_false.1 hok), Option.some_bind]
      exact (replay_mainExitEvents (Bool.eq_false_iff.2 fun h => absurd (hp' _ h) (by decide))).2
        hrc

end Runs

end Mlx5ManualTrigger
