import Mlx5ManualTrigger.Lifecycle
import Mlx5ManualTrigger.Connect

/-!
# The options of `main`

Before anything else `main` reads its options, one word of `argv` after another: `-d` sets
`config.dev_name` to a `strdup` of the next word; `-i`, `-g`, `-s` and `-r` set the port, the
GID index, the message size and the repeat count to its `atoi`; a repeat count that is not
positive makes `main` return `1`; `-h` prints the usage and returns `0`. Any other word, and an
option with no word after it, is skipped. `config.dev_name` is freed only in `main_exit`.

1. `parseArgs` is that loop: the configuration it leaves or the value `main` returns, and the
   `strdup`s it makes as events of `replay`;
2. `parseArgs_sound`: when the loop goes on, the repeat count is positive, so the write loop
   posts at least once; when it returns, it returns `0` for a `-h` of `argv`, or `1` for a `-r`
   of `argv` whose value is not positive;
3. `parseArgs_devName`: its events are one `strdup` per `-d` it takes.
-/

namespace Mlx5ManualTrigger

/-! ## `struct config_t` and `atoi` -/

/-- `DEFAULT_MSG_SIZE`. -/
def defaultMsgSize : Nat := 64

/-- `struct config_t`. -/
structure ConfigT where
  devName : Option String
  ibPort : Int
  gidIdx : Int
  /-- A `size_t`. -/
  msgSize : Nat
  repeatCount : Int
  deriving DecidableEq, Repr

/-- The initializer of `static struct config_t config`. -/
def initConfig : ConfigT := ⟨none, 1, -1, defaultMsgSize, 1⟩

/-- The fields `connect_qp_self` reads: `ib_port` as the `uint8_t` port fields take it. -/
def ConfigT.connect (c : ConfigT) : Config := ⟨(c.ibPort % 2 ^ 8).toNat, c.gidIdx⟩

/-- Modelled from the spec: `isspace` in the C locale. -/
def isSpace (ch : Char) : Bool :=
  ch = ' ' || ch = '\t' || ch = '\n' || ch = '\x0b' || ch = '\x0c' || ch = '\r'

/-- The value of the decimal digits at the front of `cs`, read after `acc`. -/
def digitsValue : List Char → Nat → Nat
  | ch :: cs, acc => if ch.isDigit then digitsValue cs (10 * acc + (ch.toNat - 48)) else acc
  | [], acc => acc

/-- Modelled from the spec: glibc's `atoi`, that is `(int) strtol (s, NULL, 10)`. Leading blanks
are skipped, then a sign, then the decimal digits up to the first other character; a value past
`long` saturates, and the conversion to `int` keeps the low 32 bits. -/
def atoi (s : String) : Int :=
  let (neg, cs) : Bool × List Char := match s.toList.dropWhile isSpace with
    | '-' :: cs => (true, cs)
    | '+' :: cs => (false, cs)
    | cs => (false, cs)
  let v : Int := if neg then -(digitsValue cs 0 : Int) else digitsValue cs 0
  (max (-2 ^ 63) (min (2 ^ 63 - 1) v)).bmod (2 ^ 32)

example : atoi " -42x" = -42 ∧ atoi "+7" = 7 ∧ atoi "r" = 0 ∧ atoi "4294967297" = 1 := by decide

/-! ## The option loop -/

/-- Where the option loop leaves `main`: going on with `config`, or returning `rc`. -/
inductive ParseEnd
  | run (c : ConfigT)
  | ret (rc : Nat)
  deriving DecidableEq, Repr

/-- The loop of `main` over the words of `argv` after `argv[0]`, from `config` as `c`: where it
leaves `main`, and the `strdup` of each `-d` into `config.dev_name`. `-s` stores the `int` of
`atoi` in a `size_t`. -/
def parseArgs : List String → ConfigT → ParseEnd × List Ev
  | "-d" :: v :: rest, c =>
    let p := parseArgs rest { c with devName := some v }
    (p.1, .acquire .devName :: p.2)
  | "-i" :: v :: rest, c => parseArgs rest { c with ibPort := atoi v }
  | "-g" :: v :: rest, c => parseArgs rest { c with gidIdx := atoi v }
  | "-s" :: v :: rest, c => parseArgs rest { c with msgSize := (atoi v % 2 ^ 64).toNat }
  | "-r" :: v :: rest, c =>
    if atoi v ≤ 0 then (.ret 1, []) else parseArgs rest { c with repeatCount := atoi v }
  | "-h" :: _, _ => (.ret 0, [])
  | _ :: rest, c => parseArgs rest c
  | [], c => (.run c, [])

example : parseArgs ["-s", "-1", "-d", "mlx5_0", "-i"] initConfig =
    (.run { initConfig with devName := some "mlx5_0", msgSize := 2 ^ 64 - 1 },
      [.acquire .devName]) := by decide

section Loop

/-- Why the loop returned `rc`: `0` for a `-h` of `args`, `1` for a `-r` of `args` whose value
is not positive. -/
def RetCause (args : List String) (rc : Nat) : Prop :=
  rc = 0 ∧ "-h" ∈ args ∨ rc = 1 ∧ ∃ v, atoi v ≤ 0 ∧ ["-r", v] <:+: args

/-- Where the loop may leave `main` after reading `args`: going on with a positive repeat count,
or returning for a reason in `args`. -/
def ParseEnd.Sound (args : List String) : ParseEnd → Prop
  | .run c => 0 < c.repeatCount
  | .ret rc => RetCause args rc

theorem ParseEnd.Sound.mono {args rest : List String} {e : ParseEnd} (hs : rest <:+ args) :
    e.Sound rest → e.Sound args := by
  cases e with
  | run c => exact id
  | ret rc =>
    rintro (⟨rfl, h⟩ | ⟨rfl, v, hv, hi⟩)
    exacts [.inl ⟨rfl, hs.subset h⟩, .inr ⟨rfl, v, hv, hi.trans hs.isInfix⟩]

variable {args : List String} {c : ConfigT}

/-- When the loop goes on, the repeat count is positive, so the write loop posts at least once;
when it returns, it returns `0` for a `-h` of `argv`, or `1` for a `-r` whose value is not
positive. -/
theorem parseArgs_sound (hc : 0 < c.repeatCount) : (parseArgs args c).1.Sound args := by
  induction args, c using parseArgs.induct with
  | case1 v rest c ih => rw [parseArgs.eq_1]; exact (ih hc).mono ⟨["-d", v], rfl⟩
  | case2 v rest c ih => rw [parseArgs.eq_2]; exact (ih hc).mono ⟨["-i", v], rfl⟩
  | case3 v rest c ih => rw [parseArgs.eq_3]; exact (ih hc).mono ⟨["-g", v], rfl⟩
  | case4 v rest c ih => rw [parseArgs.eq_4]; exact (ih hc).mono ⟨["-s", v], rfl⟩
  | case5 v rest c hv => rw [parseArgs.eq_5, if_pos hv]; exact .inr ⟨rfl, v, hv, [], rest, rfl⟩
  | case6 v rest c hv ih =>
    rw [parseArgs.eq_5, if_neg hv]
    exact (ih (not_le.1 hv)).mono ⟨["-r", v], rfl⟩
  | case7 rest => rw [parseArgs.eq_6]; exact .inl ⟨rfl, List.mem_cons_self _ _⟩
  | case8 w rest c h1 h2 h3 h4 h5 h6 ih =>
    rw [parseArgs.eq_7 _ _ _ h1 h2 h3 h4 h5 h6]
    exact (ih hc).mono ⟨[w], rfl⟩
  | case9 c => rw [parseArgs.eq_8]; exact hc

/-- The events of the loop are one `strdup` into `config.dev_name` per `-d` it takes, and it goes
on with a name exactly when it started with one or took a `-d`. -/
theorem parseArgs_devName (args : List String) (c : ConfigT) :
    ∃ k, (parseArgs args c).2 = List.replicate k (.acquire .devName) ∧
      ∀ c', (parseArgs args c).1 = .run c' → (c'.devName.isSome ↔ c.devName.isSome ∨ 0 < k) := by
  induction args, c using parseArgs.induct with
  | case1 v rest c ih =>
    obtain ⟨k, hk, hd⟩ := ih
    rw [parseArgs.eq_1]
    exact ⟨k + 1, by rw [hk]; rfl, fun c' h => by simp [hd c' h]⟩
  | case2 v rest c ih => rw [parseArgs.eq_2]; exact ih
  | case3 v rest c ih => rw [parseArgs.eq_3]; exact ih
  | case4 v rest c ih => rw [parseArgs.eq_4]; exact ih
  | case5 v rest c hv => rw [parseArgs.eq_5, if_pos hv]; exact ⟨0, rfl, fun _ h => by cases h⟩
  | case6 v rest c hv ih => rw [parseArgs.eq_5, if_neg hv]; exact ih
  | case7 rest => rw [parseArgs.eq_6]; exact ⟨0, rfl, fun _ h => by cases h⟩
  | case8 w rest c h1 h2 h3 h4 h5 h6 ih => rw [parseArgs.eq_7 _ _ _ h1 h2 h3 h4 h5 h6]; exact ih
  | case9 c => exact ⟨0, rfl, fun _ h => by cases h; simp⟩

end Loop

end Mlx5ManualTrigger
