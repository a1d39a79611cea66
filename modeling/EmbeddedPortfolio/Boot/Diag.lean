import EmbeddedPortfolio.Boot.CmdDiag

namespace EmbeddedPortfolio.Boot

open EmbeddedPortfolio.Memory

universe u v

/-! The `diag` command and the early hook, over the GPIO lines of a board. -/

def ebusy : Int := 16

/-- U-Boot's GPIO calls. -/
structure Gpio (Bank : Type v) where
  request : Int → String → Bank → Int × Bank
  directionOutput : Int → Bool → Bank → Int × Bank
  free : Int → Bank → Int × Bank

/-- The lines behind the calls: who has claimed one, and the levels it has been
driven to, in order. -/
structure Lines {Bank : Type v} (gpio : Gpio Bank) where
  known : Int → Bool
  drivable : Int → Bool
  label : Bank → Int → Option String
  driven : Bank → Int → List Bool
  request_unknown : ∀ line name bank, known line = false →
    (gpio.request line name bank).1 ≠ 0 ∧
      (gpio.request line name bank).1 ≠ -ebusy ∧
      (gpio.request line name bank).2 = bank
  request_claimed : ∀ line name bank, known line = true →
    label bank line ≠ none → gpio.request line name bank = (-ebusy, bank)
  request_unclaimed : ∀ line name bank, known line = true →
    label bank line = none →
    (gpio.request line name bank).1 = 0 ∧
      label (gpio.request line name bank).2 =
        Function.update (label bank) line (some name) ∧
      driven (gpio.request line name bank).2 = driven bank
  output : ∀ line value bank, known line = true → label bank line ≠ none →
    label (gpio.directionOutput line value bank).2 = label bank ∧
      driven (gpio.directionOutput line value bank).2 =
        if drivable line then
          Function.update (driven bank) line (driven bank line ++ [value])
        else driven bank
  free : ∀ line bank, known line = true →
    label (gpio.free line bank).2 = Function.update (label bank) line none ∧
      driven (gpio.free line bank).2 = driven bank

inductive DiagReturn
  | usage
  | returned (ret : CommandReturn)
deriving DecidableEq, Repr

/-- `status_led_gpio` in the environment, the lines, and the walk's memory. -/
structure Board (State : Type u) (Bank : Type v) where
  env : Option String
  bank : Bank
  memory : State

/-- The board's configuration, and U-Boot's `simple_strtoul` in base 10. -/
structure Config (width : Nat) (Bank : Type v) where
  gpio : Gpio Bank
  statusLedGpio : Int
  strtoul : String → BitVec width

section Code

variable {State : Type u} {Bank : Type v} {width : Nat}
variable (config : Config width Bank)
variable (bus : Bus State (Fin words) (BitVec width))

/-- `(int)simple_strtoul(s, NULL, 10)` -/
def Config.parseInt (s : String) : Int :=
  ((config.strtoul s).setWidth 32).toInt

def statusLedGpio (env : Option String) : Int :=
  match env with
  | some s => config.parseInt s
  | none => config.statusLedGpio

/-- The results of `gpio_direction_output` and `gpio_free` are not looked at. -/
def driveLed (gpio : Int) (on : Bool) (bank : Bank) : Int × Bank :=
  let (ret, bank) := config.gpio.request gpio "status-led" bank
  if ret ≠ 0 ∧ ret ≠ -ebusy then (ret, bank)
  else
    let (_, bank) := config.gpio.directionOutput gpio on bank
    let (_, bank) := config.gpio.free gpio bank
    (0, bank)

def ledSet (on : Bool) (board : Board State Bank) :
    CommandReturn × Board State Bank :=
  let (ret, bank) := driveLed config (statusLedGpio config board.env) on
    board.bank
  (if ret ≠ 0 then .failure else .success, { board with bank })

def blink : Nat → Board State Bank → Board State Bank
  | 0, board => board
  | n + 1, board =>
      blink n (ledSet config false (ledSet config true board).2).2

def blinkCount : List String → Int
  | [] => 3
  | count :: _ => config.parseInt count

/-- `saved` is what the array of `do_diag_mem` holds before it is written. -/
def doDiag (saved : Fin words → BitVec width) (argv : List String)
    (board : Board State Bank) : DiagReturn × Board State Bank :=
  match argv with
  | _ :: "info" :: _ => (.returned .success, board)
  | _ :: "mem" :: _ =>
      let walk := doDiagMem bus saved board.memory
      (.returned walk.ret, { board with memory := walk.memory })
  | _ :: "led" :: "on" :: _ =>
      let (ret, board) := ledSet config true board
      (.returned ret, board)
  | _ :: "led" :: "off" :: _ =>
      let (ret, board) := ledSet config false board
      (.returned ret, board)
  | _ :: "led" :: "blink" :: rest =>
      (.returned .success, blink config (blinkCount config rest).toNat board)
  | _ => (.usage, board)

def customStatusLedOn (board : Board State Bank) : Int × Board State Bank :=
  let (ret, bank) := driveLed config config.statusLedGpio true board.bank
  (ret, { board with bank })

/-- What a boot consists of: the early hook, and the commands that are run. -/
inductive BootStep
  | early
  | setenv (value : Option String)
  | diag (argv : List String)
deriving DecidableEq, Repr

def BootStep.run (saved : Fin words → BitVec width)
    (board : Board State Bank) : BootStep → Board State Bank
  | .early => (customStatusLedOn config board).2
  | .setenv value => { board with env := value }
  | .diag argv => (doDiag config bus saved argv board).2

end Code

/-! The levels that the steps are to drive a line to. -/

section Levels

variable {Bank : Type v} {width : Nat} (config : Config width Bank)

def ledLevels : List String → List Bool
  | _ :: "led" :: "on" :: _ => [true]
  | _ :: "led" :: "off" :: _ => [false]
  | _ :: "led" :: "blink" :: rest =>
      (List.replicate (blinkCount config rest).toNat [true, false]).flatten
  | _ => []

/-- What line `gpio` gets of the levels meant for `target`. -/
def addressed (target gpio : Int) (levels : List Bool) : List Bool :=
  if target = gpio then levels else []

def wantedLevels (gpio : Int) : Option String → List BootStep → List Bool
  | _, [] => []
  | env, .early :: rest =>
      addressed config.statusLedGpio gpio [true] ++ wantedLevels gpio env rest
  | _, .setenv value :: rest => wantedLevels gpio value rest
  | env, .diag argv :: rest =>
      addressed (statusLedGpio config env) gpio (ledLevels config argv) ++
        wantedLevels gpio env rest

/-- A line that some levels are meant for loses its claim, whoever made it; if
it can be driven it shows them. -/
structure Drives {gpio : Gpio Bank} (lines : Lines gpio) (line : Int)
    (levels : List Bool) (before after : Bank) : Prop where
  driven : lines.driven after line = lines.driven before line ++
    if lines.known line ∧ lines.drivable line then levels else []
  label : lines.label after line =
    if lines.known line ∧ levels ≠ [] then none else lines.label before line

end Levels

/-! A board as the environment is made for: the LED on line 42, which nobody has
claimed. -/

structure LedBank where
  label : Int → Option String
  driven : Int → List Bool

def ledBankGpio (known : Int → Bool) : Gpio LedBank where
  request line name bank :=
    if known line then
      match bank.label line with
      | some _ => (-ebusy, bank)
      | none =>
          (0, { bank with
            label := Function.update bank.label line (some name) })
    else (-22, bank)
  directionOutput line value bank :=
    match bank.label line with
    | some _ =>
        (0, { bank with
          driven := Function.update bank.driven line
            (bank.driven line ++ [value]) })
    | none => (-ebusy, bank)
  free line bank :=
    (0, { bank with label := Function.update bank.label line none })

def ledBankLines (known : Int → Bool) : Lines (ledBankGpio known) where
  known := known
  drivable _ := true
  label := LedBank.label
  driven := LedBank.driven
  request_unknown line name bank unknown := by
    simp [ledBankGpio, unknown, ebusy]
  request_claimed line name bank hknown claimed := by
    obtain ⟨owner, howner⟩ := Option.ne_none_iff_exists'.mp claimed
    simp [ledBankGpio, hknown, howner]
  request_unclaimed line name bank hknown unclaimed := by
    simp [ledBankGpio, hknown, unclaimed]
  output line value bank _ claimed := by
    obtain ⟨owner, howner⟩ := Option.ne_none_iff_exists'.mp claimed
    simp [ledBankGpio, howner]
  free line bank _ := by
    simp [ledBankGpio]

/-- Numbers of one digit are enough here. -/
def ledBoard : Config 64 LedBank where
  gpio := ledBankGpio fun _ => true
  statusLedGpio := 42
  strtoul s := BitVec.ofNat 64 (s.toList.headD '0').toNat - 48

def ledBoardLines : Lines ledBoard.gpio := ledBankLines fun _ => true

def poweredBoard : Board (Fin words → BitVec 64) LedBank where
  env := none
  bank := { label := fun _ => none, driven := fun _ => [] }
  memory := fun _ => 0

/-- The hook, `preboot` and `bootcmd` of the shipped environment. -/
def shippedBoot : List BootStep :=
  [.early, .diag ["diag", "led", "blink", "2"], .diag ["diag", "led", "on"],
    .diag ["diag", "info"]]

section Runs

variable {State : Type u} {Bank : Type v} {width : Nat}
variable {config : Config width Bank} {lines : Lines config.gpio}

namespace Drives

variable {line : Int} {first second : List Bool} {before between after : Bank}

theorem refl (bank : Bank) : Drives lines line [] bank bank where
  driven := by simp
  label := by simp

theorem trans (left : Drives lines line first before between)
    (right : Drives lines line second between after) :
    Drives lines line (first ++ second) before after where
  driven := by
    rw [right.driven, left.driven]
    split
    · exact List.append_assoc _ _ _
    · simp
  label := by
    rw [right.label, left.label]
    by_cases hsecond : lines.known line ∧ second ≠ []
    · rw [if_pos hsecond, if_pos ⟨hsecond.1, by simp [hsecond.2]⟩]
    · rw [if_neg hsecond]
      refine ite_congr (propext ?_) (fun _ => rfl) fun _ => rfl
      grind

end Drives

theorem addressed_nil (target gpio : Int) : addressed target gpio [] = [] :=
  ite_self _

theorem addressed_append (target gpio : Int) (first second : List Bool) :
    addressed target gpio (first ++ second) =
      addressed target gpio first ++ addressed target gpio second := by
  unfold addressed
  split
  · rfl
  · rfl

theorem driveLed_unknown {target : Int} (on : Bool) (bank : Bank)
    (unknown : lines.known target = false) :
    (driveLed config target on bank).2 = bank := by
  obtain ⟨hnonzero, hbusy, hbank⟩ :=
    lines.request_unknown target "status-led" bank unknown
  unfold driveLed
  dsimp only
  rw [if_pos ⟨hnonzero, hbusy⟩]
  exact hbank

/-- A known line has some claim once it has been asked for. -/
theorem request_known {target : Int} (bank : Bank)
    (known : lines.known target = true) :
    ((config.gpio.request target "status-led" bank).1 = 0 ∨
        (config.gpio.request target "status-led" bank).1 = -ebusy) ∧
      lines.label (config.gpio.request target "status-led" bank).2 target ≠
        none ∧
      (∀ line ≠ target,
        lines.label (config.gpio.request target "status-led" bank).2 line =
          lines.label bank line) ∧
      lines.driven (config.gpio.request target "status-led" bank).2 =
        lines.driven bank := by
  by_cases hclaimed : lines.label bank target = none
  · obtain ⟨hret, hlabel, hdriven⟩ :=
      lines.request_unclaimed target "status-led" bank known hclaimed
    refine ⟨Or.inl hret, ?_, ?_, hdriven⟩
    · rw [hlabel, Function.update_self]
      exact nofun
    · intro line hother
      rw [hlabel, Function.update_of_ne hother]
  · rw [lines.request_claimed target "status-led" bank known hclaimed]
    exact ⟨Or.inr rfl, hclaimed, fun _ _ => rfl, rfl⟩

theorem driveLed_known {target : Int} (on : Bool) (bank : Bank)
    (known : lines.known target = true) :
    (∀ line, lines.label (driveLed config target on bank).2 line =
        if line = target then none else lines.label bank line) ∧
      lines.driven (driveLed config target on bank).2 =
        if lines.drivable target then
          Function.update (lines.driven bank) target
            (lines.driven bank target ++ [on])
        else lines.driven bank := by
  obtain ⟨hret, hclaimed, hothers, hdriven⟩ := request_known bank known
  obtain ⟨houtLabel, houtDriven⟩ := lines.output target on
    (config.gpio.request target "status-led" bank).2 known hclaimed
  obtain ⟨hfreeLabel, hfreeDriven⟩ := lines.free target
    (config.gpio.directionOutput target on
      (config.gpio.request target "status-led" bank).2).2 known
  unfold driveLed
  dsimp only
  rw [if_neg (by tauto), hfreeLabel, hfreeDriven, houtLabel, houtDriven,
    hdriven]
  refine ⟨?_, rfl⟩
  intro line
  rw [Function.update_apply]
  split
  · rfl
  · next hother => exact hothers line hother

theorem driveLed_drives (line target : Int) (on : Bool) (bank : Bank) :
    Drives lines line (addressed target line [on]) bank
      (driveLed config target on bank).2 := by
  unfold addressed
  cases hknown : lines.known target with
  | false =>
      rw [driveLed_unknown on bank hknown]
      split
      · next hsame =>
          subst hsame
          exact ⟨by simp [hknown], by simp [hknown]⟩
      · exact .refl bank
  | true =>
      obtain ⟨hlabel, hdriven⟩ := driveLed_known on bank hknown
      split
      · next hsame =>
          subst hsame
          constructor
          · rw [hdriven]
            split
            · next hdrivable => simp [hknown, hdrivable]
            · next hdrivable => simp [hdrivable]
          · rw [hlabel]
            simp [hknown]
      · next hother =>
          constructor
          · rw [hdriven]
            split
            · simp [Function.update_of_ne (Ne.symm hother)]
            · simp
          · rw [hlabel, if_neg (Ne.symm hother)]
            simp

theorem ledSet_drives (lines : Lines config.gpio) (line : Int) (on : Bool)
    (board : Board State Bank) :
    Drives lines line
      (addressed (statusLedGpio config board.env) line [on]) board.bank
      (ledSet config on board).2.bank :=
  driveLed_drives line _ on board.bank

theorem blink_env (n : Nat) (board : Board State Bank) :
    (blink config n board).env = board.env := by
  induction n generalizing board with
  | zero => rfl
  | succ n induction => exact induction _

theorem blink_drives (line : Int) (n : Nat) (board : Board State Bank) :
    Drives lines line
      (addressed (statusLedGpio config board.env) line
        (List.replicate n [true, false]).flatten) board.bank
      (blink config n board).bank := by
  induction n generalizing board with
  | zero => exact (addressed_nil _ _).symm ▸ .refl board.bank
  | succ n induction =>
      have hlevels : (List.replicate (n + 1) [true, false]).flatten =
          [true] ++ [false] ++ (List.replicate n [true, false]).flatten := by
        rw [List.replicate_succ]
        rfl
      rw [hlevels, addressed_append, addressed_append]
      let lit := (ledSet config true board).2
      let dark := (ledSet config false lit).2
      have hon := ledSet_drives lines line true board
      have hoff := ledSet_drives lines line false lit
      exact (hon.trans hoff).trans (induction dark)

/-- One command: the line's levels, and the environment it leaves. -/
theorem doDiag_drives (lines : Lines config.gpio)
    (bus : Bus State (Fin words) (BitVec width))
    (saved : Fin words → BitVec width) (line : Int)
    (argv : List String) (board : Board State Bank) :
    Drives lines line
        (addressed (statusLedGpio config board.env) line
          (ledLevels config argv)) board.bank
        (doDiag config bus saved argv board).2.bank ∧
      (doDiag config bus saved argv board).2.env = board.env := by
  have idle : ∀ board : Board State Bank,
      Drives lines line
        (addressed (statusLedGpio config board.env) line [])
        board.bank board.bank := fun board =>
    (addressed_nil _ _).symm ▸ .refl board.bank
  have led : ∀ on, Drives lines line
      (addressed (statusLedGpio config board.env) line [on])
      board.bank (ledSet config on board).2.bank ∧
        (ledSet config on board).2.env = board.env := fun on =>
    ⟨ledSet_drives lines line on board, rfl⟩
  fun_cases doDiag config bus saved argv board with
  | case1 => exact ⟨idle board, rfl⟩
  | case2 => exact ⟨idle board, rfl⟩
  | case3 _ _ ret lit hled =>
      have hlit := led true
      rw [hled] at hlit
      exact hlit
  | case4 _ _ ret dark hled =>
      have hdark := led false
      rw [hled] at hdark
      exact hdark
  | case5 => exact ⟨blink_drives line _ board, blink_env _ board⟩
  | case6 _ _ _ hon hoff hblink =>
      have hnone : ledLevels config argv = [] := by
        fun_cases ledLevels config argv with
        | case1 => exact absurd rfl (hon _ _)
        | case2 => exact absurd rfl (hoff _ _)
        | case3 => exact absurd rfl (hblink _ _)
        | case4 => rfl
      rw [hnone]
      exact ⟨idle board, rfl⟩

end Runs

end EmbeddedPortfolio.Boot
