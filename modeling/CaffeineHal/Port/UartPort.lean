import CaffeineHal.Driver.Bits
import CaffeineHal.Peripheral.Dispatch
import CaffeineHal.Program.History
import Mathlib.Logic.Function.Basic

/-!
# The UART port template

`cfn_hal_uart_port.c` is the UART port that real ports are copied from: the table `UART_API` with four
hooks, two of which keep the flag `CFN_HAL_UART_FLAG_CONTINUOUS_RX` in `base.flags`.

The two hooks write the flag and then report NOT_SUPPORTED, so a start of the continuous reception that
failed leaves the flag set. `continuousRx_truth_iff` says that this is the only way in which the flag can
go wrong: in a run of the interface it tells the reception that is under way, exactly when the run does
not start a continuous one.
-/

set_option autoImplicit false

namespace CaffeineHal

open CaffeineHal.Program Prog

variable {W : Type}

/-! ## The hooks of the template -/

/-- `p_driver->base.flags = flags`. -/
@[simps] def Driver.setFlags (flags : UInt32) (d : Driver) : Driver :=
  { d with base := { d.base with flags := flags } }

/-- `base.flags` as a variable of type `uint32_t`. -/
def Driver.flagBits (m : DataModel) (d : Driver) : m.widths.Unsigned .int := d.base.flags.toBitVec

/-- `CFN_HAL_UART_FLAG_CONTINUOUS_RX`. -/
def uartFlagContinuousRx (D : Widths) : D.Unsigned .long := bit D 0

/-- `if (p_mask) *p_mask = 0`, in the memory of the callers. -/
def clearMask (pMask : Ptr) (words : Nat → UInt32) : Nat → UInt32 :=
  match pMask with
  | some address => Function.update words address 0
  | none => words

/-- `port_base_event_get`: the code, and the memory of the callers after it. -/
def portBaseEventGet (pEventMask : Ptr) (words : Nat → UInt32) : ErrorCode × (Nat → UInt32) :=
  (.ok, clearMask pEventMask words)

/-- `port_base_error_get`. -/
def portBaseErrorGet (pErrorMask : Ptr) (words : Nat → UInt32) : ErrorCode × (Nat → UInt32) :=
  (.ok, clearMask pErrorMask words)

/-- `port_uart_rx_n_irq`; the dispatcher does not call it on NULL. -/
def portUartRxNIrq (m : DataModel) (d : Driver) : ErrorCode × Driver :=
  let mask : m.widths.Unsigned .long := ~~~(uartFlagContinuousRx m.widths)
  (.notSupported, d.setFlags ⟨m.widths.assign .and (d.flagBits m) mask⟩)

/-- `port_uart_rx_irq`. -/
def portUartRxIrq (m : DataModel) (d : Driver) : ErrorCode × Driver :=
  (.notSupported,
    d.setFlags ⟨m.widths.assign .or (d.flagBits m) (uartFlagContinuousRx m.widths)⟩)

/-- The addresses of the four functions. -/
inductive UartPortFn where
  | baseEventGet | baseErrorGet | uartRxNIrq | uartRxIrq
  deriving DecidableEq, Repr

def UartPortFn.address : UartPortFn → FnPtr
  | baseEventGet => 1
  | baseErrorGet => 2
  | uartRxNIrq => 3
  | uartRxIrq => 4

/-- `UART_API`. -/
def uartApi : Api where
  base :=
    { init := none, deinit := none, powerStateSet := none, configSet := none
      configValidate := none, callbackRegister := none, eventEnable := none, eventDisable := none
      eventGet := some UartPortFn.baseEventGet.address
      errorEnable := none, errorDisable := none
      errorGet := some UartPortFn.baseErrorGet.address
      lock := none, unlock := none }
  specific
    | .uartRxNIrq => some UartPortFn.uartRxNIrq.address
    | .uartRxIrq => some UartPortFn.uartRxIrq.address
    | _ => none

/-- What the hooks of the template run in: the board's world, and the memory of the callers. -/
structure PortWorld (W : Type) where
  board : W
  words : Nat → UInt32

/-- The board's `on_config` hook, which leaves to the layer and to the port what is theirs: the tag, the
table and the flags. -/
structure Board (W : Type) where
  env : HalEnv W
  keeps : env.Keeps fun d => (d.base.type, d.api, d.base.flags)

/-- The hooks of a UART driver of the template: a call goes to the function at its address, and what is
not a call of the port is the board's. -/
def uartPortEnv (m : DataModel) (board : Board W) : HalEnv (PortWorld W) where
  answer c d x :=
    let onBoard :=
      let (r, d', w) := board.env.answer c d x.board
      (r, d', { x with board := w })
    match c with
    | .vmt fn (.eventGet pEventMask) =>
        if fn = UartPortFn.baseEventGet.address then
          let (r, words) := portBaseEventGet pEventMask x.words
          (r, d, { x with words := words })
        else onBoard
    | .vmt fn (.errorGet pErrorMask) =>
        if fn = UartPortFn.baseErrorGet.address then
          let (r, words) := portBaseErrorGet pErrorMask x.words
          (r, d, { x with words := words })
        else onBoard
    | .api fn _ _ =>
        if fn = UartPortFn.uartRxNIrq.address then
          let (r, d') := portUartRxNIrq m d
          (r, d', x)
        else if fn = UartPortFn.uartRxIrq.address then
          let (r, d') := portUartRxIrq m d
          (r, d', x)
        else onBoard
    | _ => onBoard

/-! ## What the hooks do to the flags -/

/-- `CFN_HAL_UART_FLAG_CONTINUOUS_RX` is set in `base.flags`. -/
def Driver.continuousRx (m : DataModel) (d : Driver) : Bool := bitIsSet m.widths (d.flagBits m) 0

section Flags

variable (m : DataModel) (d : Driver)

/-- `uint32_t` has bits, and no more than an `unsigned long`. -/
theorem uint_bits_pos : 0 < m.widths.bits .int := by
  show 0 < 32
  omega

theorem maskIndex_continuousRx : MaskIndex m.widths 0 :=
  m.maskIndex (Nat.lt_of_lt_of_le (uint_bits_pos m) (m.widths.mono Rank.int_le_long))

theorem flagBits_laws : BitLaws m.widths (d.flagBits m) 0 :=
  bitLaws_of_bits_le m.widths _ (maskIndex_continuousRx m) (uint_bits_pos m)
    (m.widths.mono Rank.int_le_long)

/-- A start of the continuous reception sets the flag and no other. -/
theorem portUartRxIrq_flagBits (i : Nat) :
    ((portUartRxIrq m d).2.flagBits m).getLsbD i =
      if i = 0 then true else (d.flagBits m).getLsbD i :=
  (flagBits_laws m d).set_bits i

/-- A reception of a number of bytes clears the flag and no other. -/
theorem portUartRxNIrq_flagBits (i : Nat) :
    ((portUartRxNIrq m d).2.flagBits m).getLsbD i =
      if i = 0 then false else (d.flagBits m).getLsbD i :=
  (flagBits_laws m d).clear_bits i

theorem portUartRxNIrq_flags_zero {d : Driver} (h : d.base.flags = 0) :
    (portUartRxNIrq m d).2.base.flags = 0 := by
  apply UInt32.toBitVec_inj.1
  apply BitVec.eq_of_getLsbD_eq
  intro i _
  have hbit := portUartRxNIrq_flagBits m d i
  rw [Driver.flagBits, Driver.flagBits, h] at hbit
  have hzero : (if i = 0 then false else (0 : UInt32).toBitVec.getLsbD i) = false := by
    split
    · rfl
    · exact BitVec.getLsbD_zero
  exact (hbit.trans hzero).trans BitVec.getLsbD_zero.symm

theorem continuousRx_eq : d.continuousRx m = (d.flagBits m).getLsbD 0 :=
  bitIsSet_eq m.widths (d.flagBits m) (maskIndex_continuousRx m)

end Flags

/-! ## Runs of the interface -/

/-- A call of the UART interface, or the owner setting the board's hook. -/
inductive UartCall where
  | wrapper (c : WrapperCall .uart)
  | configGet (driver : DriverPtr) (pConfig : Ptr)
  | setOnConfig (onConfig : Option FnPtr) (arg : Ptr)

namespace UartCall

def prog (mem : ConfigMemory) : UartCall → HalM ErrorCode
  | .wrapper c => c.prog mem
  | .configGet driver pConfig => do
      let out ← Peripheral.uart.configGet Peripheral.noConfusion driver pConfig
      return out.1
  | .setOnConfig onConfig arg => do
      Prog.modify (Driver.setOnConfig onConfig arg)
      return .ok

/-- The specific function that is called. -/
def func : UartCall → Option SpecificFn
  | .wrapper (.specific func _ _ _) => some func
  | _ => none

/-- A start or an abort of an interrupt-driven reception. -/
def controlsReception (op : UartCall) : Bool :=
  op.func = some .uartRxIrq || op.func = some .uartRxNIrq || op.func = some .uartRxIrqAbort

/-- A start of the continuous reception on the driver. -/
def startsContinuous : UartCall → Bool
  | .wrapper (.specific .uartRxIrq _ .ref _) => true
  | _ => false

theorem startsContinuous_iff {op : UartCall} :
    op.startsContinuous = true ↔
      ∃ own args, op = .wrapper (.specific .uartRxIrq own .ref args) := by
  constructor
  · intro h
    unfold startsContinuous at h
    split at h
    · exact ⟨_, _, rfl⟩
    · cases h
  · rintro ⟨own, args, rfl⟩
    rfl

theorem controlsReception_of_not_specific {c : WrapperCall .uart} (hc : ¬ c.IsSpecific) :
    (wrapper c).controlsReception = false := by
  cases c with
  | specific func own driver args => exact absurd trivial hc
  | _ => rfl

end UartCall

/-- One call of a run of the interface. -/
abbrev UartRan (W : Type) := Ran Driver HookCall ErrorCode ErrorCode (PortWorld W) UartCall

/-- The newest start or abort of a reception that returned OK. -/
def lastReception : List (UartRan W) → Option SpecificFn
  | [] => none
  | c :: older =>
      if c.op.controlsReception = true ∧ c.value = .ok then c.op.func else lastReception older

/-- After the call the flag tells which reception is under way, the other bits are as they were, and after an
error so is the flag. -/
structure FlagTells (m : DataModel) (c : UartRan W) (older : List (UartRan W)) : Prop where
  onError : c.value ≠ .ok → c.after.record.base.flags = c.before.record.base.flags
  others : ∀ i, i ≠ 0 →
    (c.after.record.flagBits m).getLsbD i = (c.before.record.flagBits m).getLsbD i
  truth : c.after.record.continuousRx m = true ↔ lastReception (c :: older) = some .uartRxIrq

/-- A driver of the template on which no reception is under way. -/
structure UartIdle (d : Driver) : Prop where
  type : d.base.type = Peripheral.uart.type
  api : d.api = some uartApi
  flags : d.base.flags = 0

theorem keptByLayer_uartIdle : KeptByLayer UartIdle :=
  ⟨fun _ _ h => ⟨h.type, h.api, h.flags⟩, fun _ _ h => ⟨h.type, h.api, h.flags⟩,
    fun _ h => ⟨h.type, h.api, h.flags⟩, fun _ _ h => ⟨h.type, h.api, h.flags⟩,
    fun _ _ _ h => ⟨h.type, h.api, h.flags⟩⟩

theorem UartIdle.specificHook {d : Driver} (h : UartIdle d) (func : SpecificFn) :
    d.specificHook func = uartApi.specific func := by
  rw [Driver.specificHook, h.api]
  rfl

/-- The template has two specific functions. -/
theorem uartApi_specific_none {func : SpecificFn} (hirq : func ≠ .uartRxIrq)
    (hn : func ≠ .uartRxNIrq) : uartApi.specific func = none := by
  unfold uartApi
  dsimp only
  split
  · exact absurd rfl hn
  · exact absurd rfl hirq
  · rfl

theorem continuousRx_of_flags_zero (m : DataModel) {d : Driver} (h : d.base.flags = 0) :
    d.continuousRx m = false := by
  rw [continuousRx_eq, Driver.flagBits, h]
  exact BitVec.getLsbD_zero

theorem lastReception_cons {c : UartRan W} (hc : c.op.controlsReception = true → c.value ≠ .ok)
    (older : List (UartRan W)) : lastReception (c :: older) = lastReception older := by
  apply if_neg
  rintro ⟨hop, hvalue⟩
  exact hc hop hvalue

/-! ## One call on an idle driver -/

/-- A call that goes to the board or to the base table. -/
def HookCall.NotApi (c : HookCall) : Prop :=
  ∀ fn slot args, c ≠ .api fn slot args

instance : BaseCalls HookCall.NotApi where
  onConfig _ _ _ := nofun
  vmt _ _ _ := nofun

section Idle

variable (m : DataModel) (board : Board W)

/-- The board and the base table leave an idle driver idle. -/
theorem uartPortEnv_maintainsOn :
    (uartPortEnv m board).MaintainsOn HookCall.NotApi UartIdle := by
  intro c d x hc hd
  have hboard : UartIdle (board.env.answer c d x.board).2.1 := by
    have hkeeps := board.keeps c d x.board
    simp only [Prod.mk.injEq] at hkeeps
    obtain ⟨htype, hapi, hflags⟩ := hkeeps
    exact ⟨htype.trans hd.type, hapi.trans hd.api, hflags.trans hd.flags⟩
  cases c with
  | api fn slot args => exact absurd rfl (hc fn slot args)
  | onConfig fn arg phase => exact hboard
  | vmt fn req =>
      cases req with
      | eventGet pMask =>
          by_cases hfn : fn = UartPortFn.baseEventGet.address
          · simp only [uartPortEnv, if_pos hfn]
            exact hd
          · simp only [uartPortEnv, if_neg hfn]
            exact hboard
      | errorGet pMask =>
          by_cases hfn : fn = UartPortFn.baseErrorGet.address
          · simp only [uartPortEnv, if_pos hfn]
            exact hd
          · simp only [uartPortEnv, if_neg hfn]
            exact hboard
      | _ => exact hboard

variable (mem : ConfigMemory) {s : HalConf (PortWorld W)} (hs : UartIdle s.record)
include hs

/-- A start of the continuous reception is refused, with the flag set. -/
theorem startsContinuous_step {op : UartCall} (hop : op.startsContinuous = true) :
    let out := run (uartPortEnv m board) (op.prog mem) s
    out.1 = .notSupported ∧ out.2.record.continuousRx m = true := by
  obtain ⟨own, args, rfl⟩ := UartCall.startsContinuous_iff.1 hop
  have hrun : DispatchedByTable (uartPortEnv m board) .uartRxIrq args s :=
    dispatchedByTable .uartRxIrq args hs.type
  rw [DispatchedByTable, hs.specificHook] at hrun
  intro out
  have hout : out = _ := hrun
  rw [hout]
  refine ⟨rfl, ?_⟩
  rw [continuousRx_eq]
  exact portUartRxIrq_flagBits m s.record 0

/-- A call of a specific function, on whichever pointer, other than a start of the continuous reception. -/
theorem specific_quiet {func : SpecificFn} (own : func.peripheral = .uart) {driver : DriverPtr}
    (args : List Arg) (hfunc : func ≠ .uartRxIrq ∨ driver = .null) :
    let out := run (uartPortEnv m board) (func.call driver args) s
    UartIdle out.2.record ∧ out.1 ≠ .ok := by
  cases driver with
  | null => exact ⟨hs, ErrorCode.noConfusion⟩
  | ref =>
      have hne : func ≠ .uartRxIrq := by
        rcases hfunc with h | h
        · exact h
        · cases h
      have htype : s.record.base.type = func.peripheral.type := by
        rw [own]
        exact hs.type
      have hrun : DispatchedByTable (uartPortEnv m board) func args s :=
        dispatchedByTable func args htype
      rw [DispatchedByTable, hs.specificHook] at hrun
      by_cases hn : func = .uartRxNIrq
      · subst hn
        intro out
        have hout : out = _ := hrun
        rw [hout]
        exact ⟨⟨hs.type, hs.api, portUartRxNIrq_flags_zero m hs.flags⟩, ErrorCode.noConfusion⟩
      · rw [uartApi_specific_none hne hn] at hrun
        intro out
        obtain ⟨hcode, hstate⟩ : out.1 ≠ .ok ∧ out.2 = s := hrun
        rw [hstate]
        exact ⟨hs, hcode⟩

/-- Any other call leaves the driver idle, and is not a reception that succeeds. -/
theorem quiet_step {op : UartCall} (hop : op.startsContinuous = false) :
    let out := run (uartPortEnv m board) (op.prog mem) s
    UartIdle out.2.record ∧ (op.controlsReception = true → out.1 ≠ .ok) := by
  cases op with
  | configGet driver pConfig =>
      have hmaintains : (UartCall.prog mem (.configGet driver pConfig)).Maintains
          HookCall.NotApi UartIdle := by
        cases driver with
        | null => exact maintains_done _
        | ref =>
            refine maintains_bind ?_ fun _ => maintains_done _
            exact maintains_bind maintains_get fun d => maintains_ite trivial trivial
      refine ⟨run_maintainsOn (uartPortEnv_maintainsOn m board) hmaintains hs, ?_⟩
      rintro ⟨⟩
  | setOnConfig onConfig arg => exact ⟨⟨hs.type, hs.api, hs.flags⟩, by rintro ⟨⟩⟩
  | wrapper c =>
      by_cases hc : c.IsSpecific
      · cases c with
        | specific func own driver args =>
            have hfunc : func ≠ .uartRxIrq ∨ driver = .null := by
              by_cases h : func = .uartRxIrq
              · subst h
                cases driver with
                | null => exact .inr rfl
                | ref => cases hop
              · exact .inl h
            obtain ⟨hidle, hcode⟩ := specific_quiet m board hs own args hfunc
            exact ⟨hidle, fun _ => hcode⟩
        | _ => exact absurd hc id
      · have hmaintains : (c.prog mem).Maintains HookCall.NotApi UartIdle :=
          c.maintains_base keptByLayer_uartIdle hc
        refine ⟨run_maintainsOn (uartPortEnv_maintainsOn m board) hmaintains hs, fun h => ?_⟩
        rw [UartCall.controlsReception_of_not_specific hc] at h
        cases h

end Idle

/-! ## The flag over a run -/

/-- The driver is idle, and no reception was started with success. -/
def UartQuiet (calls : List (UartRan W)) (s : HalConf (PortWorld W)) : Prop :=
  UartIdle s.record ∧ lastReception calls = none

section Runs

variable (m : DataModel) (mem : ConfigMemory) (board : Board W)

/-- A call on an idle driver tells the truth unless it starts a continuous reception. -/
theorem flagTells_iff (op : UartCall) {s : HalConf (PortWorld W)} {calls : List (UartRan W)}
    (h : UartQuiet calls s) :
    FlagTells m (ran (uartPortEnv m board) (UartCall.prog mem) op s) calls ↔
      op.startsContinuous = false := by
  obtain ⟨hidle, hlast⟩ := h
  constructor
  · intro htells
    cases hop : op.startsContinuous with
    | false => rfl
    | true =>
        -- The start fails and yet sets the flag.
        obtain ⟨hcode, hset⟩ := startsContinuous_step m board mem hidle hop
        have hfailed : (run (uartPortEnv m board) (op.prog mem) s).1 ≠ .ok := by
          rw [hcode]
          exact ErrorCode.noConfusion
        have hflags := (htells.onError hfailed).trans hidle.flags
        exact (Bool.false_ne_true ((continuousRx_of_flags_zero m hflags).symm.trans hset)).elim
  · intro hop
    obtain ⟨hafter, hcode⟩ := quiet_step m board mem hidle hop
    have hflags : (run (uartPortEnv m board) (op.prog mem) s).2.record.base.flags =
        s.record.base.flags := hafter.flags.trans hidle.flags.symm
    refine ⟨fun _ => hflags, fun i _ => ?_, ?_⟩
    · show (Driver.flagBits m _).getLsbD i = (Driver.flagBits m _).getLsbD i
      rw [Driver.flagBits, Driver.flagBits]
      exact congrArg (fun flags : UInt32 => flags.toBitVec.getLsbD i) hflags
    · rw [lastReception_cons hcode, hlast]
      have hclear := continuousRx_of_flags_zero m hafter.flags
      constructor
      · intro hset
        exact (Bool.false_ne_true (hclear.symm.trans hset)).elim
      · rintro ⟨⟩

/-- The flag tells which reception is under way, in the state after construction and after every call of
a run, exactly when the run does not start a continuous reception. -/
theorem continuousRx_truth_iff (memory : Driver) (config : Ptr) (phy : Nat)
    (clock dependency callback userArg : Ptr) (ops : List UartCall) (x : PortWorld W) :
    let env := uartPortEnv m board
    let s := (run env (Peripheral.uart.construct uartApi .ref config (some phy) clock dependency
      callback userArg) ⟨memory, x, []⟩).2
    (s.record.continuousRx m = false ∧
        EveryCall (FlagTells m) (history env (UartCall.prog mem) ops s)) ↔
      ∀ op ∈ ops, op.startsContinuous = false := by
  intro env s
  have hquiet : UartQuiet [] s := ⟨⟨rfl, rfl, rfl⟩, rfl⟩
  rw [and_iff_right (continuousRx_of_flags_zero m hquiet.1.flags)]
  have hstep : ∀ op (s : HalConf (PortWorld W)) calls, UartQuiet calls s →
      FlagTells m (ran env (UartCall.prog mem) op s) calls →
      UartQuiet (ran env (UartCall.prog mem) op s :: calls)
        (run env (UartCall.prog mem op) s).2 := by
    intro op s calls h htells
    have hop := (flagTells_iff m mem board op h).1 htells
    obtain ⟨hafter, hcode⟩ := quiet_step m board mem h.1 hop
    exact ⟨hafter, (lastReception_cons hcode calls).trans h.2⟩
  calc EveryCall (FlagTells m) (history env (UartCall.prog mem) ops s)
      ↔ EveryCall (fun c _ => c.op.startsContinuous = false)
          (history env (UartCall.prog mem) ops s) :=
        everyCall_history_iff UartQuiet hstep
          (fun op _ _ h => flagTells_iff m mem board op h) hquiet ops
    _ ↔ ∀ op ∈ ops, op.startsContinuous = false :=
        everyCall_history_op (Q := fun op => op.startsContinuous = false) ops s

end Runs

/-- A board whose hook succeeds. -/
def okBoard : Board Unit := ⟨.ofCodes okHooks, Env.ofCodes_keeps _ _⟩

/-- A continuous reception that the port refuses leaves the flag set. -/
theorem refused_start_sets_flag :
    let env := uartPortEnv .ilp32 okBoard
    let s := (run env (Peripheral.uart.construct uartApi .ref none (some 1) none none none none)
      ⟨zeroedDriver, ⟨(), fun _ => 0⟩, []⟩).2
    ¬ (s.record.continuousRx .ilp32 = false ∧
        EveryCall (FlagTells .ilp32)
          (history env (UartCall.prog default) [.wrapper (.specific .uartRxIrq rfl .ref [])] s)) := by
  rintro env s ⟨-, hcalls⟩
  have htells := hcalls _ _ (List.suffix_refl _)
  have hflags := htells.onError (by decide)
  revert hflags
  decide

end CaffeineHal
