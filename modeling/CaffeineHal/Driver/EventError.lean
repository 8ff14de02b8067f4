import CaffeineHal.Driver.Calls

/-!
# The event and error calls and a missing hook

The six event and error calls share their guards and differ in what they return where the port has no hook
for them: `event_enable` reports NOT_SUPPORTED, and the other five report OK. The caller of a getter then
takes a mask that nobody wrote for the state of the hardware.

`okFromPort_iff` says when an OK of a call is the port's own.
-/

set_option autoImplicit false

namespace CaffeineHal

open CaffeineHal.Program

variable {W : Type}

namespace ServiceCall

/-- The six event and error calls. -/
def isEventError : ServiceCall → Bool
  | .eventEnable _ _ _ | .eventDisable _ _ _ | .eventGet _ _ _ => true
  | .errorEnable _ _ _ | .errorDisable _ _ _ | .errorGet _ _ _ => true
  | _ => false

def isEventEnable : ServiceCall → Bool
  | .eventEnable _ _ _ => true
  | _ => false

/-- The driver that a call is made on. -/
def pBase : ServiceCall → DriverPtr
  | .configSet p _ _ | .configValidate p _ _ | .callbackRegister p _ _ _ => p
  | .powerStateSet p _ _ | .eventEnable p _ _ | .eventDisable p _ _ | .eventGet p _ _ => p
  | .errorEnable p _ _ | .errorDisable p _ _ | .errorGet p _ _ => p

/-- The tag that a call expects. -/
def expectedType : ServiceCall → PeripheralType
  | .configSet _ ty _ | .configValidate _ ty _ | .callbackRegister _ ty _ _ => ty
  | .powerStateSet _ ty _ | .eventEnable _ ty _ | .eventDisable _ ty _ | .eventGet _ ty _ => ty
  | .errorEnable _ ty _ | .errorDisable _ ty _ | .errorGet _ ty _ => ty

/-- The output pointer of a getter is NULL. -/
def outputNull : ServiceCall → Bool
  | .eventGet _ _ pMask | .errorGet _ _ pMask => pMask.isNone
  | _ => false

/-- What an event or error call returns where its slot is NULL. -/
def missingCode (c : ServiceCall) : ErrorCode :=
  if c.isEventEnable then .notSupported else .ok

theorem request_isEventError {c : ServiceCall} (hc : c.isEventError = true) :
    c.request.isEventError = true := by
  cases c <;> first | rfl | cases hc

theorem eventError_prog {c : ServiceCall} (hc : c.isEventError = true) :
    c.prog = eventErrorCall c.pBase c.expectedType c.outputNull c.missingCode c.request := by
  cases c with
  | configSet _ _ _ => cases hc
  | configValidate _ _ _ => cases hc
  | callbackRegister _ _ _ _ => cases hc
  | powerStateSet _ _ _ => cases hc
  | _ => rfl

end ServiceCall

/-- An event or error call. -/
abbrev EventErrorCall := { c : ServiceCall // c.isEventError = true }

/-- An OK of the call is the port's: the driver is INITIALIZED, the slot is set, and its hook was called
once, with the arguments of the call, and returned OK. -/
def OkFromPort (env : HalEnv W) (c : ServiceCall) (s : HalConf W) : Prop :=
  (run env c.prog s).1 = .ok →
    s.record.base.status = .initialized ∧
      ∃ fn, s.record.base.hook c.request = some fn ∧
        (run env c.prog s).2.log = ⟨.vmt fn c.request, s.record, .ok⟩ :: s.log

/-- The guards let the call pass. -/
structure Admitted (c : ServiceCall) (d : Driver) : Prop where
  linked : Linked c.pBase c.expectedType d
  output : c.outputNull = false
  status : d.base.status = .initialized

section Calls

variable (env : HalEnv W) {pBase : DriverPtr} {expectedType : PeripheralType} {argNull : Bool}
  (missing : ErrorCode) (req : BaseRequest) {s : HalConf W}

/-- A call that a guard stops fails and does nothing; past the tests of its pointers it is the status that
stopped it. -/
theorem run_eventErrorCall_stopped
    (h : ¬ (Linked pBase expectedType s.record ∧ argNull = false ∧
      s.record.base.status = .initialized)) :
    ∃ r, r ≠ .ok ∧ run env (eventErrorCall pBase expectedType argNull missing req) s = (r, s) ∧
      (Linked pBase expectedType s.record → argNull = false → r = .driverNotInit) := by
  by_cases hpointers : Linked pBase expectedType s.record ∧ argNull = false
  · obtain ⟨hl, harg⟩ := hpointers
    have hs : s.record.base.status ≠ .initialized := fun hs => h ⟨hl, harg, hs⟩
    refine ⟨.driverNotInit, ErrorCode.noConfusion, ?_, fun _ _ => rfl⟩
    simp only [eventErrorCall, run_bind, run_linkRejects, decide_eq_true hl, harg, Bool.not_true,
      Bool.or_false, Bool.false_eq_true, if_false, run_get, ne_eq, hs, not_false_eq_true, if_true,
      Prog.pure_eq, run_done]
  · refine ⟨.badParam, ErrorCode.noConfusion, ?_, fun hl harg => absurd ⟨hl, harg⟩ hpointers⟩
    have hrejects : (!decide (Linked pBase expectedType s.record) || argNull) = true := by
      rw [Bool.or_eq_true, Bool.not_eq_true', decide_eq_false_iff_not]
      by_cases hl : Linked pBase expectedType s.record
      · right
        cases argNull with
        | true => rfl
        | false => exact absurd ⟨hl, rfl⟩ hpointers
      · left
        exact hl
    simp only [eventErrorCall, run_bind, run_linkRejects, hrejects, if_true, Prog.pure_eq, run_done]

/-- A call that the guards let pass goes to its slot. -/
theorem run_eventErrorCall_admitted (hl : Linked pBase expectedType s.record)
    (harg : argNull = false) (hs : s.record.base.status = .initialized) :
    run env (eventErrorCall pBase expectedType argNull missing req) s =
      run env (callSlot s.record.base.vmt req missing) s := by
  simp only [eventErrorCall, run_bind, run_linkRejects, decide_eq_true hl, harg, Bool.not_true,
    Bool.or_false, Bool.false_eq_true, if_false, run_get, ne_eq, hs, not_true_eq_false]

theorem run_callSlot_hook {fn : FnPtr} (h : s.record.base.hook req = some fn) :
    run env (callSlot s.record.base.vmt req missing) s =
      (s.reply env (.vmt fn req), s.answered env (.vmt fn req)) := by
  rw [callSlot, show (s.record.base.vmt.bind fun t => t.slot req) = some fn from h]
  rfl

theorem run_callSlot_missing (h : s.record.base.hook req = none) :
    run env (callSlot s.record.base.vmt req missing) s = (missing, s) := by
  rw [callSlot, show (s.record.base.vmt.bind fun t => t.slot req) = none from h]
  rfl

end Calls

section OkFromPort

variable (env : HalEnv W) {c : ServiceCall} (hc : c.isEventError = true) {s : HalConf W}
include hc

/-- A call that a guard stops reports no OK at all. -/
theorem okFromPort_of_stopped (h : ¬ Admitted c s.record) : OkFromPort env c s := by
  have hstopped : ¬ (Linked c.pBase c.expectedType s.record ∧ c.outputNull = false ∧
      s.record.base.status = .initialized) := by
    rintro ⟨hl, houtput, hs⟩
    exact h ⟨hl, houtput, hs⟩
  obtain ⟨r, hr, hrun, -⟩ := run_eventErrorCall_stopped env c.missingCode c.request hstopped
  unfold OkFromPort
  rw [ServiceCall.eventError_prog hc, hrun]
  intro hok
  exact absurd hok hr

/-- Where the port has the hook, the code and the one call of the log are the hook's. -/
theorem okFromPort_of_hook (h : Admitted c s.record) {fn : FnPtr}
    (hhook : s.record.base.hook c.request = some fn) : OkFromPort env c s := by
  unfold OkFromPort
  rw [ServiceCall.eventError_prog hc, run_eventErrorCall_admitted env _ _ h.linked h.output h.status,
    run_callSlot_hook env _ _ hhook]
  intro hok
  have hreply : s.reply env (.vmt fn c.request) = .ok := hok
  refine ⟨h.status, fn, hhook, ?_⟩
  rw [Conf.answered_log, hreply]

/-- Where it has none, only `event_enable` does not report OK. -/
theorem okFromPort_missing_iff (h : Admitted c s.record)
    (hhook : s.record.base.hook c.request = none) :
    OkFromPort env c s ↔ c.isEventEnable = true := by
  unfold OkFromPort
  rw [ServiceCall.eventError_prog hc, run_eventErrorCall_admitted env _ _ h.linked h.output h.status,
    run_callSlot_missing env _ _ hhook, hhook]
  unfold ServiceCall.missingCode
  cases c.isEventEnable with
  | true =>
      refine ⟨fun _ => rfl, fun _ hok => ?_⟩
      cases hok
  | false =>
      constructor
      · intro hport
        obtain ⟨-, fn, hfn, -⟩ := hport rfl
        cases hfn
      · rintro ⟨⟩

end OkFromPort

/-- An OK of an event or error call is the port's exactly when the call is not one of the five that pass
over a missing hook, on a live driver whose port has none. The hooks may return and write anything. -/
theorem okFromPort_iff (env : HalEnv W) (c : EventErrorCall) (s : HalConf W) :
    OkFromPort env c.1 s ↔
      ¬ (c.1.isEventEnable = false ∧ Admitted c.1 s.record ∧
        s.record.base.hook c.1.request = none) := by
  obtain ⟨c, hc⟩ := c
  by_cases hadmitted : Admitted c s.record
  · cases hhook : s.record.base.hook c.request with
    | some fn =>
        refine ⟨?_, fun _ => okFromPort_of_hook env hc hadmitted hhook⟩
        rintro - ⟨-, -, hmissing⟩
        cases hmissing
    | none =>
        rw [okFromPort_missing_iff env hc hadmitted hhook, ← Bool.not_eq_false]
        constructor
        · rintro henable ⟨hother, -, -⟩
          exact henable hother
        · intro h hother
          exact h ⟨hother, hadmitted, rfl⟩
  · refine ⟨?_, fun _ => okFromPort_of_stopped env hc hadmitted⟩
    rintro - ⟨-, h, -⟩
    exact hadmitted h

/-- Reading the events of a live driver whose port does not implement it is OK, and nobody was asked. -/
theorem not_okFromPort_eventGet :
    let env : HalEnv Unit := .ofCodes okHooks
    let table : ApiBase := { fullTable with eventGet := none }
    let populated := run env (populateDriver .ref Peripheral.uart.type 0 none none
      (some ⟨table, fun _ => none⟩) (some 1) (some 0) none none) ⟨zeroedDriver, (), []⟩
    let s := (run env (baseInit .ref Peripheral.uart.type) populated.2).2
    ¬ OkFromPort env (.eventGet .ref Peripheral.uart.type (some 100)) s := by
  intro env table populated s h
  obtain ⟨-, fn, hfn, -⟩ := h (by decide)
  cases hfn

end CaffeineHal
