import CaffeineHal.Driver.Effect
import CaffeineHal.Peripheral.ConfigSet

/-!
# Registering a callback

The 22 wrappers store the callback and its argument, and then ask the base layer, which tests the tag and
asks the port of a live driver. Nobody takes the two fields back when the answer is an error: a driver of
another peripheral, or one whose port refused, runs the callback that it rejected.

`callbackRegister_atomic_iff` says which calls leave the fields when they fail. `cfn_hal_power_state_set`,
which asks first and writes after, always does (`powerStateSet_keeps`).
-/

set_option autoImplicit false

namespace CaffeineHal

open CaffeineHal.Program

variable {W : Type}

/-- The base layer refuses the registration on a driver: it has another tag, or it is live and its port
answers an error. -/
def CallbackRefused (P : Peripheral) (codes : HookCodes W) (callback pUserArg : Ptr) (d : Driver)
    (x : W) : Prop :=
  d.base.type ≠ P.type ∨ (d.base.status = .initialized ∧
    (portAnswer codes (.callbackRegister callback pUserArg) .ok d x).1 ≠ .ok)

/-- The driver shows the callback and the argument that it showed before. -/
def SameCallback (before after : Driver) : Prop :=
  after.cb = before.cb ∧ after.cbUserArg = before.cbUserArg

/-- The call stores another callback or another argument, and is refused then. -/
def RefusedAfterStore (P : Peripheral) (codes : HookCodes W) (driver : DriverPtr)
    (callback pUserArg : Ptr) (s : HalConf W) : Prop :=
  let stored := s.record.setCallback callback pUserArg
  driver = .ref ∧ ¬ SameCallback s.record stored ∧
    CallbackRefused P codes callback pUserArg stored s.world

section Register

variable (codes : HookCodes W) {s : HalConf W} {P : Peripheral}

/-- `cfn_hal_base_callback_register` leaves the record, and fails where it refuses. -/
theorem run_baseCallbackRegister (callback pUserArg : Ptr) :
    let out := run (.ofCodes codes) (baseCallbackRegister .ref P.type callback pUserArg) s
    out.2.record = s.record ∧
      (out.1 ≠ .ok ↔ CallbackRefused P codes callback pUserArg s.record s.world) := by
  intro out
  refine ⟨run_record_eq codes (baseCallbackRegister_maintains .ref P.type callback pUserArg), ?_⟩
  unfold CallbackRefused
  by_cases htype : s.record.base.type = P.type
  swap
  · have hnot : ¬ Typed .ref P.type s.record := fun ht => htype ht.2
    have hout : out = (.badParam, s) := by
      simp only [out, baseCallbackRegister, run_bind, run_typeRejects_of_not hnot, if_true,
        Prog.pure_eq, run_done]
    rw [hout]
    exact iff_of_true ErrorCode.noConfusion (.inl htype)
  have ht : Typed .ref P.type s.record := ⟨rfl, htype⟩
  by_cases hs : s.record.base.status = .initialized
  · -- A live driver: the answer of the port is the result.
    obtain ⟨hr, -, -⟩ := run_callSlot codes (.callbackRegister callback pUserArg) .ok s
    have hout : out.1 = (portAnswer codes (.callbackRegister callback pUserArg) .ok
        s.record s.world).1 := by
      simp only [out, baseCallbackRegister, run_bind, ht.run_typeRejects, Bool.false_eq_true,
        if_false, run_get, hs, if_true]
      exact hr
    rw [hout]
    simp [htype, hs]
  · have hout : out = (.ok, s) := by
      simp only [out, baseCallbackRegister, run_bind, ht.run_typeRejects, Bool.false_eq_true,
        if_false, run_get, hs, Prog.pure_eq, run_done]
    rw [hout]
    simp [htype, hs]

/-- Exactly the calls that are not refused after the store are atomic. For every peripheral, driver
record, callback and argument, whatever the port answers. -/
theorem callbackRegister_atomic_iff (P : Peripheral) (codes : HookCodes W) (driver : DriverPtr)
    (callback pUserArg : Ptr) (s : HalConf W) :
    let out := run (.ofCodes codes) (P.callbackRegister driver callback pUserArg) s
    (out.1 ≠ .ok → SameCallback s.record out.2.record) ↔
      ¬ RefusedAfterStore P codes driver callback pUserArg s := by
  intro out
  cases driver with
  | null =>
      constructor
      · intro _ h
        exact DriverPtr.noConfusion h.1
      · intro _ _
        exact ⟨rfl, rfl⟩
  | ref =>
      -- The wrapper writes both fields, and the base layer runs on the driver that shows them.
      obtain ⟨hrec, hfail⟩ := run_baseCallbackRegister codes (P := P)
        (s := s.written (Driver.setCallback callback pUserArg)) callback pUserArg
      have hrec : out.2.record = s.record.setCallback callback pUserArg := hrec
      have hfail : out.1 ≠ .ok ↔ CallbackRefused P codes callback pUserArg
          (s.record.setCallback callback pUserArg) s.world := hfail
      rw [hrec, hfail]
      constructor
      · rintro hkeep ⟨-, hother, hrefused⟩
        exact hother (hkeep hrefused)
      · intro hnot hrefused
        by_contra hother
        exact hnot ⟨rfl, hother, hrefused⟩

/-- The power state is written after the port agreed: a call that fails leaves the whole record. -/
theorem powerStateSet_keeps (driver : DriverPtr) (state : PowerState)
    (hr : (run (.ofCodes codes) (P.powerStateSet driver state) s).1 ≠ .ok) :
    (run (.ofCodes codes) (P.powerStateSet driver state) s).2.record = s.record := by
  cases driver with
  | null => rfl
  | ref =>
      have hframe := (powerStateSet_outcome codes .ref P.type state s).frame
      refine hframe.failed hr ?_
      rintro ⟨⟨⟩, -⟩

end Register

/-- A port that is busy when a callback is registered. -/
def busyForCallbacks : HookCodes Unit := fun c _ _ =>
  match c with
  | .vmt _ (.callbackRegister _ _) => (.busy, ())
  | _ => (.ok, ())

/-- A live UART whose port refuses a callback reports the error, and shows the callback. -/
theorem refused_callback_stored :
    let env : HalEnv Unit := .ofCodes busyForCallbacks
    let s := (run env (Peripheral.uart.init default .ref)
      (populatedConf .uart env zeroedDriver fullArgs ())).2
    let out := run env (Peripheral.uart.callbackRegister .ref (some 2) (some 3)) s
    ¬ (out.1 ≠ .ok → SameCallback s.record out.2.record) := by
  intro env s out hkeep
  have hcb := (hkeep (by decide)).1
  exact absurd hcb (by decide)

end CaffeineHal
