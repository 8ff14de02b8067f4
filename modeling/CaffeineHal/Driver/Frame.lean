import CaffeineHal.Driver.Base
import CaffeineHal.Program.Frame

/-!
# What the base layer writes and calls

The functions of the base layer write the status and the power state of a driver, and the wrappers the
table pointer, the configuration and the callback. What does not depend on these fields
(`KeptByLayer`) every function keeps, whatever hooks it calls, if the hooks keep it. The two lock
functions apart, they call the board's hook and the base-table hooks other than the lock operations
(`BaseCalls`).
-/

set_option autoImplicit false

namespace CaffeineHal

open CaffeineHal.Program Prog

/-- `inv` does not depend on the fields that the functions of the layer write, population apart. -/
structure KeptByLayer (inv : Driver → Prop) : Prop where
  setStatus : ∀ status d, inv d → inv (d.setStatus status)
  setPowerState : ∀ state d, inv d → inv (d.setPowerState state)
  linkVmt : ∀ d, inv d → inv d.linkVmt
  setConfig : ∀ pConfig d, inv d → inv (d.setConfig pConfig)
  setCallback : ∀ callback pUserArg d, inv d → inv (d.setCallback callback pUserArg)

/-- The layer does not write the type tag. -/
theorem keptByLayer_type (ty : PeripheralType) : KeptByLayer fun d => d.base.type = ty :=
  ⟨fun _ _ h => h, fun _ _ h => h, fun _ h => h, fun _ _ h => h, fun _ _ _ h => h⟩

/-- Once `base.vmt` is the table of `api`, linking it again leaves it. -/
theorem keptByLayer_vmt (t : ApiBase) :
    KeptByLayer fun d => d.base.vmt = some t ∧ d.api.map Api.base = some t :=
  ⟨fun _ _ h => h, fun _ _ h => h, fun _ h => ⟨h.2, h.2⟩, fun _ _ h => h, fun _ _ _ h => h⟩

/-- `calls` has every call that the functions of the base layer make, the two lock functions apart. -/
class BaseCalls (calls : HookCall → Prop) : Prop where
  onConfig : ∀ fn arg phase, calls (.onConfig fn arg phase)
  vmt : ∀ fn req, req.isLocking = false → calls (.vmt fn req)

instance : BaseCalls HookCall.LeavesLock where
  onConfig _ _ _ := nofun
  vmt _ req hreq := by
    rintro fn req' ⟨⟩
    exact hreq

section Maintains

variable {calls : HookCall → Prop} {inv : Driver → Prop}

theorem typeRejects_maintains (pBase : DriverPtr) (ty : PeripheralType) :
    (typeRejects pBase ty).Maintains calls inv := by
  cases pBase with
  | null => exact maintains_done _
  | ref => exact maintains_bind maintains_get fun _ => maintains_done _

theorem linkRejects_maintains (pBase : DriverPtr) (ty : PeripheralType) :
    (linkRejects pBase ty).Maintains calls inv := by
  cases pBase with
  | null => exact maintains_done _
  | ref => exact maintains_bind maintains_get fun _ => maintains_done _

variable [BaseCalls calls]

theorem callSlot_maintains (pApi : Option ApiBase) (req : BaseRequest) (missing : ErrorCode)
    (hreq : req.isLocking = false) :
    (callSlot pApi req missing).Maintains calls inv := by
  unfold callSlot
  cases (pApi.bind fun t => t.slot req) with
  | none => exact maintains_done _
  | some fn => exact maintains_request (BaseCalls.vmt fn req hreq)

theorem callOnConfig_maintains (phase : ConfigPhase) :
    (callOnConfig phase).Maintains calls inv := by
  refine maintains_bind maintains_get fun d => ?_
  cases d.base.onConfig with
  | none => exact maintains_done _
  | some fn => exact maintains_request (BaseCalls.onConfig fn _ phase)

theorem baseConfigSet_maintains (pBase : DriverPtr) (ty : PeripheralType) (pConfig : Ptr) :
    (baseConfigSet pBase ty pConfig).Maintains calls inv := by
  refine maintains_bind (typeRejects_maintains pBase ty) fun _ => maintains_ite trivial ?_
  refine maintains_bind maintains_get fun _ => maintains_ite ?_ trivial
  refine maintains_bind maintains_get fun d => maintains_ite trivial ?_
  refine maintains_bind (callSlot_maintains d.base.vmt _ _ rfl) fun _ => maintains_ite ?_ trivial
  exact callSlot_maintains d.base.vmt _ _ rfl

theorem baseConfigValidate_maintains (pBase : DriverPtr) (ty : PeripheralType) (pConfig : Ptr) :
    (baseConfigValidate pBase ty pConfig).Maintains calls inv := by
  refine maintains_bind (typeRejects_maintains pBase ty) fun _ => maintains_ite trivial ?_
  exact maintains_bind maintains_get fun d => callSlot_maintains d.base.vmt _ _ rfl

theorem baseCallbackRegister_maintains (pBase : DriverPtr) (ty : PeripheralType)
    (pCallback pUserArg : Ptr) :
    (baseCallbackRegister pBase ty pCallback pUserArg).Maintains calls inv := by
  refine maintains_bind (typeRejects_maintains pBase ty) fun _ => maintains_ite trivial ?_
  refine maintains_bind maintains_get fun _ => maintains_ite ?_ trivial
  exact maintains_bind maintains_get fun d => callSlot_maintains d.base.vmt _ _ rfl

theorem eventErrorCall_maintains (pBase : DriverPtr) (ty : PeripheralType) (argNull : Bool)
    (missing : ErrorCode) (req : BaseRequest) (hreq : req.isLocking = false) :
    (eventErrorCall pBase ty argNull missing req).Maintains calls inv := by
  refine maintains_bind (linkRejects_maintains pBase ty) fun _ => maintains_ite trivial ?_
  refine maintains_bind maintains_get fun _ => maintains_ite trivial ?_
  exact maintains_bind maintains_get fun d => callSlot_maintains d.base.vmt _ _ hreq

variable (h : KeptByLayer inv)
include h

theorem baseInit_maintains (pBase : DriverPtr) (ty : PeripheralType) :
    (baseInit pBase ty).Maintains calls inv := by
  -- Down the source line by line; the status is the only field written.
  refine maintains_bind (linkRejects_maintains pBase ty) fun _ => maintains_ite trivial ?_
  refine maintains_bind maintains_get fun _ => maintains_ite trivial ?_
  refine maintains_bind (callOnConfig_maintains .init) fun _ => maintains_ite trivial ?_
  refine maintains_bind maintains_get fun d => ?_
  refine maintains_bind (callSlot_maintains d.base.vmt _ _ rfl) fun _ => maintains_ite ?_ ?_
  · exact maintains_bind (maintains_modify (h.setStatus _)) fun _ => maintains_done _
  · exact maintains_bind (callOnConfig_maintains .deinit) fun _ => maintains_done _

theorem baseDeinit_maintains (pBase : DriverPtr) (ty : PeripheralType) :
    (baseDeinit pBase ty).Maintains calls inv := by
  refine maintains_bind (linkRejects_maintains pBase ty) fun _ => maintains_ite trivial ?_
  refine maintains_bind maintains_get fun _ => maintains_ite trivial ?_
  refine maintains_bind maintains_get fun _ => maintains_ite trivial ?_
  refine maintains_bind maintains_get fun d => ?_
  refine maintains_bind (callSlot_maintains d.base.vmt _ _ rfl) fun _ => maintains_ite ?_ trivial
  refine maintains_bind (maintains_modify (h.setStatus _)) fun _ => ?_
  exact callOnConfig_maintains .deinit

theorem powerStateSet_maintains (pBase : DriverPtr) (ty : PeripheralType) (state : PowerState) :
    (powerStateSet pBase ty state).Maintains calls inv := by
  refine maintains_bind (typeRejects_maintains pBase ty) fun _ => maintains_ite trivial ?_
  refine maintains_bind maintains_get fun _ => maintains_ite trivial ?_
  refine maintains_bind maintains_get fun _ => maintains_ite ?_ ?_
  · refine maintains_bind maintains_get fun d => ?_
    refine maintains_bind (callSlot_maintains d.base.vmt _ _ rfl) fun _ => maintains_ite ?_ trivial
    exact maintains_bind (maintains_modify (h.setPowerState _)) fun _ => maintains_done _
  · exact maintains_bind (maintains_modify (h.setPowerState _)) fun _ => maintains_done _

end Maintains

end CaffeineHal
