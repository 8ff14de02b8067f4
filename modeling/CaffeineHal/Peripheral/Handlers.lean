import CaffeineHal.Peripheral.Bound
import CaffeineHal.Peripheral.Interrupted

/-!
# Which calls a handler may make

`interface_interrupt_safe` keeps `init` and `deinit` from the interrupt handler. `handlerSafe_iff` says that
nothing less will do and nothing more is needed: a set of calls is safe for a handler, with every thread, every
port and every schedule, exactly if neither of the two is in it with the driver.

Each of the two races with a test of the status in the thread. A `deinit` between the test and the hook of an event
call has the hook called when the board is gone (`deinit_race`). An `init` between the test and the bring-up of
another has the rollback of the one take the board from the other (`init_race`).
-/

set_option autoImplicit false

namespace CaffeineHal

open CaffeineHal.Program CaffeineHal.Lifecycle

variable {W : Type}

/-- The calls of a handler that may make these. -/
def handlerCalls {P : Peripheral} (mem : ConfigMemory) (may : WrapperCall P → Prop) (c : Subtype may) :
    HalM ErrorCode :=
  c.1.prog mem

/-- What the interrupts must leave intact: the record is well formed, an INITIALIZED driver holds its board, and
the hooks of the base table, `config_validate` apart, were called only while the board was held. -/
structure BoardSafe (P : Peripheral) (s : HalConf W) : Prop where
  represented : Represented P s.record
  held : s.record.base.status = .initialized → BoardHeld s.log
  onBaseHook : ∀ (e : HalEvent) older, e :: older <:+ s.log → e.OnBaseHook → BoardHeld older

/-- A handler that may make these calls is safe with every thread, on every port and in every schedule. -/
def HandlerSafe (P : Peripheral) (may : WrapperCall P → Prop) : Prop :=
  ∀ (W : Type) (mem : ConfigMemory) (codes : HookCodes W) (memory : Driver) (args : PopulateArgs)
    (fn : FnPtr) (arg : Ptr) (calls : List (WrapperCall P)) (schedule : List (Option (Subtype may))) (x : W),
    BoardSafe P (interleave (.ofCodes codes) (handlerCalls mem may) schedule
      (interfaceThread mem calls, boardedConf P (.ofCodes codes) memory args fn arg x)).2

/-! ## The calls that are safe -/

theorem Peripheral.init_null (P : Peripheral) (mem : ConfigMemory) : P.init mem .null = .done .badParam := by
  cases P <;> rfl

/-- A handler that does not start or stop the driver leaves every sound stage as it is. -/
theorem handlerCalls_calm {f : Fixture} {codes : HookCodes W} (hgates : f.Gates codes)
    {may : WrapperCall f.peripheral → Prop} (hinit : ¬ may (.init .ref)) (hdeinit : ¬ may (.deinit .ref)) :
    Calm f codes (handlerCalls f.mem may) := by
  rintro g hg ⟨c, hc⟩ s h
  cases hl : c.isLifecycle with
  | false => exact service_calm hgates g hg ⟨c, hl⟩ s h
  | true =>
      cases c with
      | init driver =>
          cases driver with
          | null =>
              show StandsAt f g (run (.ofCodes codes) (f.peripheral.init f.mem .null) s).2
              rw [Peripheral.init_null]
              exact h
          | ref => exact absurd hc hinit
      | deinit driver =>
          cases driver with
          | null => exact h
          | ref => exact absurd hc hdeinit
      | _ => cases hl

/-! ## The two that race -/

/-- The turns that an `init` takes up to its test of the status. -/
def Peripheral.turnsToTest (P : Peripheral) : Nat :=
  if P = .gpio then 4 else 8

/-- A thread on a driver of a full port takes some turns, the handler makes one call, and the thread goes on. -/
def raced (P : Peripheral) (codes : HookCodes W) (calls : List (WrapperCall P)) (turns : Nat)
    (c : WrapperCall P) (x : W) : HalConf W :=
  (interleave (.ofCodes codes) (WrapperCall.prog acceptedMemory)
    (List.replicate turns none ++ some c :: List.replicate 5 none)
    (interfaceThread acceptedMemory calls, boardedConf P (.ofCodes codes) zeroedDriver fullArgs 30 none x)).2

/-- Hooks that succeed, but for the second `init` of the port. -/
def secondStartFails : HookCodes Bool := fun c _ started =>
  match c with
  | .vmt _ .init => (if started then .fail else .ok, true)
  | _ => (.ok, started)

/-- An `init` between the test of the status and the rest of another one: the handler's succeeds, the thread's
fails at the port, and its rollback gives back the board that the driver still needs. -/
theorem init_race (P : Peripheral) :
    let s := raced P secondStartFails [.init .ref] P.turnsToTest (.init .ref) false
    s.record.base.status = .initialized ∧ (actions s.log).find? BringupAction.onBoard = some .release := by
  cases P <;> decide +kernel

/-- A `deinit` between the test of the status and the hook of an event call: the hook is called when the board
is gone. -/
theorem deinit_race (P : Peripheral) :
    let s := raced P okHooks [.init .ref, .eventEnable .ref 0] (P.turnsToTest + 6) (.deinit .ref) ()
    s.log.head?.map (fun e => e.call) = some (.vmt 7 (.eventEnable 0)) ∧
      (actions s.log.tail).find? BringupAction.onBoard = some .release := by
  cases P <;> decide +kernel

/-- A handler that may make the call may race with it. -/
theorem HandlerSafe.ofRace {P : Peripheral} {may : WrapperCall P → Prop} (h : HandlerSafe P may)
    {c : WrapperCall P} (hc : may c) (codes : HookCodes W) (calls : List (WrapperCall P)) (turns : Nat) (x : W) :
    BoardSafe P (raced P codes calls turns c x) := by
  let schedule : List (Option (Subtype may)) :=
    List.replicate turns none ++ some ⟨c, hc⟩ :: List.replicate 5 none
  have hschedule : schedule.map (Option.map Subtype.val) =
      List.replicate turns none ++ some c :: List.replicate 5 none := by
    simp only [schedule, List.map_append, List.map_cons, List.map_replicate, Option.map_none, Option.map_some]
  have hs := h W acceptedMemory codes zeroedDriver fullArgs 30 none calls schedule x
  have hmap := interleave_map (.ofCodes codes) (WrapperCall.prog (P := P) acceptedMemory)
    (Subtype.val (p := may)) schedule
    (interfaceThread acceptedMemory calls, boardedConf P (.ofCodes codes) zeroedDriver fullArgs 30 none x)
  rw [hschedule] at hmap
  unfold raced
  rw [← hmap]
  exact hs

theorem not_boardHeld_of_release {log : List HalEvent}
    (h : (actions log).find? BringupAction.onBoard = some .release) : ¬ BoardHeld log := by
  intro hheld
  cases hheld.symm.trans h

/-- A handler may make every call but `init` and `deinit`. A set of calls of an interface is safe for an
interrupt handler, as `BoardSafe` has it and whatever the thread calls, the hooks answer and the schedule is, if
and only if it has neither an `init` nor a `deinit` of the driver. -/
theorem handlerSafe_iff (P : Peripheral) (may : WrapperCall P → Prop) :
    HandlerSafe P may ↔ ¬ may (.init .ref) ∧ ¬ may (.deinit .ref) := by
  constructor
  · intro hsafe
    constructor
    · intro hmay
      obtain ⟨hlive, hreleased⟩ := init_race P
      have hs := hsafe.ofRace hmay secondStartFails [.init .ref] P.turnsToTest false
      exact not_boardHeld_of_release hreleased (hs.held hlive)
    · intro hmay
      obtain ⟨hhead, hreleased⟩ := deinit_race P
      have hs := hsafe.ofRace hmay okHooks [.init .ref, .eventEnable .ref 0] (P.turnsToTest + 6) ()
      generalize raced P okHooks _ _ _ () = s at hhead hreleased hs
      obtain ⟨e, hlast, hcall⟩ := Option.map_eq_some_iff.1 hhead
      have hport : HalEvent.OnBaseHook e := ⟨7, .eventEnable 0, hcall, fun _ => BaseRequest.noConfusion⟩
      have hsuffix : e :: s.log.tail <:+ s.log := by
        rw [List.cons_head?_tail hlast]
      exact not_boardHeld_of_release hreleased (hs.onBaseHook e _ hsuffix hport)
  · rintro ⟨hinit, hdeinit⟩ W mem codes memory args fn arg calls schedule x
    let f : Fixture := portFixture P mem args fn
    have hgates : f.Gates codes := portFixture_gates P mem args fn codes
    have hrest : BetweenCalls f (boardedConf P (.ofCodes codes) memory args fn arg x) :=
      boardedConf_betweenCalls (f := f) (.ofCodes codes) rfl memory arg x
    have hcalm : Calm f codes (handlerCalls mem may) := handlerCalls_calm (f := f) hgates hinit hdeinit
    have hsafe := (interfaceThread_leads hcalm hgates calls _ hrest).interleave_inv schedule
    exact ⟨hsafe.represented, hsafe.guarded.boardHeld,
      fun e older hsuf he => hsafe.guarded.onBaseHook hsuf he⟩

end CaffeineHal
