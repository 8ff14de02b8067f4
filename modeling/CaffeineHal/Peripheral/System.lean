import CaffeineHal.Peripheral.Interrupted
import CaffeineHal.Program.Family
import Mathlib.Algebra.BigOperators.Ring.Finset
import Mathlib.Algebra.Order.BigOperators.Group.Finset

/-!
# A board with many drivers

A system has any number of drivers, of any peripherals, each with its own table, its own hook of the board,
its own thread and its own handler (`System`). They share the world behind the hooks: what one hook answers may
depend on everything that the other drivers have called, and their steps interleave in any way.

Every driver keeps its contract as if it were alone (`system_safe`): the world can tell the drivers apart, but no
driver can tell that there are others. And a board that counts what it has lent to all of them
(`HalEvent.lent`) counts the drivers in service: never fewer, and exactly those when the threads are done
(`shared_board_count`).
-/

set_option autoImplicit false

namespace CaffeineHal

open CaffeineHal.Program CaffeineHal.Lifecycle

variable {W ι : Type}

instance : Inhabited ErrorCode := ⟨.ok⟩

/-- What the drivers of a system are made of, and the calls of their threads. -/
structure System (ι : Type) where
  peripheral : ι → Peripheral
  mem : ι → ConfigMemory
  memory : ι → Driver
  args : ι → PopulateArgs
  onConfig : ι → FnPtr
  onConfigArg : ι → Ptr
  calls : (i : ι) → List (WrapperCall (peripheral i))

namespace System

variable (sys : System ι)

/-- A driver of the system, with no opinion of its configurations. -/
def fixture (i : ι) : Fixture where
  peripheral := sys.peripheral i
  table := (sys.args i).api.map Api.base
  onConfig := sys.onConfig i
  mem := sys.mem i
  opinion := fun _ _ => .ok
  gate := False

/-- Every driver is populated and has its hook of the board, and no thread has made a step. -/
def start (codes : ι → HookCodes W) (x : W) : Family ι Driver HookCall ErrorCode Unit W where
  threads := fun i => interfaceThread (sys.mem i) (sys.calls i)
  records := fun i => (boardedConf (sys.peripheral i) (.ofCodes (codes i)) (sys.memory i) (sys.args i)
    (sys.onConfig i) (sys.onConfigArg i) x).record
  logs := fun _ => []
  world := x

/-- A turn: a step of the thread of one driver, or a call of its handler. -/
abbrev Turn : Type :=
  (i : ι) × Option (InterruptCall (sys.peripheral i))

/-- The system after a schedule of turns. -/
def play [DecidableEq ι] (codes : ι → HookCodes W) (schedule : List sys.Turn) (x : W) :
    Family ι Driver HookCall ErrorCode Unit W :=
  Family.play codes (fun i => InterruptCall.prog (sys.mem i)) schedule (sys.start codes x)

end System

section Drivers

variable [DecidableEq ι] (sys : System ι) (codes : ι → HookCodes W)

/-- A driver of a system is safe at every step boundary, and rests when its thread is done. -/
theorem system_driver (schedule : List sys.Turn) (x : W) (i : ι) :
    let s := sys.play codes schedule x
    Safe (sys.fixture i) (s.conf i) ∧
      ((∃ r, s.threads i = .done r) → BetweenCalls (sys.fixture i) (s.conf i)) := by
  intro s
  let alone : HalConf (List ErrorCode) := (s.conf i).inWorld []
  have hsafe : Safe (sys.fixture i) alone ∧
      ((∃ r, s.threads i = .done r) → BetweenCalls (sys.fixture i) alone) := by
    refine Family.play_forall (Q := fun i p s => Safe (sys.fixture i) s ∧
      ((∃ r, p = .done r) → BetweenCalls (sys.fixture i) s)) (fun i turns answers => ?_) schedule i
    have hgates : (sys.fixture i).Gates Env.script := fun hgate => hgate.elim
    have hrest : BetweenCalls (sys.fixture i) (((sys.start codes x).conf i).inWorld answers) :=
      boardedConf_betweenCalls (.ofCodes Env.script) rfl _ _ _
    have hout := interleave_outline
      (interfaceThread_leads (service_calm hgates) hgates (sys.calls i) _ hrest) turns
    exact ⟨hout.boundary, fun ⟨r, hdone⟩ => hout.finished hdone⟩
  exact ⟨hsafe.1.ofWorld, fun hdone => (hsafe.2 hdone).ofWorld⟩

/-- Many drivers are safe as one. At every step boundary of every interleaving of the drivers' threads and
handlers, whatever the hooks make of it: the record of every driver is well formed, an INITIALIZED driver holds
its board, and its base-table hooks, `config_validate` apart, were called only while it did. -/
theorem system_safe (schedule : List sys.Turn) (x : W) :
    let s := sys.play codes schedule x
    ∀ i, Represented (sys.peripheral i) (s.records i) ∧
      ((s.records i).base.status = .initialized → BoardHeld (s.logs i)) ∧
      ∀ (e : HalEvent) older, e :: older <:+ s.logs i → e.OnBaseHook → BoardHeld older := by
  intro s i
  have hsafe : Safe (sys.fixture i) (s.conf i) := (system_driver sys codes schedule x i).1
  exact ⟨hsafe.represented, hsafe.guarded.boardHeld, fun e older hsuf he => hsafe.guarded.onBaseHook hsuf he⟩

end Drivers

/-! ## The count of the board -/

/-- What a hook call takes of the board: one for a grant, and it gives one back for a release. -/
def HalEvent.lent (e : HalEvent) : Int :=
  match e.action with
  | some (.acquire true) => 1
  | some .release => -1
  | _ => 0

theorem tallied_lent (log : List HalEvent) : tallied HalEvent.lent log = held log := by
  induction log with
  | nil => rfl
  | cons e older ih =>
      rw [tallied, ih]
      unfold HalEvent.lent held
      cases ha : e.action with
      | none =>
          have hactions : actions (e :: older) = actions older := List.filterMap_cons_none ha
          rw [hactions, zero_add]
      | some a =>
          rw [actions_cons_of_action ha]
          cases a with
          | acquire ok => cases ok <;> simp [add_comm]
          | release => simp [sub_eq_add_neg, add_comm]
          | _ => simp

/-- What is lent to a driver that is guarded. -/
theorem Guarded.lent_le {s : HalConf W} (h : Guarded s) :
    (if s.record.base.status = .initialized then 1 else 0) ≤ held s.log ∧ held s.log ≤ 1 := by
  obtain ⟨q, htrack, hq⟩ := h
  rw [held_of_track htrack]
  by_cases hs : s.record.base.status = .initialized
  · rw [if_pos hs, if_neg (hq hs)]
    exact ⟨Int.le_refl 1, Int.le_refl 1⟩
  · rw [if_neg hs]
    split <;> omega

section Count

variable [DecidableEq ι] [Fintype ι] (sys : System ι) {codes : ι → HookCodes W}

/-- The drivers in service. -/
def inService (s : Family ι Driver HookCall ErrorCode Unit W) : Finset ι :=
  Finset.univ.filter fun i => (s.records i).base.status = .initialized

/-- A shared board counts the drivers in service. Let the board count what it lends: one more for a grant,
one less for a release. At every step boundary of every interleaving of the drivers' threads and handlers, it
has lent to every driver in service and no more than once to any driver; when the threads are done, it has lent
to the drivers in service and no others. -/
theorem shared_board_count (count : W → Int) (hcount : ∀ i, Tallies HalEvent.lent count (codes i))
    (schedule : List sys.Turn) (x : W) (hzero : count x = 0) :
    let s := sys.play codes schedule x
    ((inService s).card ≤ count s.world ∧ count s.world ≤ Fintype.card ι) ∧
      ((∀ i, ∃ r, s.threads i = .done r) → count s.world = (inService s).card) := by
  intro s
  have htotal : count s.world = ∑ i, held (s.logs i) := by
    have hplay : count s.world - s.total HalEvent.lent =
        count x - (sys.start codes x).total HalEvent.lent := Family.play_total hcount schedule _
    have hstart : (sys.start codes x).total HalEvent.lent = 0 := Finset.sum_eq_zero fun _ _ => rfl
    have htallied : s.total HalEvent.lent = ∑ i, held (s.logs i) :=
      Finset.sum_congr rfl fun i _ => tallied_lent (s.logs i)
    rw [← htallied]
    omega
  have hcard : ((inService s).card : Int) =
      ∑ i, if (s.records i).base.status = .initialized then 1 else 0 := by
    rw [inService, Finset.natCast_card_filter]
  rw [htotal, hcard]
  refine ⟨⟨Finset.sum_le_sum fun i _ => ?_, ?_⟩, fun hdone => Finset.sum_congr rfl fun i _ => ?_⟩
  · exact (system_driver sys codes schedule x i).1.guarded.lent_le.1
  · refine (Finset.sum_le_sum fun i _ => (system_driver sys codes schedule x i).1.guarded.lent_le.2).trans ?_
    simp
  · have hrest := (system_driver sys codes schedule x i).2 (hdone i)
    exact (held_of_track hrest.tracked).trans (held_of_phase _)

end Count

/-- A UART and an SPI that are brought up; the UART is brought down again. -/
def uartAndSpi : System Bool where
  peripheral := fun i => if i then .uart else .spi
  mem := fun _ => default
  memory := fun _ => zeroedDriver
  args := fun _ => fullArgs
  onConfig := fun _ => 30
  onConfigArg := fun _ => none
  calls := fun i => .init .ref :: if i then [.deinit .ref] else []

/-- Hooks that succeed, with a board that counts. -/
def countingBoard : Bool → HookCodes Int :=
  fun _ c d count => (.ok, count + HalEvent.lent ⟨c, d, .ok⟩)

/-- The two take turns in the middle of their `init`, and come to their end: one is in service then. -/
theorem shared_board_count_two :
    let turns (i : Bool) (n : Nat) : List uartAndSpi.Turn := List.replicate n ⟨i, none⟩
    let s := uartAndSpi.play countingBoard (turns true 9 ++ turns false 16 ++ turns true 16) 0
    (((inService s).card ≤ s.world ∧ s.world ≤ Fintype.card Bool) ∧
        ((∀ i, ∃ r, s.threads i = .done r) → s.world = (inService s).card)) ∧
      (∀ i, ∃ r, s.threads i = .done r) ∧ s.world = 1 :=
  ⟨shared_board_count uartAndSpi id (fun _ _ _ _ => rfl) _ 0 rfl,
    fun i => ⟨⟨⟩, by cases i <;> rfl⟩, by decide +kernel⟩

end CaffeineHal
