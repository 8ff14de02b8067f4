import CaffeineHal.Lifecycle.Handler
import CaffeineHal.Peripheral.Representation

/-!
# The stages of a driver under an interrupt handler

Between two steps of a call, a driver of a peripheral stands at a stage: the status that its record shows,
the phase of the bring-up that its hook calls have led to, and what is known of the configuration that it
stores. A stage is sound when an INITIALIZED driver holds its board and stores a configuration that fits.

The rules of this module lead a program from stage to stage under any handler that leaves every sound stage
as it is (`Calm`): `stage_get` for what is read of the record, `stage_modify` for a write and `stage_request`
for a hook call.
-/

set_option autoImplicit false

namespace CaffeineHal

open CaffeineHal.Program CaffeineHal.Lifecycle

variable {W : Type}

/-- What stays as it is while a driver's interface is used: its peripheral, its table, the hook of the board
and the memory of the configurations; and the port's opinion of them, where `gate` holds. -/
structure Fixture where
  peripheral : Peripheral
  table : Option ApiBase
  onConfig : FnPtr
  mem : ConfigMemory
  opinion : FnPtr → Ptr → ErrorCode
  gate : Prop

namespace Fixture

/-- The table's port has nothing against the configuration. -/
def PortAccepts (f : Fixture) (pConfig : Ptr) : Prop :=
  ∀ fn, (f.table.bind fun t => t.slot (.configValidate pConfig)) = some fn → f.opinion fn pConfig = .ok

/-- The configuration has the structure that the peripheral asks for, and the port accepts it. -/
def Fits (f : Fixture) (pConfig : Ptr) : Prop :=
  ¬ StructureRejects f.peripheral f.mem pConfig ∧ f.PortAccepts pConfig

/-- The driver has this peripheral's tag, this table and this hook. -/
structure Owns (f : Fixture) (d : Driver) : Prop where
  type : d.base.type = f.peripheral.type
  vmt : d.base.vmt = f.table
  api : d.api.map Api.base = f.table
  onConfig : d.base.onConfig = some f.onConfig

/-- A hook call on a well-formed record: a function of the base table is the one at the slot of its request,
and it is called for a service, validations apart, on an INITIALIZED driver only. -/
structure Dispatches (f : Fixture) (e : HalEvent) : Prop where
  owned : f.Owns e.record
  represented : Represented f.peripheral e.record
  slot : ∀ fn req, e.call = .vmt fn req → (f.table.bind fun t => t.slot req) = some fn
  live : ∀ fn req, e.call = .vmt fn req → req.isService = true →
    (∀ pConfig, req ≠ .configValidate pConfig) → e.record.base.status = .initialized

/-- A hook call that starts the port on a configuration that fits, or gives it one. -/
structure Admits (f : Fixture) (e : HalEvent) : Prop where
  start : ∀ fn, e.call = .vmt fn .init → f.Fits e.record.config
  given : ∀ fn pConfig, e.call = .vmt fn (.configSet pConfig) → f.Fits pConfig

/-- Where the gate is, `config_set` validates and the hook `config_validate` answers the port's opinion. -/
def Gates (f : Fixture) (codes : HookCodes W) : Prop :=
  f.gate → f.peripheral.validates = true ∧
    ∀ fn pConfig d x, (codes (.vmt fn (.configValidate pConfig)) d x).1 = f.opinion fn pConfig

end Fixture

/-- The phase of the bring-up after a hook call. -/
def phaseAfter (q : Phase) (e : HalEvent) : Option Phase :=
  match e.action with
  | none => some q
  | some a => bringup.next q a

theorem track_actions_cons {q : Phase} {e : HalEvent} {older : List HalEvent}
    (h : bringup.track (actions older) = some q) :
    bringup.track (actions (e :: older)) = phaseAfter q e := by
  unfold phaseAfter
  cases ha : e.action with
  | none =>
      rw [actions, List.filterMap_cons_none ha]
      exact h
  | some a =>
      rw [actions_cons_of_action ha, Monitor.track_cons, h]
      rfl

/-- The status that the record shows, the phase of the bring-up, and what is known of the configuration. -/
structure Stage where
  status : DriverStatus
  phase : Phase
  stores : Ptr → Prop

/-- At a sound stage, an INITIALIZED driver holds its board, has an `init` hook and stores what fits; and
whatever fits may be stored. -/
structure Stage.Sound (g : Stage) (f : Fixture) : Prop where
  status : g.status = .constructed ∨ g.status = .initialized
  board : g.status = .initialized → g.phase ≠ .down
  hook : g.status = .initialized → (f.table.bind fun t => t.slot .init) ≠ none
  fits : g.status = .initialized → ∀ pConfig, g.stores pConfig → f.Fits pConfig
  wide : ∀ pConfig, f.Fits pConfig → g.stores pConfig

/-- A call that may be made at a stage. -/
structure Stage.Allows (g : Stage) (f : Fixture) (c : HookCall) : Prop where
  slot : ∀ fn req, c = .vmt fn req → (f.table.bind fun t => t.slot req) = some fn
  live : ∀ fn req, c = .vmt fn req → req.isService = true →
    (∀ pConfig, req ≠ .configValidate pConfig) → g.status = .initialized

/-- The driver stands at this stage. -/
structure StandsAt (f : Fixture) (g : Stage) (s : HalConf W) : Prop where
  owned : f.Owns s.record
  status : s.record.base.status = g.status
  tracked : bringup.track (actions s.log) = some g.phase
  stores : f.gate → g.stores s.record.config
  dispatched : ∀ e ∈ s.log, f.Dispatches e
  admitted : f.gate → ∀ e ∈ s.log, f.Admits e

/-- What every sound stage says of a driver. -/
structure Safe (f : Fixture) (s : HalConf W) : Prop where
  represented : Represented f.peripheral s.record
  guarded : Guarded s
  owned : f.Owns s.record
  stores : f.gate → s.record.base.status = .initialized → f.Fits s.record.config
  dispatched : ∀ e ∈ s.log, f.Dispatches e
  admitted : f.gate → ∀ e ∈ s.log, f.Admits e

section Stages

variable {f : Fixture} {g : Stage} {s : HalConf W}

theorem StandsAt.represented (h : StandsAt f g s) (hg : g.Sound f) :
    Represented f.peripheral s.record := by
  have hst := h.status
  refine ⟨h.owned.type, h.owned.vmt.trans h.owned.api.symm, ?_, fun hs => ?_⟩
  · rw [hst]
    exact hg.status
  · have hslot := hg.hook (hst.symm.trans hs)
    rw [h.owned.vmt]
    cases ht : f.table with
    | none =>
        rw [ht] at hslot
        exact absurd rfl hslot
    | some t =>
        rw [ht] at hslot
        exact ⟨t, rfl, hslot⟩

theorem StandsAt.safe (h : StandsAt f g s) (hg : g.Sound f) : Safe f s := by
  refine ⟨h.represented hg, ⟨g.phase, h.tracked, fun hs => ?_⟩, h.owned, fun hgate hs => ?_,
    h.dispatched, h.admitted⟩
  · exact hg.board (h.status.symm.trans hs)
  · exact hg.fits (h.status.symm.trans hs) _ (h.stores hgate)

theorem StandsAt.ofWorld {V : Type} {x : V} (h : StandsAt f g (s.inWorld x)) : StandsAt f g s :=
  ⟨h.owned, h.status, h.tracked, h.stores, h.dispatched, h.admitted⟩

/-- What is safe is so in any world. -/
theorem Safe.ofWorld {V : Type} {x : V} (h : Safe f (s.inWorld x)) : Safe f s :=
  ⟨h.represented, h.guarded, h.owned, h.stores, h.dispatched, h.admitted⟩

/-- What is known of the configuration may change where the gate is not or where it follows. -/
theorem StandsAt.stored (h : StandsAt f g s) {stores : Ptr → Prop}
    (hw : f.gate → g.stores s.record.config → stores s.record.config) :
    StandsAt f { g with stores } s :=
  ⟨h.owned, h.status, h.tracked, fun hgate => hw hgate (h.stores hgate), h.dispatched, h.admitted⟩

/-- A hook call leads to the stage with the phase after it. -/
theorem StandsAt.called (h : StandsAt f g s) (hg : g.Sound f) {c : HookCall} {r : ErrorCode} {x : W}
    {q : Phase} (hc : g.Allows f c) (hq : phaseAfter g.phase ⟨c, s.record, r⟩ = some q)
    (hfit : f.gate → f.Admits ⟨c, s.record, r⟩) :
    StandsAt f { g with phase := q } (s.called c r x) := by
  refine ⟨h.owned, h.status, ?_, h.stores, fun e he => ?_, fun hgate e he => ?_⟩
  · rw [Conf.called_log, track_actions_cons h.tracked]
    exact hq
  · rcases List.mem_cons.1 he with rfl | he
    · exact ⟨h.owned, h.represented hg, hc.slot,
        fun fn req hcall hreq hval => h.status.trans (hc.live fn req hcall hreq hval)⟩
    · exact h.dispatched e he
  · rcases List.mem_cons.1 he with rfl | he
    · exact hfit hgate
    · exact h.admitted hgate e he

end Stages

/-! ## Rules -/

section Rules

variable {Op : Type} (f : Fixture) (codes : HookCodes W) (handler : Op → HalM ErrorCode)

/-- The handler leaves every sound stage as it is. -/
def Calm : Prop :=
  ∀ g : Stage, g.Sound f → Stable (.ofCodes codes) handler (StandsAt (W := W) f g)

/-- What a program does from a stage, with everything safe at every step boundary. -/
abbrev Leads {α : Type} (P : HalConf W → Prop) (p : HalM α) (post : α → HalConf W → Prop) : Prop :=
  Hoare (.ofCodes codes) handler (Safe f) P p post

variable {f codes handler} {g : Stage} {α : Type} {post : α → HalConf W → Prop}

/-- A fact that is no matter of the state is kept too. -/
theorem Calm.and (hcalm : Calm f codes handler) (hg : g.Sound f) (A : Prop) :
    Stable (.ofCodes codes) handler (fun s : HalConf W => StandsAt f g s ∧ A) :=
  fun op s h => ⟨hcalm g hg op s h.1, h.2⟩

theorem stage_done (hcalm : Calm f codes handler) (hg : g.Sound f) {a : α}
    (hpost : ∀ s, StandsAt f g s → post a s) : Leads f codes handler (StandsAt f g) (.done a) post :=
  Hoare.done (hcalm g hg) (fun _ h => h.safe hg) hpost

/-- What a read of the record at a stage tells. -/
theorem stage_get (hcalm : Calm f codes handler) (hg : g.Sound f) :
    Leads f codes handler (StandsAt f g) Prog.get
      (fun d s => StandsAt f g s ∧ f.Owns d ∧ d.base.status = g.status) := by
  refine Hoare.get (hcalm g hg) (fun _ h => h.safe hg) (fun d => hcalm.and hg _)
    (fun _ _ h => h.1.safe hg) fun s h => ?_
  exact ⟨h, h.owned, h.status⟩

/-- A test of the status goes the way of the stage. -/
theorem stage_status (hcalm : Calm f codes handler) (hg : g.Sound f) {status : DriverStatus}
    {p p' : HalM α} (hp : g.status = status → Leads f codes handler (StandsAt f g) p post)
    (hp' : g.status ≠ status → Leads f codes handler (StandsAt f g) p' post) :
    Leads f codes handler (StandsAt f g)
      (Prog.get >>= fun d => if d.base.status = status then p else p') post := by
  apply Hoare.bind (stage_get hcalm hg)
  rintro d s ⟨h, -, hst⟩
  rw [hst]
  by_cases hs : g.status = status
  · rw [if_pos hs]
    exact hp hs s h
  · rw [if_neg hs]
    exact hp' hs s h

/-- The table that is read is the driver's table. -/
theorem stage_vmt (hcalm : Calm f codes handler) (hg : g.Sound f) {k : Driver → HalM α}
    (hk : ∀ d : Driver, d.base.vmt = f.table → Leads f codes handler (StandsAt f g) (k d) post) :
    Leads f codes handler (StandsAt f g) (Prog.get >>= k) post := by
  apply Hoare.bind (stage_get hcalm hg)
  rintro d s ⟨h, hd, -⟩
  exact hk d hd.vmt s h

theorem stage_modify (hcalm : Calm f codes handler) {g' : Stage} (hg : g.Sound f) (hg' : g'.Sound f)
    {u : Driver → Driver} (hu : ∀ s : HalConf W, StandsAt f g s → StandsAt f g' (s.written u)) :
    Leads f codes handler (StandsAt f g) (Prog.modify u) (fun _ => StandsAt f g') :=
  Hoare.write (hcalm g hg) (fun _ h => h.safe hg) hu (stage_done hcalm hg' fun _ h => h)

/-- A hook call leads to the stages after its answers, and the answer is the hook's. -/
theorem stage_request (hcalm : Calm f codes handler) {c : HookCall} {q : ErrorCode → Phase}
    (hc : g.Allows f c)
    (hq : ∀ d r, phaseAfter g.phase ⟨c, d, r⟩ = some (q r))
    (hfit : f.gate → ∀ d r, g.stores d.config → f.Admits ⟨c, d, r⟩) (hg : g.Sound f)
    (hg' : ∀ r, Stage.Sound { g with phase := q r } f) :
    Leads f codes handler (StandsAt f g) (Prog.request c)
      (fun r s => StandsAt f { g with phase := q r } s ∧ ∃ d x, r = (codes c d x).1) := by
  refine Hoare.call
    (Q := fun r s => StandsAt f { g with phase := q r } s ∧ ∃ d x, r = (codes c d x).1)
    (hcalm g hg) (fun _ h => h.safe hg) (fun s h => ⟨?_, s.record, s.world, rfl⟩) fun r => ?_
  · exact h.called hg hc (hq _ _) fun hgate => hfit hgate _ _ (h.stores hgate)
  · exact Hoare.done (hcalm.and (hg' r) _) (fun _ h => h.1.safe (hg' r)) fun _ h => h

/-- A slot of the driver's table that is set is called, and one that is not moves nothing. -/
theorem stage_callSlot (hcalm : Calm f codes handler) {req : BaseRequest} {missing : ErrorCode}
    {q : ErrorCode → Phase} (huse : req.isService = true → (∀ pConfig, req ≠ .configValidate pConfig) →
      g.status = .initialized)
    (hq : ∀ fn d r, phaseAfter g.phase ⟨.vmt fn req, d, r⟩ = some (q r))
    (hfit : f.gate → ∀ fn d r, g.stores d.config → f.Admits ⟨.vmt fn req, d, r⟩)
    (hmissing : q missing = g.phase) (hg : g.Sound f)
    (hg' : ∀ r, Stage.Sound { g with phase := q r } f) :
    Leads f codes handler (StandsAt f g) (callSlot f.table req missing)
      (fun r s => StandsAt f { g with phase := q r } s ∧
        ((f.table.bind fun t => t.slot req) = none ∧ r = missing ∨
          ∃ fn, (f.table.bind fun t => t.slot req) = some fn ∧ ∃ d x, r = (codes (.vmt fn req) d x).1)) := by
  unfold callSlot
  cases hslot : (f.table.bind fun t => t.slot req) with
  | none =>
      refine stage_done hcalm hg fun s h => ⟨?_, .inl ⟨rfl, rfl⟩⟩
      rw [hmissing]
      exact h
  | some fn =>
      have hc : g.Allows f (.vmt fn req) := by
        constructor
        · rintro gn req' ⟨⟩
          exact hslot
        · rintro gn req' ⟨⟩
          exact huse
      intro s h
      refine (stage_request hcalm hc (hq fn) (fun hgate => hfit hgate fn) hg hg' s h).mono ?_
      rintro r t ⟨ht, hanswer⟩
      exact ⟨ht, .inr ⟨fn, rfl, hanswer⟩⟩

end Rules

end CaffeineHal
