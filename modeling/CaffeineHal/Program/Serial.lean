import CaffeineHal.Program.Mutex
import Mathlib.Data.List.Nodup

/-!
# Sections are serial

Clients whose jobs are sections under one mutex, from a free mutex, over any schedule: at most one task
is inside (`Coherent.exclusive`), a refused task does nothing more (`Coherent.refused`), and when all
are done, the shared state and the results are those of the granted sections run one after another in the
order in which they got the mutex (`Coherent.serialised`).
-/

set_option autoImplicit false

namespace CaffeineHal.Program

universe u v w

variable {S C R : Type u} {W : Type v} {ι Op : Type w} {env : Env S C R W} {M : Mutex env}
  {inv : S → Prop} {prog : Op → Prog S C R R} {jobs : ι → List Op}
  {G : ∀ op, Critical M inv (prog op)} {d₀ : S} {x₀ : W}

/-- The state after some tasks, one after another. -/
def serial (env : Env S C R W) (prog : Op → Prog S C R R) (d₀ : S) (x₀ : W)
    (order : List (Task ι Op)) : Conf S C R W :=
  runOps env (fun t => prog t.op) order ⟨d₀, x₀, []⟩

/-- The tasks of the serial run with their results, the last one first. -/
def serialHistory (env : Env S C R W) (prog : Op → Prog S C R R) (d₀ : S) (x₀ : W)
    (order : List (Task ι Op)) : List (Ran S C R R W (Task ι Op)) :=
  history env (fun t => prog t.op) order ⟨d₀, x₀, []⟩

theorem serial_concat (order : List (Task ι Op)) (t : Task ι Op) :
    serial env prog d₀ x₀ (order ++ [t]) = (run env (prog t.op) (serial env prog d₀ x₀ order)).2 :=
  runOps_concat env (fun t : Task ι Op => prog t.op) order t ⟨d₀, x₀, []⟩

/-! ## The invariant -/

/-- The task `t` holds the mutex, which it got after the tasks `earlier`. What is left of its program, run
on alone, ends where the serial run does. -/
structure Holds (M : Mutex env) (inv : S → Prop) (prog : Op → Prog S C R R) (d₀ : S) (x₀ : W)
    (t : Task ι Op) (earlier : List (Task ι Op)) (p : Prog S C R R)
    (st : Shared ι S C R R W Op) : Prop where
  held : M.held st.world = true
  number : t.number = (st.clients t.client).results.length
  current : (st.clients t.client).current = some (t.op, p)
  holding : Holding M inv p st.record st.world
  order : M.order st.trace = earlier ++ [t]
  computed : ∀ c ∈ serialHistory env prog d₀ x₀ earlier, st.Settled c.op c.value
  goesOn : eval env p st.record st.world =
    eval env (prog t.op) (serial env prog d₀ x₀ earlier).record (serial env prog d₀ x₀ earlier).world

/-- Nobody holds the mutex, and the state is the one of the serial run. -/
structure Free (M : Mutex env) (prog : Op → Prog S C R R) (d₀ : S) (x₀ : W)
    (st : Shared ι S C R R W Op) : Prop where
  held : M.held st.world = false
  record : st.record = (serial env prog d₀ x₀ (M.order st.trace)).record
  world : st.world = (serial env prog d₀ x₀ (M.order st.trace)).world
  computed : ∀ c ∈ serialHistory env prog d₀ x₀ (M.order st.trace), st.Settled c.op c.value

/-- What holds between two turns, when `holder` has the mutex. -/
structure Coherent (G : ∀ op, Critical M inv (prog op)) (jobs : ι → List Op) (d₀ : S) (x₀ : W)
    (holder : Option (Task ι Op)) (st : Shared ι S C R R W Op) : Prop where
  kept : inv st.record
  begun : ∀ i op p, (st.clients i).current = some (op, p) →
    (jobs i)[(st.clients i).results.length]? = some op
  tagged : ∀ t e, (t, e) ∈ st.trace → (jobs t.client)[t.number]? = some t.op
  once : (M.order st.trace).Nodup
  traced : ∀ t e, (t, e) ∈ st.trace → (∃ v, st.Settled t v) ∨ holder = some t
  settled : ∀ t v, (jobs t.client)[t.number]? = some t.op → st.Settled t v →
    M.Refused st.trace t v ∨ M.Served st.trace t
  outside : ∀ i op p, (∀ t, holder = some t → t.client ≠ i) →
    (st.clients i).current = some (op, p) →
      Entering inv (G op).request (G op).next p ∨ ∃ r, p = .done r
  free : holder = none → Free M prog d₀ x₀ st
  busy : ∀ t, holder = some t → ∃ earlier p, Holds M inv prog d₀ x₀ t earlier p st

/-- Before the first turn. -/
theorem start_coherent (hinv : inv d₀) (hfree : M.held x₀ = false) :
    Coherent G jobs d₀ x₀ none (.start d₀ x₀) := by
  constructor
  case kept => exact hinv
  case begun => exact nofun
  case tagged => exact nofun
  case once => exact List.nodup_nil
  case traced => exact nofun
  case settled =>
    rintro t v - (hstored | ⟨-, op, hdone⟩)
    · cases hstored
    · cases hdone
  case outside => exact nofun
  case free => exact fun _ => ⟨hfree, rfl, rfl, nofun⟩
  case busy => exact nofun

/-! ## Turns that leave the shared state -/

section Turns

variable {holder : Option (Task ι Op)} {st st' : Shared ι S C R R W Op} {i : ι} {t : Task ι Op}
  {op : Op} {p q : Prog S C R R}

/-- A turn of another client leaves the holder where it is. -/
theorem Holds.of_other {earlier : List (Task ι Op)}
    (h : Holds M inv prog d₀ x₀ t earlier p st)
    (hclient : st'.clients t.client = st.clients t.client) (hrecord : st'.record = st.record)
    (hworld : st'.world = st.world) (horder : M.order st'.trace = M.order st.trace)
    (hsettled : ∀ t v, st.Settled t v → st'.Settled t v) :
    Holds M inv prog d₀ x₀ t earlier p st' := by
  constructor
  · rw [hworld]
    exact h.held
  · rw [hclient]
    exact h.number
  · rw [hclient]
    exact h.current
  · rw [hrecord, hworld]
    exact h.holding
  · rw [horder]
    exact h.order
  · intro c hc
    exact hsettled _ _ (h.computed c hc)
  · rw [hrecord, hworld]
    exact h.goesOn

/-- The task of a client is the only one with its number. -/
theorem Coherent.eq_task (h : Coherent G jobs d₀ x₀ holder st)
    (hcur : (st.clients i).current = some (op, p)) (hclient : t.client = i)
    (hnumber : t.number = (st.clients i).results.length)
    (hjob : (jobs t.client)[t.number]? = some t.op) : t = st.task i op := by
  obtain ⟨j, k, o⟩ := t
  simp only at hclient hnumber hjob
  subst hclient hnumber
  rw [h.begun j op p hcur] at hjob
  obtain rfl : op = o := Option.some.inj hjob
  rfl

/-- A job that is not over and does not hold the mutex has made no call: a call would have settled it or
made it the holder. -/
theorem Coherent.not_called (h : Coherent G jobs d₀ x₀ holder st)
    (haway : ∀ t, holder = some t → t.client ≠ i) (hcur : (st.clients i).current = some (op, p))
    (hp : ∀ r, p ≠ .done r) (e : Event S C R) : (st.task i op, e) ∉ st.trace := by
  intro he
  rcases h.traced _ _ he with ⟨v, hv⟩ | hholder
  · exact (Client.running_of_some hcur hp).not_settled hv
  · exact haway _ hholder rfl

variable [DecidableEq ι] {c : Client S C R R Op}

theorem Shared.settled_same (hclients : st'.clients = Function.update st.clients i c)
    (h : ∀ k v, c.Settled k v ↔ (st.clients i).Settled k v) (t : Task ι Op) (v : R) :
    st'.Settled t v ↔ st.Settled t v := by
  unfold Shared.Settled
  rw [hclients]
  by_cases hi : t.client = i
  · rw [hi, Function.update_self]
    exact h t.number v
  · rw [Function.update_of_ne hi]

theorem Coherent.setClient (h : Coherent G jobs d₀ x₀ holder st)
    (hi : ∀ t, holder = some t → t.client ≠ i)
    (hsettled : ∀ k v, c.Settled k v ↔ (st.clients i).Settled k v)
    (hbegun : ∀ op p, c.current = some (op, p) → (jobs i)[c.results.length]? = some op)
    (hout : ∀ op p, c.current = some (op, p) →
      Entering inv (G op).request (G op).next p ∨ ∃ r, p = .done r) :
    Coherent G jobs d₀ x₀ holder (st.setClient i c) := by
  have hs : ∀ t v, (st.setClient i c).Settled t v ↔ st.Settled t v := Shared.settled_same rfl hsettled
  have hother : ∀ j, j ≠ i → (st.setClient i c).clients j = st.clients j :=
    fun j hj => Function.update_of_ne hj _ _
  have hself : (st.setClient i c).clients i = c := Function.update_self ..
  -- Nothing shared changes, so each part is read off the state before.
  constructor
  · exact h.kept
  · intro j op p hcur
    by_cases hj : j = i
    · subst hj
      rw [hself] at hcur ⊢
      exact hbegun op p hcur
    · rw [hother j hj] at hcur ⊢
      exact h.begun j op p hcur
  · exact h.tagged
  · exact h.once
  · intro t e he
    rcases h.traced t e he with ⟨v, hv⟩ | hholder
    · exact .inl ⟨v, (hs t v).2 hv⟩
    · exact .inr hholder
  · intro t v hjob hv
    exact h.settled t v hjob ((hs t v).1 hv)
  · intro j op p hj hcur
    by_cases hji : j = i
    · subst hji
      rw [hself] at hcur
      exact hout op p hcur
    · rw [hother j hji] at hcur
      exact h.outside j op p hj hcur
  · intro hnone
    obtain ⟨hheld, hrecord, hworld, hcomputed⟩ := h.free hnone
    exact ⟨hheld, hrecord, hworld, fun d hd => (hs _ _).2 (hcomputed d hd)⟩
  · intro t ht
    obtain ⟨earlier, p, hholds⟩ := h.busy t ht
    refine ⟨earlier, p, hholds.of_other (hother _ (hi t ht)) rfl rfl rfl fun t v hv => ?_⟩
    exact (hs t v).2 hv

/-! ## Turns inside a job -/

section Step

variable {holder' : Option (Task ι Op)}

/-- A step of a job settles what was settled, and the job itself if it is over now. -/
theorem Shared.settled_step (hcur : (st.clients i).current = some (op, p)) (hp : ∀ r, p ≠ .done r)
    (hclients : st'.clients =
      Function.update st.clients i ⟨some (op, q), (st.clients i).results⟩) (t : Task ι Op) (v : R) :
    st'.Settled t v ↔ st.Settled t v ∨
      t.client = i ∧ t.number = (st.clients i).results.length ∧ q = .done v := by
  have hrunning : (st.clients i).Running := Client.running_of_some hcur hp
  unfold Shared.Settled
  rw [hclients]
  by_cases hi : t.client = i
  · -- The client itself: its results are the same, and its job may be over now.
    rw [hi, Function.update_self, hrunning.settled_iff]
    constructor
    · rintro (hstored | ⟨hk, op', hdone⟩)
      · exact .inl hstored
      · injection hdone with hdone
        injection hdone with _ hdone
        exact .inr ⟨rfl, hk, hdone⟩
    · rintro (hstored | ⟨-, hk, rfl⟩)
      · exact .inl hstored
      · exact .inr ⟨hk, op, rfl⟩
  · rw [Function.update_of_ne hi]
    simp [hi]

/-- What a step of a job has to show: the invariant of the record, that nobody gets the mutex twice,
how the job ended if it is over, and who holds the mutex now. -/
theorem Coherent.step (h : Coherent G jobs d₀ x₀ holder st)
    (calls : List (Task ι Op × Event S C R)) (hcur : (st.clients i).current = some (op, p))
    (hp : ∀ r, p ≠ .done r)
    (hclients : st'.clients =
      Function.update st.clients i ⟨some (op, q), (st.clients i).results⟩)
    (htrace : st'.trace = calls ++ st.trace) (hcalls : ∀ te ∈ calls, te.1 = st.task i op)
    (hkept : inv st'.record) (honce : (M.order st'.trace).Nodup)
    (hover : ∀ v, q = .done v →
      M.Refused st'.trace (st.task i op) v ∨ M.Served st'.trace (st.task i op))
    (hcalled : calls ≠ [] → (∃ v, q = .done v) ∨ holder' = some (st.task i op))
    (hholder : ∀ t, holder = some t →
      t = st.task i op ∧ (∃ v, q = .done v) ∨ holder' = some t)
    (hin : (∀ t, holder' = some t → t.client ≠ i) →
      Entering inv (G op).request (G op).next q ∨ ∃ r, q = .done r)
    (hfree : holder' = none → Free M prog d₀ x₀ st')
    (hbusy : ∀ t, holder' = some t → ∃ earlier p, Holds M inv prog d₀ x₀ t earlier p st') :
    Coherent G jobs d₀ x₀ holder' st' := by
  have hs := Shared.settled_step hcur hp hclients
  have hother : ∀ j, j ≠ i → st'.clients j = st.clients j := by
    intro j hj
    rw [hclients, Function.update_of_ne hj]
  have hself : st'.clients i = ⟨some (op, q), (st.clients i).results⟩ := by
    rw [hclients, Function.update_self]
  have hjob : (jobs i)[(st.clients i).results.length]? = some op := h.begun i op p hcur
  have htask : ∀ v, q = .done v → st'.Settled (st.task i op) v :=
    fun v hv => (hs _ v).2 (.inr ⟨rfl, rfl, hv⟩)
  constructor
  case kept => exact hkept
  case once => exact honce
  case free => exact hfree
  case busy => exact hbusy
  case begun =>
    intro j op' p' hcur'
    by_cases hj : j = i
    · subst hj
      rw [hself] at hcur' ⊢
      obtain ⟨rfl, -⟩ := Prod.mk.inj (Option.some.inj hcur')
      exact hjob
    · rw [hother j hj] at hcur' ⊢
      exact h.begun j op' p' hcur'
  case tagged =>
    intro t e he
    rw [htrace] at he
    rcases List.mem_append.1 he with hnew | hold
    · obtain rfl : t = st.task i op := hcalls _ hnew
      exact hjob
    · exact h.tagged t e hold
  case traced =>
    -- A task of the trace was over or held the mutex; the step ends it or leaves it the holder.
    intro t e he
    rw [htrace] at he
    rcases List.mem_append.1 he with hnew | hold
    · obtain rfl : t = st.task i op := hcalls _ hnew
      rcases hcalled (List.ne_nil_of_mem hnew) with ⟨v, hv⟩ | hholds
      · exact .inl ⟨v, htask v hv⟩
      · exact .inr hholds
    · rcases h.traced t e hold with ⟨v, hv⟩ | hheld
      · exact .inl ⟨v, (hs t v).2 (.inl hv)⟩
      · rcases hholder t hheld with ⟨rfl, v, hv⟩ | hholds
        · exact .inl ⟨v, htask v hv⟩
        · exact .inr hholds
  case settled =>
    intro t v hjob' hv
    rcases (hs t v).1 hv with hv | ⟨hclient, hnumber, hv⟩
    · -- The calls of the step are of another task, since this one had its result before.
      have hne : ∀ te ∈ calls, te.1 ≠ t := by
        rintro te hmem rfl
        rw [hcalls te hmem] at hv
        exact (Client.running_of_some hcur hp).not_settled hv
      rw [htrace]
      rcases h.settled t v hjob' hv with hrefused | hserved
      · exact .inl (hrefused.append hne)
      · exact .inr hserved.append
    · -- The task that the step ended is the one that made it.
      rw [h.eq_task hcur hclient hnumber hjob']
      exact hover v hv
  case outside =>
    intro j op' p' hj hcur'
    by_cases hji : j = i
    · subst hji
      rw [hself] at hcur'
      obtain ⟨rfl, rfl⟩ := Prod.mk.inj (Option.some.inj hcur')
      exact hin hj
    · rw [hother j hji] at hcur'
      refine h.outside j op' p' (fun t ht => ?_) hcur'
      rcases hholder t ht with ⟨rfl, -⟩ | hholds
      · exact fun heq => hji heq.symm
      · exact hj t hholds

/-- A client in a job holds the mutex or is not the holder. -/
theorem Coherent.away_or_holds (h : Coherent G jobs d₀ x₀ holder st)
    (hcur : (st.clients i).current = some (op, p)) :
    (∀ t, holder = some t → t.client ≠ i) ∨ holder = some (st.task i op) ∧
      ∃ earlier, Holds M inv prog d₀ x₀ (st.task i op) earlier p st := by
  by_cases hi : ∃ t, holder = some t ∧ t.client = i
  · obtain ⟨⟨j, k, o⟩, hholder, hclient⟩ := hi
    obtain ⟨earlier, q, hholds⟩ := h.busy _ hholder
    have hnumber := hholds.number
    have hcurrent := hholds.current
    simp only at hclient hnumber hcurrent
    subst hclient hnumber
    rw [hcur] at hcurrent
    obtain ⟨rfl, rfl⟩ := Prod.mk.inj (Option.some.inj hcurrent)
    exact .inr ⟨hholder, earlier, hholds⟩
  · left
    intro t ht hclient
    exact hi ⟨t, ht, hclient⟩

/-- The holder goes on: its end stays where it was. -/
theorem Coherent.goOn {earlier : List (Task ι Op)}
    (h : Coherent G jobs d₀ x₀ (some (st.task i op)) st)
    (calls : List (Task ι Op × Event S C R))
    (hholds : Holds M inv prog d₀ x₀ (st.task i op) earlier p st)
    (hclients : st'.clients =
      Function.update st.clients i ⟨some (op, q), (st.clients i).results⟩)
    (htrace : st'.trace = calls ++ st.trace) (hcalls : ∀ te ∈ calls, te.1 = st.task i op)
    (hquiet : ∀ te ∈ calls, M.grants te.2 = false) (hkept : inv st'.record)
    (hheld : M.held st'.world = true) (hq : Holding M inv q st'.record st'.world)
    (heval : eval env q st'.record st'.world = eval env p st.record st.world) :
    Coherent G jobs d₀ x₀ (some (st.task i op)) st' := by
  have hs := Shared.settled_step hholds.current hholds.holding.ne_done hclients
  have hself : st'.clients i = ⟨some (op, q), (st.clients i).results⟩ := by
    rw [hclients, Function.update_self]
  have horder : M.order st'.trace = M.order st.trace := by
    rw [htrace, M.order_append_other hquiet]
  have honce : (M.order st'.trace).Nodup := by
    rw [horder]
    exact h.once
  refine h.step calls hholds.current hholds.holding.ne_done hclients htrace hcalls hkept honce
    (fun v hv => absurd hv (hq.ne_done v)) (fun _ => .inr rfl) (fun t ht => .inr ht)
    (fun haway => absurd rfl (haway _ rfl)) (fun hnone => absurd hnone (Option.some_ne_none _)) ?_
  rintro t ht
  obtain rfl : st.task i op = t := Option.some.inj ht
  refine ⟨earlier, q, hheld, ?_, ?_, hq, ?_, ?_, heval.trans hholds.goesOn⟩
  · show (st.clients i).results.length = (st'.clients i).results.length
    rw [hself]
  · show (st'.clients i).current = some (op, q)
    rw [hself]
  · rw [horder]
    exact hholds.order
  · intro c hc
    exact (hs _ _).2 (.inl (hholds.computed c hc))

variable {c : C} {k : R → Prog S C R R} {r : R} {d : S} {x : W}

/-- The mutex is granted: the serial run goes on with this task. -/
theorem Coherent.grant (h : Coherent G jobs d₀ x₀ none st)
    (hcur : (st.clients i).current = some (op, .call (G op).request (G op).next))
    (hanswer : env.answer (G op).request st.record st.world = (r, d, x)) :
    Coherent G jobs d₀ x₀ (some (st.task i op))
      (st.called i op ((G op).next r) ⟨(G op).request, st.record, r⟩ d x) := by
  obtain ⟨hheld, hrecord, hworld, hcomputed⟩ := h.free rfl
  obtain ⟨hgranted, hd, hx⟩ := M.take _ st.record st.world (G op).acquires hheld
  rw [hanswer] at hgranted hd hx
  simp only at hgranted hd hx
  subst hd
  have hholding := (G op).holding r st.record x hgranted h.kept
  have hgrants : M.grants ⟨(G op).request, st.record, r⟩ = true := by
    rw [Mutex.grants, (G op).acquires, hgranted]
    rfl
  have hs : ∀ t v, (st.called i op ((G op).next r) ⟨(G op).request, st.record, r⟩ st.record
      x).Settled t v ↔ _ := Shared.settled_step hcur (Prog.call_ne_done _ _) rfl
  have horder : M.order ((st.task i op, ⟨(G op).request, st.record, r⟩) :: st.trace) =
      M.order st.trace ++ [st.task i op] := M.order_cons_grant hgrants
  -- Until it asked the task had made no call, so it is not in the order yet.
  have honce : (M.order st.trace ++ [st.task i op]).Nodup := by
    rw [List.nodup_append]
    refine ⟨h.once, List.nodup_singleton _, fun t hmem t' hmem' heq => ?_⟩
    rw [heq, List.mem_singleton.1 hmem'] at hmem
    obtain ⟨e, he, -⟩ := M.mem_order.1 hmem
    refine h.not_called ?_ hcur (Prog.call_ne_done _ _) e he
    rintro t ⟨⟩
  rw [← horder] at honce
  refine h.step [(st.task i op, ⟨(G op).request, st.record, r⟩)] hcur (Prog.call_ne_done _ _) rfl
    rfl ?_ h.kept honce (fun v hv => absurd hv (hholding.ne_done v)) (fun _ => .inr rfl) ?_
    (fun haway => absurd rfl (haway _ rfl)) (fun hnone => absurd hnone (Option.some_ne_none _)) ?_
  · intro te hmem
    rw [List.mem_singleton.1 hmem]
  · rintro t ⟨⟩
  rintro t ht
  obtain rfl : st.task i op = t := Option.some.inj ht
  refine ⟨M.order st.trace, (G op).next r, hx, ?_, ?_, hholding, ?_, ?_, ?_⟩
  · show (st.clients i).results.length = (Function.update st.clients i _ i).results.length
    rw [Function.update_self]
  · show (Function.update st.clients i _ i).current = some (op, (G op).next r)
    rw [Function.update_self]
  · exact horder
  · intro c hc
    exact (hs _ _).2 (.inl (hcomputed c hc))
  · -- The mutex was free, so the section starts where the serial run stands.
    show eval env ((G op).next r) st.record x = eval env (prog op) _ _
    rw [← hrecord, ← hworld, (G op).enter.eval h.kept]
    simp only [eval, hanswer]

/-- The mutex is refused: the job is over, with the answer as its result. -/
theorem Coherent.refuse (h : Coherent G jobs d₀ x₀ holder st)
    (haway : ∀ t, holder = some t → t.client ≠ i) (hheld : M.held st.world = true)
    (hcur : (st.clients i).current = some (op, .call (G op).request (G op).next))
    (hanswer : env.answer (G op).request st.record st.world = (r, d, x)) :
    Coherent G jobs d₀ x₀ holder
      (st.called i op ((G op).next r) ⟨(G op).request, st.record, r⟩ d x) := by
  obtain ⟨hrefused, hsame⟩ := M.refuse _ st.record st.world (G op).acquires hheld
  rw [hanswer] at hrefused hsame
  simp only at hrefused hsame
  injection hsame with hd hx
  subst hd hx
  have hover : (G op).next r = .done r := (G op).refused r hrefused
  have hgrants : M.grants ⟨(G op).request, st.record, r⟩ = false := by
    rw [Mutex.grants, hrefused, Bool.and_false]
  have hs : ∀ t v, (st.called i op ((G op).next r) ⟨(G op).request, st.record, r⟩ st.record
      st.world).Settled t v ↔ _ := Shared.settled_step hcur (Prog.call_ne_done _ _) rfl
  have hfirst := h.not_called haway hcur (Prog.call_ne_done _ _)
  have horder : M.order ((st.task i op, ⟨(G op).request, st.record, r⟩) :: st.trace) =
      M.order st.trace := M.order_cons_other hgrants
  have honce := h.once
  rw [← horder] at honce
  refine h.step [(st.task i op, ⟨(G op).request, st.record, r⟩)] hcur (Prog.call_ne_done _ _) rfl
    rfl ?_ h.kept honce ?_ (fun _ => .inl ⟨r, hover⟩) (fun t ht => .inr ht)
    (fun _ => .inr ⟨r, hover⟩) ?_ ?_
  · intro te hmem
    rw [List.mem_singleton.1 hmem]
  · intro v hv
    rw [hover] at hv
    injection hv with hv
    refine .inl ⟨_, List.mem_cons_self, (G op).acquires, hrefused, hv, fun e he => ?_⟩
    rcases List.mem_cons.1 he with heq | hold
    · exact congrArg Prod.snd heq
    · exact absurd hold (hfirst e)
  · -- Refused, the mutex is held by someone.
    intro hnone
    have hfree := (h.free hnone).held
    rw [hheld] at hfree
    cases hfree
  · intro t ht
    obtain ⟨earlier, p, hholds⟩ := h.busy t ht
    refine ⟨earlier, p, hholds.of_other ?_ rfl rfl ?_ fun t v hv => (hs t v).2 (.inl hv)⟩
    · exact Function.update_of_ne (haway t ht) _ _
    · exact horder

/-- The mutex is freed: the job is over, and the state is the one of the serial run. -/
theorem Coherent.release {earlier : List (Task ι Op)} {b : R}
    (h : Coherent G jobs d₀ x₀ (some (st.task i op)) st)
    (hholds : Holds M inv prog d₀ x₀ (st.task i op) earlier (.call c k) st)
    (hreleases : M.releases c = true) (hover : k r = .done b)
    (hanswer : env.answer c st.record st.world = (r, d, x)) :
    Coherent G jobs d₀ x₀ none (st.called i op (k r) ⟨c, st.record, r⟩ d x) := by
  obtain ⟨hd, hx⟩ := M.free c st.record st.world hreleases
  rw [hanswer] at hd hx
  simp only at hd hx
  subst hd
  have hgrants : M.grants ⟨c, st.record, r⟩ = false := by
    cases hacquires : M.acquires c with
    | false => simp [Mutex.grants, hacquires]
    | true =>
        have happart := M.apart c hacquires
        rw [hreleases] at happart
        cases happart
  have hcur : (st.clients i).current = some (op, .call c k) := hholds.current
  have hs : ∀ t v, (st.called i op (k r) ⟨c, st.record, r⟩ st.record x).Settled t v ↔ _ :=
    Shared.settled_step hcur (Prog.call_ne_done _ _) rfl
  have horder : M.order (st.called i op (k r) ⟨c, st.record, r⟩ st.record x).trace =
      earlier ++ [st.task i op] :=
    (M.order_cons_other hgrants).trans hholds.order
  -- Run on alone, the section ends here.
  have hend : eval env (prog op) (serial env prog d₀ x₀ earlier).record
      (serial env prog d₀ x₀ earlier).world = (b, st.record, x) := by
    refine hholds.goesOn.symm.trans ?_
    simp only [eval, hanswer, hover]
  have hrun := (run_eq_eval env (prog op) (serial env prog d₀ x₀ earlier)).trans hend
  injection hrun with hvalue hrun
  injection hrun with hrecord hworld
  have honce := h.once
  rw [hholds.order, ← horder] at honce
  refine h.step [(st.task i op, ⟨c, st.record, r⟩)] hcur (Prog.call_ne_done _ _) rfl rfl ?_ h.kept
    honce ?_ (fun _ => .inl ⟨b, hover⟩) ?_ (fun _ => .inr ⟨b, hover⟩) (fun _ => ?_) ?_
  · intro te hmem
    rw [List.mem_singleton.1 hmem]
  · intro v _
    have hmem : st.task i op ∈ M.order st.trace := by
      rw [hholds.order]
      exact List.mem_append_right _ (List.mem_singleton_self _)
    obtain ⟨e, he, hgranted⟩ := M.mem_order.1 hmem
    exact .inr ⟨⟨e, List.mem_cons_of_mem _ he, hgranted⟩, _, List.mem_cons_self, hreleases⟩
  · intro t ht
    exact .inl ⟨(Option.some.inj ht).symm, b, hover⟩
  · constructor
    · exact hx
    · rw [horder, serial_concat]
      exact hrecord.symm
    · rw [horder, serial_concat]
      exact hworld.symm
    · rw [horder, serialHistory, history_concat]
      intro c' hc'
      rcases List.mem_cons.1 hc' with rfl | hc'
      · -- The section itself, whose result the serial run computes last.
        refine (hs _ _).2 (.inr ⟨rfl, rfl, ?_⟩)
        rw [hover]
        exact congrArg Prog.done hvalue.symm
      · exact (hs _ _).2 (.inl (hholds.computed c' hc'))
  · rintro t ⟨⟩

end Step

/-! ## Every turn -/

/-- A client that does not hold the mutex begins its next job, stores a result or reads. -/
theorem Coherent.begin (h : Coherent G jobs d₀ x₀ holder st) (hcur : (st.clients i).current = none)
    (hjob : (jobs i)[(st.clients i).results.length]? = some op) :
    Coherent G jobs d₀ x₀ holder
      (st.setClient i ⟨some (op, prog op), (st.clients i).results⟩) := by
  have hnext : ∀ r, prog op ≠ .done r := (G op).enter.ne_done
  refine h.setClient ?_ ?_ ?_ ?_
  · rintro t ht rfl
    obtain ⟨earlier, p, hholds⟩ := h.busy t ht
    rw [hholds.current] at hcur
    cases hcur
  · intro k v
    exact (Client.running_of_none hcur).settled_congr (Client.running_of_some rfl hnext) rfl
  · intro op' p' heq
    obtain ⟨rfl, -⟩ := Prod.mk.inj (Option.some.inj heq)
    exact hjob
  · intro op' p' heq
    obtain ⟨rfl, rfl⟩ := Prod.mk.inj (Option.some.inj heq)
    exact .inl (G op).enter

theorem Coherent.store (h : Coherent G jobs d₀ x₀ holder st) {r : R}
    (hcur : (st.clients i).current = some (op, .done r)) :
    Coherent G jobs d₀ x₀ holder (st.setClient i ⟨none, (st.clients i).results ++ [r]⟩) := by
  refine h.setClient ?_ (fun k v => Client.settled_stored hcur) nofun nofun
  rintro t ht rfl
  obtain ⟨earlier, p, hholds⟩ := h.busy t ht
  have hcurrent := hholds.current
  rw [hcur] at hcurrent
  obtain ⟨-, hp⟩ := Prod.mk.inj (Option.some.inj hcurrent)
  exact hholds.holding.ne_done r hp.symm

theorem Coherent.read (h : Coherent G jobs d₀ x₀ holder st) {k : S → Prog S C R R}
    (haway : ∀ t, holder = some t → t.client ≠ i)
    (hcur : (st.clients i).current = some (op, .read k)) :
    Coherent G jobs d₀ x₀ holder
      (st.setClient i ⟨some (op, k st.record), (st.clients i).results⟩) := by
  have henter : Entering inv (G op).request (G op).next (k st.record) := by
    rcases h.outside i op _ haway hcur with henter | ⟨r, hover⟩
    · cases henter with
      | read hk => exact hk st.record h.kept
    · cases hover
  refine h.setClient haway ?_ ?_ ?_
  · intro n v
    exact (Client.running_of_some hcur (Prog.read_ne_done _)).settled_congr
      (Client.running_of_some rfl henter.ne_done) rfl
  · intro op' p' heq
    obtain ⟨rfl, -⟩ := Prod.mk.inj (Option.some.inj heq)
    exact h.begun i op _ hcur
  · intro op' p' heq
    obtain ⟨rfl, rfl⟩ := Prod.mk.inj (Option.some.inj heq)
    exact .inl henter

/-- Every turn keeps the invariant. -/
theorem Coherent.advance (h : Coherent G jobs d₀ x₀ holder st) (i : ι) :
    ∃ holder', Coherent G jobs d₀ x₀ holder' (advance env prog jobs i st) := by
  have hturn := advance_cases env prog jobs i st
  generalize CaffeineHal.Program.advance env prog jobs i st = st' at hturn ⊢
  cases hturn with
  | rest hcur hjob => exact ⟨holder, h⟩
  | begin hcur hjob => exact ⟨holder, h.begin hcur hjob⟩
  | store hcur => exact ⟨holder, h.store hcur⟩
  | @read op k hcur =>
      rcases h.away_or_holds hcur with haway | ⟨rfl, earlier, hholds⟩
      · exact ⟨holder, h.read haway hcur⟩
      · refine ⟨_, h.goOn [] hholds rfl rfl (List.forall_mem_nil _) (List.forall_mem_nil _) h.kept
          hholds.held hholds.holding rfl⟩
  | @write op f k hcur =>
      rcases h.away_or_holds hcur with haway | ⟨rfl, earlier, hholds⟩
      · -- Nobody writes who does not hold the mutex.
        rcases h.outside i op _ haway hcur with henter | ⟨r, hover⟩
        · cases henter
        · cases hover
      · refine ⟨_, h.goOn [] hholds rfl rfl (List.forall_mem_nil _) (List.forall_mem_nil _)
          hholds.holding.1 hholds.held hholds.holding.2 rfl⟩
  | @call op c k r d x hcur hanswer =>
      rcases h.away_or_holds hcur with haway | ⟨rfl, earlier, hholds⟩
      · -- Who does not hold the mutex calls nothing but the request for it.
        rcases h.outside i op _ haway hcur with henter | ⟨r, hover⟩
        swap
        · cases hover
        cases henter
        cases hheld : M.held st.world with
        | true => exact ⟨holder, h.refuse haway hheld hcur hanswer⟩
        | false =>
            -- A holder would have the mutex held.
            obtain rfl : holder = none := by
              rw [Option.eq_none_iff_forall_ne_some]
              rintro t rfl
              obtain ⟨earlier, p, hholds⟩ := h.busy t rfl
              rw [hholds.held] at hheld
              cases hheld
            exact ⟨_, h.grant hcur hanswer⟩
      · have hholding := hholds.holding
        simp only [Holding, hanswer] at hholding
        cases hreleases : M.releases c with
        | true =>
            -- The holder frees the mutex with its last step.
            rw [hreleases, if_pos rfl] at hholding
            obtain ⟨b, hover⟩ := hholding
            exact ⟨none, h.release hholds hreleases hover hanswer⟩
        | false =>
            -- Any other call leaves the mutex with the holder.
            rw [hreleases, if_neg Bool.false_ne_true] at hholding
            obtain ⟨hkept, hnext⟩ := hholding
            obtain ⟨hgrants, hheld⟩ := M.stays_held hreleases hholds.held hanswer
            refine ⟨_, h.goOn [(st.task i op, ⟨c, st.record, r⟩)] hholds rfl rfl ?_ ?_ hkept hheld
              hnext ?_⟩
            · intro te hmem
              rw [List.mem_singleton.1 hmem]
            · intro te hmem
              rw [List.mem_singleton.1 hmem]
              exact hgrants
            · simp only [eval, hanswer]
              rfl

/-- Between the turns of every schedule the clients are coherent. -/
theorem play_coherent (hinv : inv d₀) (hfree : M.held x₀ = false) (schedule : List ι) :
    ∃ holder, Coherent G jobs d₀ x₀ holder
      (play env prog jobs schedule (.start d₀ x₀)) := by
  refine play_invariant (fun st => ∃ holder, Coherent G jobs d₀ x₀ holder st) ?_ schedule
    ⟨none, start_coherent hinv hfree⟩
  rintro i st ⟨holder, h⟩
  exact h.advance i

end Turns

/-! ## What coherent clients have done -/

section Consequences

variable {holder : Option (Task ι Op)} {st : Shared ι S C R R W Op} {t t' : Task ι Op}

theorem Coherent.inside_eq (h : Coherent G jobs d₀ x₀ holder st) (ht : M.Inside st.trace t) :
    holder = some t := by
  obtain ⟨⟨e, he, hgrants⟩, hnot⟩ := ht
  rcases h.traced t e he with ⟨v, hv⟩ | hholder
  · -- Over, a task was refused and got nothing, or was served and freed the mutex.
    rcases h.settled t v (h.tagged t e he) hv with hrefused | ⟨-, e', he', hreleases⟩
    · have hnone := hrefused.not_grants he
      rw [hgrants] at hnone
      cases hnone
    · have hkept := hnot e' he'
      rw [hreleases] at hkept
      cases hkept
  · exact hholder

/-- Mutual exclusion. -/
theorem Coherent.exclusive (h : Coherent G jobs d₀ x₀ holder st) (ht : M.Inside st.trace t)
    (ht' : M.Inside st.trace t') : t = t' := by
  have heq := (h.inside_eq ht).symm.trans (h.inside_eq ht')
  exact Option.some.inj heq

theorem Coherent.mem_order_of_holder (h : Coherent G jobs d₀ x₀ (some t) st) :
    t ∈ M.order st.trace := by
  obtain ⟨earlier, p, hholds⟩ := h.busy t rfl
  rw [hholds.order]
  exact List.mem_append_right _ (List.mem_singleton_self t)

/-- A task that called and did not get the mutex is over. It was refused, has made no other call, and
the refusal is its result. -/
theorem Coherent.refused (h : Coherent G jobs d₀ x₀ holder st) {e : Event S C R}
    (he : (t, e) ∈ st.trace) (horder : t ∉ M.order st.trace) :
    M.Refused st.trace t e.answer ∧ st.Settled t e.answer := by
  rcases h.traced t e he with ⟨v, hv⟩ | rfl
  · rcases h.settled t v (h.tagged t e he) hv with hr | ⟨hgranted, -⟩
    · obtain ⟨e', -, -, -, hanswer, honly⟩ := id hr
      rw [honly e he, hanswer]
      exact ⟨hr, hv⟩
    · exact absurd (M.mem_order.2 hgranted) horder
  · exact absurd h.mem_order_of_holder horder

/-- The shared state and the results are those of the granted tasks, each run once and alone, in the order
in which they got the mutex; the other tasks were refused. -/
structure Serialised (M : Mutex env) (prog : Op → Prog S C R R) (jobs : ι → List Op) (d₀ : S) (x₀ : W)
    (st : Shared ι S C R R W Op) : Prop where
  tasks : ∀ t ∈ M.order st.trace, (jobs t.client)[t.number]? = some t.op
  once : (M.order st.trace).Nodup
  record : st.record = (serial env prog d₀ x₀ (M.order st.trace)).record
  world : st.world = (serial env prog d₀ x₀ (M.order st.trace)).world
  results : ∀ c ∈ serialHistory env prog d₀ x₀ (M.order st.trace),
    (st.clients c.op.client).results[c.op.number]? = some c.value
  others : ∀ i k op, (jobs i)[k]? = some op → ⟨i, k, op⟩ ∉ M.order st.trace →
    ∃ r, M.Refused st.trace ⟨i, k, op⟩ r ∧ (st.clients i).results[k]? = some r

/-- Sections are serial. -/
theorem Coherent.serialised (h : Coherent G jobs d₀ x₀ holder st) (hfinished : st.Finished jobs) :
    Serialised M prog jobs d₀ x₀ st := by
  have hstored : ∀ t v, st.Settled t v ↔ (st.clients t.client).results[t.number]? = some v :=
    fun t v => (Client.running_of_none (hfinished t.client).1).settled_iff
  -- A holder would be in the middle of a job.
  obtain rfl : holder = none := by
    rw [Option.eq_none_iff_forall_ne_some]
    rintro t rfl
    obtain ⟨earlier, p, hholds⟩ := h.busy t rfl
    have hcurrent := hholds.current
    rw [(hfinished t.client).1] at hcurrent
    cases hcurrent
  obtain ⟨-, hrecord, hworld, hcomputed⟩ := h.free rfl
  refine ⟨fun t ht => ?_, h.once, hrecord, hworld, fun c hc => (hstored _ _).1 (hcomputed c hc), ?_⟩
  · obtain ⟨e, he, -⟩ := M.mem_order.1 ht
    exact h.tagged t e he
  · intro i k op hjob horder
    have hk : k < (st.clients i).results.length := by
      rw [(hfinished i).2]
      exact (List.getElem?_eq_some_iff.1 hjob).1
    have hresult : (st.clients i).results[k]? = some (st.clients i).results[k] :=
      List.getElem?_eq_getElem hk
    rcases h.settled ⟨i, k, op⟩ _ hjob ((hstored ⟨i, k, op⟩ _).2 hresult) with hr | ⟨hgranted, -⟩
    · exact ⟨_, hr, hresult⟩
    · exact absurd (M.mem_order.2 hgranted) horder

end Consequences

end CaffeineHal.Program
