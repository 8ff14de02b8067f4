import CaffeineHal.Program.Crew
import CaffeineHal.Program.Frame
import CaffeineHal.Program.Mutex

/-!
# What a mutex protects

A mutex protects an assertion about what its clients share: it holds while the mutex is free, a client may
suspend it between its lock and its unlock, and has to establish it again before it unlocks. A handler that may
interrupt every client does not take the mutex, so it has to leave the assertion as it is. `Bracket` is a
section with a body between its entry and its exit, and `Inner` is what the clients share besides the mutex.

If a body leads from the assertion to the assertion, over boundaries at which an invariant holds and with the
handler's interference (`Hoare`), then for any clients and any schedule of their steps and of the handler the
invariant holds in every state, and the assertion whenever the mutex is free (`Crew.play_protected`).
-/

set_option autoImplicit false

namespace CaffeineHal.Program

universe u v v' w

variable {S C R α H : Type u} {W : Type v} {W' : Type v'} {ι Op : Type w}
  {env : Env S C R W}

/-- The call is about the mutex. -/
def Mutex.about (M : Mutex env) (c : C) : Bool :=
  M.acquires c || M.releases c

theorem acquires_of_about {M : Mutex env} {c : C} (h : M.about c = false) : M.acquires c = false := by
  rw [Mutex.about, Bool.or_eq_false_iff] at h
  exact h.1

theorem releases_of_about {M : Mutex env} {c : C} (h : M.about c = false) : M.releases c = false := by
  rw [Mutex.about, Bool.or_eq_false_iff] at h
  exact h.2

/-- The program makes no call about the mutex. -/
abbrev Prog.Quiet (M : Mutex env) (p : Prog S C R α) : Prop :=
  p.Maintains (fun c => M.about c = false) fun _ => True

/-- A section with its body: refused, it is over; granted, it runs the body and then the exit, which only
reads until its one call frees the mutex. -/
structure Bracket (M : Mutex env) (inv : S → Prop) (p : Prog S C R R) where
  request : C
  next : R → Prog S C R R
  body : Prog S C R R
  exit : R → Prog S C R R
  acquires : M.acquires request = true
  enter : Entering inv request next p
  refused : ∀ r, M.granted r = false → next r = .done r
  granted : ∀ r, M.granted r = true → next r = body >>= exit
  quiet : body.Quiet M
  leaves : ∀ v, ∃ c b, M.releases c = true ∧ Entering inv c (fun _ => .done b) (exit v)

theorem Bracket.about_request {M : Mutex env} {inv : S → Prop} {p : Prog S C R R}
    (b : Bracket M inv p) : M.about b.request = true := by
  rw [Mutex.about, b.acquires, Bool.true_or]

/-- The environment without its mutex. -/
structure Inner (M : Mutex env) (env' : Env S C R W') where
  proj : W → W'
  other : ∀ c d x, M.about c = false →
    env'.answer c d (proj x) =
      ((env.answer c d x).1, (env.answer c d x).2.1, proj (env.answer c d x).2.2)
  lock : ∀ c d x, M.about c = true →
    (env.answer c d x).2.1 = d ∧ proj (env.answer c d x).2.2 = proj x

namespace Inner

variable {M : Mutex env} {env' : Env S C R W'} (E : Inner M env')

/-- The state without the mutex, and the calls that are not about it. -/
def view (s : Conf S C R W) : Conf S C R W' where
  record := s.record
  world := E.proj s.world
  log := s.log.filter fun e => !M.about e.call

variable {c : C} {s : Conf S C R W}

/-- A call about the mutex is not seen inside. -/
theorem view_lock (hc : M.about c = true) : E.view (s.answered env c) = E.view s := by
  obtain ⟨hd, hx⟩ := E.lock c s.record s.world hc
  unfold view Conf.answered
  rw [List.filter_cons_of_neg (by simp [hc]), hd, hx]

/-- Any other call is a call inside. -/
theorem view_other (hc : M.about c = false) :
    (E.view s).reply env' c = s.reply env c ∧
      E.view (s.answered env c) = (E.view s).answered env' c := by
  have hother := E.other c s.record s.world hc
  have hreply : (E.view s).reply env' c = s.reply env c := congrArg Prod.fst hother
  refine ⟨hreply, ?_⟩
  have hrecord : (env'.answer c (E.view s).record (E.view s).world).2.1 =
      (env.answer c s.record s.world).2.1 := congrArg (fun out => out.2.1) hother
  have hworld : (env'.answer c (E.view s).record (E.view s).world).2.2 =
      E.proj (env.answer c s.record s.world).2.2 := congrArg (fun out => out.2.2) hother
  unfold Conf.answered
  rw [hreply, hrecord, hworld]
  unfold view
  rw [List.filter_cons_of_pos (by simp [hc])]

/-- A call that is not about the mutex leaves it. -/
theorem held_other (hc : M.about c = false) :
    M.held (s.answered env c).world = M.held s.world :=
  M.keep c s.record s.world (acquires_of_about hc) (releases_of_about hc)

/-- A quiet program takes the same step inside, and leaves the mutex. -/
theorem view_step {p : Prog S C R α} (hp : p.Quiet M) :
    (step env (p, s)).1.Quiet M ∧
      step env' (p, E.view s) = ((step env (p, s)).1, E.view (step env (p, s)).2) ∧
      M.held (step env (p, s)).2.world = M.held s.world := by
  cases p with
  | done a => exact ⟨hp, rfl, rfl⟩
  | read k => exact ⟨hp s.record, rfl, rfl⟩
  | write f k => exact ⟨hp.2, rfl, rfl⟩
  | call c k =>
      obtain ⟨hreply, hview⟩ := E.view_other (s := s) hp.1
      refine ⟨hp.2 _, ?_, held_other hp.1⟩
      show (k ((E.view s).reply env' c), (E.view s).answered env' c) =
        (k (s.reply env c), E.view (s.answered env c))
      rw [hreply, hview]

/-- A quiet program runs inside as it does outside, and leaves the mutex. -/
theorem view_run {p : Prog S C R α} (hp : p.Quiet M) :
    run env' p (E.view s) = ((run env p s).1, E.view (run env p s).2) ∧
      M.held (run env p s).2.world = M.held s.world := by
  induction p generalizing s with
  | done a => exact ⟨rfl, rfl⟩
  | read k ih => exact ih s.record (hp s.record)
  | write f k ih => exact ih (s := s.written f) hp.2
  | call c k ih =>
      obtain ⟨hreply, hview⟩ := E.view_other (s := s) hp.1
      obtain ⟨hrun, hheld⟩ := ih (s.reply env c) (s := s.answered env c) (hp.2 _)
      refine ⟨?_, hheld.trans (held_other hp.1)⟩
      show run env' (k ((E.view s).reply env' c)) ((E.view s).answered env' c) =
        ((run env (k (s.reply env c)) (s.answered env c)).1,
          E.view (run env (k (s.reply env c)) (s.answered env c)).2)
      rw [hreply, ← hview, hrun]

end Inner

namespace Crew

section Protected

variable {M : Mutex env} {inv : S → Prop} {env' : Env S C R W'} {prog : Op → Prog S C R R}
  (E : Inner M env') (G : ∀ op, Bracket M inv (prog op)) (handler : H → Prog S C R α)
  (safe rest : Conf S C R W' → Prop)

variable (env') in
/-- The holder is in its body, which leads to `rest`, or on its way out, where `rest` holds. -/
inductive Working (op : Op) : Prog S C R R → Conf S C R W' → Prop
  | inside {q : Prog S C R R} {s : Conf S C R W'} (hquiet : q.Quiet M)
      (hout : Outline env' handler safe (fun _ => rest) q s) : Working op (q >>= (G op).exit) s
  | leaving {p : Prog S C R R} {s : Conf S C R W'} {c : C} {b : R} (hreleases : M.releases c = true)
      (hp : Entering inv c (fun _ => .done b) p) (hrest : rest s) : Working op p s

/-- What holds between two turns, when `holder` has the mutex. -/
structure Protected (holder : Option ι) (st : Crew ι S C R R W Op) : Prop where
  outside : ∀ i op p, holder ≠ some i → (st.clients i).current = some (op, p) →
    Entering inv (G op).request (G op).next p ∨ ∃ r, p = .done r
  free : holder = none → M.held st.conf.world = false ∧ rest (E.view st.conf)
  busy : ∀ i, holder = some i → M.held st.conf.world = true ∧
    ∃ op p, (st.clients i).current = some (op, p) ∧ Working env' G handler safe rest op p (E.view st.conf)

variable {E G handler safe rest} {holder : Option ι} {st : Crew ι S C R R W Op}

/-- The holder is not over: its last step frees the mutex. -/
theorem Working.ne_done {op : Op} {p : Prog S C R R} {s : Conf S C R W'}
    (h : Working env' G handler safe rest op p s) (r : R) : p ≠ .done r := by
  cases h with
  | leaving _ hp _ => exact hp.ne_done r
  | @inside q _ _ _ =>
      cases q with
      | done v =>
          obtain ⟨c, b, -, hexit⟩ := (G op).leaves v
          exact hexit.ne_done r
      | read k => exact Prog.read_ne_done _ r
      | write f k => exact fun heq => by cases heq
      | call c k => exact Prog.call_ne_done c _ r

/-- What the mutex protects is safe, and so is every boundary of a body. -/
theorem Protected.boundary (h : Protected E G handler safe rest holder st)
    (hsafe : ∀ s, rest s → safe s) : safe (E.view st.conf) := by
  cases holder with
  | none => exact hsafe _ (h.free rfl).2
  | some i =>
      obtain ⟨-, op, p, -, hworking⟩ := h.busy i rfl
      cases hworking with
      | inside _ hout => exact hout.boundary
      | leaving _ _ hrest => exact hsafe _ hrest

/-- While the mutex is free the assertion holds. -/
theorem Protected.rest_of_free (h : Protected E G handler safe rest holder st)
    (hfree : M.held st.conf.world = false) : rest (E.view st.conf) := by
  cases holder with
  | none => exact (h.free rfl).2
  | some i =>
      have hheld := (h.busy i rfl).1
      rw [hfree] at hheld
      cases hheld

/-- Where no client is in the middle of a job the mutex is free. -/
theorem Protected.free_of_idle (h : Protected E G handler safe rest holder st)
    (hidle : ∀ i, (st.clients i).current = none) : M.held st.conf.world = false := by
  cases holder with
  | none => exact (h.free rfl).1
  | some i =>
      obtain ⟨-, op, p, hcur, -⟩ := h.busy i rfl
      rw [hidle i] at hcur
      cases hcur

/-- Nobody has the mutex when it is free. -/
theorem Protected.nobody_of_free (h : Protected E G handler safe rest holder st)
    (hfree : M.held st.conf.world = false) : holder = none := by
  rw [Option.eq_none_iff_forall_ne_some]
  rintro i rfl
  have hheld := (h.busy i rfl).1
  rw [hfree] at hheld
  cases hheld

/-- Before the first turn. -/
theorem start_protected {s : Conf S C R W} (hfree : M.held s.world = false)
    (hrest : rest (E.view s)) :
    Protected E G handler safe rest none (.start s : Crew ι S C R R W Op) := by
  constructor
  · exact nofun
  · exact fun _ => ⟨hfree, hrest⟩
  · exact nofun

/-! ### Turns of the handler -/

/-- The handler leaves the mutex, and what it protects. -/
theorem Protected.interfere (h : Protected E G handler safe rest holder st)
    (hquiet : ∀ o, (handler o).Quiet M) (hstable : Stable env' handler rest) (o : H) :
    Protected E G handler safe rest holder { st with conf := (run env (handler o) st.conf).2 } := by
  obtain ⟨hrun, hheld⟩ := E.view_run (s := st.conf) (hquiet o)
  have hview : E.view (run env (handler o) st.conf).2 = (run env' (handler o) (E.view st.conf)).2 := by
    rw [hrun]
  constructor
  · exact h.outside
  · intro hnone
    obtain ⟨hfree, hrest⟩ := h.free hnone
    refine ⟨hheld.trans hfree, ?_⟩
    rw [hview]
    exact hstable o _ hrest
  · intro i hi
    obtain ⟨hbusy, op, p, hcur, hworking⟩ := h.busy i hi
    refine ⟨hheld.trans hbusy, op, p, hcur, ?_⟩
    rw [hview]
    cases hworking with
    | inside hq hout => exact .inside hq (hout.interfere o)
    | leaving hreleases hp hrest => exact .leaving hreleases hp (hstable o _ hrest)

variable [DecidableEq ι] {i : ι} {op : Op} {p q : Prog S C R R} {c : C} {k : R → Prog S C R R}
  {s : Conf S C R W}

/-! ### Turns that leave the mutex -/

/-- A turn that changes nothing but a client outside. -/
theorem Protected.outsider (h : Protected E G handler safe rest holder st) (haway : holder ≠ some i)
    {client : Client S C R R Op} (hview : E.view s = E.view st.conf)
    (hheld : M.held s.world = M.held st.conf.world)
    (hout : ∀ op p, client.current = some (op, p) →
      Entering inv (G op).request (G op).next p ∨ ∃ r, p = .done r) :
    Protected E G handler safe rest holder (st.put i client s) := by
  have hother : ∀ j, j ≠ i → (st.put i client s).clients j = st.clients j :=
    fun j hj => Function.update_of_ne hj ..
  constructor
  · intro j op p hj hcur
    by_cases hji : j = i
    · subst hji
      have hself : (st.put j client s).clients j = client := Function.update_self ..
      rw [hself] at hcur
      exact hout op p hcur
    · rw [hother j hji] at hcur
      exact h.outside j op p hj hcur
  · intro hnone
    show M.held s.world = false ∧ rest (E.view s)
    rw [hheld, hview]
    exact h.free hnone
  · intro j hj
    have hji : j ≠ i := by
      rintro rfl
      exact haway hj
    rw [hother j hji]
    show M.held s.world = true ∧ ∃ op p, (st.clients j).current = some (op, p) ∧
      Working env' G handler safe rest op p (E.view s)
    rw [hheld, hview]
    exact h.busy j hj

/-- The mutex is refused: the job is over. -/
theorem Protected.refuse (h : Protected E G handler safe rest holder st) (haway : holder ≠ some i)
    (hheld : M.held st.conf.world = true) {results : List R} :
    Protected E G handler safe rest holder
      (st.put i ⟨some (op, (G op).next (st.conf.reply env (G op).request)), results⟩
        (st.conf.answered env (G op).request)) := by
  obtain ⟨hrefused, hsame⟩ := M.refuse _ st.conf.record st.conf.world (G op).acquires hheld
  have hworld : M.held (st.conf.answered env (G op).request).world = M.held st.conf.world :=
    congrArg (fun out => M.held out.2) hsame
  refine h.outsider haway (E.view_lock (G op).about_request) hworld ?_
  rintro op' p' ⟨⟩
  exact .inr ⟨_, (G op).refused _ hrefused⟩

/-! ### Turns around the mutex -/

/-- A step of the client that had the mutex, or gets it. -/
theorem Protected.turned {holder' : Option ι} {results : List R}
    (h : Protected E G handler safe rest holder st) (hothers : ∀ j, j ≠ i → holder ≠ some j)
    (hfree : holder' = none → M.held s.world = false ∧ rest (E.view s) ∧ ∃ b, q = .done b)
    (hbusy : ∀ j, holder' = some j →
      j = i ∧ M.held s.world = true ∧ Working env' G handler safe rest op q (E.view s)) :
    Protected E G handler safe rest holder' (st.put i ⟨some (op, q), results⟩ s) := by
  have hself : (st.put i ⟨some (op, q), results⟩ s).clients i = ⟨some (op, q), results⟩ :=
    Function.update_self ..
  constructor
  · intro j op' p' hj hcur
    by_cases hji : j = i
    · subst hji
      rw [hself] at hcur
      obtain ⟨-, rfl⟩ := Prod.mk.inj (Option.some.inj hcur)
      -- The client itself is outside only when it has freed the mutex.
      cases holder' with
      | none => exact .inr (hfree rfl).2.2
      | some j' =>
          obtain ⟨rfl, -⟩ := hbusy j' rfl
          exact absurd rfl hj
    · have hother : (st.put i ⟨some (op, q), results⟩ s).clients j = st.clients j :=
        Function.update_of_ne hji ..
      rw [hother] at hcur
      exact h.outside j op' p' (hothers j hji) hcur
  · intro hnone
    obtain ⟨hheld, hrest, -⟩ := hfree hnone
    exact ⟨hheld, hrest⟩
  · intro j hj
    obtain ⟨rfl, hheld, hworking⟩ := hbusy j hj
    refine ⟨hheld, op, q, ?_, hworking⟩
    rw [hself]

/-- The mutex is granted: the client starts its body in a state that was protected. -/
theorem Protected.grant (h : Protected E G handler safe rest none st)
    (hbody : ∀ op, Hoare env' handler safe rest (G op).body fun _ => rest) {results : List R} :
    Protected E G handler safe rest (some i)
      (st.put i ⟨some (op, (G op).next (st.conf.reply env (G op).request)), results⟩
        (st.conf.answered env (G op).request)) := by
  obtain ⟨hfree, hrest⟩ := h.free rfl
  obtain ⟨hgranted, -, hx⟩ := M.take _ st.conf.record st.conf.world (G op).acquires hfree
  have hnext : (G op).next (st.conf.reply env (G op).request) = (G op).body >>= (G op).exit :=
    (G op).granted _ hgranted
  refine h.turned (fun _ _ => nofun) nofun ?_
  rintro j ⟨⟩
  refine ⟨rfl, hx, ?_⟩
  rw [E.view_lock (G op).about_request, hnext]
  exact .inside (G op).quiet (hbody op _ hrest)

/-- The holder goes on. -/
theorem Protected.goOn (h : Protected E G handler safe rest (some i) st) {results : List R}
    (hheld : M.held s.world = true) (hq : Working env' G handler safe rest op q (E.view s)) :
    Protected E G handler safe rest (some i) (st.put i ⟨some (op, q), results⟩ s) := by
  refine h.turned ?_ nofun ?_
  · rintro j hji ⟨⟩
    exact hji rfl
  · rintro j ⟨⟩
    exact ⟨rfl, hheld, hq⟩

/-- The holder frees the mutex with its last step. -/
theorem Protected.release (h : Protected E G handler safe rest (some i) st) {b : R}
    {results : List R} (hreleases : M.releases c = true) (hrest : rest (E.view st.conf)) :
    Protected E G handler safe rest none
      (st.put i ⟨some (op, .done b), results⟩ (st.conf.answered env c)) := by
  have habout : M.about c = true := by
    rw [Mutex.about, hreleases, Bool.or_true]
  have hx : M.held (st.conf.answered env c).world = false :=
    (M.free c st.conf.record st.conf.world hreleases).2
  refine h.turned ?_ ?_ nofun
  · rintro j hji ⟨⟩
    exact hji rfl
  · intro _
    rw [E.view_lock habout]
    exact ⟨hx, hrest, b, rfl⟩

/-! ### Every turn of a client -/

/-- A turn of a client that does not hold the mutex. -/
theorem Protected.away (h : Protected E G handler safe rest holder st) (hinv : inv st.conf.record)
    (hbody : ∀ op, Hoare env' handler safe rest (G op).body fun _ => rest) (haway : holder ≠ some i)
    {st' : Crew ι S C R R W Op} (hturn : Advance env prog i st st') :
    ∃ holder', Protected E G handler safe rest holder' st' := by
  cases hturn with
  | rest => exact ⟨holder, h⟩
  | begin op hcur =>
      refine ⟨holder, h.outsider haway rfl rfl ?_⟩
      rintro op p ⟨⟩
      exact .inl (G _).enter
  | store hcur =>
      refine ⟨holder, h.outsider haway rfl rfl ?_⟩
      rintro op p ⟨⟩
  | go hcur hp =>
      rcases h.outside i _ _ haway hcur with henter | ⟨r, hover⟩
      · -- On the way to the mutex a client only reads; its one call is the request.
        cases henter with
        | read hk =>
            refine ⟨holder, h.outsider haway rfl rfl ?_⟩
            rintro _ _ ⟨⟩
            exact .inl (hk st.conf.record hinv)
        | call =>
            cases hheld : M.held st.conf.world with
            | true => exact ⟨holder, h.refuse haway hheld⟩
            | false =>
                obtain rfl := h.nobody_of_free hheld
                exact ⟨_, h.grant hbody⟩
      · exact absurd hover (hp r)

/-- A step of the holder on its way out. -/
theorem Protected.leave (h : Protected E G handler safe rest (some i) st) (hinv : inv st.conf.record)
    (hheld : M.held st.conf.world = true) {b : R} (hreleases : M.releases c = true)
    (hp : Entering inv c (fun _ => .done b) p) (hrest : rest (E.view st.conf)) {results : List R} :
    ∃ holder', Protected E G handler safe rest holder'
      (st.put i ⟨some (op, (step env (p, st.conf)).1), results⟩ (step env (p, st.conf)).2) := by
  cases hp with
  | read hk => exact ⟨_, h.goOn hheld (.leaving hreleases (hk st.conf.record hinv) hrest)⟩
  | call => exact ⟨_, h.release hreleases hrest⟩

/-- A step inside a body. -/
theorem Protected.inside (h : Protected E G handler safe rest (some i) st) (hinv : inv st.conf.record)
    (hheld : M.held st.conf.world = true) (hquiet : q.Quiet M)
    (hout : Outline env' handler safe (fun _ => rest) q (E.view st.conf)) {results : List R} :
    let out := step env (q >>= (G op).exit, st.conf)
    ∃ holder', Protected E G handler safe rest holder'
      (st.put i ⟨some (op, out.1), results⟩ out.2) := by
  have goesOn (hsame : step env (q >>= (G op).exit, st.conf) =
      ((step env (q, st.conf)).1 >>= (G op).exit, (step env (q, st.conf)).2)) :
      ∃ holder', Protected E G handler safe rest holder'
        (st.put i ⟨some (op, (step env (q >>= (G op).exit, st.conf)).1), results⟩
          (step env (q >>= (G op).exit, st.conf)).2) := by
    obtain ⟨hquiet', hview, hkeep⟩ := E.view_step (s := st.conf) hquiet
    have hstep := hout.step
    rw [hview] at hstep
    rw [hsame]
    exact ⟨_, h.goOn (hkeep.trans hheld) (.inside hquiet' hstep)⟩
  -- A step of the section is one of its body, until the body is finished.
  cases q with
  | done v =>
      obtain ⟨c, b, hreleases, hexit⟩ := (G op).leaves v
      exact h.leave hinv hheld hreleases hexit (hout.finished rfl)
  | read k => exact goesOn rfl
  | write f k => exact goesOn rfl
  | call c k => exact goesOn rfl

/-- A turn of the holder. -/
theorem Protected.holds (h : Protected E G handler safe rest (some i) st) (hinv : inv st.conf.record)
    {st' : Crew ι S C R R W Op} (hturn : Advance env prog i st st') :
    ∃ holder', Protected E G handler safe rest holder' st' := by
  obtain ⟨hheld, op, p, hcur, hworking⟩ := h.busy i rfl
  cases hturn with
  | rest => exact ⟨_, h⟩
  | begin op' hnone =>
      rw [hcur] at hnone
      cases hnone
  | store hdone =>
      rw [hcur] at hdone
      obtain ⟨rfl, rfl⟩ := Prod.mk.inj (Option.some.inj hdone)
      exact absurd rfl (hworking.ne_done _)
  | go hcur' hp =>
      rw [hcur] at hcur'
      obtain ⟨rfl, rfl⟩ := Prod.mk.inj (Option.some.inj hcur')
      cases hworking with
      | leaving hreleases hexit hrest => exact h.leave hinv hheld hreleases hexit hrest
      | inside hquiet hout => exact h.inside hinv hheld hquiet hout

/-- Every turn of a client keeps what the mutex protects. -/
theorem Protected.advance (h : Protected E G handler safe rest holder st) {jobs : ι → List Op}
    (hbody : ∀ op, Hoare env' handler safe rest (G op).body fun _ => rest)
    (hsafe : ∀ s, rest s → safe s) (hinv : ∀ s, safe s → inv s.record) (i : ι) :
    ∃ holder', Protected E G handler safe rest holder' (st.advance env prog jobs i) := by
  have hturn : Advance env prog i st (st.advance env prog jobs i) := advance_cases i st
  have hkept : inv st.conf.record := hinv _ (h.boundary hsafe)
  by_cases hi : holder = some i
  · subst hi
    exact h.holds hkept hturn
  · exact h.away hkept hbody hi hturn

/-- What the mutex protects, for any clients and any schedule of their steps and of the handler: it is safe
in every state, the assertion holds whenever the mutex is free, and the mutex is free where no client is in the
middle of a job. -/
theorem play_protected {jobs : ι → List Op} (hquiet : ∀ o, (handler o).Quiet M)
    (hstable : Stable env' handler rest)
    (hbody : ∀ op, Hoare env' handler safe rest (G op).body fun _ => rest)
    (hsafe : ∀ s, rest s → safe s) (hinv : ∀ s, safe s → inv s.record)
    (hfree : M.held s.world = false) (hrest : rest (E.view s)) (schedule : List (ι ⊕ H)) :
    let st : Crew ι S C R R W Op := play env prog handler jobs schedule (.start s)
    safe (E.view st.conf) ∧ (M.held st.conf.world = false → rest (E.view st.conf)) ∧
      ((∀ i, (st.clients i).current = none) → M.held st.conf.world = false) := by
  intro st
  obtain ⟨holder, h⟩ : ∃ holder, Protected E G handler safe rest holder st := by
    refine play_keeps (fun st => ∃ holder, Protected E G handler safe rest holder st) ?_ ?_ schedule
      ⟨none, start_protected hfree hrest⟩
    · rintro i st ⟨holder, h⟩
      exact h.advance hbody hsafe hinv i
    · rintro o st ⟨holder, h⟩
      exact ⟨holder, h.interfere hquiet hstable o⟩
  exact ⟨h.boundary hsafe, h.rest_of_free, h.free_of_idle⟩

end Protected

end Crew

end CaffeineHal.Program
