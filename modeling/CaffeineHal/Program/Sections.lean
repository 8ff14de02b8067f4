import CaffeineHal.Program.Resumption

/-!
# Programs with nested sections

A client of a lock is a sequence of operations and sections, a section being a smaller program that runs
between an entry and an exit. `Sections` is the syntax: what comes next may depend on the results so far,
and sections nest to any depth. `Sections.eval` gives it a meaning in any monad, from the meaning of an
operation and of a section around a program.

`Sections.eval_induct` is the rule for what every such program has.
-/

set_option autoImplicit false

namespace CaffeineHal.Program

universe u v w

/-- A program of operations `Op` and of sections with a label `L`, both with results `R`. -/
inductive Sections (Op : Type u) (L : Type v) (R : Type w) : Type (max u v w) where
  | ret (r : R)
  | op (o : Op) (next : R → Sections Op L R)
  | within (label : L) (body : Sections Op L R) (next : R → Sections Op L R)

namespace Sections

variable {Op : Type u} {L : Type v} {R : Type w}

section Eval

variable {m : Type w → Type*} [Monad m] (op : Op → m R) (enter : L → m R → m R)

/-- The meaning of a program: `op o` is the operation `o`, and `enter l` puts a section around its body. -/
def eval : Sections Op L R → m R
  | .ret r => pure r
  | .op o next => op o >>= fun r => (next r).eval
  | .within l body next => enter l body.eval >>= fun r => (next r).eval

variable {op enter}

/-- What every operation has, and composition and sections keep, every program has. -/
theorem eval_induct {Q : m R → Prop} (hret : ∀ r, Q (pure r)) (hop : ∀ o, Q (op o))
    (henter : ∀ l p, Q p → Q (enter l p))
    (hbind : ∀ (p : m R) (f : R → m R), Q p → (∀ r, Q (f r)) → Q (p >>= f))
    (b : Sections Op L R) : Q (b.eval op enter) := by
  induction b with
  | ret r => exact hret r
  | op o next ih => exact hbind _ _ (hop o) ih
  | within l body next ihbody ihnext => exact hbind _ _ (henter l _ ihbody) ihnext

end Eval

end Sections

end CaffeineHal.Program
