/-!
# Attempts

A call that may fail leaves something behind either way: how it ended, and what there is then.
-/

namespace QuoteSearch

structure Attempt (ε σ α : Type) where
  outcome : Except ε α
  state : σ

namespace Attempt

variable {ε σ α : Type}

/-- What an attempt that passed returned, with the state that it led to. -/
def passed (a : Attempt ε σ α) : Except ε (α × σ) := a.outcome.map fun value => (value, a.state)

end Attempt

end QuoteSearch
