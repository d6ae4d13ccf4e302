namespace OnePass

/-!
# Callbacks

A callback is a function of its arguments that either returns or aborts.  A plain
callback sees the value and its visible index; only a contextual one sees the
context of the run as well.
-/

/-- A callback on values of type `α` with results of type `β`. -/
inductive Callback (ε γ α β : Type) where
  | plain (function : α → Nat → Except ε β)
  | contextual (function : α → Nat → γ → Except ε β)

namespace Callback

variable {ε γ α β : Type}

/-- Call with a value, its visible index and the context of the run. -/
def call
    (callback : Callback ε γ α β)
    (value : α)
    (index : Nat)
    (context : γ) :
    Except ε β :=
  match callback with
  | .plain function => function value index
  | .contextual function => function value index context

/-- Whether the callback receives the context. -/
def isContextual : Callback ε γ α β → Bool
  | .plain _ => false
  | .contextual _ => true

@[simp] theorem call_plain
    (function : α → Nat → Except ε β)
    (value : α)
    (index : Nat)
    (context : γ) :
    (Callback.plain function).call value index context = function value index :=
  rfl

@[simp] theorem call_contextual
    (function : α → Nat → γ → Except ε β)
    (value : α)
    (index : Nat)
    (context : γ) :
    (Callback.contextual function).call value index context =
      function value index context :=
  rfl

end Callback

end OnePass
