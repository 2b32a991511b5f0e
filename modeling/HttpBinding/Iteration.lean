/-!
Bounded repetition of a step that may fail.
-/
namespace HttpBinding

/-- Repeats a step until it gives a result, at most `fuel` times, and then gives up. -/
@[specialize]
def iterate {m : Type → Type} [Monad m] (givenUp : m α) (step : β → m (β ⊕ α)) : Nat → β → m α
  | 0, _ => givenUp
  | fuel + 1, state => do
      match ← step state with
      | .inl state => iterate givenUp step fuel state
      | .inr value => return value

end HttpBinding
