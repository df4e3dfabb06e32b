/-!
# Computations that leave a log and may fail

What was logged before a failure stays.
Main statement: they form a lawful monad, so the log of a sequence is the concatenation of the logs
of its steps up to the first that fails.
-/

namespace WireTree

/-- The log and the outcome of a computation. -/
structure Traced (ω ε α : Type) where
  log : List ω
  result : Except ε α

namespace Traced

variable {ω ε α β : Type}

/-- Log one entry. -/
def emit (entry : ω) : Traced ω ε Unit := ⟨[entry], .ok ()⟩

/-- An outcome without a log. -/
def lift (result : Except ε α) : Traced ω ε α := ⟨[], result⟩

/-- First one computation and, unless it fails, the next with its value. -/
def andThen (first : Traced ω ε α) (following : α → Traced ω ε β) : Traced ω ε β :=
  match first.result with
  | .error e => ⟨first.log, .error e⟩
  | .ok a => ⟨first.log ++ (following a).log, (following a).result⟩

/-- If the computation fails, go on with another one. -/
def orElse (first : Traced ω ε α) (handle : ε → Traced ω ε α) : Traced ω ε α :=
  match first.result with
  | .error e => ⟨first.log ++ (handle e).log, (handle e).result⟩
  | .ok _ => first

instance : Monad (Traced ω ε) where
  pure a := ⟨[], .ok a⟩
  bind := andThen

instance : MonadExcept ε (Traced ω ε) where
  throw e := ⟨[], .error e⟩
  tryCatch := orElse

theorem map_id (x : Traced ω ε α) : id <$> x = x := by
  obtain ⟨log, result⟩ := x
  cases result <;> simp [Functor.map, andThen]

theorem pure_andThen (a : α) (f : α → Traced ω ε β) : (pure a >>= f) = f a := by
  simp [bind, pure, andThen]

theorem andThen_assoc {γ : Type} (x : Traced ω ε α) (f : α → Traced ω ε β)
    (g : β → Traced ω ε γ) : x >>= f >>= g = x >>= fun a => f a >>= g := by
  obtain ⟨log, result⟩ := x
  cases result with
  | error e => simp [bind, andThen]
  | ok a =>
    simp only [bind, andThen]
    cases (f a).result <;> simp

instance : LawfulMonad (Traced ω ε) :=
  LawfulMonad.mk' _ map_id pure_andThen andThen_assoc

end Traced

end WireTree
