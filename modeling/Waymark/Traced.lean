/-! # Computations that leave a trace

A computation may fail, and on the way it does things that others can observe: it asks a
collaborator, or changes a table. What it did before it failed remains done. So its outcome comes
with the list of all that was done, in order.
-/

namespace Waymark

universe u v w

/-- An outcome, together with what was done on the way to it. -/
structure Traced (σ : Type u) (ε : Type v) (α : Type w) where
  trace : List σ
  outcome : Except ε α

namespace Traced

variable {σ : Type u} {ε : Type v} {α β : Type w}

/-- Does nothing and answers a value. -/
def ok (a : α) : Traced σ ε α := ⟨[], .ok a⟩

/-- Does nothing and fails. -/
def fail (e : ε) : Traced σ ε α := ⟨[], .error e⟩

/-- Does one thing. -/
def note (s : σ) : Traced σ ε Unit := ⟨[s], .ok ()⟩

/-- Takes an outcome without doing anything. -/
def ofExcept (outcome : Except ε α) : Traced σ ε α := ⟨[], outcome⟩

/-- Goes on with the value of a computation that succeeds. -/
def andThen (x : Traced σ ε α) (f : α → Traced σ ε β) : Traced σ ε β :=
  match x.outcome with
  | .ok a => ⟨x.trace ++ (f a).trace, (f a).outcome⟩
  | .error e => ⟨x.trace, .error e⟩

instance : Monad (Traced σ ε) where
  pure := ok
  bind := andThen

/-- Runs computations for the members of a list, up to the first that fails. -/
def forEach {γ : Type w} (members : List γ) (f : γ → Traced σ ε PUnit) : Traced σ ε PUnit :=
  match members with
  | [] => ok ⟨⟩
  | a :: rest => (f a).andThen fun _ => forEach rest f

@[simp]
theorem trace_ok (a : α) : (ok a : Traced σ ε α).trace = [] := rfl

@[simp]
theorem outcome_ok (a : α) : (ok a : Traced σ ε α).outcome = .ok a := rfl

theorem andThen_ok (a : α) (f : α → Traced σ ε β) : (ok a : Traced σ ε α).andThen f = f a := by
  simp [andThen, ok]

theorem andThen_fail (e : ε) (f : α → Traced σ ε β) :
    (fail e : Traced σ ε α).andThen f = fail e := rfl

end Traced

end Waymark
