import GraphPattern.Error

/-!
# Computations that leave a trace

A traced computation succeeds or fails, and either way leaves what it did before
as a list of entries, in order. One computation after another leaves the entries
of both, and a failure leaves those of everything before it.
-/

namespace GraphPattern

/-- Only after a success does something else succeed. -/
theorem exists_of_bind_eq_ok {α β : Type} {first : Except Error α} {next : α → Except Error β}
    {last : β} (ended : first >>= next = .ok last) :
    ∃ value, first = .ok value ∧ next value = .ok last := by
  cases first with
  | error error => cases ended
  | ok value => exact ⟨value, rfl, ended⟩

/-- A computation that may fail and the trace that it leaves. -/
structure Traced (ε α : Type) where
  /-- What the computation did, in order. -/
  trace : List ε
  /-- How the computation ends. -/
  result : Except Error α

namespace Traced

variable {ε δ α β γ : Type}

/-- A computation that ends as given and leaves nothing. -/
def ofExcept (result : Except Error α) : Traced ε α := ⟨[], result⟩

/-- One computation and then another, unless the first one fails. -/
def bind (first : Traced ε α) (next : α → Traced ε β) : Traced ε β :=
  match first.result with
  | .ok value => ⟨first.trace ++ (next value).trace, (next value).result⟩
  | .error error => ⟨first.trace, .error error⟩

instance : Monad (Traced ε) where
  pure value := ofExcept (.ok value)
  bind := bind

instance : LawfulMonad (Traced ε) := LawfulMonad.mk' (Traced ε)
  (by
    rintro _ ⟨trace, _ | _⟩ <;> simp [Functor.map, bind, ofExcept])
  (by
    intro _ _ value next
    simp [Bind.bind, Pure.pure, bind, ofExcept])
  (by
    rintro _ _ _ ⟨trace, _ | value⟩ next last
    · rfl
    · simp only [Bind.bind, bind]
      rcases (next value).result with _ | _ <;> simp [List.append_assoc])

/-- Two computations that are both carried out, whether or not the first one fails. The first
failure counts. -/
def both (first : Traced ε α) (second : Traced ε β) : Traced ε (α × β) :=
  ⟨first.trace ++ second.trace, do return (← first.result, ← second.result)⟩

/-- The computation with another value at its end. -/
def map (change : α → β) (computation : Traced ε α) : Traced ε β :=
  ⟨computation.trace, computation.result.map change⟩

/-- Leaves one entry. -/
def leave (entry : ε) : Traced ε Unit := ⟨[entry], .ok ()⟩

/-- The computation whose trace has other entries in the place of its own. -/
def retraced (change : ε → δ) (computation : Traced ε α) : Traced δ α :=
  ⟨computation.trace.map change, computation.result⟩

/-- How a sequence of computations ends depends on how its parts end. -/
theorem result_bind (first : Traced ε α) (next : α → Traced ε β) :
    (first >>= next).result = first.result >>= fun value => (next value).result := by
  rcases first with ⟨trace, _ | value⟩ <;> rfl

/-- If one computation after another succeeds, both do. -/
theorem ok_of_result_bind {first : Traced ε α} {next : α → Traced ε β} {last : β}
    (ended : (first >>= next).result = .ok last) :
    ∃ value, first.result = .ok value ∧ (next value).result = .ok last :=
  exists_of_bind_eq_ok ((result_bind first next).symm.trans ended)

/-- A failure leaves the trace of what came before it. -/
theorem trace_bind_of_error (first : Traced ε α) (next : α → Traced ε β) (error : Error)
    (failed : first.result = .error error) : (first >>= next).trace = first.trace := by
  rcases first with ⟨trace, _ | value⟩
  · rfl
  · cases failed

/-- After a success the trace of the next computation follows. -/
theorem trace_bind_of_ok (first : Traced ε α) (next : α → Traced ε β) (value : α)
    (ended : first.result = .ok value) :
    (first >>= next).trace = first.trace ++ (next value).trace := by
  rcases first with ⟨trace, _ | value⟩
  · cases ended
  · cases ended
    rfl

/-- What follows a computation matters only if that succeeds. -/
theorem bind_congr_of_ok {first : Traced ε α} {next other : α → Traced ε β}
    (same : ∀ value, first.result = .ok value → next value = other value) :
    first >>= next = first >>= other := by
  rcases first with ⟨trace, _ | value⟩
  · rfl
  · have ends := same value rfl
    exact congrArg (fun last : Traced ε β => Traced.mk (trace ++ last.trace) last.result) ends

/-- The value at the end is changed where the second computation gives it. -/
theorem map_bind (change : β → γ) (first : Traced ε α) (next : α → Traced ε β) :
    (first >>= next).map change = first >>= fun value => (next value).map change := by
  rcases first with ⟨trace, _ | value⟩ <;> rfl

/-- What follows a computation gets its changed value. -/
theorem bind_map (change : α → β) (first : Traced ε α) (next : β → Traced ε γ) :
    first.map change >>= next = first >>= fun value => next (change value) := by
  rcases first with ⟨trace, _ | value⟩ <;> rfl

/-- A value that is known is passed on. -/
theorem ofExcept_ok_bind (value : α) (next : α → Traced ε β) :
    (ofExcept (.ok value) >>= next : Traced ε β) = next value := pure_bind value next

/-- A value that is given at once is changed at once. -/
theorem map_pure (change : α → β) (value : α) :
    (pure value : Traced ε α).map change = pure (change value) := rfl

/-- Giving a changed value afterwards changes the value at the end. -/
theorem bind_pure_map (change : α → β) (first : Traced ε α) :
    (first >>= fun value => pure (change value)) = first.map change := by
  rcases first with ⟨trace, _ | value⟩
  · rfl
  · exact congrArg (Traced.mk · (.ok (change value))) (List.append_nil trace)

/-- Computations whose values are changed give a list of changed values. -/
theorem mapM_map {step : α → Traced ε β} {other : α → Traced ε γ} {change : β → γ}
    {list : List α} (each : ∀ element ∈ list, other element = (step element).map change) :
    list.mapM other = (list.mapM step).map (List.map change) := by
  induction list with
  | nil => rfl
  | cons element rest ih =>
    rw [List.forall_mem_cons] at each
    rw [List.mapM_cons, List.mapM_cons, each.1, ih each.2, bind_map, map_bind]
    congr 1
    funext value
    rw [bind_map, map_bind]
    rfl

end Traced

end GraphPattern
