import DocBlock.Event

/-!
# What a traced computation gives

A `Traced` computation reports events and ends with a result. It is a lawful monad, and forgetting
the events keeps its structure: the result of a sequence is the sequence of the results
(`result_bind`, `result_mapM`). So whatever is said of results can be said in `Except`.

There the first failure decides. `failure?` gives the failure of a result, and the failure of a list
of steps is that of the first step that has one (`failure?_mapM`).
-/

namespace DocBlock

namespace Traced

variable {ε α β : Type}

instance : LawfulMonad (Traced ε) := LawfulMonad.mk' (Traced ε)
  (by
    intro α x
    obtain ⟨events, result⟩ := x
    cases result with
    | ok a => simp [Functor.map, Traced.bind, Traced.pure]
    | error e => simp [Functor.map, Traced.bind])
  (by
    intro α β a f
    simp [Bind.bind, Pure.pure, Traced.bind, Traced.pure])
  (by
    intro α β γ x f g
    obtain ⟨events, result⟩ := x
    cases result with
    | ok a =>
      cases hf : (f a).result with
      | ok b => simp [Bind.bind, Traced.bind, hf]
      | error e => simp [Bind.bind, Traced.bind, hf]
    | error e => simp [Bind.bind, Traced.bind])

@[simp] theorem result_pure (a : α) : (pure a : Traced ε α).result = .ok a := rfl

@[simp] theorem result_report (event : Event) :
    (report event : Traced ε Unit).result = .ok () := rfl

@[simp] theorem result_ofExcept (x : Except ε α) : (ofExcept x).result = x := rfl

@[simp] theorem result_bind (x : Traced ε α) (f : α → Traced ε β) :
    (x >>= f).result = x.result >>= fun a => (f a).result := by
  obtain ⟨events, result⟩ := x
  cases result with
  | ok a => rfl
  | error e => rfl

@[simp] theorem result_map (f : α → β) (x : Traced ε α) : (f <$> x).result = f <$> x.result := by
  rw [map_eq_pure_bind, result_bind, map_eq_pure_bind]
  rfl

@[simp] theorem events_map (f : α → β) (x : Traced ε α) : (f <$> x).events = x.events := by
  obtain ⟨events, result⟩ := x
  cases result with
  | ok a => exact List.append_nil events
  | error e => rfl

/-- The result of a list of steps is the list of their results. -/
@[simp] theorem result_mapM (f : α → Traced ε β) (xs : List α) :
    (xs.mapM f).result = xs.mapM fun x => (f x).result := by
  induction xs with
  | nil => rfl
  | cons x xs ih =>
    rw [List.mapM_cons, List.mapM_cons]
    simp only [result_bind, ih]
    rfl

end Traced

/-! ## The first failure -/

section
variable {ε α β : Type}

/-- The failure of a result. -/
def failure? : Except ε α → Option ε
  | .ok _ => none
  | .error e => some e

@[simp] theorem failure?_ok (a : α) : failure? (.ok a : Except ε α) = none := rfl

@[simp] theorem failure?_error (e : ε) : failure? (.error e : Except ε α) = some e := rfl

theorem failure?_eq_some_iff {x : Except ε α} {e : ε} : failure? x = some e ↔ x = .error e := by
  cases x <;> simp

theorem failure?_eq_none_iff {x : Except ε α} : failure? x = none ↔ ∃ a, x = .ok a := by
  cases x <;> simp

@[simp] theorem failure?_map (f : α → β) (x : Except ε α) : failure? (f <$> x) = failure? x := by
  cases x <;> rfl

/-- What is computed from a result tells that there is one. -/
theorem exists_ok_of_map_toOption {f : α → β} {x : Except ε α} {b : β}
    (h : x.toOption.map f = some b) : ∃ a, x = .ok a ∧ f a = b := by
  cases x with
  | error e => nomatch h
  | ok a => exact ⟨a, rfl, Option.some.inj h⟩

theorem exists_ok_of_bind_eq_ok {x : Except ε α} {f : α → Except ε β} {b : β}
    (h : x >>= f = .ok b) : ∃ a, x = .ok a ∧ f a = .ok b := by
  cases x with
  | error e => nomatch h
  | ok a => exact ⟨a, rfl, h⟩

/-- A list of steps that all have a value gives these values. -/
theorem mapM_eq_ok {f : α → Except ε β} {g : α → β} {xs : List α}
    (h : ∀ x ∈ xs, f x = .ok (g x)) : xs.mapM f = .ok (xs.map g) := by
  induction xs with
  | nil => rfl
  | cons x xs ih =>
    rw [List.mapM_cons, h x (List.mem_cons_self ..),
      ih fun y hy => h y (List.mem_cons_of_mem _ hy)]
    rfl

/-- A list of steps fails with the first of their failures. -/
theorem failure?_mapM (f : α → Except ε β) (xs : List α) :
    failure? (xs.mapM f) = xs.findSome? fun x => failure? (f x) := by
  induction xs with
  | nil => rfl
  | cons x xs ih =>
    rw [List.mapM_cons, List.findSome?_cons]
    cases hx : f x with
    | error e => rfl
    | ok b =>
      simp only [failure?_ok, ← ih]
      cases xs.mapM f with
      | ok bs => rfl
      | error e => rfl

end

end DocBlock
