/-!
# Sequences of steps that may fail

A sequence of steps goes on with the value of a step that succeeds, and ends with the fault of
one that fails. One step for each element of a list ends with the fault of the first element that
fails (`FirstFails`).
-/

set_option autoImplicit false

namespace GridChess

theorem ok_bind {ε α β : Type} (a : α) (next : α → Except ε β) :
    (Except.ok a >>= next) = next a := rfl

theorem error_bind {ε α β : Type} (fault : ε) (next : α → Except ε β) :
    (Except.error fault >>= next) = .error fault := rfl

theorem bind_eq_ok {ε α β : Type} (step : Except ε α) (next : α → Except ε β) (b : β)
    (succeeds : (step >>= next) = .ok b) : ∃ a, step = .ok a ∧ next a = .ok b := by
  cases step with
  | error fault => cases succeeds
  | ok a => exact ⟨a, rfl, succeeds⟩

theorem bind_eq_error_iff {ε α β : Type} (step : Except ε α) (next : α → Except ε β) (fault : ε) :
    (step >>= next) = .error fault ↔
      step = .error fault ∨ ∃ a, step = .ok a ∧ next a = .error fault := by
  cases step with
  | error first => simp [error_bind]
  | ok a => simp [ok_bind]

theorem mapError_eq_error_iff {ε ε' α : Type} (step : Except ε α) (f : ε → ε') (fault : ε') :
    step.mapError f = .error fault ↔ ∃ first, step = .error first ∧ f first = fault := by
  cases step with
  | error first =>
    constructor
    · exact fun same => ⟨first, rfl, Except.error.inj same⟩
    · rintro ⟨other, failed, same⟩
      cases failed
      exact congrArg Except.error same
  | ok b => exact ⟨nofun, nofun⟩

/-- The second step begins in the state that the first one leaves. -/
theorem run_bind {σ α β : Type} (step : StateM σ α) (next : α → StateM σ β) (state : σ) :
    (step >>= next).run state = (next (step.run state).1).run (step.run state).2 := rfl

/-- A step that fails with no fault succeeds. -/
theorem never_error_iff {ε α : Type} (step : Except ε α) :
    (∀ fault, ¬step = .error fault) ↔ ∃ a, step = .ok a := by
  cases step with
  | error fault => simp
  | ok a => simp

/-- Steps that do nothing but give a value give the list of their values. -/
theorem mapM_eq_pure {m : Type → Type} [Monad m] [LawfulMonad m] {α β : Type} (step : α → m β)
    (value : α → β) (items : List α) (each : ∀ item ∈ items, step item = pure (value item)) :
    items.mapM step = pure (items.map value) := by
  induction items with
  | nil => rfl
  | cons first rest ih =>
    rw [List.mapM_cons, each first List.mem_cons_self, pure_bind,
      ih fun item member => each item (List.mem_cons_of_mem _ member), pure_bind, List.map_cons]

/-- Steps that all succeed give the list of their values. -/
theorem mapM_eq_ok {ε α β : Type} (step : α → Except ε β) (value : α → β) (items : List α)
    (each : ∀ item ∈ items, step item = .ok (value item)) :
    items.mapM step = .ok (items.map value) :=
  mapM_eq_pure step value items each

/-! ## The first failure in a list -/

/-- The fault is that of the first element that fails, given those before it. -/
def FirstFails {α ε : Type} (fails : List α → α → ε → Prop) (items : List α) (fault : ε) : Prop :=
  ∃ i item, items[i]? = some item ∧ fails (items.take i) item fault ∧
    ∀ j other earlier, j < i → items[j]? = some other → ¬fails (items.take j) other earlier

theorem not_firstFails_nil {α ε : Type} (fails : List α → α → ε → Prop) (fault : ε) :
    ¬FirstFails fails [] fault := by
  rintro ⟨i, item, listed, _⟩
  cases listed

theorem firstFails_cons_iff {α ε : Type} (fails : List α → α → ε → Prop) (first : α)
    (rest : List α) (fault : ε) :
    FirstFails fails (first :: rest) fault ↔
      fails [] first fault ∨ (∀ other, ¬fails [] first other) ∧
        FirstFails (fun earlier => fails (first :: earlier)) rest fault := by
  constructor
  · rintro ⟨i, item, listed, failing, leading⟩
    cases i with
    | zero =>
      cases listed
      exact Or.inl failing
    | succ i =>
      refine Or.inr ⟨fun other => leading 0 first other (Nat.succ_pos i) rfl, i, item, listed,
        failing, ?_⟩
      intro j other earlier before listed'
      exact leading (j + 1) other earlier (Nat.succ_lt_succ before) listed'
  · rintro (failing | ⟨passes, i, item, listed, failing, leading⟩)
    · exact ⟨0, first, rfl, failing, fun j _ _ before => absurd before (Nat.not_lt_zero j)⟩
    · refine ⟨i + 1, item, listed, failing, ?_⟩
      intro j other earlier before listed'
      cases j with
      | zero =>
        cases listed'
        exact passes earlier
      | succ j => exact leading j other earlier (Nat.lt_of_succ_lt_succ before) listed'

/-- One step for each element ends with the fault of the first element that fails. -/
theorem mapM_eq_error_iff {α β ε : Type} (step : α → Except ε β) (fails : α → ε → Prop)
    (decides : ∀ item fault, step item = .error fault ↔ fails item fault) (items : List α)
    (fault : ε) :
    items.mapM step = .error fault ↔ FirstFails (fun _ => fails) items fault := by
  induction items with
  | nil =>
    constructor
    · intro failed
      cases failed
    · intro failed
      exact absurd failed (not_firstFails_nil _ fault)
  | cons first rest ih =>
    rw [firstFails_cons_iff, List.mapM_cons, bind_eq_error_iff]
    simp only [← decides, never_error_iff, bind_eq_error_iff, ih]
    constructor
    · rintro (failed | ⟨b, passed, failed | ⟨bs, _, impossible⟩⟩)
      · exact Or.inl failed
      · exact Or.inr ⟨⟨b, passed⟩, failed⟩
      · cases impossible
    · rintro (failed | ⟨⟨b, passed⟩, failed⟩)
      · exact Or.inl failed
      · exact Or.inr ⟨b, passed, Or.inl failed⟩

end GridChess
