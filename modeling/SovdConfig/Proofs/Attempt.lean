import Mathlib.Data.List.Forall2

namespace SovdConfig

/-!
# Attempts

What becomes of an attempt when only its success matters, not the reason of a failure, and of a step
that may change a state.  Main statements:

* `ok_bind`, `error_bind`, `exists_of_bind_eq_ok` — an attempt after another one;
* `toOption_bind`, `toOption_map` — attempts in a row succeed if each of them does;
* `mapM_eq_some_iff` — attempts at the items of a list;
* `run_bind_of_eq` — what follows a step goes on from the state it leaves;
* `exists_run_eq` — a run ends somewhere.
-/

variable {ε α β : Type}

/-- What follows a success goes on with its result. -/
@[simp] theorem ok_bind (a : α) (f : α → Except ε β) : (Except.ok a >>= f) = f a := rfl

/-- Nothing follows a failure. -/
@[simp] theorem error_bind (e : ε) (f : α → Except ε β) :
    (Except.error e >>= f) = Except.error e := rfl

/-- An attempt after another one succeeds only if both do. -/
theorem exists_of_bind_eq_ok {x : Except ε α} {f : α → Except ε β} {b : β}
    (h : (x >>= f) = .ok b) : ∃ a, x = .ok a ∧ f a = .ok b := by
  cases x with
  | error e => cases h
  | ok a => exact ⟨a, rfl, h⟩

/-- A success has its result. -/
@[simp] theorem toOption_ok (a : α) : (Except.ok a : Except ε α).toOption = some a := rfl

/-- A failure has none. -/
@[simp] theorem toOption_error (e : ε) : (Except.error e : Except ε α).toOption = none := rfl

/-- Two attempts in a row succeed if the second does with the result of the first. -/
theorem toOption_bind (x : Except ε α) (f : α → Except ε β) :
    (x >>= f).toOption = x.toOption.bind fun a => (f a).toOption := by
  cases x <;> rfl

/-- A result that is passed through a function is there if it was there before. -/
theorem toOption_map (x : Except ε α) (f : α → β) : (x.map f).toOption = x.toOption.map f := by
  cases x <;> rfl

/-- A failure for another reason is a failure all the same. -/
theorem toOption_mapError {ε' : Type} (x : Except ε α) (f : ε → ε') :
    (x.mapError f).toOption = x.toOption := by
  cases x <;> rfl

/-- An attempt that has a result is that success. -/
theorem toOption_eq_some_iff {x : Except ε α} {a : α} : x.toOption = some a ↔ x = .ok a := by
  cases x <;> simp

/-- An attempt without a result has failed. -/
theorem toOption_eq_none_iff {x : Except ε α} : x.toOption = none ↔ ∃ e, x = .error e := by
  cases x <;> simp

/-- A step of a program whose state is explicit. -/
theorem run_bind_of_eq {σ α β : Type} {x : StateM σ α} {s s' : σ} {a : α}
    (h : x.run s = (a, s')) (f : α → StateM σ β) : (x >>= f).run s = (f a).run s' := by
  show (let p := x.run s; (f p.1).run p.2) = _
  rw [h]

/-- A run with a given answer ends in some state, of which whatever holds of its end holds. -/
theorem exists_run_eq {σ α : Type} {x : StateM σ α} {s : σ} {a : α} {P : σ → Prop}
    (h : (x.run s).1 = a) (hP : P (x.run s).2) : ∃ s', x.run s = (a, s') ∧ P s' :=
  ⟨(x.run s).2, Prod.ext h rfl, hP⟩

/-- Attempts at all items of a list succeed exactly if each of them has its result. -/
theorem mapM_eq_some_iff {f : α → Option β} {R : α → β → Prop}
    (h : ∀ a b, f a = some b ↔ R a b) {as : List α} {bs : List β} :
    as.mapM f = some bs ↔ List.Forall₂ R as bs := by
  induction as generalizing bs with
  | nil => simp [eq_comm]
  | cons a as ih =>
    simp only [List.mapM_cons, Option.bind_eq_bind, Option.bind_eq_some_iff, h, ih,
      List.forall₂_cons_left_iff, Option.pure_def, Option.some.injEq]
    constructor
    · rintro ⟨b, hb, bs, hbs, rfl⟩
      exact ⟨b, bs, hb, hbs, rfl⟩
    · rintro ⟨b, bs, hb, hbs, rfl⟩
      exact ⟨b, hb, bs, hbs, rfl⟩

/-- They succeed if each of them does. -/
theorem isSome_mapM (f : α → Option β) (as : List α) :
    (as.mapM f).isSome ↔ ∀ a ∈ as, (f a).isSome := by
  induction as with
  | nil => simp
  | cons a as ih =>
    rw [List.forall_mem_cons, ← ih, List.mapM_cons]
    cases f a with
    | none => simp
    | some b => cases as.mapM f <;> simp

/-- Attempts that always succeed give the items. -/
theorem mapM_some (as : List α) : as.mapM some = some as := by
  simpa using List.mapM_pure (m := Option) (f := id) (l := as)

end SovdConfig
