import Mathlib.Data.List.Forall2

namespace LintReport

variable {ε ε' α β γ : Type}

@[simp]
theorem ok_bind (x : α) (f : α → Except ε β) : (Except.ok x >>= f) = f x :=
  rfl

@[simp]
theorem error_bind (e : ε) (f : α → Except ε β) : (Except.error e >>= f) = .error e :=
  rfl

@[simp]
theorem map_ok (f : α → β) (x : α) : (Except.ok x : Except ε α).map f = .ok (f x) :=
  rfl

@[simp]
theorem mapError_ok (f : ε → ε') (x : α) : (Except.ok x).mapError f = .ok x :=
  rfl

theorem bind_eq_ok_iff {x : Except ε α} {f : α → Except ε β} {b : β} :
    (x >>= f) = .ok b ↔ ∃ a, x = .ok a ∧ f a = .ok b := by
  cases x <;> simp

theorem bind_eq_error_iff {x : Except ε α} {f : α → Except ε β} {e : ε} :
    (x >>= f) = .error e ↔ x = .error e ∨ ∃ a, x = .ok a ∧ f a = .error e := by
  cases x <;> simp

theorem map_eq_ok_iff {x : Except ε α} {f : α → β} {b : β} :
    x.map f = .ok b ↔ ∃ a, x = .ok a ∧ f a = b := by
  cases x <;> simp [Except.map]

theorem map_bind_eq (x : Except ε α) (f : α → Except ε β) (g : β → γ) :
    (x >>= f).map g = (x >>= fun a => (f a).map g) := by
  cases x <;> rfl

theorem seq_eq_ok_iff {x : Except ε Unit} {y : Except ε β} {b : β} :
    (x >>= fun _ => y) = .ok b ↔ x = .ok () ∧ y = .ok b := by
  cases x <;> simp

theorem mapError_eq_ok_iff {x : Except ε α} {f : ε → ε'} {a : α} :
    x.mapError f = .ok a ↔ x = .ok a := by
  cases x
  case error => exact ⟨nofun, nofun⟩
  case ok    => rw [mapError_ok, Except.ok.injEq, Except.ok.injEq]

theorem mapError_eq_error_iff {x : Except ε α} {f : ε → ε'} {e : ε'} :
    x.mapError f = .error e ↔ ∃ e', x = .error e' ∧ f e' = e := by
  cases x <;> simp [Except.mapError]

theorem mapM_eq_ok_iff {f : α → Except ε β} {xs : List α} {ys : List β} :
    xs.mapM f = .ok ys ↔ List.Forall₂ (fun x y => f x = .ok y) xs ys := by
  induction xs generalizing ys
  case nil => cases ys <;> simp [pure, Except.pure]
  case cons x xs ih =>
    simp only [List.mapM_cons, bind_eq_ok_iff, List.forall₂_cons_left_iff, ih]
    constructor
    · rintro ⟨y, hy, ys', hs, he⟩
      cases he
      exact ⟨y, ys', hy, hs, rfl⟩
    · rintro ⟨y, ys', hy, hs, rfl⟩
      exact ⟨y, hy, ys', hs, rfl⟩

-- Steps that may be exchanged wherever they succeed may be taken in any order.
theorem foldlM_perm {step : β → α → Except ε β}
    (hs : ∀ s t a b, (step s a >>= (step · b)) = .ok t → (step s b >>= (step · a)) = .ok t)
    {xs xs' : List α} (hp : xs.Perm xs') {s t : β} (h : xs.foldlM step s = .ok t) :
    xs'.foldlM step s = .ok t := by
  induction hp generalizing s
  case nil          => exact h
  case cons x _ ih  =>
    rw [List.foldlM_cons, bind_eq_ok_iff] at h ⊢
    exact h.imp fun s' h => ⟨h.left, ih h.right⟩
  case swap x y xs  =>
    simp only [List.foldlM_cons, ← bind_assoc] at h ⊢
    have ⟨s', hs', h⟩ := bind_eq_ok_iff.mp h
    exact bind_eq_ok_iff.mpr ⟨s', hs _ _ _ _ hs', h⟩
  case trans _ _ ih ih' => exact ih' (ih h)

end LintReport
