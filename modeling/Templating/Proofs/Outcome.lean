import Mathlib.Data.List.Forall2

/-! # Computations that can fail

A computation in steps ends well when every step does, and otherwise with the failure of the first step
that fails.
-/

namespace Templating

variable {ε α β : Type}

@[simp] theorem ok_bind (a : α) (f : α → Except ε β) : ((Except.ok a : Except ε α) >>= f) = f a :=
  rfl

@[simp] theorem error_bind (e : ε) (f : α → Except ε β) :
    ((Except.error e : Except ε α) >>= f) = .error e :=
  rfl

@[simp] theorem pure_eq_ok (a : α) : (pure a : Except ε α) = .ok a :=
  rfl

theorem bind_eq_ok {x : Except ε α} {f : α → Except ε β} {b : β} :
    (x >>= f) = .ok b ↔ ∃ a, x = .ok a ∧ f a = .ok b := by
  cases x with
  | error e => simp
  | ok a => simp

theorem bind_eq_error {x : Except ε α} {f : α → Except ε β} {e : ε} :
    (x >>= f) = .error e ↔ x = .error e ∨ ∃ a, x = .ok a ∧ f a = .error e := by
  cases x with
  | error e => simp
  | ok a => simp

theorem exists_of_mem_mapM {f : α → Except ε β} {items : List α} {results : List β} (done : items.mapM f = .ok results)
    {b : β} (member : b ∈ results) : ∃ a ∈ items, f a = .ok b := by
  induction items generalizing results with
  | nil =>
      cases done
      cases member
  | cons item items ih =>
      rw [List.mapM_cons] at done
      obtain ⟨first, one, done⟩ := bind_eq_ok.mp done
      obtain ⟨rest, others, ⟨⟩⟩ := bind_eq_ok.mp done
      rcases List.mem_cons.mp member with rfl | later
      · exact ⟨item, List.mem_cons_self, one⟩
      · obtain ⟨a, inside, same⟩ := ih others later
        exact ⟨a, List.mem_cons_of_mem _ inside, same⟩

theorem exists_of_mem_forall₂ {R : α → β → Prop} {as : List α} {bs : List β} (each : List.Forall₂ R as bs)
    {b : β} (member : b ∈ bs) : ∃ a ∈ as, R a b := by
  induction each with
  | nil => cases member
  | cons first _ ih =>
      rcases List.mem_cons.mp member with rfl | further
      · exact ⟨_, List.mem_cons_self, first⟩
      · obtain ⟨a, inside, related⟩ := ih further
        exact ⟨a, List.mem_cons_of_mem _ inside, related⟩

theorem toOption_eq_some {x : Except ε α} {a : α} : x.toOption = some a ↔ x = .ok a := by
  cases x with
  | error e => simp [Except.toOption]
  | ok b => simp [Except.toOption]

section

variable {ε α β γ δ : Type} {x : Except ε α} {f : γ → β}

theorem bind_alike {g : α → Except ε β} {h : α → Except ε γ} (rest : ∀ a, g a = (h a).map f) :
    (x >>= g) = (x >>= h).map f := by
  cases x with
  | error e => rfl
  | ok a => exact rest a

theorem map_bind_alike {start : α → δ} {g : δ → Except ε β} {h : α → Except ε γ}
    (rest : ∀ a, g (start a) = (h a).map f) : (x.map start >>= g) = (x >>= h).map f := by
  cases x with
  | error e => rfl
  | ok a => exact rest a

theorem map_alike {g : α → β} {h : α → γ} (same : ∀ a, g a = f (h a)) : x.map g = (x >>= fun a => pure (h a)).map f := by
  cases x with
  | error e => rfl
  | ok a => exact congrArg Except.ok (same a)

end

end Templating
