/-!
# Computations that may fail

What is known of the parts of a computation that has succeeded, or failed; and of a search through a
list, which passes over some elements and stops at another.
-/

namespace Gatehouse

variable {ε α β : Type} {x : Except ε α} {b : β}

theorem exists_of_bind_eq_ok {f : α → Except ε β} (h : (x >>= f) = .ok b) :
    ∃ a, x = .ok a ∧ f a = .ok b := by
  cases x with
  | error e => cases h
  | ok a => exact ⟨a, rfl, h⟩

theorem exists_of_map_eq_ok {f : α → β} (h : x.map f = .ok b) : ∃ a, x = .ok a ∧ f a = b := by
  cases x with
  | error e => cases h
  | ok a =>
      injection h with h
      exact ⟨a, rfl, h⟩

theorem eq_error_of_map_eq_error {f : α → β} {e : ε} (h : x.map f = .error e) :
    x = .error e := by
  cases x with
  | error e' =>
      injection h with h
      rw [h]
  | ok a => cases h

theorem error_or_of_bind_eq_error {f : α → Except ε β} {e : ε} (h : (x >>= f) = .error e) :
    x = .error e ∨ ∃ a, x = .ok a ∧ f a = .error e := by
  cases x with
  | error e' =>
      injection h with h
      exact Or.inl (by rw [h])
  | ok a => exact Or.inr ⟨a, rfl, h⟩

/-- Whether a search through a list that passes over some elements comes to one at which it
stops. -/
def Reaches (Passes Stops : α → Prop) (items : List α) : Prop :=
  ∃ ahead item behind, items = ahead ++ item :: behind ∧ (∀ other ∈ ahead, Passes other) ∧
    Stops item

variable {Passes Stops : α → Prop}

theorem not_reaches_nil : ¬ Reaches Passes Stops [] := by
  rintro ⟨ahead, item, behind, hitems, -⟩
  exact List.append_ne_nil_of_right_ne_nil ahead (List.cons_ne_nil item behind) hitems.symm

theorem reaches_cons {a : α} {items : List α} :
    Reaches Passes Stops (a :: items) ↔ Stops a ∨ Passes a ∧ Reaches Passes Stops items := by
  constructor
  · rintro ⟨ahead, item, behind, hitems, hahead, hitem⟩
    cases ahead with
    | nil =>
        injection hitems with hsame
        exact Or.inl (hsame ▸ hitem)
    | cons first ahead =>
        injection hitems with hsame hitems
        obtain ⟨hfirst, hahead⟩ := List.forall_mem_cons.mp hahead
        exact Or.inr ⟨hsame ▸ hfirst, ahead, item, behind, hitems, hahead, hitem⟩
  · rintro (ha | ⟨ha, ahead, item, behind, rfl, hahead, hitem⟩)
    · exact ⟨[], a, items, rfl, List.forall_mem_nil _, ha⟩
    · exact ⟨a :: ahead, item, behind, rfl, List.forall_mem_cons.mpr ⟨ha, hahead⟩, hitem⟩

end Gatehouse
