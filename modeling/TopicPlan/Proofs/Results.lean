import TopicPlan.Notice
import Mathlib.Data.List.Forall2

/-! Results that are values or errors, with notices or without. A sequence succeeds when its parts do,
one after the other, and fails where the first of them fails. -/
namespace TopicPlan

variable {ε α β : Type}

theorem bind_eq_ok {x : Except ε α} {f : α → Except ε β} {y : β} :
    (x >>= f) = .ok y ↔ ∃ a, x = .ok a ∧ f a = .ok y := by
  cases x with
  | error e =>
    show (.error e : Except ε β) = .ok y ↔ _
    simp
  | ok a =>
    show f a = .ok y ↔ _
    simp

theorem bind_eq_error {x : Except ε α} {f : α → Except ε β} {e : ε} :
    (x >>= f) = .error e ↔ x = .error e ∨ ∃ a, x = .ok a ∧ f a = .error e := by
  cases x with
  | error other =>
    show (.error other : Except ε β) = .error e ↔ _
    simp
  | ok a =>
    show f a = .error e ↔ _
    simp

theorem bind_pure_eq_ok {x : Except ε α} {f : α → β} {y : β} :
    (x >>= fun a => pure (f a)) = .ok y ↔ ∃ a, x = .ok a ∧ y = f a := by
  rw [bind_eq_ok]
  exact exists_congr fun a => and_congr_right' ⟨fun h => (Except.ok.inj h).symm, fun h => h ▸ rfl⟩

theorem map_eq_ok {x : Except ε α} {f : α → β} {y : β} :
    x.map f = .ok y ↔ ∃ a, x = .ok a ∧ f a = y := by
  cases x <;> simp [Except.map]

theorem mapError_eq_ok {ε' : Type} {x : Except ε α} {f : ε → ε'} {a : α} :
    x.mapError f = .ok a ↔ x = .ok a := by
  cases x with
  | error e =>
    show (.error (f e) : Except ε' α) = .ok a ↔ _
    simp
  | ok b =>
    show (.ok b : Except ε' α) = .ok a ↔ _
    simp

theorem toOption_eq_some {x : Except ε α} {a : α} : x.toOption = some a ↔ x = .ok a := by
  cases x <;> simp [Except.toOption]

theorem map_eq_error {x : Except ε α} {f : α → β} {e : ε} :
    x.map f = .error e ↔ x = .error e := by
  cases x <;> simp [Except.map]

theorem mapM_cons_eq_error {f : α → Except ε β} {first : α} {rest : List α} {e : ε} :
    (first :: rest).mapM f = .error e ↔
      f first = .error e ∨ (∃ value, f first = .ok value) ∧ rest.mapM f = .error e := by
  rw [List.mapM_cons]
  cases f first with
  | error other =>
    show (.error other : Except ε (List β)) = .error e ↔ _
    simp
  | ok value =>
    cases rest.mapM f with
    | error other =>
      show (.error other : Except ε (List β)) = .error e ↔ _
      simp
    | ok values =>
      show (.ok (value :: values) : Except ε (List β)) = .error e ↔ _
      simp

/-- Items are read in turn; the first one that cannot be read tells the fault. -/
theorem mapM_eq_error {f : α → Except ε β} {items : List α} {e : ε} :
    items.mapM f = .error e ↔ ∃ before item later, items = before ++ item :: later ∧
      (∀ x ∈ before, ∃ y, f x = .ok y) ∧ f item = .error e := by
  induction items with
  | nil =>
    constructor
    · intro h
      cases h
    · rintro ⟨before, item, later, hitems, -⟩
      cases before <;> cases hitems
  | cons first rest ih =>
    rw [mapM_cons_eq_error, ih]
    constructor
    · rintro (hfirst | ⟨hfirst, before, item, later, rfl, hread, hitem⟩)
      · exact ⟨[], first, rest, rfl, by simp, hfirst⟩
      · have hall : ∀ x ∈ first :: before, ∃ y, f x = .ok y :=
          List.forall_mem_cons.mpr ⟨hfirst, hread⟩
        exact ⟨first :: before, item, later, rfl, hall, hitem⟩
    · rintro ⟨before, item, later, hitems, hread, hitem⟩
      cases before with
      | nil =>
        cases hitems
        exact Or.inl hitem
      | cons head before =>
        cases hitems
        obtain ⟨hfirst, hothers⟩ := List.forall_mem_cons.mp hread
        exact Or.inr ⟨hfirst, before, item, later, rfl, hothers, hitem⟩

theorem forall₂_of_mapM {f : α → Except ε β} {items : List α} {results : List β}
    (h : items.mapM f = .ok results) :
    List.Forall₂ (fun item result => f item = .ok result) items results := by
  induction items generalizing results with
  | nil =>
    cases h
    exact .nil
  | cons item items ih =>
    rw [List.mapM_cons] at h
    obtain ⟨first, hfirst, hthen⟩ := bind_eq_ok.mp h
    obtain ⟨rest, hrest, hall⟩ := bind_eq_ok.mp hthen
    cases hall
    exact .cons hfirst (ih hrest)

def Succeeds (x : Except ε α) : Prop := ∃ a, x = .ok a

@[simp] theorem succeeds_ok (a : α) : Succeeds (.ok a : Except ε α) := ⟨a, rfl⟩

@[simp] theorem succeeds_pure (a : α) : Succeeds (pure a : Except ε α) := ⟨a, rfl⟩

@[simp] theorem not_succeeds_error (e : ε) : ¬Succeeds (.error e : Except ε α) := by
  rintro ⟨a, h⟩
  cases h

@[simp] theorem succeeds_map {x : Except ε α} {f : α → β} : Succeeds (x.map f) ↔ Succeeds x := by
  cases x <;> simp [Except.map]

@[simp] theorem succeeds_mapError {ε' : Type} {x : Except ε α} {f : ε → ε'} :
    Succeeds (x.mapError f) ↔ Succeeds x := exists_congr fun _ => mapError_eq_ok

theorem succeeds_bind_of_ok {x : Except ε α} {f : α → Except ε β} {P : Prop}
    (h : ∀ a, x = .ok a → (Succeeds (f a) ↔ P)) : Succeeds (x >>= f) ↔ Succeeds x ∧ P := by
  cases x with
  | error e =>
    show Succeeds (.error e : Except ε β) ↔ _
    simp
  | ok a =>
    show Succeeds (f a) ↔ _
    simp [h a rfl]

/-- Where success of what comes after does not depend on the value before it. -/
theorem succeeds_bind {x : Except ε α} {f : α → Except ε β} {P : Prop}
    (h : ∀ a, Succeeds (f a) ↔ P) : Succeeds (x >>= f) ↔ Succeeds x ∧ P :=
  succeeds_bind_of_ok fun a _ => h a

namespace Noted

theorem result_map (f : α → β) (x : Noted ε α) : (f <$> x).result = x.result.map f := by
  show (x >>= fun a => pure (f a)).result = _
  rw [result_bind]
  cases x.result <;> rfl

theorem bind_eq_ok {x : Noted ε α} {f : α → Noted ε β} {b : β} :
    (x >>= f).result = .ok b ↔ ∃ a, x.result = .ok a ∧ (f a).result = .ok b := by
  rw [result_bind]
  exact TopicPlan.bind_eq_ok

theorem bind_ok (notices : List Notice) (a : α) (f : α → Noted ε β) :
    (⟨notices, .ok a⟩ : Noted ε α) >>= f = ⟨notices ++ (f a).notices, (f a).result⟩ := rfl

theorem bind_error (notices : List Notice) (error : ε) (f : α → Noted ε β) :
    (⟨notices, .error error⟩ : Noted ε α) >>= f = ⟨notices, .error error⟩ := rfl

theorem id_map (x : Noted ε α) : id <$> x = x := by
  obtain ⟨notices, error | a⟩ := x
  · rfl
  · show (⟨notices ++ [], .ok a⟩ : Noted ε α) = _
    rw [List.append_nil]

theorem bind_assoc {γ : Type} (x : Noted ε α) (f : α → Noted ε β) (g : β → Noted ε γ) :
    x >>= f >>= g = x >>= fun a => f a >>= g := by
  obtain ⟨notices, error | a⟩ := x
  · rfl
  · rcases hf : f a with ⟨more, error | b⟩
    · simp only [bind_ok, hf, bind_error]
    · simp only [bind_ok, hf, List.append_assoc]

instance : LawfulMonad (Noted ε) := LawfulMonad.mk' (Noted ε) id_map (fun _ _ => rfl) bind_assoc

theorem result_mapM (f : α → Noted ε β) (items : List α) :
    (items.mapM f).result = items.mapM fun item => (f item).result := by
  induction items with
  | nil => rfl
  | cons item items ih =>
    rw [List.mapM_cons, List.mapM_cons, result_bind]
    simp only [result_bind, ih, result_pure]
    rfl

end Noted

end TopicPlan
