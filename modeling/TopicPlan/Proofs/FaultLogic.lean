/-! Where faults come from. A reading is told by the faults that it may end with and by what it
gives; a step on a state also by an invariant that it keeps. Each way to put steps together has a
rule of its own. -/
namespace TopicPlan

variable {ε σ α β : Type}

/-- A reading gives what meets a condition, or else fails in a way that is known. -/
def Ends (known : ε → Prop) (post : α → Prop) : Except ε α → Prop
  | .ok a => post a
  | .error e => known e

theorem Ends.bind {known : ε → Prop} {post : α → Prop} {after : β → Prop} {x : Except ε α}
    {f : α → Except ε β} (hx : Ends known post x) (hf : ∀ a, post a → Ends known after (f a)) :
    Ends known after (x >>= f) := by
  cases x with
  | ok a => exact hf a hx
  | error e => exact hx

/-- A step on a state keeps an invariant and gives what meets a condition, or else fails in a way
that is known. -/
def Preserves (known : ε → Prop) (inv : σ → Prop) (step : StateT σ (Except ε) α)
    (post : α → Prop) : Prop :=
  ∀ s, inv s → Ends known (fun found => post found.1 ∧ inv found.2) (step s)

namespace Preserves

variable {known : ε → Prop} {inv : σ → Prop} {post : α → Prop} {after : β → Prop}

theorem pure {a : α} (h : post a) : Preserves known inv (Pure.pure a) post :=
  fun _ hs => ⟨h, hs⟩

theorem throw {e : ε} (h : known e) : Preserves known inv (throw e) post :=
  fun _ _ => h

theorem bind {step : StateT σ (Except ε) α} {f : α → StateT σ (Except ε) β}
    (hstep : Preserves known inv step post) (hf : ∀ a, post a → Preserves known inv (f a) after) :
    Preserves known inv (step >>= f) after :=
  fun s hs => (hstep s hs).bind fun found h => hf found.1 h.1 found.2 h.2

theorem mono {step : StateT σ (Except ε) α} {post' : α → Prop}
    (hstep : Preserves known inv step post) (h : ∀ a, post a → post' a) :
    Preserves known inv step post' := by
  intro s hs
  have hends := hstep s hs
  generalize step s = outcome at hends ⊢
  cases outcome with
  | ok found => exact ⟨h _ hends.1, hends.2⟩
  | error e => exact hends

theorem bind_pure {step : StateT σ (Except ε) α} (f : α → β)
    (hstep : Preserves known inv step post) :
    Preserves known inv (step >>= fun a => Pure.pure (f a)) fun _ => True :=
  hstep.bind fun _ _ => pure trivial

theorem map {step : StateT σ (Except ε) α} (f : α → β) (hstep : Preserves known inv step post) :
    Preserves known inv (f <$> step) fun _ => True := by
  rw [map_eq_pure_bind]
  exact hstep.bind_pure f

theorem get : Preserves known inv get inv :=
  fun _ hs => ⟨hs, hs⟩

theorem modify {f : σ → σ} (h : ∀ s, inv s → inv (f s)) :
    Preserves known inv (modify f) fun _ => True :=
  fun s hs => ⟨trivial, h s hs⟩

theorem forM {f : α → StateT σ (Except ε) PUnit} {items : List α}
    (h : ∀ a ∈ items, Preserves known inv (f a) fun _ => True) :
    Preserves known inv (items.forM f) fun _ => True := by
  induction items with
  | nil => exact pure trivial
  | cons a items ih =>
    obtain ⟨ha, hitems⟩ := List.forall_mem_cons.mp h
    exact bind ha fun _ _ => ih hitems

theorem mapM {f : α → StateT σ (Except ε) β} {items : List α}
    (h : ∀ a ∈ items, Preserves known inv (f a) fun _ => True) :
    Preserves known inv (items.mapM f) fun _ => True := by
  induction items with
  | nil => exact pure trivial
  | cons a items ih =>
    obtain ⟨ha, hitems⟩ := List.forall_mem_cons.mp h
    rw [List.mapM_cons]
    exact bind ha fun _ _ => bind_pure _ (ih hitems)

theorem foldlM {f : β → α → StateT σ (Except ε) β} {items : List α} {b : β} (hb : after b)
    (h : ∀ b a, after b → Preserves known inv (f b a) after) :
    Preserves known inv (items.foldlM f b) after := by
  induction items generalizing b with
  | nil => exact pure hb
  | cons a items ih =>
    rw [List.foldlM_cons]
    exact bind (h b a hb) fun _ => ih

theorem findM? {p : α → StateT σ (Except ε) Bool} {items : List α}
    (h : ∀ a ∈ items, Preserves known inv (p a) fun _ => True) :
    Preserves known inv (items.findM? p) fun _ => True := by
  induction items with
  | nil => exact pure trivial
  | cons a items ih =>
    obtain ⟨ha, hitems⟩ := List.forall_mem_cons.mp h
    rw [List.findM?]
    refine bind ha fun found _ => ?_
    cases found with
    | true => exact pure trivial
    | false => exact ih hitems

end Preserves

end TopicPlan
