import Mathlib.Tactic.Choose

/-! # Results of actions

What all results of an action have in common, whatever else the action does.
-/

namespace PredictionJobs

variable {m : Type → Type} {α β : Type} {p : α → Prop} {q : β → Prop}

/-- Whether all results of an action satisfy a predicate: the action is one whose results come with
the proof. -/
def Ensures [Functor m] (p : α → Prop) (action : m α) : Prop :=
  ∃ proven : m {a // p a}, Subtype.val <$> proven = action

namespace Ensures

section

variable [Functor m] [LawfulFunctor m]

theorem map {action : m α} {f : α → β} (h : Ensures p action) (hf : ∀ a, p a → q (f a)) :
    Ensures q (f <$> action) := by
  obtain ⟨proven, rfl⟩ := h
  refine ⟨(fun a => ⟨f a.1, hf a.1 a.2⟩) <$> proven, ?_⟩
  simp

theorem of_forall (action : m α) (h : ∀ a, p a) : Ensures p action :=
  ⟨(fun a => ⟨a, h a⟩) <$> action, by simp⟩

end

variable [Monad m] [LawfulMonad m]

theorem pure {a : α} (h : p a) : Ensures p (Pure.pure a : m α) := ⟨Pure.pure ⟨a, h⟩, by simp⟩

theorem bind {action : m α} {f : α → m β} (h : Ensures p action)
    (hf : ∀ a, p a → Ensures q (f a)) : Ensures q (action >>= f) := by
  obtain ⟨proven, rfl⟩ := h
  choose next hNext using hf
  refine ⟨proven >>= fun a => next a.1 a.2, ?_⟩
  simp [hNext]

theorem mapM {as : List α} {f : α → m β} (h : ∀ a ∈ as, Ensures q (f a)) :
    Ensures (fun bs => ∀ b ∈ bs, q b) (as.mapM f) := by
  induction as with
  | nil => simpa using pure (m := m) (List.forall_mem_nil q)
  | cons a as ih =>
    obtain ⟨hHead, hTail⟩ := List.forall_mem_cons.mp h
    rw [List.mapM_cons]
    refine bind hHead fun b hb => bind (ih hTail) fun bs hbs => pure ?_
    exact List.forall_mem_cons.mpr ⟨hb, hbs⟩

end Ensures

end PredictionJobs
