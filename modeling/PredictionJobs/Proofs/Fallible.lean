import Mathlib.Data.List.Forall2

/-! # Computations that may fail

What it takes for a computation of several steps to succeed.
-/

namespace PredictionJobs

variable {ε α β : Type}

theorem bind_eq_ok_iff {x : Except ε α} {f : α → Except ε β} {b : β} :
    x >>= f = .ok b ↔ ∃ a, x = .ok a ∧ f a = .ok b := by
  cases x with
  | error e => simp [bind, Except.bind]
  | ok a => simp [bind, Except.bind]

theorem map_eq_ok_iff {x : Except ε α} {f : α → β} {b : β} :
    x.map f = .ok b ↔ ∃ a, x = .ok a ∧ f a = b := by
  cases x with
  | error e => simp [Except.map]
  | ok a => simp [Except.map]

theorem exists_of_forall₂ {gives : α → β → Prop} {as : List α} {bs : List β}
    (h : List.Forall₂ gives as bs) {a : α} (ha : a ∈ as) : ∃ b, gives a b := by
  have hBoth : List.Forall₂ (fun a b => (∃ b, gives a b) ∧ gives a b) as bs :=
    h.imp fun _ b hb => ⟨⟨b, hb⟩, hb⟩
  exact ((List.forall₂_and_left as bs).mp hBoth).1 a ha

/-- If every step succeeds exactly with what it is given, so does the whole. -/
theorem foldlM_eq_ok_iff {γ : Type} {step : β → α → Except ε β} {gives : α → γ → Prop}
    {apply : β → γ → β} {as : List α} {b b' : β}
    (h : ∀ a ∈ as, ∀ b b', step b a = .ok b' ↔ ∃ c, gives a c ∧ apply b c = b') :
    as.foldlM step b = .ok b' ↔
      ∃ given, List.Forall₂ gives as given ∧ given.foldl apply b = b' := by
  induction as generalizing b with
  | nil => simp [pure, Except.pure]
  | cons a as ih =>
    obtain ⟨hHead, hTail⟩ := List.forall_mem_cons.mp h
    rw [List.foldlM_cons, bind_eq_ok_iff]
    constructor
    · rintro ⟨next, hStep, hRest⟩
      obtain ⟨c, hGives, rfl⟩ := (hHead b next).mp hStep
      obtain ⟨given, hGiven, hFold⟩ := (ih hTail).mp hRest
      exact ⟨c :: given, .cons hGives hGiven, hFold⟩
    · rintro ⟨_, hAll, hFold⟩
      cases hAll with
      | cons hGives hGiven =>
        exact ⟨_, (hHead b _).mpr ⟨_, hGives, rfl⟩, (ih hTail).mpr ⟨_, hGiven, hFold⟩⟩

end PredictionJobs
