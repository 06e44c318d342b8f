import Mathlib.Data.List.Chain
import PredictionJobs.Command.Grammar

/-! # Positions of tokens

What a list of tokens says by the places of its tokens alone: which token stands behind the last
occurrence of a key, and which tokens are strays. A stray is no keyword and does not stand behind
one. No scan and no entries occur here.
-/

namespace PredictionJobs.Command

/-! ### The token behind the last occurrence of a key -/

/-- The token right behind the last occurrence of a key. -/
def follower? (key : String) : List String → Option String
  | [] => none
  | t :: rest =>
    if key ∈ rest then follower? key rest
    else if t = key then rest.head?
    else none

theorem follower?_eq_some_iff {key v : String} {ts : List String} :
    follower? key ts = some v ↔
      ∃ before after, ts = before ++ key :: v :: after ∧ key ∉ v :: after := by
  induction ts with
  | nil => simp [follower?]
  | cons t rest ih =>
    rw [follower?]
    split
    case isTrue hMem =>
      rw [ih]
      constructor
      · rintro ⟨before, after, rfl, hNot⟩
        exact ⟨t :: before, after, rfl, hNot⟩
      · rintro ⟨before, after, hSplit, hNot⟩
        cases before with
        | nil =>
          obtain ⟨_, rfl⟩ := List.cons.inj hSplit
          exact absurd hMem hNot
        | cons _ before => exact ⟨before, after, (List.cons.inj hSplit).2, hNot⟩
    case isFalse hMem =>
      have hHere : (∃ before after, t :: rest = before ++ key :: v :: after ∧ key ∉ v :: after) ↔
          t = key ∧ ∃ after, rest = v :: after := by
        constructor
        · rintro ⟨before, after, hSplit, _⟩
          cases before with
          | nil => exact ⟨(List.cons.inj hSplit).1, after, (List.cons.inj hSplit).2⟩
          | cons _ before =>
            obtain ⟨_, rfl⟩ := List.cons.inj hSplit
            exact absurd (by simp) hMem
        · rintro ⟨rfl, after, rfl⟩
          exact ⟨[], after, rfl, hMem⟩
      rw [hHere]
      split
      case isTrue hKey =>
        rw [List.head?_eq_some_iff]
        exact (and_iff_right hKey).symm
      case isFalse hKey => simp [hKey]

example : follower? "a" ["a", "1", "b", "a", "2"] = some "2" := by decide

theorem mem_of_follower?_eq_some {key v : String} {ts : List String}
    (h : follower? key ts = some v) : key ∈ ts ∧ v ∈ ts := by
  obtain ⟨before, after, rfl, _⟩ := follower?_eq_some_iff.mp h
  simp

theorem follower?_eq_none_of_not_mem {key : String} {ts : List String} (h : key ∉ ts) :
    follower? key ts = none := by
  rw [Option.eq_none_iff_forall_ne_some]
  intro v hv
  exact h (mem_of_follower?_eq_some hv).1

/-- How the follower changes when a token is added: a new occurrence has none yet, and behind an
occurrence at the end the new token is it. -/
theorem follower?_concat (key t : String) (ts : List String) :
    follower? key (ts ++ [t]) =
      if t = key then none else if ts.getLast? = some key then some t else follower? key ts := by
  induction ts with
  | nil => by_cases ht : t = key <;> simp [follower?, ht, Ne.symm]
  | cons u rest ih =>
    have hMem : key ∈ rest ++ [t] ↔ key ∈ rest ∨ t = key := by simp [eq_comm]
    rw [List.cons_append, follower?, ih]
    simp only [hMem]
    by_cases ht : t = key
    · simp [ht]
    · cases rest with
      | nil => by_cases hu : u = key <;> simp [follower?, ht, hu]
      | cons w rest =>
        have hUnfold : follower? key (u :: w :: rest) =
            if key ∈ w :: rest then follower? key (w :: rest)
            else if u = key then some w else none := rfl
        have hLast : key ∉ w :: rest → (w :: rest).getLast? ≠ some key :=
          fun hNot hEnd => hNot (List.mem_of_getLast? hEnd)
        rw [List.getLast?_cons_cons, hUnfold]
        by_cases hIn : key ∈ w :: rest
        · simp [ht, hIn]
        · simp [ht, hIn, hLast hIn]

/-! ### Stray tokens -/

/-- The strays of tokens with another token before them, or with none. -/
def straysBehind (g : Grammar) : Option String → List String → List String
  | _, [] => []
  | before?, t :: rest =>
    if g.isKeyword t || before?.any g.isKeyword then straysBehind g (some t) rest
    else t :: straysBehind g (some t) rest

/-- The tokens that are no keywords and do not stand behind one, in their order. -/
def strays (g : Grammar) (ts : List String) : List String := straysBehind g none ts

theorem straysBehind_concat (g : Grammar) (before? : Option String) (ts : List String)
    (t : String) :
    straysBehind g before? (ts ++ [t]) = straysBehind g before? ts ++
      if g.isKeyword t || (ts.getLast?.or before?).any g.isKeyword then [] else [t] := by
  induction ts generalizing before? with
  | nil => simp [straysBehind]
  | cons u rest ih =>
    have hLast : (u :: rest).getLast?.or before? = rest.getLast?.or (some u) := by
      cases rest with
      | nil => rfl
      | cons w rest => simp [List.getLast?_cons]
    rw [List.cons_append, straysBehind, straysBehind, ih, hLast]
    split <;> simp

theorem strays_concat (g : Grammar) (ts : List String) (t : String) :
    strays g (ts ++ [t]) =
      strays g ts ++ if g.isKeyword t || ts.getLast?.any g.isKeyword then [] else [t] := by
  rw [strays, straysBehind_concat, Option.or_none]
  rfl

theorem mem_straysBehind_iff {g : Grammar} {before? : Option String} {ts : List String}
    {t : String} :
    t ∈ straysBehind g before? ts ↔ g.isKeyword t = false ∧
      ((before?.any g.isKeyword = false ∧ ts.head? = some t) ∨
        ∃ front s back, ts = front ++ s :: t :: back ∧ g.isKeyword s = false) := by
  induction ts generalizing before? with
  | nil => simp [straysBehind]
  | cons u rest ih =>
    have hPair : (∃ front s back, u :: rest = front ++ s :: t :: back ∧ g.isKeyword s = false) ↔
        (g.isKeyword u = false ∧ rest.head? = some t) ∨
          ∃ front s back, rest = front ++ s :: t :: back ∧ g.isKeyword s = false := by
      constructor
      · rintro ⟨front, s, back, hSplit, hs⟩
        cases front with
        | nil =>
          obtain ⟨rfl, rfl⟩ := List.cons.inj hSplit
          exact .inl ⟨hs, rfl⟩
        | cons _ front => exact .inr ⟨front, s, back, (List.cons.inj hSplit).2, hs⟩
      · rintro (⟨hu, hHead⟩ | ⟨front, s, back, rfl, hs⟩)
        · obtain ⟨back, rfl⟩ := List.head?_eq_some_iff.mp hHead
          exact ⟨[], u, back, rfl, hu⟩
        · exact ⟨u :: front, s, back, rfl, hs⟩
    have hRest : t ∈ straysBehind g (some u) rest ↔ g.isKeyword t = false ∧
        ∃ front s back, u :: rest = front ++ s :: t :: back ∧ g.isKeyword s = false := by
      rw [ih, hPair, Option.any_some]
    rw [straysBehind, List.head?_cons, Option.some.injEq]
    split
    case isTrue hSkip =>
      rw [hRest]
      grind
    case isFalse hStray =>
      rw [List.mem_cons, hRest]
      grind

theorem mem_strays_iff {g : Grammar} {ts : List String} {t : String} :
    t ∈ strays g ts ↔ g.isKeyword t = false ∧
      (ts.head? = some t ∨ ∃ front s back, ts = front ++ s :: t :: back ∧ g.isKeyword s = false) := by
  simp [strays, mem_straysBehind_iff]

theorem mem_of_mem_strays {g : Grammar} {ts : List String} {t : String} (h : t ∈ strays g ts) : t ∈ ts := by
  obtain ⟨-, hHead | ⟨front, s, back, rfl, -⟩⟩ := mem_strays_iff.mp h
  · exact List.mem_of_head? hHead
  · simp

theorem strays_eq_nil_iff {g : Grammar} {ts : List String} :
    strays g ts = [] ↔ (∀ t, ts.head? = some t → g.isKeyword t) ∧
      ts.IsChain fun s t => g.isKeyword s ∨ g.isKeyword t := by
  rw [List.eq_nil_iff_forall_not_mem, List.isChain_iff_forall_rel_of_append_cons_cons]
  simp only [mem_strays_iff]
  constructor
  · intro h
    constructor
    · intro t hHead
      by_contra hKey
      exact h t ⟨Bool.eq_false_iff.mpr hKey, .inl hHead⟩
    · intro s t front back hSplit
      by_contra hKeys
      obtain ⟨hs, ht⟩ := not_or.mp hKeys
      exact h t ⟨Bool.eq_false_iff.mpr ht, .inr ⟨front, s, back, hSplit, Bool.eq_false_iff.mpr hs⟩⟩
  · rintro ⟨hHead, hChain⟩ t ⟨ht, hFirst | ⟨front, s, back, hSplit, hs⟩⟩
    · exact Bool.eq_false_iff.mp ht (hHead t hFirst)
    · rcases hChain hSplit with hKey | hKey
      · exact Bool.eq_false_iff.mp hs hKey
      · exact Bool.eq_false_iff.mp ht hKey

end PredictionJobs.Command
