import Mathlib.Data.List.Forall2

/-! # Small and capital letters

What a text becomes when its capital letters are made small. Nothing but capital letters changes, so
the texts that become a given word are those that spell it in small or capital letters.
-/

namespace PredictionJobs.Text

theorem toNat_toLower (c : Char) :
    c.toLower.toNat = if 65 ≤ c.toNat ∧ c.toNat ≤ 90 then c.toNat + 32 else c.toNat := by
  have hRange : c.val ≥ 'A'.val ∧ c.val ≤ 'Z'.val ↔ 65 ≤ c.toNat ∧ c.toNat ≤ 90 := Iff.rfl
  delta Char.toLower
  split
  case isTrue h =>
    have hBound : c.val.toNat ≤ 90 := (hRange.mp h).2
    have hShift : ('a'.val - 'A'.val).toNat = 32 := rfl
    have hSum : (c.val + ('a'.val - 'A'.val)).toNat = c.val.toNat + 32 := by
      rw [UInt32.toNat_add, hShift, Nat.mod_eq_of_lt (by omega)]
    rw [if_pos (hRange.mp h)]
    exact hSum
  case isFalse h => rw [if_neg (mt hRange.mpr h)]

/-- A small letter with its capital. -/
def IsLetter (letter : Char × Char) : Prop :=
  65 ≤ letter.2.toNat ∧ letter.2.toNat ≤ 90 ∧ letter.1.toNat = letter.2.toNat + 32

instance (letter : Char × Char) : Decidable (IsLetter letter) :=
  inferInstanceAs (Decidable (65 ≤ letter.2.toNat ∧ _ ∧ _))

theorem toLower_eq_iff {letter : Char × Char} (h : IsLetter letter) (c : Char) :
    c.toLower = letter.1 ↔ c = letter.1 ∨ c = letter.2 := by
  obtain ⟨hLow, hHigh, hSmall⟩ := h
  rw [← Char.toNat_inj, ← Char.toNat_inj, ← Char.toNat_inj, toNat_toLower]
  split <;> omega

theorem map_toLower_eq_iff {letters : List (Char × Char)} (h : ∀ letter ∈ letters, IsLetter letter)
    (cs : List Char) : cs.map Char.toLower = letters.map Prod.fst ↔
      List.Forall₂ (fun c letter => c = letter.1 ∨ c = letter.2) cs letters := by
  induction letters generalizing cs with
  | nil => simp
  | cons letter letters ih =>
    obtain ⟨hLetter, hLetters⟩ := List.forall_mem_cons.mp h
    cases cs with
    | nil => simp
    | cons c cs => simp [toLower_eq_iff hLetter, ih hLetters]

theorem toLower_of_lt {c : Char} (h : c.toNat < 65) : c.toLower = c := by
  rw [← Char.toNat_inj, toNat_toLower, if_neg (by omega)]

end PredictionJobs.Text
