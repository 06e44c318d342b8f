import Mathlib.Data.List.Forall2

/-! # Joined lines

Texts of several words that are joined by line feeds can be told apart again, though a line feed may
also stand in their last words: what goes on behind a text starts with a word of its own.
-/

namespace PredictionJobs.Text

/-! ### Fronts -/

section

variable {α : Type} {mark : α} {front front' rest rest' : List α}

/-- Of two texts at the front of one text, one is at the front of the other. -/
theorem isPrefix_or_isPrefix (h : front ++ rest = front' ++ rest') :
    front <+: front' ∨ front' <+: front := by
  have hFront : front <+: front' ++ rest' := h ▸ List.prefix_append front rest
  exact List.prefix_or_prefix_of_prefix hFront (List.prefix_append front' rest')

theorem append_mark_inj (h : mark ∉ front) (h' : mark ∉ front') :
    front ++ mark :: rest = front' ++ mark :: rest' ↔ front = front' ∧ rest = rest' := by
  induction front generalizing front' with
  | nil =>
    cases front' with
    | nil => simp
    | cons a front' =>
      have hHead : mark ≠ a := fun heq => h' (heq ▸ List.mem_cons_self)
      simp [hHead]
  | cons a front ih =>
    cases front' with
    | nil =>
      have hHead : a ≠ mark := fun heq => h (heq ▸ List.mem_cons_self)
      simp [hHead]
    | cons b front' =>
      have hTails := ih (mt (List.mem_cons_of_mem a) h) (mt (List.mem_cons_of_mem b) h')
      simp [hTails, and_assoc]

/-- The same for the last mark. -/
theorem append_mark_inj_of_rest (h : mark ∉ rest) (h' : mark ∉ rest') :
    front ++ mark :: rest = front' ++ mark :: rest' ↔ front = front' ∧ rest = rest' := by
  have hReversed : rest.reverse ++ mark :: front.reverse = rest'.reverse ++ mark :: front'.reverse ↔
      rest.reverse = rest'.reverse ∧ front.reverse = front'.reverse :=
    append_mark_inj (mt List.mem_reverse.mp h) (mt List.mem_reverse.mp h')
  rw [← List.reverse_inj, List.reverse_append, List.reverse_append, List.reverse_cons,
    List.reverse_cons, List.append_assoc, List.append_assoc, List.singleton_append,
    List.singleton_append, hReversed, List.reverse_inj, List.reverse_inj, and_comm]

end

/-! ### What goes on behind a text -/

/-- A text that starts with a word and a space. -/
def Worded (text : List Char) : Prop :=
  ∃ word rest, ' ' ∉ word ∧ '\n' ∉ word ∧ text = word ++ ' ' :: rest

/-- What may stand behind a text: nothing, or a line feed and a text that starts with a word. -/
inductive Continues : List Char → Prop
  | ended : Continues []
  | line {text : List Char} (h : Worded text) : Continues ('\n' :: text)

theorem Continues.append_inj {s s' t t' : List Char} (ht : Continues t) (ht' : Continues t')
    (hs : ' ' ∉ s) (hs' : ' ' ∉ s') : s ++ t = s' ++ t' ↔ s = s' ∧ t = t' := by
  constructor
  · intro h
    cases ht with
    | ended =>
      cases ht' with
      | ended => simpa using h
      | line hText =>
        obtain ⟨word, rest, -, -, rfl⟩ := hText
        rw [List.append_nil] at h
        simp [h] at hs
    | line hText =>
      obtain ⟨word, rest, hSpace, hFeed, rfl⟩ := hText
      cases ht' with
      | ended =>
        rw [List.append_nil] at h
        simp [← h] at hs'
      | line hText' =>
        obtain ⟨word', rest', hSpace', hFeed', rfl⟩ := hText'
        -- Up to the first space there are the text, the last line feed and a word.
        have hWords : (s ++ '\n' :: word) ++ ' ' :: rest = (s' ++ '\n' :: word') ++ ' ' :: rest' := by
          simpa using h
        obtain ⟨hFront, rfl⟩ :=
          (append_mark_inj (by simp [hs, hSpace]) (by simp [hs', hSpace'])).mp hWords
        obtain ⟨rfl, rfl⟩ := (append_mark_inj_of_rest hFeed hFeed').mp hFront
        exact ⟨rfl, rfl⟩
  · rintro ⟨rfl, rfl⟩
    rfl

/-! ### Lines -/

/-- Lines, each behind a line feed. -/
def behind (lines : List String) : List Char := lines.flatMap fun line => '\n' :: line.toList

theorem behind_cons (line : String) (lines : List String) :
    behind (line :: lines) = '\n' :: (line.toList ++ behind lines) := rfl

theorem toList_intercalate_cons (line : String) (lines : List String) :
    ("\n".intercalate (line :: lines)).toList = line.toList ++ behind lines := by
  rw [String.toList_intercalate, List.map_cons]
  induction lines generalizing line with
  | nil => simp [behind]
  | cons next lines ih =>
    rw [List.map_cons, List.intercalate_cons_cons, ih, behind_cons, List.append_assoc]
    rfl

theorem Worded.append {text : List Char} (h : Worded text) (rest : List Char) :
    Worded (text ++ rest) := by
  obtain ⟨word, after, hSpace, hFeed, rfl⟩ := h
  exact ⟨word, after ++ rest, hSpace, hFeed, List.append_assoc _ _ _⟩

theorem Worded.ne_nil {text : List Char} (h : Worded text) : text ≠ [] := by
  obtain ⟨word, after, -, -, rfl⟩ := h
  exact List.append_ne_nil_of_right_ne_nil _ (List.cons_ne_nil _ _)

theorem continues_behind {lines : List String} (h : ∀ line ∈ lines, Worded line.toList) :
    Continues (behind lines) := by
  cases lines with
  | nil => exact .ended
  | cons line lines => exact .line ((h line List.mem_cons_self).append _)

section

variable {α : Type} {text : α → String} {valid : α → Prop} {same : α → α → Prop}

/-- If each text can be told from what goes on behind it, so can all the lines of a text. -/
theorem forall₂_of_behind (hWorded : ∀ a, valid a → Worded (text a).toList)
    (hSame : ∀ a b, valid a → valid b → ∀ t t', Continues t → Continues t' →
      (text a).toList ++ t = (text b).toList ++ t' → same a b ∧ t = t')
    {as bs : List α} (has : ∀ a ∈ as, valid a) (hbs : ∀ b ∈ bs, valid b)
    (h : behind (as.map text) = behind (bs.map text)) : List.Forall₂ same as bs := by
  have hContinues : ∀ cs : List α, (∀ c ∈ cs, valid c) → Continues (behind (cs.map text)) := by
    intro cs hcs
    exact continues_behind (List.forall_mem_map.mpr fun c hc => hWorded c (hcs c hc))
  induction as generalizing bs with
  | nil =>
    cases bs with
    | nil => exact .nil
    | cons b bs => cases h
  | cons a as ih =>
    cases bs with
    | nil => cases h
    | cons b bs =>
      obtain ⟨ha, hTail⟩ := List.forall_mem_cons.mp has
      obtain ⟨hb, hTail'⟩ := List.forall_mem_cons.mp hbs
      have hLines : (text a).toList ++ behind (as.map text) =
          (text b).toList ++ behind (bs.map text) := (List.cons.inj h).2
      obtain ⟨hHead, hRest⟩ :=
        hSame a b ha hb _ _ (hContinues as hTail) (hContinues bs hTail') hLines
      exact .cons hHead (ih hTail hTail' hRest)

theorem forall₂_of_intercalate (hWorded : ∀ a, valid a → Worded (text a).toList)
    (hSame : ∀ a b, valid a → valid b → ∀ t t', Continues t → Continues t' →
      (text a).toList ++ t = (text b).toList ++ t' → same a b ∧ t = t')
    {as bs : List α} (has : ∀ a ∈ as, valid a) (hbs : ∀ b ∈ bs, valid b)
    (h : "\n".intercalate (as.map text) = "\n".intercalate (bs.map text)) :
    List.Forall₂ same as bs := by
  have hLine : ∀ c, valid c → ∀ lines, "\n".intercalate (text c :: lines) ≠ "" := by
    intro c hc lines hEmpty
    have hText := ((hWorded c hc).append (behind lines)).ne_nil
    rw [← toList_intercalate_cons, hEmpty] at hText
    exact hText rfl
  apply forall₂_of_behind hWorded hSame has hbs
  cases as with
  | nil =>
    cases bs with
    | nil => rfl
    | cons b bs => exact absurd h.symm (hLine b (hbs b List.mem_cons_self) _)
  | cons a as =>
    cases bs with
    | nil => exact absurd h (hLine a (has a List.mem_cons_self) _)
    | cons b bs =>
      rw [List.map_cons, List.map_cons, behind_cons, behind_cons, ← toList_intercalate_cons,
        ← toList_intercalate_cons]
      exact congrArg (fun s : String => '\n' :: s.toList) h

end

end PredictionJobs.Text
