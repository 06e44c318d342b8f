import PredictionJobs.Proofs.Fallible
import PredictionJobs.Toml.Record

/-! # Records as they are given

An item gives the fields of a record as pairs of a name and a value: by the keys of a table, or by
the positions in a list. The record can be read if all of the pairs fit. What stands in a list
behind the last field is in no pair.
-/

namespace PredictionJobs.Toml

theorem placed_eq_ok_iff {α : Type} {span? : Option Span} {x : Except Misfit α} {a : α} :
    placed span? x = .ok a ↔ x = .ok a := by
  cases x <;> simp [placed]

theorem readText_eq_ok_iff {item : Item} {text : String} :
    readText item = .ok text ↔ ∃ span, item = .scalar (.string text) span := by
  constructor
  · intro h
    unfold readText at h
    split at h
    case h_1 found span =>
      cases h
      exact ⟨span, rfl⟩
    case h_2 => cases h
  · rintro ⟨span, rfl⟩
    rfl

theorem readNatural_eq_ok_iff {wanted : String} {item : Item} {n : Nat} :
    readNatural wanted item = .ok n ↔ ∃ span, item = .scalar (.integer n) span := by
  constructor
  · intro h
    unfold readNatural at h
    split at h
    case h_1 value span =>
      split at h
      case isTrue hSign =>
        cases h
        exact ⟨span, by rw [Int.toNat_of_nonneg hSign]⟩
      case isFalse => cases h
    case h_2 => cases h
  · rintro ⟨span, rfl⟩
    rw [readNatural, if_pos (Int.natCast_nonneg n), Int.toNat_natCast]

/-- The pairs in which an item gives the fields with these names. -/
def Item.pairs? (names : List String) : Item → Option (List (String × Item))
  | .table t => some (t.entries.map fun e => (e.1.name, e.2))
  | .list items _ => some (names.zip items)
  | .rows earlier last => some (names.zip ((earlier ++ [last]).map .table))
  | .scalar .. => none

theorem zip_append_of_le {names : List String} {items : List Item}
    (h : names.length ≤ items.length) (surplus : List Item) :
    names.zip (items ++ surplus) = names.zip items := by
  induction names generalizing items with
  | nil => rfl
  | cons name names ih =>
    cases items with
    | nil => cases h
    | cons item items =>
      rw [List.cons_append, List.zip_cons_cons, List.zip_cons_cons,
        ih (Nat.le_of_succ_le_succ h)]

theorem exists_table_of_rows {names : List String} {earlier : List Table} {last : Table}
    {pairs : List (String × Item)} (hNames : names ≠ [])
    (hPairs : (Item.rows earlier last).pairs? names = some pairs) :
    ∃ name t, (name, .table t) ∈ pairs := by
  cases hPairs
  obtain ⟨name, names, rfl⟩ := List.exists_cons_of_ne_nil hNames
  cases earlier with
  | nil => exact ⟨name, last, List.mem_cons_self⟩
  | cons first earlier => exact ⟨name, first, List.mem_cons_self⟩

variable {ρ σ : Type} {fields : List (RecordField ρ)} {gives : String → Item → σ → Prop}
  {apply : ρ → σ → ρ} {record record' : ρ}

/-- Whether the fields of a record are put as some values are given. -/
structure FieldsGive (fields : List (RecordField ρ)) (gives : String → Item → σ → Prop)
    (apply : ρ → σ → ρ) : Prop where
  put : ∀ field ∈ fields, ∀ item record record',
    field.put item record = .ok record' ↔ ∃ value, gives field.name item value ∧
      apply record value = record'
  known : ∀ {name item value}, gives name item value → name ∈ fields.map RecordField.name

theorem FieldsGive.readEntry (h : FieldsGive fields gives apply) (entry : Key × Item) :
    readEntry fields record entry = .ok record' ↔
      ∃ value, gives entry.1.name entry.2 value ∧ apply record value = record' := by
  rw [Toml.readEntry]
  split
  case h_1 hNone =>
    constructor
    · intro hRead
      cases hRead
    · rintro ⟨value, hGives, -⟩
      obtain ⟨field, hField, hName⟩ := List.mem_map.mp (h.known hGives)
      have hOther := List.find?_eq_none.mp hNone field hField
      simp [hName] at hOther
  case h_2 field hFound =>
    have hName : field.name = entry.1.name := by simpa using List.find?_some hFound
    rw [placed_eq_ok_iff, h.put field (List.mem_of_find?_eq_some hFound), hName]

theorem FieldsGive.readEntries (h : FieldsGive fields gives apply) (t : Table) :
    readEntries fields record t = .ok record' ↔ ∃ given,
      List.Forall₂ (fun (e : Key × Item) value => gives e.1.name e.2 value) t.entries given ∧
        given.foldl apply record = record' :=
  foldlM_eq_ok_iff fun entry _ _ _ => h.readEntry entry

theorem FieldsGive.readPositions (h : FieldsGive fields gives apply) (items : List Item) :
    readPositions fields record items = .ok record' ↔ ∃ given,
      List.Forall₂ (fun (p : String × Item) value => gives p.1 p.2 value)
        ((fields.map RecordField.name).zip items) given ∧ given.foldl apply record = record' := by
  rw [Toml.readPositions, List.zip_map_left]
  simp only [List.forall₂_map_left_iff]
  apply foldlM_eq_ok_iff
  rintro ⟨field, item⟩ hPair
  exact h.put field (List.of_mem_zip hPair).1 item

theorem FieldsGive.readRecord (h : FieldsGive fields gives apply) (wanted : String) (item : Item) :
    readRecord wanted fields item record = .ok record' ↔ ∃ pairs given,
      item.pairs? (fields.map RecordField.name) = some pairs ∧
        List.Forall₂ (fun (p : String × Item) value => gives p.1 p.2 value) pairs given ∧
        given.foldl apply record = record' := by
  unfold Toml.readRecord
  rw [placed_eq_ok_iff]
  cases item with
  | table t =>
    dsimp only
    rw [h.readEntries]
    simp [Item.pairs?]
  | list items span =>
    dsimp only
    rw [h.readPositions]
    simp [Item.pairs?]
  | rows earlier last =>
    dsimp only
    rw [h.readPositions]
    simp [Item.pairs?]
  | scalar value span =>
    constructor
    · intro hRead
      cases value <;> cases hRead
    · rintro ⟨_, _, hPairs, _⟩
      cases hPairs

/-- A name that is a key somewhere in an item. -/
inductive Mentions (name : String) : Item → Prop
  | key {t : Table} {entry : Key × Item} (h : entry ∈ t.entries) (hName : entry.1.name = name) :
      Mentions name (.table t)
  | entry {t : Table} {entry : Key × Item} (h : entry ∈ t.entries)
      (hInside : Mentions name entry.2) : Mentions name (.table t)
  | item {items : List Item} {span : Span} {item : Item} (h : item ∈ items)
      (hInside : Mentions name item) : Mentions name (.list items span)
  | row {earlier : List Table} {last t : Table} (h : t ∈ earlier ++ [last])
      (hInside : Mentions name (.table t)) : Mentions name (.rows earlier last)

theorem not_mentions_scalar {name : String} {value : Scalar} {span : Span} :
    ¬Mentions name (.scalar value span) := by
  nofun

end PredictionJobs.Toml
