import PredictionJobs.Proofs.Dictionary
import PredictionJobs.Proofs.Toml.Record
import PredictionJobs.Settings.Basic

/-! # Settings in a document

A document gives settings in two sections. It is accepted exactly if every section in it is known
and every pair of a name and a value in a section gives a setting; then each of the settings is the
one that is given last, or else the standard one. A name that is unknown in its place makes a
document no settings, and so does any name inside a value.
-/

namespace PredictionJobs

open Toml (FieldsGive Item Key Mentions Table)

/-- A setting that a document gives. -/
inductive Setting where
  | serviceUrl (url : String)
  | timeoutSeconds (seconds : Nat)
  | rowLimit (rows : Nat)
  deriving DecidableEq

namespace Setting

/-- The section and the key under which a setting stands. -/
def place : Setting → String × String
  | serviceUrl _ => ("service", "base_url")
  | timeoutSeconds _ => ("service", "timeout_secs")
  | rowLimit _ => ("display", "row_limit")

def scalar : Setting → Toml.Scalar
  | serviceUrl url => .string url
  | timeoutSeconds seconds => .integer seconds
  | rowLimit rows => .integer rows

def url? : Setting → Option String
  | serviceUrl url => some url
  | _ => none

def timeout? : Setting → Option (Option Nat)
  | timeoutSeconds seconds => some (some seconds)
  | _ => none

def rows? : Setting → Option Nat
  | rowLimit rows => some rows
  | _ => none

end Setting

namespace Settings

def settingKeys : List (String × List String) :=
  [("service", ["base_url", "timeout_secs"]), ("display", ["row_limit"])]

def keysOf? (heading : String) : Option (List String) := findPair? heading settingKeys

/-- Whether a value under a key of a section gives a setting. -/
structure Gives (heading key : String) (item : Item) (setting : Setting) : Prop where
  place : setting.place = (heading, key)
  scalar : ∃ span, item = .scalar setting.scalar span

/-- The settings that a section gives, in the order of its pairs. -/
inductive SectionGives (heading : String) (item : Item) (given : List Setting) : Prop
  | intro {keys : List String} {pairs : List (String × Item)}
      (hKeys : keysOf? heading = some keys) (hPairs : item.pairs? keys = some pairs)
      (hGiven : List.Forall₂ (fun p setting => Gives heading p.1 p.2 setting) pairs given)

/-- The settings that a document gives, section by section. -/
inductive DocumentGives (document : Table) : List Setting → Prop
  | intro {parts : List (List Setting)}
      (h : List.Forall₂ (fun entry part => SectionGives entry.1.name entry.2 part)
        document.entries parts) : DocumentGives document parts.flatten

/-- The last value that is given. -/
def lastGiven? {α : Type} (value? : Setting → Option α) (given : List Setting) : Option α :=
  given.reverse.findSome? value?

def changed (settings : Settings) : Setting → Settings
  | .serviceUrl url => { settings with serviceUrl := url }
  | .timeoutSeconds seconds => { settings with timeoutSeconds? := some seconds }
  | .rowLimit rows => { settings with rowLimit := rows }

theorem get_foldl_changed {α : Type} {get : Settings → α} {value? : Setting → Option α}
    (h : ∀ settings setting,
      get (changed settings setting) = (value? setting).getD (get settings))
    (given : List Setting) (settings : Settings) :
    get (given.foldl changed settings) = (lastGiven? value? given).getD (get settings) := by
  induction given generalizing settings with
  | nil => rfl
  | cons setting given ih =>
    rw [List.foldl_cons, ih, h, lastGiven?, lastGiven?, List.reverse_cons, List.findSome?_append,
      List.findSome?_singleton]
    cases given.reverse.findSome? value? <;> rfl

theorem serviceUrl_foldl_changed (given : List Setting) (settings : Settings) :
    (given.foldl changed settings).serviceUrl =
      (lastGiven? Setting.url? given).getD settings.serviceUrl := by
  apply get_foldl_changed
  intro settings setting
  cases setting <;> rfl

theorem timeoutSeconds?_foldl_changed (given : List Setting) (settings : Settings) :
    (given.foldl changed settings).timeoutSeconds? =
      (lastGiven? Setting.timeout? given).getD settings.timeoutSeconds? := by
  apply get_foldl_changed
  intro settings setting
  cases setting <;> rfl

theorem rowLimit_foldl_changed (given : List Setting) (settings : Settings) :
    (given.foldl changed settings).rowLimit =
      (lastGiven? Setting.rows? given).getD settings.rowLimit := by
  apply get_foldl_changed
  intro settings setting
  cases setting <;> rfl

/-! ### Reading -/

section

variable {heading key : String} {item : Item} {settings settings' : Settings}

/-- A field that reads its value, and puts it as the only kind of setting in its place. -/
theorem put_eq_ok_iff {α : Type} {read : Item → Except Toml.Misfit α} {kind : α → Setting}
    (hRead : ∀ item value,
      read item = .ok value ↔ ∃ span, item = .scalar (kind value).scalar span)
    (hPlace : ∀ setting : Setting,
      setting.place = (heading, key) ↔ ∃ value, kind value = setting) :
    (read item >>= fun value => pure (changed settings (kind value))) = .ok settings' ↔
      ∃ setting, Gives heading key item setting ∧ changed settings setting = settings' := by
  rw [bind_eq_ok_iff]
  constructor
  · rintro ⟨value, hValue, hSame⟩
    exact ⟨kind value, ⟨(hPlace _).mpr ⟨value, rfl⟩, (hRead _ _).mp hValue⟩, Except.ok.inj hSame⟩
  · rintro ⟨setting, ⟨hKind, hScalar⟩, rfl⟩
    obtain ⟨value, rfl⟩ := (hPlace _).mp hKind
    exact ⟨value, (hRead _ _).mpr hScalar, rfl⟩

theorem place_serviceUrl_iff {setting : Setting} :
    setting.place = ("service", "base_url") ↔ ∃ url, .serviceUrl url = setting := by
  cases setting <;> simp [Setting.place]

theorem place_timeoutSeconds_iff {setting : Setting} :
    setting.place = ("service", "timeout_secs") ↔ ∃ seconds, .timeoutSeconds seconds = setting := by
  cases setting <;> simp [Setting.place]

theorem place_rowLimit_iff {setting : Setting} :
    setting.place = ("display", "row_limit") ↔ ∃ rows, .rowLimit rows = setting := by
  cases setting <;> simp [Setting.place]

theorem fieldsGive_serviceFields : FieldsGive serviceFields (Gives "service") changed where
  put := by
    intro field hField item settings settings'
    rcases List.mem_pair.mp hField with rfl | rfl
    · exact put_eq_ok_iff (fun _ _ => Toml.readText_eq_ok_iff) fun _ => place_serviceUrl_iff
    · exact put_eq_ok_iff (fun _ _ => Toml.readNatural_eq_ok_iff) fun _ => place_timeoutSeconds_iff
  known := by
    intro name item setting hGives
    have hPlace := hGives.place
    cases setting <;> simp_all [Setting.place, serviceFields]

theorem fieldsGive_displayFields : FieldsGive displayFields (Gives "display") changed where
  put := by
    intro field hField item settings settings'
    obtain rfl := List.mem_singleton.mp hField
    exact put_eq_ok_iff (fun _ _ => Toml.readNatural_eq_ok_iff) fun _ => place_rowLimit_iff
  known := by
    intro name item setting hGives
    have hPlace := hGives.place
    cases setting <;> simp_all [Setting.place, displayFields]

theorem readSection_eq_ok_iff {wanted : String} {fields : List (Toml.RecordField Settings)}
    (hFields : FieldsGive fields (Gives heading) changed)
    (hKeys : keysOf? heading = some (fields.map Toml.RecordField.name)) :
    Toml.readRecord wanted fields item settings = .ok settings' ↔
      ∃ part, SectionGives heading item part ∧ part.foldl changed settings = settings' := by
  rw [hFields.readRecord]
  constructor
  · rintro ⟨pairs, part, hPairs, hPart, hFold⟩
    exact ⟨part, .intro hKeys hPairs hPart, hFold⟩
  · rintro ⟨part, ⟨hSame, hPairs, hPart⟩, hFold⟩
    obtain rfl := Option.some.inj (hKeys.symm.trans hSame)
    exact ⟨_, part, hPairs, hPart, hFold⟩

theorem fieldsGive_sections :
    FieldsGive sections SectionGives fun settings part => part.foldl changed settings where
  put := by
    intro field hField item settings settings'
    rcases List.mem_pair.mp hField with rfl | rfl
    · exact readSection_eq_ok_iff fieldsGive_serviceFields rfl
    · exact readSection_eq_ok_iff fieldsGive_displayFields rfl
  known := by
    rintro name item part ⟨hKeys, -, -⟩
    have hNames : settingKeys.map Prod.fst = sections.map Toml.RecordField.name := rfl
    rw [← hNames]
    exact List.mem_map_of_mem (mem_of_findPair?_eq_some hKeys)

end

theorem ofDocument_eq_ok_iff {document : Table} {settings : Settings} :
    ofDocument document = .ok settings ↔
      ∃ given, DocumentGives document given ∧ given.foldl changed standard = settings := by
  rw [ofDocument, fieldsGive_sections.readEntries]
  constructor
  · rintro ⟨parts, hParts, rfl⟩
    exact ⟨parts.flatten, .intro hParts, List.foldl_flatten⟩
  · rintro ⟨_, ⟨hParts⟩, rfl⟩
    exact ⟨_, hParts, List.foldl_flatten.symm⟩

/-! ### Unknown keys -/

/-- Whether a key stands in a place in which it is unknown. What stands in a list behind the values
of a section's fields is in no such place. -/
inductive Stray (document : Table) : Prop
  | heading {entry : Key × Item} (hEntry : entry ∈ document.entries)
      (hUnknown : keysOf? entry.1.name = none)
  | key {entry inner : Key × Item} {keys : List String} {t : Table}
      (hEntry : entry ∈ document.entries) (hKeys : keysOf? entry.1.name = some keys)
      (hTable : entry.2 = .table t) (hInner : inner ∈ t.entries) (hUnknown : inner.1.name ∉ keys)
  | inside {entry : Key × Item} {keys : List String} {pairs : List (String × Item)}
      {p : String × Item} {name : String} (hEntry : entry ∈ document.entries)
      (hKeys : keysOf? entry.1.name = some keys) (hPairs : entry.2.pairs? keys = some pairs)
      (hPair : p ∈ pairs) (hInside : Mentions name p.2)
  | row {entry : Key × Item} {earlier : List Table} {last : Table} {name : String}
      (hEntry : entry ∈ document.entries) (hRows : entry.2 = .rows earlier last)
      (hInside : Mentions name entry.2)

section

variable {heading key : String} {keys : List String} {item : Item} {setting : Setting}
  {document : Table} {given : List Setting}

theorem Gives.mem_keys (h : Gives heading key item setting) (hKeys : keysOf? heading = some keys) :
    key ∈ keys := by
  obtain ⟨rfl, rfl⟩ := Prod.mk.inj h.place
  cases setting <;> cases hKeys <;> simp

theorem Gives.not_mentions (h : Gives heading key item setting) (name : String) :
    ¬Mentions name item := by
  obtain ⟨span, rfl⟩ := h.scalar
  exact Toml.not_mentions_scalar

theorem keys_ne_nil (h : keysOf? heading = some keys) : keys ≠ [] := by
  have hAll : ∀ p ∈ settingKeys, p.2 ≠ [] := by decide
  exact hAll _ (mem_of_findPair?_eq_some h)

/-- What stands in a list behind the values of all fields gives nothing. -/
theorem sectionGives_append_iff {items surplus : List Item} {span : Toml.Span}
    (hKeys : keysOf? heading = some keys) (hFull : keys.length ≤ items.length) :
    SectionGives heading (.list (items ++ surplus) span) given ↔
      SectionGives heading (.list items span) given := by
  have hPairs : (Item.list (items ++ surplus) span).pairs? keys =
      (Item.list items span).pairs? keys := congrArg some (Toml.zip_append_of_le hFull surplus)
  constructor
  · rintro ⟨hSame, hGives, hGiven⟩
    obtain rfl := Option.some.inj (hKeys.symm.trans hSame)
    exact .intro hKeys (hPairs ▸ hGives) hGiven
  · rintro ⟨hSame, hGives, hGiven⟩
    obtain rfl := Option.some.inj (hKeys.symm.trans hSame)
    exact .intro hKeys (hPairs.symm ▸ hGives) hGiven

theorem DocumentGives.not_stray (h : DocumentGives document given) : ¬Stray document := by
  obtain ⟨hParts⟩ := h
  intro hStray
  cases hStray with
  | heading hEntry hUnknown =>
    obtain ⟨_, hKeys, -, -⟩ := exists_of_forall₂ hParts hEntry
    rw [hUnknown] at hKeys
    cases hKeys
  | key hEntry hKeys hTable hInner hUnknown =>
    obtain ⟨_, hSame, hPairs, hGiven⟩ := exists_of_forall₂ hParts hEntry
    rw [hTable] at hPairs
    cases hPairs
    obtain ⟨_, hGives⟩ := exists_of_forall₂ hGiven (List.mem_map_of_mem hInner)
    rw [hKeys] at hSame
    cases hSame
    exact hUnknown (hGives.mem_keys hKeys)
  | inside hEntry hKeys hPairs hPair hInside =>
    obtain ⟨_, hSame, hPairs', hGiven⟩ := exists_of_forall₂ hParts hEntry
    rw [hKeys] at hSame
    cases hSame
    rw [hPairs] at hPairs'
    cases hPairs'
    obtain ⟨_, hGives⟩ := exists_of_forall₂ hGiven hPair
    exact hGives.not_mentions _ hInside
  | @row _ earlier last _ hEntry hRows =>
    obtain ⟨_, hKeys, hPairs, hGiven⟩ := exists_of_forall₂ hParts hEntry
    rw [hRows] at hPairs
    obtain ⟨key, t, hPair⟩ := Toml.exists_table_of_rows (keys_ne_nil hKeys) hPairs
    obtain ⟨_, hGives⟩ := exists_of_forall₂ hGiven hPair
    obtain ⟨span, hScalar⟩ := hGives.scalar
    cases hScalar

end

end Settings

end PredictionJobs
