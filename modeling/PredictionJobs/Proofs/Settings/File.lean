import PredictionJobs.Proofs.File
import PredictionJobs.Proofs.Settings.Document
import PredictionJobs.Settings.Loading

/-! # The file that settings are in

At most one file is read: the one that is asked for, or else the usual one if it is there. If it can
be read, its document gives the settings before the address is replaced; without a file these are
the standard ones.
-/

namespace PredictionJobs

open Settings (DocumentGives standard)

namespace Settings

theorem ofFile_eq_ok_iff {path : String} {state : FileState} {settings : Settings} :
    ofFile path state = .ok settings ↔ ∃ text document, state.HasText text ∧
      Toml.read text.toList = .ok document ∧ ofDocument document = .ok settings := by
  rw [ofFile]
  constructor
  · intro h
    split at h
    case h_1 => cases h
    case h_2 text hText =>
      unfold ofText at h
      dsimp only at h
      split at h
      case h_1 => cases h
      case h_2 document hDocument =>
        split at h
        case h_1 => cases h
        case h_2 found hFound =>
          cases h
          exact ⟨text, document, FileState.read_eq_ok_iff.mp hText, hDocument, hFound⟩
  · rintro ⟨text, document, hText, hDocument, hSettings⟩
    rw [FileState.read_eq_ok_iff.mpr hText]
    simp only [ofText, hDocument, hSettings]

end Settings

namespace SettingsSources

variable {sources : SettingsSources} {path text : String} {settings : Settings}

def usualPath (sources : SettingsSources) : String := pathIn sources.directory "predictor.toml"

/-- The file that settings are read from. -/
inductive ReadsFile (sources : SettingsSources) : String → Prop
  | explicit {path : String} (h : sources.path? = some path) : ReadsFile sources path
  | usual (hPath : sources.path? = none)
      (hFile : (sources.files sources.usualPath).IsRegular) :
      ReadsFile sources sources.usualPath

/-- The settings that the file gives, if there is one. -/
inductive FileGives (sources : SettingsSources) : List Setting → Prop
  | nothing (h : ∀ path, ¬ReadsFile sources path) : FileGives sources []
  | document {path text : String} {document : Toml.Table} {given : List Setting}
      (hPath : ReadsFile sources path) (hText : (sources.files path).HasText text)
      (hDocument : Toml.read text.toList = .ok document) (hGiven : DocumentGives document given) :
      FileGives sources given

theorem chosenPath?_eq_some_iff : sources.chosenPath? = some path ↔ ReadsFile sources path := by
  rw [chosenPath?]
  constructor
  · intro h
    split at h
    case h_1 hPath =>
      cases h
      exact .explicit hPath
    case h_2 hPath =>
      dsimp only at h
      split at h
      case isTrue hFile =>
        cases h
        exact .usual hPath (FileState.isFile_eq_true_iff.mp hFile)
      case isFalse => cases h
  · intro h
    cases h with
    | explicit hPath => rw [hPath]
    | usual hPath hFile =>
      rw [hPath]
      exact if_pos (FileState.isFile_eq_true_iff.mpr hFile)

theorem ReadsFile.unique {path' : String} (h : ReadsFile sources path)
    (h' : ReadsFile sources path') : path = path' :=
  Option.some.inj ((chosenPath?_eq_some_iff.mpr h).symm.trans (chosenPath?_eq_some_iff.mpr h'))

theorem written_of_readsFile (h : ReadsFile sources path) :
    sources.written = Settings.ofFile path (sources.files path) := by
  rw [written, chosenPath?_eq_some_iff.mpr h]

theorem written_of_none (h : ∀ path, ¬ReadsFile sources path) :
    sources.written = .ok standard := by
  have hNone : sources.chosenPath? = none := by
    apply Option.eq_none_iff_forall_ne_some.mpr
    intro path hPath
    exact h path (chosenPath?_eq_some_iff.mp hPath)
  rw [written, hNone]

theorem written_eq_ok_iff : sources.written = .ok settings ↔
    ∃ given, FileGives sources given ∧ given.foldl Settings.changed standard = settings := by
  by_cases hFile : ∃ path, ReadsFile sources path
  · obtain ⟨path, hPath⟩ := hFile
    rw [written_of_readsFile hPath]
    constructor
    · intro h
      obtain ⟨text, document, hText, hDocument, hSettings⟩ := Settings.ofFile_eq_ok_iff.mp h
      obtain ⟨given, hGiven, hFold⟩ := Settings.ofDocument_eq_ok_iff.mp hSettings
      exact ⟨given, .document hPath hText hDocument hGiven, hFold⟩
    · rintro ⟨given, hGives, hFold⟩
      cases hGives with
      | nothing hNone => exact absurd hPath (hNone path)
      | document hPath' hText hDocument hGiven =>
        obtain rfl := hPath.unique hPath'
        exact Settings.ofFile_eq_ok_iff.mpr ⟨_, _, hText, hDocument,
          Settings.ofDocument_eq_ok_iff.mpr ⟨given, hGiven, hFold⟩⟩
  · have hNone : ∀ path, ¬ReadsFile sources path := not_exists.mp hFile
    rw [written_of_none hNone]
    constructor
    · intro h
      exact ⟨[], .nothing hNone, Except.ok.inj h⟩
    · rintro ⟨given, hGives, hFold⟩
      cases hGives with
      | nothing => exact congrArg Except.ok hFold
      | document hPath => exact absurd hPath (hNone _)

end SettingsSources

end PredictionJobs
