import Mathlib
import PredictionJobs.Proofs.Settings
import PredictionJobs.Proofs.Settings.File

/-! # Which settings count

The address is the first of the argument, the environment variable unless it is blank, the file and
the standard one; the other settings are those of the file or the standard ones. Only what comes of
this has to be valid. But loading fails with the file that is read, whatever the address is replaced
by.
-/

namespace PredictionJobs

open Settings (DocumentGives lastGiven? standard)

namespace Settings

/-- Whether an address starts like one of the web, blanks before it aside. -/
def WebUrl (url : String) : Prop :=
  ∃ scheme ∈ webSchemes, scheme.toList <+: (Text.trim url).toList

structure Valid (settings : Settings) : Prop where
  url : WebUrl settings.serviceUrl
  timeout : settings.timeoutSeconds? ≠ some 0

/-- What is wrong with settings. -/
inductive Invalid (settings : Settings) : Problem → Prop
  | urlScheme (h : ¬WebUrl settings.serviceUrl) : Invalid settings (.urlScheme settings.serviceUrl)
  | zeroTimeout (hUrl : WebUrl settings.serviceUrl) (h : settings.timeoutSeconds? = some 0) :
      Invalid settings .zeroTimeout

variable {settings : Settings} {problem : Problem}

theorem webUrl_iff {url : String} : WebUrl url ↔ hasWebScheme url = true := by
  rw [WebUrl, Text.toList_trim, hasWebScheme_iff]

theorem problem?_eq_none_iff : settings.problem? = none ↔ settings.Valid := by
  rw [problem?]
  constructor
  · intro h
    split at h
    case isTrue => cases h
    case isFalse hUrl =>
      split at h
      case isTrue => cases h
      case isFalse hTimeout => exact ⟨webUrl_iff.mpr (by simpa using hUrl), hTimeout⟩
  · rintro ⟨hUrl, hTimeout⟩
    rw [webUrl_iff.mp hUrl, if_neg (by decide), if_neg hTimeout]

theorem problem?_eq_some_iff : settings.problem? = some problem ↔ settings.Invalid problem := by
  rw [problem?]
  constructor
  · intro h
    split at h
    case isTrue hUrl =>
      cases h
      exact .urlScheme (webUrl_iff.not.mpr (by simpa using hUrl))
    case isFalse hUrl =>
      split at h
      case isTrue hTimeout =>
        cases h
        exact .zeroTimeout (webUrl_iff.mpr (by simpa using hUrl)) hTimeout
      case isFalse => cases h
  · intro h
    cases h with
    | urlScheme hUrl => exact if_pos (by simpa using webUrl_iff.not.mp hUrl)
    | zeroTimeout hUrl hTimeout =>
      rw [webUrl_iff.mp hUrl, if_neg (by decide), if_pos hTimeout]

end Settings

/-- How loading ends, reports on files aside. -/
inductive LoadEnd where
  | unread (path : String)
  | unparsed (path : String)
  | invalid (problem : Settings.Problem)
  | loaded (settings : Settings)

def loadEnd : Except SettingsFault Settings → LoadEnd
  | .error (.unread path _) => .unread path
  | .error (.unparsed path _) => .unparsed path
  | .error (.misshaped path _) => .unparsed path
  | .error (.invalid problem) => .invalid problem
  | .ok settings => .loaded settings

namespace SettingsSources

variable {sources : SettingsSources} {path text : String} {settings : Settings}
  {given : List Setting}

/-- The address that counts, where `given?` is the one in the file. -/
inductive ChosenUrl (sources : SettingsSources) (given? : Option String) : String → Prop
  | argument {url : String} (h : sources.argumentUrl? = some url) : ChosenUrl sources given? url
  | environment {url : String} (hArgument : sources.argumentUrl? = none)
      (h : sources.environmentUrl? = some url) (hText : Text.trim url ≠ "") :
      ChosenUrl sources given? url
  | file {url : String} (hArgument : sources.argumentUrl? = none)
      (hEnvironment : ∀ url, sources.environmentUrl? = some url → Text.trim url = "")
      (h : given? = some url) : ChosenUrl sources given? url
  | neither (hArgument : sources.argumentUrl? = none)
      (hEnvironment : ∀ url, sources.environmentUrl? = some url → Text.trim url = "")
      (h : given? = none) : ChosenUrl sources given? standard.serviceUrl

/-- The settings that come of what the file gives. -/
structure Merged (sources : SettingsSources) (given : List Setting) (settings : Settings) :
    Prop where
  url : ChosenUrl sources (lastGiven? Setting.url? given) settings.serviceUrl
  timeout : settings.timeoutSeconds? =
    (lastGiven? Setting.timeout? given).getD standard.timeoutSeconds?
  rows : settings.rowLimit = (lastGiven? Setting.rows? given).getD standard.rowLimit

/-! ### The address -/

theorem replacement?_of_argument {url : String} (h : sources.argumentUrl? = some url) :
    sources.replacement? = some url := by
  rw [replacement?, h, Option.some_or]

theorem replacement?_of_environment {url : String} (hArgument : sources.argumentUrl? = none)
    (h : sources.environmentUrl? = some url) (hText : Text.trim url ≠ "") :
    sources.replacement? = some url := by
  have hSolid : Text.isBlankText url = false := by
    rw [← Text.isEmpty_trim, ← Bool.not_eq_true, String.isEmpty_iff]
    exact hText
  rw [replacement?, hArgument, h, Option.none_or, Option.filter_some, hSolid]
  rfl

theorem replacement?_eq_none (hArgument : sources.argumentUrl? = none)
    (hEnvironment : ∀ url, sources.environmentUrl? = some url → Text.trim url = "") :
    sources.replacement? = none := by
  rw [replacement?, hArgument, Option.none_or, Option.filter_eq_none_iff]
  intro url hUrl
  have hBlank : Text.isBlankText url = true := by
    rw [← Text.isEmpty_trim, String.isEmpty_iff]
    exact hEnvironment url hUrl
  simp [hBlank]

theorem ChosenUrl.eq {given? : Option String} {url : String} (h : ChosenUrl sources given? url) :
    sources.replacement?.getD (given?.getD standard.serviceUrl) = url := by
  cases h with
  | argument hArgument => rw [replacement?_of_argument hArgument, Option.getD_some]
  | environment hArgument hUrl hText =>
    rw [replacement?_of_environment hArgument hUrl hText, Option.getD_some]
  | file hArgument hEnvironment hGiven =>
    rw [replacement?_eq_none hArgument hEnvironment, hGiven, Option.getD_none, Option.getD_some]
  | neither hArgument hEnvironment hGiven =>
    rw [replacement?_eq_none hArgument hEnvironment, hGiven, Option.getD_none, Option.getD_none]

theorem exists_chosenUrl (sources : SettingsSources) (given? : Option String) :
    ∃ url, ChosenUrl sources given? url := by
  cases hArgument : sources.argumentUrl? with
  | some url => exact ⟨url, .argument hArgument⟩
  | none =>
    by_cases hEnvironment : ∀ url, sources.environmentUrl? = some url → Text.trim url = ""
    · cases hGiven : given? with
      | some url => exact ⟨url, .file hArgument hEnvironment rfl⟩
      | none => exact ⟨_, .neither hArgument hEnvironment rfl⟩
    · push Not at hEnvironment
      obtain ⟨url, hUrl, hText⟩ := hEnvironment
      exact ⟨url, .environment hArgument hUrl hText⟩

theorem chosenUrl_iff {given? : Option String} {url : String} : ChosenUrl sources given? url ↔
    sources.replacement?.getD (given?.getD standard.serviceUrl) = url := by
  constructor
  · exact ChosenUrl.eq
  · rintro rfl
    obtain ⟨url, hChosen⟩ := exists_chosenUrl sources given?
    rwa [hChosen.eq]

theorem merged_iff : Merged sources given settings ↔
    sources.adjusted (given.foldl Settings.changed standard) = settings := by
  constructor
  · rintro ⟨hUrl, hTimeout, hRows⟩
    rw [chosenUrl_iff, ← Settings.serviceUrl_foldl_changed] at hUrl
    rw [← Settings.timeoutSeconds?_foldl_changed] at hTimeout
    rw [← Settings.rowLimit_foldl_changed] at hRows
    rw [adjusted, hUrl, ← hTimeout, ← hRows]
  · rintro rfl
    exact ⟨chosenUrl_iff.mpr (by rw [← Settings.serviceUrl_foldl_changed]; rfl),
      Settings.timeoutSeconds?_foldl_changed given standard,
      Settings.rowLimit_foldl_changed given standard⟩

/-! ### Loading -/

inductive Ends (sources : SettingsSources) : LoadEnd → Prop
  | unread {path : String} (hPath : ReadsFile sources path)
      (h : ∀ text, ¬(sources.files path).HasText text) : Ends sources (.unread path)
  | unparsed {path text : String} (hPath : ReadsFile sources path)
      (hText : (sources.files path).HasText text)
      (h : ∀ document given, Toml.read text.toList = .ok document →
        ¬DocumentGives document given) : Ends sources (.unparsed path)
  | invalid {given : List Setting} {settings : Settings} {problem : Settings.Problem}
      (hGives : FileGives sources given) (hMerged : Merged sources given settings)
      (h : settings.Invalid problem) : Ends sources (.invalid problem)
  | loaded {given : List Setting} {settings : Settings} (hGives : FileGives sources given)
      (hMerged : Merged sources given settings) (h : settings.Valid) :
      Ends sources (.loaded settings)

/-- A file that gives no settings either holds no text or a text of no settings. -/
theorem of_ofFile_eq_error {state : FileState} {fault : SettingsFault}
    (h : Settings.ofFile path state = .error fault) :
    ((∀ text, ¬state.HasText text) ∧ loadEnd (.error fault) = .unread path) ∨
      ∃ text, state.HasText text ∧
        (∀ document given, Toml.read text.toList = .ok document → ¬DocumentGives document given) ∧
        loadEnd (.error fault) = .unparsed path := by
  rw [Settings.ofFile] at h
  split at h
  case h_1 found hFault =>
    cases h
    refine .inl ⟨fun text hText => ?_, rfl⟩
    rw [FileState.read_eq_ok_iff.mpr hText] at hFault
    cases hFault
  case h_2 text hText =>
    refine .inr ⟨text, FileState.read_eq_ok_iff.mp hText, ?_⟩
    unfold Settings.ofText at h
    dsimp only at h
    split at h
    case h_1 hFault =>
      cases h
      refine ⟨fun document given hDocument => ?_, rfl⟩
      rw [hDocument] at hFault
      cases hFault
    case h_2 document hDocument =>
      split at h
      case h_1 misfit hMisfit =>
        cases h
        refine ⟨fun other given hOther hGiven => ?_, rfl⟩
        obtain rfl := Except.ok.inj (hDocument.symm.trans hOther)
        rw [Settings.ofDocument_eq_ok_iff.mpr ⟨given, hGiven, rfl⟩] at hMisfit
        cases hMisfit
      case h_2 => cases h

theorem load_of_readsFile {fault : SettingsFault} (hPath : ReadsFile sources path)
    (h : Settings.ofFile path (sources.files path) = .error fault) :
    sources.load = .error fault := by
  rw [load, written_of_readsFile hPath, h]

theorem load_of_problem {problem : Settings.Problem} (hGives : FileGives sources given)
    (hMerged : Merged sources given settings) (h : settings.problem? = some problem) :
    sources.load = .error (.invalid problem) := by
  rw [load, written_eq_ok_iff.mpr ⟨given, hGives, rfl⟩]
  dsimp only
  rw [merged_iff.mp hMerged, h]

theorem load_of_no_problem (hGives : FileGives sources given)
    (hMerged : Merged sources given settings) (h : settings.problem? = none) :
    sources.load = .ok settings := by
  rw [load, written_eq_ok_iff.mpr ⟨given, hGives, rfl⟩]
  dsimp only
  rw [merged_iff.mp hMerged, h]

theorem ends_loadEnd (sources : SettingsSources) : Ends sources (loadEnd sources.load) := by
  cases hWritten : sources.written with
  | ok written =>
    obtain ⟨given, hGives, rfl⟩ := written_eq_ok_iff.mp hWritten
    have hMerged : Merged sources given _ := merged_iff.mpr rfl
    cases hProblem : (sources.adjusted (given.foldl Settings.changed standard)).problem? with
    | none =>
      rw [load_of_no_problem hGives hMerged hProblem]
      exact .loaded hGives hMerged (Settings.problem?_eq_none_iff.mp hProblem)
    | some problem =>
      rw [load_of_problem hGives hMerged hProblem]
      exact .invalid hGives hMerged (Settings.problem?_eq_some_iff.mp hProblem)
  | error fault =>
    obtain ⟨path, hPath⟩ : ∃ path, ReadsFile sources path := by
      by_contra hNone
      rw [written_of_none (not_exists.mp hNone)] at hWritten
      cases hWritten
    rw [written_of_readsFile hPath] at hWritten
    rw [load_of_readsFile hPath hWritten]
    obtain ⟨hText, hEnd⟩ | ⟨text, hText, hShape, hEnd⟩ := of_ofFile_eq_error hWritten
    · rw [hEnd]
      exact .unread hPath hText
    · rw [hEnd]
      exact .unparsed hPath hText hShape

theorem Ends.eq {e : LoadEnd} (h : Ends sources e) : loadEnd sources.load = e := by
  cases h with
  | @unread path hPath hNone =>
    cases hFile : Settings.ofFile path (sources.files path) with
    | ok settings =>
      obtain ⟨text, _, hText, -⟩ := Settings.ofFile_eq_ok_iff.mp hFile
      exact absurd hText (hNone text)
    | error fault =>
      rw [load_of_readsFile hPath hFile]
      obtain ⟨-, hEnd⟩ | ⟨text, hText, -⟩ := of_ofFile_eq_error hFile
      · exact hEnd
      · exact absurd hText (hNone text)
  | @unparsed path text hPath hText hShape =>
    cases hFile : Settings.ofFile path (sources.files path) with
    | ok settings =>
      obtain ⟨text', document, hText', hDocument, hSettings⟩ := Settings.ofFile_eq_ok_iff.mp hFile
      obtain rfl := hText.unique hText'
      obtain ⟨given, hGiven, -⟩ := Settings.ofDocument_eq_ok_iff.mp hSettings
      exact absurd hGiven (hShape document given hDocument)
    | error fault =>
      rw [load_of_readsFile hPath hFile]
      obtain ⟨hNone, -⟩ | ⟨_, _, _, hEnd⟩ := of_ofFile_eq_error hFile
      · exact absurd hText (hNone text)
      · exact hEnd
  | invalid hGives hMerged hInvalid =>
    rw [load_of_problem hGives hMerged (Settings.problem?_eq_some_iff.mpr hInvalid)]
    rfl
  | loaded hGives hMerged hValid =>
    rw [load_of_no_problem hGives hMerged (Settings.problem?_eq_none_iff.mpr hValid)]
    rfl

theorem loadEnd_eq_iff {e : LoadEnd} : loadEnd sources.load = e ↔ Ends sources e := by
  constructor
  · rintro rfl
    exact ends_loadEnd sources
  · exact Ends.eq

theorem load_eq_error_iff {fault : SettingsFault} (h : ∀ problem, fault ≠ .invalid problem) :
    sources.load = .error fault ↔ sources.written = .error fault := by
  rw [load]
  constructor
  · intro hLoad
    split at hLoad
    case h_1 found hWritten =>
      cases hLoad
      exact hWritten
    case h_2 =>
      dsimp only at hLoad
      split at hLoad
      case h_1 problem _ =>
        cases hLoad
        exact absurd rfl (h problem)
      case h_2 => cases hLoad
  · intro hWritten
    rw [hWritten]

theorem load_congr {files : String → FileState}
    (hRead : ∀ path, ReadsFile sources path → files path = sources.files path)
    (hUsual : sources.path? = none →
      ((files sources.usualPath).IsRegular ↔ (sources.files sources.usualPath).IsRegular)) :
    { sources with files }.load = sources.load := by
  have hChosen : { sources with files }.chosenPath? = sources.chosenPath? := by
    apply Option.ext
    intro path
    rw [chosenPath?_eq_some_iff, chosenPath?_eq_some_iff]
    constructor
    · intro h
      cases h with
      | explicit hPath => exact .explicit hPath
      | usual hPath hFile => exact .usual hPath ((hUsual hPath).mp hFile)
    · intro h
      cases h with
      | explicit hPath => exact .explicit hPath
      | usual hPath hFile => exact .usual hPath ((hUsual hPath).mpr hFile)
  have hWritten : { sources with files }.written = sources.written := by
    rw [written, written, hChosen]
    cases hPath : sources.chosenPath? with
    | none => rfl
    | some path =>
      dsimp only
      rw [hRead path (chosenPath?_eq_some_iff.mp hPath)]
  rw [load, load, hWritten]
  rfl

end SettingsSources

open SettingsSources

/-- Loading ends as the file that is read says, or else as the address that counts and the other
settings of the file say. It fails with a file whatever the address is replaced by, and depends on
no other file. A key in a place in which it is unknown makes a file no settings; but in a section
that is a list, nothing behind the values of the fields counts. -/
theorem settings_by_precedence (sources : SettingsSources) :
    (∀ e, loadEnd sources.load = e ↔ sources.Ends e) ∧
    (∀ fault, (∀ problem, fault ≠ .invalid problem) → ∀ environmentUrl? argumentUrl?,
      { sources with environmentUrl?, argumentUrl? }.load = .error fault ↔
        sources.load = .error fault) ∧
    (∀ files : String → FileState,
      (∀ path, ReadsFile sources path → files path = sources.files path) →
      (sources.path? = none →
        ((files sources.usualPath).IsRegular ↔ (sources.files sources.usualPath).IsRegular)) →
      { sources with files }.load = sources.load) ∧
    (∀ path text document, ReadsFile sources path → (sources.files path).HasText text →
      Toml.read text.toList = .ok document → Settings.Stray document →
      loadEnd sources.load = .unparsed path) ∧
    ∀ heading keys items surplus span given, Settings.keysOf? heading = some keys →
      keys.length ≤ items.length →
      (Settings.SectionGives heading (.list (items ++ surplus) span) given ↔
        Settings.SectionGives heading (.list items span) given) := by
  refine ⟨fun e => loadEnd_eq_iff, fun fault hFault _ _ => ?_, fun _ => load_congr,
    fun path text document hPath hText hDocument hStray => ?_,
    fun _ _ _ _ _ _ => Settings.sectionGives_append_iff⟩
  · rw [load_eq_error_iff hFault, load_eq_error_iff hFault]
    rfl
  · refine loadEnd_eq_iff.mpr (.unparsed hPath hText fun other given hOther hGiven => ?_)
    obtain rfl := Except.ok.inj (hDocument.symm.trans hOther)
    exact hGiven.not_stray hStray

example :
    let text := "[service]\nbase_url = \"x\"\ntimeout_secs = 5\n"
    (⟨none, "/", fun _ => .content (Text.encode text), some " ", some "https://a"⟩ :
      SettingsSources).load = .ok ⟨"https://a", some 5, 500⟩ := by
  decide +kernel

example :
    (⟨none, "/", fun _ => .sealed ⟨13, "Permission denied"⟩, none, some "https://a"⟩ :
      SettingsSources).load.mapError SettingsFault.message =
        .error "could not read '/predictor.toml': Permission denied (os error 13)" := by
  decide +kernel

/-- A file with an unknown key, that is asked for; no override helps, and no other file matters. In
a list of two values the first is the limit of rows. No override helps either where the usual file
is there but cannot be read. -/
theorem settings_by_precedence_unknown_key :
    let text := "[service]\nbase = 1\n"
    let files (usual : FileState) (path : String) : FileState :=
      if path = "/a" then .content (Text.encode text) else usual
    let sources : SettingsSources :=
      ⟨some "/a", "/", files .missing, some "http://b", some "http://c"⟩
    let seven : Toml.Item := .scalar (.integer 7) ⟨11, 12⟩
    let denied (environmentUrl? argumentUrl? : Option String) : SettingsSources :=
      ⟨none, "/", fun _ => .sealed ⟨13, "Permission denied"⟩, environmentUrl?, argumentUrl?⟩
    (∃ fault, loadEnd (.error fault) = .unparsed "/a" ∧ sources.load = .error fault ∧
      { sources with environmentUrl? := none, argumentUrl? := none }.load = .error fault ∧
      { sources with files := files (.content []) }.load = .error fault) ∧
    Settings.SectionGives "display" (.list [seven, .list [] ⟨14, 16⟩] ⟨10, 17⟩)
      [.rowLimit 7] ∧
    ∀ environmentUrl? argumentUrl?,
      loadEnd (denied environmentUrl? argumentUrl?).load = .unread "/predictor.toml" := by
  intro text files sources seven denied
  have hPath : ReadsFile sources "/a" := .explicit rfl
  have hText : (sources.files "/a").HasText text := .content text
  obtain ⟨document, hDocument, hStray⟩ :
      ∃ document, Toml.read text.toList = .ok document ∧ Settings.Stray document := by
    refine ⟨⟨.header, none, [(⟨"service", ⟨1, 8⟩⟩, .table ⟨.header, some ⟨0, 18⟩,
      [(⟨"base", ⟨10, 14⟩⟩, .scalar (.integer 1) ⟨17, 18⟩)]⟩)]⟩, by cbv, ?_⟩
    exact .key List.mem_cons_self rfl rfl List.mem_cons_self (by decide)
  obtain ⟨-, hOverrides, hFiles, hKeys, hSurplus⟩ := settings_by_precedence sources
  have hSeven : Settings.SectionGives "display" (.list [seven] ⟨10, 17⟩) [.rowLimit 7] :=
    .intro rfl rfl (.cons ⟨rfl, _, rfl⟩ .nil)
  have hUsual : pathIn "/" usualFileName = "/predictor.toml" := by decide +kernel
  have hUnread : ∀ environmentUrl? argumentUrl?,
      loadEnd (denied environmentUrl? argumentUrl?).load = .unread "/predictor.toml" := by
    intro environmentUrl? argumentUrl?
    have hDenied : ReadsFile (denied environmentUrl? argumentUrl?) "/predictor.toml" :=
      hUsual ▸ .usual rfl (.sealed _)
    apply ((settings_by_precedence _).1 _).mpr
    refine .unread hDenied fun text hSealed => ?_
    cases hSealed
  refine ⟨?_, (hSurplus "display" ["row_limit"] [seven] _ _ _ rfl (Nat.le_refl 1)).mpr hSeven,
    hUnread⟩
  have hEnd := hKeys "/a" text _ hPath hText hDocument hStray
  cases hLoad : sources.load with
  | ok settings =>
    rw [hLoad] at hEnd
    cases hEnd
  | error fault =>
    rw [hLoad] at hEnd
    have hFault : ∀ problem, fault ≠ .invalid problem := by
      rintro problem rfl
      cases hEnd
    refine ⟨fault, hEnd, rfl, (hOverrides fault hFault none none).mpr hLoad, ?_⟩
    have hSame : { sources with files := files (.content []) }.load = sources.load := by
      apply hFiles
      · intro path hOther
        obtain rfl := hOther.unique hPath
        rfl
      · intro hNone
        cases hNone
    rw [hSame, hLoad]

/-- A value behind the last field of a section that is written as a list, with a key of its own. -/
theorem surplus_item_loaded :
    let text := "display = [7, \x7bx = 1\x7d]\n"
    let sources : SettingsSources :=
      ⟨none, "/", fun _ => .content (Text.encode text), none, none⟩
    ∃ document, ReadsFile sources "/predictor.toml" ∧
      (sources.files "/predictor.toml").HasText text ∧ Toml.read text.toList = .ok document ∧
      Toml.Mentions "x" (.table document) ∧
      (∀ keys, ("x", keys) ∉ Settings.settingKeys) ∧
      (∀ p ∈ Settings.settingKeys, "x" ∉ p.2) ∧
      sources.load = .ok { standard with rowLimit := 7 } := by
  intro text sources
  have hDocument : Toml.read text.toList = .ok ⟨.header, none, [(⟨"display", ⟨0, 7⟩⟩,
      .list [.scalar (.integer 7) ⟨11, 12⟩, .table ⟨.braces, some ⟨14, 21⟩,
        [(⟨"x", ⟨15, 16⟩⟩, .scalar (.integer 1) ⟨19, 20⟩)]⟩] ⟨10, 22⟩)]⟩ := by
    cbv
  have hUsual : sources.usualPath = "/predictor.toml" := by decide +kernel
  refine ⟨_, hUsual ▸ .usual rfl (.content _), .content text, hDocument, ?_, ?_, by decide,
    by decide +kernel⟩
  · apply Toml.Mentions.entry List.mem_cons_self
    apply Toml.Mentions.item (List.mem_cons_of_mem _ List.mem_cons_self)
    exact .key List.mem_cons_self rfl
  · simp [Settings.settingKeys]

end PredictionJobs