import PredictionJobs.Proofs.Text.Blank
import PredictionJobs.Service.Request
import PredictionJobs.Settings.Loading

/-! # The address of loaded settings

Settings are loaded only if the address of the service, trimmed, starts like an address of the web.
Requests are made to the address as it is, without the slashes at its end. The two agree unless
blank characters are left around the address, or nothing but slashes follows its scheme.
-/

namespace PredictionJobs

open Service

/-- The starts of an address of the web. -/
def webSchemes : List String := ["http://", "https://"]

/-- An address that the path of a request can be put behind. -/
structure UsableBase (base : String) : Prop where
  scheme : ∃ scheme ∈ webSchemes, scheme.toList <+: base.toList
  trimmed : Text.trim base = base
  slashless : base.toList.getLast? ≠ some '/'

theorem Settings.hasWebScheme_iff {url : String} : hasWebScheme url = true ↔
    ∃ scheme ∈ webSchemes, scheme.toList <+: Text.trimChars url.toList := by
  simp [hasWebScheme, webSchemes]

theorem SettingsSources.hasWebScheme_of_load {sources : SettingsSources} {settings : Settings}
    (h : sources.load = .ok settings) : Settings.hasWebScheme settings.serviceUrl = true := by
  rw [load] at h
  split at h
  · cases h
  · dsimp only at h
    split at h
    · cases h
    · rename_i hValid
      cases h
      rw [Settings.problem?] at hValid
      split at hValid
      · cases hValid
      · rename_i hScheme
        simpa using hScheme

/-! ### Bases of addresses -/

theorem toList_baseUrl (url : String) :
    (baseUrl url).toList = Text.dropTrailing (· == '/') url.toList := Text.toList_trimEnd '/' url

theorem getLast?_baseUrl (url : String) : (baseUrl url).toList.getLast? ≠ some '/' :=
  Text.getLast?_trimEnd '/' url

theorem exists_slashes (url : String) :
    ∃ slashes : List Char, (∀ c ∈ slashes, c = '/') ∧
      url.toList = (baseUrl url).toList ++ slashes := Text.exists_trimEnd_append '/' url

theorem solid_start_of_trimmed {url : String} (hTrimmed : Text.trim (baseUrl url) = baseUrl url)
    {c : Char} (hFirst : url.toList.head? = some c) : Text.isBlank c = false := by
  obtain ⟨slashes, hSlashes, hCut⟩ := exists_slashes url
  rw [hCut] at hFirst
  cases hBase : (baseUrl url).toList with
  | nil =>
    rw [hBase] at hFirst
    rw [hSlashes c (List.mem_of_head? hFirst)]
    decide
  | cons d rest =>
    have hHead : (Text.trimChars (baseUrl url).toList).head? = some c := by
      rw [← Text.toList_trim, hTrimmed, hBase]
      rwa [hBase] at hFirst
    exact Text.of_head?_trimChars hHead

theorem prefix_of_trimmed {url scheme : String} (hTrimmed : Text.trim (baseUrl url) = baseUrl url)
    (hPrefix : scheme.toList <+: Text.trimChars url.toList) : scheme.toList <+: url.toList := by
  obtain ⟨before, after, hBefore, _, hSplit⟩ := Text.exists_surrounded url.toList
  have hNone : before = [] := by
    cases before with
    | nil => rfl
    | cons c before =>
      have hSolid : Text.isBlank c = false := by
        apply solid_start_of_trimmed hTrimmed
        rw [hSplit]
        rfl
      exact absurd (hBefore c List.mem_cons_self) (Bool.eq_false_iff.mp hSolid)
  rw [hSplit, hNone, List.nil_append]
  exact hPrefix.trans (List.prefix_append _ after)

/-- What is left of a scheme without its slashes. -/
def bareSchemes : List String := ["http:", "https:"]

theorem baseUrl_mem_bareSchemes {scheme : String} (h : scheme ∈ webSchemes) :
    baseUrl scheme ∈ bareSchemes := by
  have hAll : ∀ scheme ∈ webSchemes, baseUrl scheme ∈ bareSchemes := by decide
  exact hAll scheme h

theorem not_prefix_of_mem_bareSchemes {scheme base : String} (hScheme : scheme ∈ webSchemes)
    (hBase : base ∈ bareSchemes) : ¬scheme.toList <+: base.toList := by
  have hAll : ∀ scheme ∈ webSchemes, ∀ base ∈ bareSchemes, ¬scheme.toList <+: base.toList := by
    decide
  exact hAll scheme hScheme base hBase

/-- A scheme is only lost where nothing but slashes follows it. -/
theorem prefix_baseUrl {url scheme : String} (hScheme : scheme ∈ webSchemes)
    (hPrefix : scheme.toList <+: url.toList) (hBare : baseUrl url ∉ bareSchemes) :
    scheme.toList <+: (baseUrl url).toList := by
  obtain ⟨slashes, hSlashes, hCut⟩ := exists_slashes url
  have hBase : (baseUrl url).toList <+: url.toList := hCut ▸ List.prefix_append _ slashes
  rcases List.prefix_or_prefix_of_prefix hPrefix hBase with hKept | ⟨lost, hLost⟩
  · exact hKept
  · rw [← hLost, hCut, List.prefix_append_right_inj] at hPrefix
    have hAll : ∀ c ∈ lost, (c == '/') = true := by
      intro c hc
      exact beq_iff_eq.mpr (hSlashes c (hPrefix.subset hc))
    have hSame : baseUrl scheme = baseUrl url := by
      apply String.toList_inj.mp
      rw [toList_baseUrl, ← hLost, Text.dropTrailing_append _ hAll]
      apply Text.dropTrailing_eq_self
      intro c hc
      exact beq_eq_false_iff_ne.mpr fun heq => getLast?_baseUrl url (heq ▸ hc)
    exact absurd (hSame ▸ baseUrl_mem_bareSchemes hScheme) hBare

theorem usableBase_iff {url : String} (h : Settings.hasWebScheme url = true) :
    UsableBase (baseUrl url) ↔
      Text.trim (baseUrl url) = baseUrl url ∧ baseUrl url ∉ bareSchemes := by
  obtain ⟨scheme, hScheme, hPrefix⟩ := Settings.hasWebScheme_iff.mp h
  constructor
  · rintro ⟨⟨found, hFound, hBegins⟩, hTrimmed, _⟩
    exact ⟨hTrimmed, fun hBare => not_prefix_of_mem_bareSchemes hFound hBare hBegins⟩
  · rintro ⟨hTrimmed, hBare⟩
    have hUrl : scheme.toList <+: url.toList := prefix_of_trimmed hTrimmed hPrefix
    exact ⟨⟨scheme, hScheme, prefix_baseUrl hScheme hUrl hBare⟩, hTrimmed, getLast?_baseUrl url⟩

/-! ### Requests -/

theorem Service.Route.exists_path (route : Route) :
    ∃ name : String, name ≠ "" ∧ '/' ∉ name.toList ∧ route.path = "/" ++ name := by
  cases route with
  | job => exact ⟨"process", by decide, by decide, rfl⟩
  | forecast => exact ⟨"predict", by decide, by decide, rfl⟩
  | simpleRegression => exact ⟨"predictSimpleRegresiion", by decide, by decide, rfl⟩

theorem url_request_on (address : String) (route : Route) (body : Json.Value) :
    ∃ name : String, name ≠ "" ∧ '/' ∉ name.toList ∧
      (Request.on address route body).url = baseUrl address ++ "/" ++ name := by
  obtain ⟨name, hNonempty, hSlash, hPath⟩ := route.exists_path
  refine ⟨name, hNonempty, hSlash, ?_⟩
  rw [String.append_assoc, ← hPath]
  rfl

/-- Loaded settings have an address that starts, once trimmed, like one of the web. The base of
requests is that address without its slashes, and is put before one slash and a name; but only where
no blank is left around it, and more than a scheme is left, is it an address of the web itself. -/
theorem usable_address_iff (sources : SettingsSources) (settings : Settings)
    (h : sources.load = .ok settings) :
    let base := baseUrl settings.serviceUrl
    (∃ scheme ∈ webSchemes, scheme.toList <+: (Text.trim settings.serviceUrl).toList) ∧
    (UsableBase base ↔ Text.trim base = base ∧ base ≠ "http:" ∧ base ≠ "https:") ∧
    base.toList.getLast? ≠ some '/' ∧
    ∀ route body, ∃ name : String, name ≠ "" ∧ '/' ∉ name.toList ∧
      (Request.on settings.serviceUrl route body).url = base ++ "/" ++ name := by
  intro base
  have hScheme := SettingsSources.hasWebScheme_of_load h
  refine ⟨?_, ?_, getLast?_baseUrl _, url_request_on _⟩
  · rw [Text.toList_trim]
    exact Settings.hasWebScheme_iff.mp hScheme
  · rw [usableBase_iff hScheme]
    simp [base, bareSchemes]

/-- The address of an environment variable, with two slashes at its end, makes a usable base. -/
theorem usable_address_iff_slashes :
    let sources : SettingsSources :=
      ⟨none, "/", fun _ => .missing, some "https://service.example/api//", none⟩
    ∃ settings, sources.load = .ok settings ∧
      baseUrl settings.serviceUrl = "https://service.example/api" ∧
      UsableBase (baseUrl settings.serviceUrl) := by
  intro sources
  let settings : Settings := { Settings.standard with serviceUrl := "https://service.example/api//" }
  have hLoad : sources.load = .ok settings := by decide +kernel
  have hUsable := (usable_address_iff sources settings hLoad).2.1
  exact ⟨settings, hLoad, by decide +kernel, hUsable.mpr (by decide +kernel)⟩

/-- Settings are loaded though a blank stands before the address, and though nothing stands behind
its scheme; neither base is usable. -/
theorem unusable_addresses :
    let loads (url : String) : Prop :=
      (⟨none, "/", fun _ => .missing, none, some url⟩ : SettingsSources).load =
        .ok { Settings.standard with serviceUrl := url }
    (loads " http://127.0.0.1:5000" ∧
      baseUrl " http://127.0.0.1:5000" = " http://127.0.0.1:5000" ∧
      ¬UsableBase (baseUrl " http://127.0.0.1:5000")) ∧
    loads "http://" ∧ baseUrl "http://" = "http:" ∧ ¬UsableBase (baseUrl "http://") := by
  intro loads
  refine ⟨⟨?_, ?_, ?_⟩, ?_, ?_, ?_⟩
  · decide +kernel
  · decide +kernel
  · rintro ⟨_, hTrimmed, _⟩
    revert hTrimmed
    decide +kernel
  · decide +kernel
  · decide +kernel
  · rintro ⟨⟨scheme, hScheme, hPrefix⟩, _, _⟩
    exact not_prefix_of_mem_bareSchemes hScheme (by decide) hPrefix

end PredictionJobs
