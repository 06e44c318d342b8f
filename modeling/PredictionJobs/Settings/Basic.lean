import PredictionJobs.Service.Answer
import PredictionJobs.Text.Blank
import PredictionJobs.Toml.Record

/-! # Settings

Where the service is, how long to wait for it, and how many rows to show. A document holds them in
two sections; what it leaves out keeps its default.
-/

namespace PredictionJobs

structure Settings where
  serviceUrl : String
  /-- How many seconds a request may take; as long as it takes if there is none. -/
  timeoutSeconds? : Option Nat
  rowLimit : Nat
  deriving DecidableEq, Repr

namespace Settings

open Toml (RecordField Item Misfit)

def standard : Settings := ⟨"http://127.0.0.1:5000", none, Service.defaultRowLimit⟩

/-! ### Reading a document -/

def serviceFields : List (RecordField Settings) := [
  ⟨"base_url", fun item settings => do
    return { settings with serviceUrl := ← Toml.readText item }⟩,
  ⟨"timeout_secs", fun item settings => do
    return { settings with timeoutSeconds? := some (← Toml.readNatural "u64" item) }⟩]

def displayFields : List (RecordField Settings) := [
  ⟨"row_limit", fun item settings => do
    return { settings with rowLimit := ← Toml.readNatural "usize" item }⟩]

def sections : List (RecordField Settings) := [
  ⟨"service", Toml.readRecord "struct ServiceSettings" serviceFields⟩,
  ⟨"display", Toml.readRecord "struct DisplaySettings" displayFields⟩]

def ofDocument (document : Toml.Table) : Except Misfit Settings :=
  Toml.readEntries sections standard document

/-! ### Validity -/

inductive Problem where
  | urlScheme (url : String)
  | zeroTimeout
  deriving DecidableEq, Repr

def Problem.message : Problem → String
  | .urlScheme url => s!"service.base_url must be an http(s) URL, got '{url}'"
  | .zeroTimeout => "service.timeout_secs must be positive"

/-- Whether a text starts like an address of the web, blanks before it aside. -/
def hasWebScheme (url : String) : Bool :=
  let cs := Text.trimChars url.toList
  "http://".toList.isPrefixOf cs || "https://".toList.isPrefixOf cs

/-- What is wrong with settings; an unusable address counts first. -/
def problem? (settings : Settings) : Option Problem :=
  if !hasWebScheme settings.serviceUrl then some (.urlScheme settings.serviceUrl)
  else if settings.timeoutSeconds? = some 0 then some .zeroTimeout
  else none

end Settings

end PredictionJobs
