import LicenseHeader.Failure

/-!
# Journals

A journal is a computation that may fail and that notes on its way what it does.  The notes of a
failed computation are kept.
-/

namespace LicenseHeader

/-- What is worth telling a user who asks for details. -/
inductive Note where
  | explicitConfig (path : Path)
  | environmentConfig (path : Path)
  | missingEnvironmentConfig (path : Path)
  | localConfig (path : Path)
  | noConfig
  | loadingConfig (path : Path)
  | loadedConfig (includes excludes styles : Nat)
  | foundResource (name : Text) (path : Path)
  | bundledResource (name : Text)
  | loadedStyles (count : Nat) (location : Text)
  | headerSource (location : Text)
  | repository (path : Path)
  | collectedHistory (files commits : Nat)
  deriving DecidableEq, Repr

/-- The name of the variable that gives the path of a configuration. -/
def configVariable : Text := "HEADMARK_CONFIG".toList

def Note.message : Note → Text
  | explicitConfig path => "Using explicit config path: ".toList ++ path.text
  | environmentConfig path =>
    "Using config from ".toList ++ configVariable ++ ": ".toList ++ path.text
  | missingEnvironmentConfig path => configVariable ++ " path does not exist: ".toList ++ path.text
  | localConfig path => "Using config: ".toList ++ path.text
  | noConfig => "No config file found".toList
  | loadingConfig path => "Loading config from: ".toList ++ path.text
  | loadedConfig includes excludes styles =>
    "Loaded config with ".toList ++ Text.ofNat includes ++ " includes, ".toList
      ++ Text.ofNat excludes ++ " excludes and ".toList ++ Text.ofNat styles
      ++ " mapped styles".toList
  | foundResource name path => "Found resource ".toList ++ name ++ " at ".toList ++ path.text
  | bundledResource name => "Using bundled resource ".toList ++ name
  | loadedStyles count location =>
    "Loaded ".toList ++ Text.ofNat count ++ " header styles from ".toList ++ location
  | headerSource location => "Using header from ".toList ++ location
  | repository path => "Using git repository at ".toList ++ path.text
  | collectedHistory files commits =>
    "Collected git history of ".toList ++ Text.ofNat files ++ " files from ".toList
      ++ Text.ofNat commits ++ " commits".toList

/-- A computation with notes that may fail. -/
abbrev Journal := ExceptT Failure (StateM (List Note))

namespace Journal

def note (n : Note) : Journal Unit := modify (· ++ [n])

def ofExcept {α : Type} : Except Failure α → Journal α
  | .ok a => pure a
  | .error f => throw f

/-- The result of reading a configuration. -/
def ofConfig {α : Type} : Except ConfigError α → Journal α
  | .ok a => pure a
  | .error e => throw { cause := .config e }

/-- A computation that is part of something else. -/
def during {α : Type} (context : Text) (j : Journal α) : Journal α :=
  tryCatch j fun f => throw (f.during context)

def results {α : Type} (j : Journal α) : Except Failure α × List Note := j.run.run []

end Journal

end LicenseHeader
