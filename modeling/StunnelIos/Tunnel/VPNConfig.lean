import StunnelIos.Library.Json
import StunnelIos.Core.Config
import StunnelIos.Tunnel.Coordinator

/-! The configuration in the app group: saved by the app, loaded by the extension, and written
down for the core with its credentials in files. -/
namespace StunnelIos

structure Foundation where
  Data : Type
  /-- `JSONEncoder().encode` -/
  encode : VPNConfig → Except String Data
  /-- `JSONDecoder().decode` -/
  decode : Data → Except String VPNConfig
  /-- `try? JSONSerialization.data(withJSONObject:)` of a dictionary of strings -/
  serialize : Json.Members → Option Data
  /-- `String(data:encoding: .utf8)` -/
  utf8 : Data → Option String

/-- The members of the coded form, by the names of the properties. -/
def VPNConfig.members (config : VPNConfig) : Json.Members :=
  [⟨"mode", config.mode⟩, ⟨"serverAddr", config.serverAddr⟩, ⟨"serverName", config.serverName⟩,
    ⟨"cert", config.cert⟩, ⟨"privKey", config.privKey⟩]

def AppConfig.members (config : AppConfig) : Json.Members :=
  [⟨"mode", config.mode⟩, ⟨"server_addr", config.serverAddr⟩, ⟨"server_name", config.serverName⟩,
    ⟨"cert", config.cert⟩, ⟨"priv_key", config.privKey⟩]

/-- What is relied on of the coders: they write JSON, with the members in any order, and
read it. -/
structure Foundation.Laws (F : Foundation) : Prop where
  encode : ∀ config data, F.encode config = .ok data → ∃ text members, F.utf8 data = some text ∧
    Json.Denotes text.toList members ∧ members.Perm config.members
  decode : ∀ config data text members, F.utf8 data = some text →
    Json.Denotes text.toList members → members.Perm config.members → F.decode data = .ok config
  serialize : ∀ dictionary data text, dictionary.NodupKeys → F.serialize dictionary = some data →
    F.utf8 data = some text → ∃ members, Json.Denotes text.toList members ∧ members.Perm dictionary

/-- The same for `serde_json::from_str`. -/
def SerdeLaws (fromStr : String → Except String AppConfig) : Prop :=
  ∀ config text members, Json.Denotes text.toList members → members.Perm config.members →
    fromStr text = .ok config

inductive VPNConfigError where
  | sharedDefaultsUnavailable
  | sharedContainerUnavailable
  | certWriteFailed (error : String)
  | keyWriteFailed (error : String)
  | runtimeJSONEncodingFailed
deriving DecidableEq, Repr

def VPNConfigError.errorDescription : VPNConfigError → String
  | .sharedDefaultsUnavailable => "Shared App Group defaults are unavailable"
  | .sharedContainerUnavailable => "Shared App Group container is unavailable"
  | .certWriteFailed error => "Failed to write client certificate: " ++ error
  | .keyWriteFailed error => "Failed to write client key: " ++ error
  | .runtimeJSONEncodingFailed => "Failed to encode runtime stunnel configuration"

/-- What `save` and `load` throw: an error of theirs, or one of a coder. -/
inductive ConfigError where
  | config (error : VPNConfigError)
  | coder (description : String)
deriving DecidableEq, Repr

def ConfigError.localizedDescription : ConfigError → String
  | .config error => error.errorDescription
  | .coder description => description

/-- The shared defaults, by their keys. -/
abbrev UserDefaults (F : Foundation) := String → Option F.Data

namespace VPNConfig
variable {F : Foundation}

def configKey : String := "vpn_configuration"

/-- The defaults after `save`, if they are there. -/
def save (config : VPNConfig) (defaults : Option (UserDefaults F)) :
    Except ConfigError (UserDefaults F) :=
  match F.encode config with
  | .error description => .error (.coder description)
  | .ok data =>
      match defaults with
      | none => .error (.config .sharedDefaultsUnavailable)
      | some defaults => .ok fun key => if key = configKey then some data else defaults key

def load (defaults : Option (UserDefaults F)) : Except ConfigError (Option VPNConfig) :=
  match defaults with
  | none => .error (.config .sharedDefaultsUnavailable)
  | some defaults =>
      match defaults configKey with
      | none => .ok none
      | some data =>
          match F.decode data with
          | .error description => .error (.coder description)
          | .ok config => .ok (some config)

/-- What has been saved is loaded. -/
theorem load_save (laws : F.Laws) {config : VPNConfig} {defaults : Option (UserDefaults F)}
    {after : UserDefaults F} (saved : config.save defaults = .ok after) :
    load (some after) = .ok (some config) := by
  unfold save at saved
  split at saved
  · cases saved
  · rename_i data encoded
    split at saved
    · cases saved
    · cases saved
      obtain ⟨text, members, utf8, denotes, perm⟩ := laws.encode _ _ encoded
      simp [load, laws.decode _ _ _ _ utf8 denotes perm]

end VPNConfig

abbrev Files := String → Option String

def appendingPathComponent (url name : String) : String :=
  if url.toList.getLast? = some '/' then url ++ name else url ++ "/" ++ name

/-- The container, if there is one, and how the writes of the two files fail, if they do. -/
structure StunnelRuntimeConfigWriter where
  containerURL : Option String
  certFailure : Option String
  keyFailure : Option String
deriving DecidableEq, Repr

namespace StunnelRuntimeConfigWriter

def certFileName : String := "client.crt"
def keyFileName : String := "client.key"

/-- A write is atomic, and leaves the file as it is when it fails. -/
def writeFile (writer : StunnelRuntimeConfigWriter) (name content : String)
    (mapError : String → VPNConfigError) (failure : Option String) (files : Files) :
    Except VPNConfigError String × Files :=
  match writer.containerURL with
  | none => (.error .sharedContainerUnavailable, files)
  | some url =>
      let path := appendingPathComponent url name
      match failure with
      | some error => (.error (mapError error), files)
      | none => (.ok path, fun p => if p = path then some content else files p)

def rustConfig (config : VPNConfig) (certPath keyPath : String) : Json.Members :=
  [⟨"mode", config.mode⟩, ⟨"server_addr", config.serverAddr⟩, ⟨"server_name", config.serverName⟩,
    ⟨"cert", certPath⟩, ⟨"priv_key", keyPath⟩]

def write (F : Foundation) (writer : StunnelRuntimeConfigWriter) (config : VPNConfig)
    (files : Files) : Except VPNConfigError String × Files :=
  match writer.writeFile certFileName config.cert .certWriteFailed writer.certFailure files with
  | (.error error, files) => (.error error, files)
  | (.ok certPath, files) =>
      match writer.writeFile keyFileName config.privKey .keyWriteFailed writer.keyFailure files with
      | (.error error, files) => (.error error, files)
      | (.ok keyPath, files) =>
          match (F.serialize (rustConfig config certPath keyPath)).bind F.utf8 with
          | none => (.error .runtimeJSONEncodingFailed, files)
          | some jsonString => (.ok jsonString, files)

/-- The container, if both files are written. -/
def written (writer : StunnelRuntimeConfigWriter) : Option String :=
  if writer.certFailure = none ∧ writer.keyFailure = none then writer.containerURL else none

end StunnelRuntimeConfigWriter

open StunnelRuntimeConfigWriter

/-- What the core is to run with. -/
def VPNConfig.appConfig (config : VPNConfig) (url : String) : AppConfig where
  mode := config.mode
  serverAddr := config.serverAddr
  serverName := config.serverName
  cert := appendingPathComponent url certFileName
  privKey := appendingPathComponent url keyFileName

/-- The files of a core hold these credentials. -/
def Files.Hold (files : Files) (app : AppConfig) (config : VPNConfig) : Prop :=
  files app.cert = some config.cert ∧ files app.privKey = some config.privKey

theorem paths_differ (url : String) :
    appendingPathComponent url certFileName ≠ appendingPathComponent url keyFileName := by
  have names : certFileName.toList ≠ keyFileName.toList := by decide
  intro same
  apply names
  unfold appendingPathComponent at same
  split at same <;> simpa [← String.toList_inj] using same

section
variable {F : Foundation} {writer : StunnelRuntimeConfigWriter} {config : VPNConfig} {files : Files}
  {url : String}

theorem StunnelRuntimeConfigWriter.write_holds (done : writer.written = some url) :
    (writer.write F config files).2.Hold (config.appConfig url) config := by
  obtain ⟨containerURL, certFailure, keyFailure⟩ := writer
  unfold written at done
  split at done
  · rename_i succeed
    obtain ⟨rfl, rfl⟩ : certFailure = none ∧ keyFailure = none := succeed
    obtain rfl : containerURL = some url := done
    have differ := paths_differ url
    simp only [write, writeFile]
    split <;> simp [Files.Hold, VPNConfig.appConfig, differ]
  · cases done

theorem StunnelRuntimeConfigWriter.write_reads (laws : F.Laws)
    {fromStr : String → Except String AppConfig} (serde : SerdeLaws fromStr) {jsonString : String}
    (returned : (writer.write F config files).1 = .ok jsonString) :
    ∃ url, writer.written = some url ∧ fromStr jsonString = .ok (config.appConfig url) := by
  obtain ⟨containerURL, certFailure, keyFailure⟩ := writer
  cases containerURL with
  | none => simp [write, writeFile] at returned
  | some url =>
      cases certFailure with
      | some error => simp [write, writeFile] at returned
      | none =>
          cases keyFailure with
          | some error => simp [write, writeFile] at returned
          | none =>
              refine ⟨url, by simp [written], ?_⟩
              simp only [write, writeFile] at returned
              split at returned
              · cases returned
              · rename_i text coded
                cases returned
                obtain ⟨data, serialized, utf8⟩ := Option.bind_eq_some_iff.mp coded
                obtain ⟨members, denotes, perm⟩ :=
                  laws.serialize _ _ _ (by simp [rustConfig, List.NodupKeys, List.keys]) serialized utf8
                exact serde (config.appConfig url) _ _ denotes perm

end

/-! Coders that write and read JSON as above. -/
namespace Reference

def decode (members : Json.Members) : Option VPNConfig := do
  return ⟨← members.dlookup "mode", ← members.dlookup "serverAddr", ← members.dlookup "serverName",
    ← members.dlookup "cert", ← members.dlookup "privKey"⟩

def foundation : Foundation where
  Data := List Char
  encode config := .ok (Json.writeObject config.members)
  decode data := ((Json.readObject data).bind decode).elim (.error "The data is not valid.") .ok
  serialize dictionary := some (Json.writeObject dictionary)
  utf8 data := some (String.ofList data)

def readApp (members : Json.Members) : Option AppConfig := do
  return ⟨← members.dlookup "mode", ← members.dlookup "server_addr",
    ← members.dlookup "server_name", ← members.dlookup "cert", ← members.dlookup "priv_key"⟩

def fromStr (text : String) : Except String AppConfig :=
  ((Json.readObject text.toList).bind readApp).elim (.error "invalid configuration") .ok

theorem foundation_laws : foundation.Laws where
  encode := by
    rintro config data ⟨⟩
    exact ⟨_, config.members, rfl, by simpa using Json.writeObject_denotes _, .refl _⟩
  decode := by
    rintro config data text members ⟨⟩ denotes perm
    have distinct : config.members.NodupKeys := by
      simp [VPNConfig.members, List.NodupKeys, List.keys]
    have found : ∀ key, members.dlookup key = config.members.dlookup key := fun key =>
      (List.perm_dlookup key distinct perm.symm).symm
    have read : Json.readObject data = some members :=
      (congrArg _ (String.toList_ofList (l := data)).symm).trans (Json.readObject_complete denotes)
    simp [foundation, read, decode, found, VPNConfig.members]
  serialize := by
    rintro dictionary data text _ ⟨⟩ ⟨⟩
    exact ⟨dictionary, by simpa using Json.writeObject_denotes _, .refl _⟩

theorem serde_laws : SerdeLaws fromStr := by
  intro config text members denotes perm
  have distinct : config.members.NodupKeys := by
    simp [AppConfig.members, List.NodupKeys, List.keys]
  have found : ∀ key, members.dlookup key = config.members.dlookup key := fun key =>
    (List.perm_dlookup key distinct perm.symm).symm
  simp [fromStr, Json.readObject_complete denotes, readApp, found, AppConfig.members]

end Reference

end StunnelIos
