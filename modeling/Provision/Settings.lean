import Provision.Deployment.Engine
import Provision.Files.File
import Provision.Repository.Provider
import Provision.Toml.Decode
import Provision.Toml.Reader
import Provision.Utility.Provider

/-!
# Settings

Which providers a deployment may use, how they reach the shell and the service that they need, and
how long a deployment may take. Settings are read from Toml; without a file all have their defaults.
-/

namespace Provision

/-- Settings of the utility provider. -/
structure UtilitySettings where
  enabled : Bool
  /-- The shell that runs scripts. -/
  shell : String
  deriving DecidableEq, Repr

/-- The shell that runs scripts unless another is named. -/
def defaultShell : String := "bash"

namespace UtilitySettings

/-- The settings when none are given. -/
def standard : UtilitySettings := ⟨true, defaultShell⟩

/-- The settings by name. -/
def settings : List (Toml.Setting UtilitySettings) :=
  [⟨"enabled", fun s v => v.bool.map fun b => { s with enabled := b }, true⟩,
    ⟨"shell", fun s v => v.text.map fun t => { s with shell := t }, true⟩]

end UtilitySettings

/-- Settings of the repository provider. -/
structure RepositorySettings where
  enabled : Bool
  baseUrl : String
  userAgent : String
  timeoutSeconds : UInt64
  deriving DecidableEq, Repr

namespace RepositorySettings

/-- The settings when none are given. -/
def standard : RepositorySettings :=
  ⟨true, Repository.defaultBaseUrl, Repository.defaultUserAgent, Repository.defaultTimeoutSeconds⟩

/-- The settings by name. -/
def settings : List (Toml.Setting RepositorySettings) :=
  [⟨"enabled", fun s v => v.bool.map fun b => { s with enabled := b }, true⟩,
    ⟨"api_base_url", fun s v => v.text.map fun t => { s with baseUrl := t }, true⟩,
    ⟨"user_agent", fun s v => v.text.map fun t => { s with userAgent := t }, true⟩,
    ⟨"timeout_seconds", fun s v => v.natural.map fun n => { s with timeoutSeconds := n }, true⟩]

/-- The service as set. -/
def service (s : RepositorySettings) : Repository.Service :=
  { Repository.Service.standard.withBaseUrl s.baseUrl with
    userAgent := s.userAgent
    timeout := s.timeoutSeconds.toNat * 1000 }

end RepositorySettings

/-- Settings of deployments. -/
structure DeploymentSettings where
  /-- How many seconds a deployment may take, if there is a limit. -/
  timeoutSeconds : Option UInt64
  deriving DecidableEq, Repr

namespace DeploymentSettings

/-- The settings when none are given. -/
def standard : DeploymentSettings := ⟨none⟩

/-- The settings by name. -/
def settings : List (Toml.Setting DeploymentSettings) :=
  [⟨"timeout_seconds", fun s v => v.natural.map fun n => { s with timeoutSeconds := some n },
    false⟩]

/-- How many milliseconds a deployment may take. -/
def timeout (s : DeploymentSettings) : Option Nat := s.timeoutSeconds.map (·.toNat * 1000)

end DeploymentSettings

/-- All settings. -/
structure Settings where
  utility : UtilitySettings
  repository : RepositorySettings
  deployment : DeploymentSettings
  deriving DecidableEq, Repr

/-- Why a text holds no settings. -/
inductive SettingsFault where
  /-- It is no Toml. -/
  | notToml
  /-- A value is not what is expected. -/
  | refused (why : String)
  deriving DecidableEq, Repr

/-- What is said of a text that is no Toml. -/
def notTomlText : String := "TOML parse error\n"

/-- A text without settings as a fault of the configuration. -/
def SettingsFault.toConfigFault : SettingsFault → ConfigFault
  | .notToml => .parse notTomlText
  | .refused why => .parse why

namespace Settings

/-- The settings when none are given. -/
def standard : Settings := ⟨.standard, .standard, .standard⟩

/-- The groups of settings by name. -/
def groups : List (Toml.Setting Settings) :=
  [⟨"utils", fun s v =>
      (v.group "UtilsSection" UtilitySettings.settings .standard).map fun g =>
        { s with utility := g }, true⟩,
    ⟨"github", fun s v =>
      (v.group "GithubSection" RepositorySettings.settings .standard).map fun g =>
        { s with repository := g }, true⟩,
    ⟨"deployment", fun s v =>
      (v.group "DeploymentSection" DeploymentSettings.settings .standard).map fun g =>
        { s with deployment := g }, true⟩]

/-- The settings of a text. -/
def ofText (text : String) : Except SettingsFault Settings :=
  match Toml.parse text with
  | none => .error .notToml
  | some document =>
    (document.group "DeployConfig" groups standard).mapError fun r => .refused (r.message text)

/-- The settings of a file; without one all have their defaults. -/
def load (path : String) (file : File) : Except ConfigFault Settings :=
  if file.isPresent then
    match file.text with
    | .error why => .error (.read path why)
    | .ok text => (ofText text).mapError SettingsFault.toConfigFault
  else .ok standard

/-- The providers that a deployment may use, when scripts are run by `runner` for a shell and
messages are carried by `carry`. -/
def registry (s : Settings) (runner : String → Utility.Runner) (carry : Carrier σ) :
    Registry (Provider σ) :=
  let g : Registry (Provider σ) := ∅
  let g :=
    if s.utility.enabled then
      g.register Utility.key fun _ => Utility.provider (runner s.utility.shell)
    else g
  if s.repository.enabled then
    g.register Repository.key fun _ => Repository.provider s.repository.service carry
  else g

end Settings

end Provision
