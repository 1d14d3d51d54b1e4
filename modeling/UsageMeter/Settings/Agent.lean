import UsageMeter.Settings.Conversion
import UsageMeter.Settings.Document
import UsageMeter.Source.Chain
import UsageMeter.Text.Blank
import UsageMeter.Time.Span

/-!
The settings of the agent, which publishes usage as a service. They come from a
file and from the environment, which counts more; what neither gives has a
default. Settings are refused if the file cannot be read, if a value does not
convert, and if they make no sense.
-/
namespace UsageMeter
open UsageMeter.Settings UsageMeter.Source UsageMeter.Time

/-- The settings of the agent. -/
structure AgentSettings where
  /-- The name that exported gauges are labelled with. -/
  serviceName : String
  /-- The port that probes are answered on. -/
  port : UInt16
  /-- Seconds between refreshes. -/
  refreshSeconds : UInt64
  /-- Whether the host's counters may stand in for the container's. -/
  fallback : Bool
  cgroupRoot : String
  procRoot : String
  /-- The process to report on, where it is not the agent itself. -/
  pid : Option UInt32
deriving DecidableEq, Repr

/-- Why settings are refused. -/
inductive SettingsError where
  /-- The file cannot be read as a table. -/
  | unreadable
  /-- A value does not convert. -/
  | unconvertible
  /-- The time between refreshes is too short. -/
  | shortInterval (seconds : UInt64)
  /-- The name of the service is blank. -/
  | blankName
deriving DecidableEq, Repr

/-- The wording of a settings error. -/
def SettingsError.message : SettingsError → String
  | .unreadable => "Failed to read agent configuration"
  | .unconvertible => "Invalid agent configuration"
  | .shortInterval seconds =>
    "refresh_interval_secs must be at least 1, got " ++ toString seconds.toNat
  | .blankName => "service_name must not be empty"

namespace AgentSettings

/-- The settings where nothing is given. -/
def default : AgentSettings :=
  { serviceName := "usage-agent"
    port := 8080
    refreshSeconds := 5
    fallback := true
    cgroupRoot := "/sys/fs/cgroup"
    procRoot := "/proc"
    pid := none }

/-- The setting of a name, converted; the default where it is not given. -/
def setting {α : Type} (layer : Layer) (name : String) (default : α)
    (convert : Json.Value → Option α) : Option α :=
  match lookup layer name with
  | none => some default
  | some v => convert v

/-- A process by its number, or none. -/
def pid? (v : Json.Value) : Option (Option UInt32) :=
  match v with
  | .null => some none
  | v => (natural? maxWord32 v).map fun n => some (UInt32.ofNat n)

/-- The settings of a layer, if all of them convert. -/
def ofLayer? (layer : Layer) : Option AgentSettings := do
  let serviceName ← setting layer "service_name" default.serviceName text?
  let port ← setting layer "api_port" default.port fun v =>
    (natural? maxWord16 v).map UInt16.ofNat
  let refreshSeconds ← setting layer "refresh_interval_secs" default.refreshSeconds fun v =>
    (natural? maxWord64 v).map UInt64.ofNat
  let fallback ← setting layer "proc_stat_fallback" default.fallback bool?
  let cgroupRoot ← setting layer "cgroup_root" default.cgroupRoot text?
  let procRoot ← setting layer "proc_root" default.procRoot text?
  let pid ← setting layer "pid" default.pid pid?
  some { serviceName, port, refreshSeconds, fallback, cgroupRoot, procRoot, pid }

/-- Refuses settings that make no sense. -/
def validate (s : AgentSettings) : Except SettingsError Unit :=
  if s.refreshSeconds = 0 then .error (.shortInterval s.refreshSeconds)
  else if (Text.trim s.serviceName.toList).isEmpty then .error .blankName
  else .ok ()

/-- The layer of a file, if there is one. -/
def fileLayer (file : Option File) : Except SettingsError Layer :=
  match file with
  | none => .ok []
  | some f =>
    match Layer.ofFile? f with
    | some layer => .ok layer
    | none => .error .unreadable

/-- The settings of a file and an environment. -/
def load (file : Option File) (environment : List (String × String)) :
    Except SettingsError AgentSettings := do
  let layer ← fileLayer file
  match ofLayer? (layer ++ Layer.ofEnvironment environment) with
  | none => .error .unconvertible
  | some s => do
    s.validate
    .ok s

/-- The variable that names the file of settings. -/
def fileVariable : String := "USAGE_AGENT_CONFIG"

/-- The time between refreshes. -/
def interval (s : AgentSettings) : Span := Span.ofSeconds s.refreshSeconds

/-- The process to report on, of an agent that runs as the process `own`. -/
def target (s : AgentSettings) (own : UInt32) : UInt32 := s.pid.getD own

/-- Where the tiers are read from. -/
def roots (s : AgentSettings) (hostCpus : UInt32) : Roots :=
  ⟨s.cgroupRoot, s.procRoot, s.fallback, hostCpus⟩

end AgentSettings
end UsageMeter
