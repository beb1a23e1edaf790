import StunnelIos.Tunnel.SystemRuns
import StunnelIos.Tunnel.VPNConfig

/-! The installation: the app that saves configurations, the app group, and the processes of
the extension, one after another. A tunnel is started with what the app group holds then. -/
namespace StunnelIos

/-- What a call of `startTunnel` meets outside the process. -/
structure StartEnvironment where
  defaults : Bool
  writer : StunnelRuntimeConfigWriter
  created : Bool
  started : Bool

variable {S : Smoltcp} {F : Foundation}

/-- The configuration as `startTunnel` loads and writes it, and the files after that. -/
def StartEnvironment.outcome (environment : StartEnvironment) (defaults : UserDefaults F)
    (files : Files) : RuntimeOutcome × Files :=
  match VPNConfig.load (if environment.defaults then some defaults else none) with
  | .error error => (⟨.error error.localizedDescription, .error "", false, false⟩, files)
  | .ok none => (⟨.ok none, .error "", false, false⟩, files)
  | .ok (some config) =>
      let (configJson, files) := environment.writer.write F config files
      (⟨.ok (some config), configJson.mapError VPNConfigError.errorDescription,
        environment.created, environment.started⟩, files)

structure Installation (S : Smoltcp) (F : Foundation) where
  defaults : UserDefaults F
  files : Files
  process : System S

inductive InstallationEvent where
  /-- `setupAndConnect` saves a configuration, if the shared defaults are available. -/
  | save (config : VPNConfig) (available : Bool)
  /-- The system launches a new process of the extension. -/
  | launch
  | startTunnel (environment : StartEnvironment) (now : Instant)
  /-- Any other step of the process. -/
  | process (event : SystemEvent)

inductive InstallationOutput where
  | saved (result : Except ConfigError Unit)
  | launched
  | process (output : SystemOutput)

def SystemEvent.startsTunnel : SystemEvent → Bool
  | .tunnel (.call (.startTunnel _)) _ => true
  | _ => false

namespace Installation

def new (S : Smoltcp) (F : Foundation) : Installation S F := ⟨fun _ => none, fun _ => none, .new S⟩

def processStep (fromStr : String → Except String AppConfig) (installation : Installation S F)
    (event : SystemEvent) : Except Halt (Installation S F × InstallationOutput) :=
  (System.step fromStr installation.process event).map fun result =>
    ({ installation with process := result.1 }, .process result.2)

/-- A call of `startTunnel` waits for the one before it. -/
def step (fromStr : String → Except String AppConfig) (installation : Installation S F) :
    InstallationEvent → Except Halt (Installation S F × InstallationOutput)
  | .save config available =>
      match config.save (if available then some installation.defaults else none) with
      | .error error => .ok (installation, .saved (.error error))
      | .ok defaults => .ok ({ installation with defaults := defaults }, .saved (.ok ()))
  | .launch => .ok ({ installation with process := .new S }, .launched)
  | .startTunnel environment now =>
      if installation.process.tunnel.control = [] then
        let (outcome, files) := environment.outcome installation.defaults installation.files
        processStep fromStr { installation with files := files }
          (.tunnel (.call (.startTunnel outcome)) now)
      else .error .otherwise
  | .process event =>
      if event.startsTunnel then .error .otherwise else installation.processStep fromStr event

end Installation

abbrev InstallationHistory (S : Smoltcp) (F : Foundation) :=
  Runs.History (Installation S F) InstallationEvent InstallationOutput

/-- A run from the installation on, with any number of launches. -/
def InstallationRun (S : Smoltcp) (F : Foundation) (fromStr : String → Except String AppConfig)
    (history : InstallationHistory S F) (installation : Installation S F) : Prop :=
  Runs.Run (fun s event output t => Installation.step fromStr s event = .ok (t, output)) (.new S F)
    history installation

def lastSaved : InstallationHistory S F → Option VPNConfig
  | [] => none
  | x :: earlier =>
      match x.event, x.output with
      | .save config _, .saved (.ok ()) => some config
      | _, _ => lastSaved earlier

/-- The configuration that a call of `startTunnel` starts with, and the container it writes its
credentials to. -/
def StartEnvironment.startsWith (environment : StartEnvironment) (saved : Option VPNConfig) :
    Option (VPNConfig × String) :=
  if environment.defaults then
    saved.bind fun config => environment.writer.written.map fun url => (config, url)
  else none

/-- The same for the call that has this number in the process. -/
def startedWith (k : StartId) : InstallationHistory S F → Option (VPNConfig × String)
  | [] => none
  | x :: earlier =>
      match x.event with
      | .launch => none
      | .startTunnel environment _ =>
          if x.before.process.tunnel.provider.nextStart = k then
            environment.startsWith (lastSaved earlier)
          else startedWith k earlier
      | _ => startedWith k earlier

def processHistory : InstallationHistory S F → SystemHistory S
  | [] => []
  | x :: earlier =>
      match x.event, x.output with
      | .launch, _ => []
      | .startTunnel environment now, .process output =>
          ⟨x.before.process, .tunnel (.call (.startTunnel
            (environment.outcome x.before.defaults x.before.files).1)) now, output,
            x.after.process⟩ :: processHistory earlier
      | .process event, .process output =>
          ⟨x.before.process, event, output, x.after.process⟩ :: processHistory earlier
      | _, _ => processHistory earlier

section
variable {fromStr : String → Except String AppConfig} {history : InstallationHistory S F}
  {installation after : Installation S F} {event : InstallationEvent} {output : InstallationOutput}

inductive InstallationMove (fromStr : String → Except String AppConfig)
    (installation : Installation S F) :
    InstallationEvent → InstallationOutput → Installation S F → Prop where
  | refused {config available error} : InstallationMove fromStr installation
      (.save config available) (.saved (.error error)) installation
  | saved {config available defaults} :
      VPNConfig.save config (if available then some installation.defaults else none) = .ok defaults →
      InstallationMove fromStr installation (.save config available) (.saved (.ok ()))
        { installation with defaults := defaults }
  | launched : InstallationMove fromStr installation .launch .launched
      { installation with process := .new S }
  | started {environment now process output} : installation.process.tunnel.control = [] →
      System.step fromStr installation.process (.tunnel (.call (.startTunnel
        (environment.outcome installation.defaults installation.files).1)) now) =
          .ok (process, output) →
      InstallationMove fromStr installation (.startTunnel environment now) (.process output)
        { installation with
          files := (environment.outcome installation.defaults installation.files).2
          process := process }
  | process {event process output} : event.startsTunnel = false →
      System.step fromStr installation.process event = .ok (process, output) →
      InstallationMove fromStr installation (.process event) (.process output)
        { installation with process := process }

theorem Installation.step_move
    (stepped : Installation.step fromStr installation event = .ok (after, output)) :
    InstallationMove fromStr installation event output after := by
  have processed : ∀ {installation : Installation S F} {event},
      installation.processStep fromStr event = .ok (after, output) → ∃ process said,
        System.step fromStr installation.process event = .ok (process, said) ∧
        after = { installation with process := process } ∧ output = .process said := by
    intro installation event stepped
    unfold processStep at stepped
    cases moved : System.step fromStr installation.process event with
    | error => simp [moved, Except.map] at stepped
    | ok result =>
        simp only [moved, Except.map, Except.ok.injEq, Prod.mk.injEq] at stepped
        obtain ⟨rfl, rfl⟩ := stepped
        exact ⟨_, _, rfl, rfl, rfl⟩
  cases event with
  | save config available =>
      simp only [step] at stepped
      split at stepped
      · cases stepped
        exact .refused
      · cases stepped
        exact .saved ‹_›
  | launch =>
      cases stepped
      exact .launched
  | startTunnel environment now =>
      simp only [step] at stepped
      split at stepped
      · obtain ⟨_, _, moved, rfl, rfl⟩ := processed stepped
        exact .started ‹_› moved
      · cases stepped
  | process event =>
      simp only [step] at stepped
      split at stepped
      · cases stepped
      · obtain ⟨_, _, moved, rfl, rfl⟩ := processed stepped
        exact .process (Bool.eq_false_iff.mpr ‹_›) moved

/-- The process has made a run of its own since its launch. -/
theorem InstallationRun.systemRun (run : InstallationRun S F fromStr history installation) :
    SystemRun S fromStr (processHistory history) installation.process := by
  refine Runs.Run.history_invariant (P := fun history (installation : Installation S F) =>
    SystemRun S fromStr (processHistory history) installation.process) run .nil ?_
  intro history installation event output after _ earlier stepped
  cases Installation.step_move stepped with
  | refused | saved => exact earlier
  | launched => exact .nil
  | started _ moved => exact earlier.next moved
  | process _ moved => exact earlier.next moved

end

end StunnelIos
