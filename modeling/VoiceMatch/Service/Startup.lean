import VoiceMatch.Service.CommandLine
import VoiceMatch.Service.Server
import VoiceMatch.Service.SettingsFormat

/-! Starting the service: from arguments and files to settings that hold, and to a server. -/

namespace VoiceMatch

/-- The settings of a file, or the defaults if no file is named. -/
def ServiceSettings.load (file : Option (String × Except FileError Bytes)) :
    Except SettingsError ServiceSettings :=
  match file with
  | none => .ok {}
  | some (path, .error e) => .error (.read path e.message)
  | some (path, .ok bytes) =>
    match ServiceSettings.ofYaml? bytes with
    | some settings => .ok settings
    | none => .error (.parse path)

/-- What the start needs to know of the machine. -/
structure Machine where
  environment : Environment
  fileAt : String → Except FileError Bytes
  /-- What stands at the place of a directory. -/
  placeOf : String → PathState

/-- How a run of the command ends, or that it goes on as a service. -/
inductive CommandResult (σ : Type) where
  /-- The arguments cannot be used. -/
  | usageFault
  | help
  | version
  | settings (shown : ServiceSettings)
  /-- Messages from the outermost to the first cause. -/
  | failed (chain : List String)
  | serve (server : Server σ)

/-- The exit status of a run that ends at once. -/
def CommandResult.exitStatus {σ : Type} : CommandResult σ → Nat
  | .usageFault => 2
  | .failed _ => 1
  | _ => 0

/-- A failure as it is written: the outermost message and its causes below. -/
def failureText : List String → String
  | [] => "Error"
  | [message] => s!"Error: {message}"
  | [message, cause] => s!"Error: {message}\n\nCaused by:\n    {cause}"
  | message :: causes =>
    let line := fun (cause, i) => s!"    {i}: {cause}"
    s!"Error: {message}\n\nCaused by:\n" ++ "\n".intercalate (causes.zipIdx.map line)

/-- The settings without the key that they hold. -/
def ServiceSettings.redacted (s : ServiceSettings) : ServiceSettings :=
  { s with
    extractor :=
      { s.extractor with
        remote :=
          { s.extractor.remote with
            apiKey := s.extractor.remote.apiKey.map fun _ => "<redacted>" } } }

/-- The settings that arguments lead to, or the messages of a fault. -/
def settingsFor (machine : Machine) (a : Arguments) : Except (List String) ServiceSettings := do
  let file := a.config.map fun path => (path, machine.fileAt path)
  let loaded ← (ServiceSettings.load file).mapError fun e => (StartFault.settings e).chain
  let settings := loaded.apply a.overrides
  settings.validate.mapError fun e => ["invalid configuration", e.message]
  return settings

/-- Starts the service with checked settings. -/
def startServer {σ : Type} (machine : Machine) (send : Transport σ) (converter : Converter)
    (settings : ServiceSettings) : CommandResult σ :=
  match settings.extractor.build machine.environment send with
  | .error .noDimension => .failed ["build model", "dim must be positive"]
  | .error (.settings e) => .failed ["build model", e.message]
  | .ok extractor =>
    match Server.start settings extractor converter (machine.placeOf settings.registryPath) with
    | .error fault => .failed fault.chain
    | .ok server => .serve server

/-- Runs the command up to the point where it serves requests. -/
def runCommand {σ : Type} (machine : Machine) (send : Transport σ)
    (converterFor : String → Converter) (arguments : List String) : CommandResult σ :=
  match readArguments machine.environment {} arguments with
  | .usageFault => .usageFault
  | .help => .help
  | .version => .version
  | .arguments a =>
    match settingsFor machine a with
    | .error chain => .failed chain
    | .ok settings =>
      if a.printConfig then .settings settings.redacted
      else startServer machine send (converterFor settings.converterPath) settings

end VoiceMatch
