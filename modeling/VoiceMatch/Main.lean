import VoiceMatch.Service.Conversion
import VoiceMatch.Service.Startup
import VoiceMatch.Yaml.Printer

/-! The command. It collects what the start needs to know of the machine, shows how the start ends,
and leaves where the service would begin to accept connections. -/

namespace VoiceMatch

def versionText : String := "voicegate 0.1.0"

/-- The fault of a file that a system error stands for. -/
def faultOf : IO.Error → FileError
  | .noFileOrDirectory .. => .notFound
  | .alreadyExists .. => .alreadyExists
  | .inappropriateType .. => .notADirectory
  | .invalidArgument .. => .nameTooLong
  | .permissionDenied _ code details => .other s!"{details} (os error {code})"
  | e => .other (toString e)

def contentOf (path : String) : IO (Except FileError Bytes) := do
  try
    if ← (← IO.FS.realPath path).isDir then return .error .isADirectory
    return .ok (← IO.FS.readBinFile path).toList
  catch e => return .error (faultOf e)

/-- Makes a directory with its parents, and tells what stands there. -/
def settleDirectory (path : String) : IO PathState := do
  try
    IO.FS.createDirAll path
    return .folder
  catch e =>
    try
      let _ ← IO.FS.realPath path
      return .file
    catch _ => return .unreachable (faultOf e)

/-- The values of variables, where they have one. -/
def valuesOf (names : List String) : IO (List (String × String)) :=
  names.filterMapM fun name => do return (← IO.getEnv name).map fun value => (name, value)

/-- The part of the machine that a start with the given arguments looks at. -/
def machineFor (arguments : List String) : IO Machine := do
  let known ← valuesOf (ValueOption.all.map (·.variableName))
  let bare : Machine :=
    { environment := (known.lookup ·), fileAt := fun _ => .error .notFound
      placeOf := fun _ => .free }
  match readArguments bare.environment {} arguments with
  | .arguments a =>
    let content ← match a.config with
      | some path => contentOf path
      | none => pure (.error .notFound)
    let machine := { bare with fileAt := fun _ => content }
    match settingsFor machine a with
    | .error _ => return machine
    | .ok settings =>
      let place ← if a.printConfig then pure .free else settleDirectory settings.registryPath
      let keys ← valuesOf ((settings.extractor.remote.apiKey.bind variableIn?).toList)
      return { machine with
        environment := ((keys ++ known).lookup ·)
        placeOf := fun _ => place }
  | _ => return bare

/-- There is no one to send requests to. -/
def silentTransport : Transport Unit := fun _ => pure none

/-- There is no program to run. -/
def missingConverter (program : String) : Converter :=
  programConverter program fun _ _ => .notStarted FileError.notFound.message

def report : CommandResult Unit → IO Unit
  | .usageFault => IO.eprintln usageText
  | .help => IO.println usageText
  | .version => IO.println versionText
  | .settings shown => IO.print shown.toJson.toYaml
  | .failed chain => IO.eprintln (failureText chain)
  | .serve server => IO.eprintln s!"ready to listen on {server.settings.listen}"

end VoiceMatch

def main (arguments : List String) : IO UInt32 := do
  let machine ← VoiceMatch.machineFor arguments
  let result :=
    VoiceMatch.runCommand machine VoiceMatch.silentTransport VoiceMatch.missingConverter arguments
  VoiceMatch.report result
  return result.exitStatus.toUInt32
