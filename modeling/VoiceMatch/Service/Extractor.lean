import VoiceMatch.Service.Settings
import VoiceMatch.Voice.Extractor.Remote
import VoiceMatch.Voice.Extractor.Stub

/-! The extractor that the settings ask for. It is made once, when the service starts. -/

namespace VoiceMatch

/-- Values of the environment by name. -/
abbrev Environment := String → Option String

/-- The variable that a text refers to: `$NAME`, or the name in braces after the sign. -/
def variableIn? (s : String) : Option String :=
  match s.toList with
  | '$' :: rest =>
    let name := match rest with
      | '{' :: inner => if inner.getLast? = some '}' then inner.dropLast else rest
      | _ => rest
    some (String.ofList name)
  | _ => none

/-- Puts the value of a variable in the place of a text that refers to it. An unknown variable is
empty, and any other text stays. -/
def expandVariable (environment : Environment) (s : String) : String :=
  match variableIn? s with
  | some name => (environment name).getD ""
  | none => s

inductive ExtractorFault where
  /-- Vectors without components cannot be drawn. -/
  | noDimension
  | settings (e : SettingsError)
deriving DecidableEq

/-- The key for the remote extractor with its variable expanded. An empty one counts as none. -/
def RemoteSettings.key (s : RemoteSettings) (environment : Environment) : Option String :=
  (s.apiKey.map (expandVariable environment)).filter (· ≠ "")

def RemoteSettings.endpoint (s : RemoteSettings) (environment : Environment) :
    Except ExtractorFault RemoteEndpoint :=
  match RemoteEndpoint.create s.url (s.key environment) s.dimension.toNat with
  | .ok endpoint => .ok endpoint
  | .error e => .error (.settings (.invalid e.message))

def ExtractorSettings.build {σ : Type} (s : ExtractorSettings) (environment : Environment)
    (send : Transport σ) : Except ExtractorFault (Extractor σ) :=
  match s.kind with
  | .stub =>
    if s.stubDimension = 0 then .error .noDimension
    else .ok (stubExtractor s.stubDimension.toNat)
  | .remote => (s.remote.endpoint environment).map fun endpoint => endpoint.extractor send

end VoiceMatch
