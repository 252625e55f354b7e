import VoiceMatch.Service.ListenAddress
import VoiceMatch.Text.Blank
import VoiceMatch.Text.Quoted
import VoiceMatch.Voice.Settings

/-! The settings of the service: where it listens, where it keeps recordings, its limits, and which
extractor it uses. Values given at the start win over those of a file. -/

namespace VoiceMatch

inductive ExtractorKind where
  | stub
  | remote
deriving DecidableEq

namespace ExtractorKind

def name : ExtractorKind → String
  | .stub => "stub"
  | .remote => "remote"

def ofName? (s : String) : Option ExtractorKind :=
  [ExtractorKind.stub, ExtractorKind.remote].find? (·.name = s)

end ExtractorKind

structure RemoteSettings where
  url : String := "http://127.0.0.1:8500/v1/speaker/embed"
  apiKey : Option String := none
  dimension : UInt64 := 192
  timeoutSeconds : UInt64 := 30
deriving DecidableEq

structure ExtractorSettings where
  kind : ExtractorKind := .stub
  stubDimension : UInt64 := 192
  remote : RemoteSettings := {}
deriving DecidableEq

structure ServiceSettings where
  /-- An address, or only a colon and a port number. -/
  listen : String := ":5000"
  registryPath : String := "registered-audios"
  /-- The limit of one uploaded file, ten mebibytes. -/
  maxUploadBytes : UInt64 := 10485760
  /-- How long the work for one request may take. -/
  timeoutSeconds : UInt64 := 30
  converterPath : String := "ffmpeg"
  /-- The rate of raw samples where a request states none. -/
  defaultRate : UInt32 := 16000
  extractor : ExtractorSettings := {}
  verifier : VerifierSettings := {}
deriving DecidableEq

/-- Values given at the start of the service. -/
structure Overrides where
  listen : Option String := none
  registryPath : Option String := none
  threshold : Option Single := none
  minSeconds : Option Single := none
  extractor : Option ExtractorKind := none
  remoteUrl : Option String := none
  remoteApiKey : Option String := none
  converterPath : Option String := none
  timeoutSeconds : Option UInt64 := none
  maxUploadBytes : Option UInt64 := none

inductive SettingsError where
  /-- The file at a path cannot be read. -/
  | read (path reason : String)
  /-- The file at a path does not hold settings. -/
  | parse (path : String)
  | invalid (reason : String)
deriving DecidableEq

def SettingsError.message : SettingsError → String
  | .read path reason => s!"read {path}: {reason}"
  | .parse path => s!"parse {path}"
  | .invalid reason => s!"invalid configuration: {reason}"

namespace ServiceSettings

def apply (s : ServiceSettings) (o : Overrides) : ServiceSettings :=
  { s with
    listen := o.listen.getD s.listen
    registryPath := o.registryPath.getD s.registryPath
    maxUploadBytes := o.maxUploadBytes.getD s.maxUploadBytes
    timeoutSeconds := o.timeoutSeconds.getD s.timeoutSeconds
    converterPath := o.converterPath.getD s.converterPath
    extractor :=
      { s.extractor with
        kind := o.extractor.getD s.extractor.kind
        remote :=
          { s.extractor.remote with
            url := o.remoteUrl.getD s.extractor.remote.url
            apiKey := o.remoteApiKey <|> s.extractor.remote.apiKey } }
    verifier :=
      { s.verifier with
        threshold := o.threshold.getD s.verifier.threshold
        minSeconds := o.minSeconds.getD s.verifier.minSeconds } }

/-- The address to listen on. A colon in front stands for all interfaces. -/
def listenAddress (s : ServiceSettings) : Except SettingsError ListenAddress :=
  let address := if s.listen.startsWith ":" then "0.0.0.0" ++ s.listen else s.listen
  match ListenAddress.parse? address with
  | some a => .ok a
  | none =>
    .error (.invalid s!"listen address {quoteText s.listen}: invalid socket address syntax")

def validateExtractor (s : ExtractorSettings) : Except SettingsError Unit :=
  match s.kind with
  | .stub =>
    if s.stubDimension = 0 then .error (.invalid "model.stub_dimension must be positive")
    else .ok ()
  | .remote =>
    if s.remote.url = "" then .error (.invalid "model.remote.url is required")
    else if s.remote.dimension = 0 then .error (.invalid "model.remote.dimension must be positive")
    else .ok ()

/-- Checks the settings in a fixed order and reports the first fault. -/
def validate (s : ServiceSettings) : Except SettingsError Unit := do
  let _ ← s.listenAddress
  match s.verifier.validate with
  | .error fault => throw (.invalid fault.message)
  | .ok _ => pure ()
  if s.maxUploadBytes = 0 then throw (.invalid "max_upload_bytes must be positive")
  if s.timeoutSeconds = 0 then throw (.invalid "extract_timeout_secs must be positive")
  let lowest := s.verifier.lowestRate
  let highest := s.verifier.highestRate
  let rate := s.defaultRate
  if rate < lowest ∨ highest < rate then
    throw (.invalid
      s!"default_pcm_rate {rate} is outside the accepted source rates {lowest}..={highest}")
  if trimText s.converterPath = "" then throw (.invalid "ffmpeg_path is empty")
  validateExtractor s.extractor

end ServiceSettings

end VoiceMatch
