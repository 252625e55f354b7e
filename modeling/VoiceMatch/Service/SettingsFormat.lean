import VoiceMatch.Json.Values
import VoiceMatch.Service.Settings
import VoiceMatch.Yaml.Reader
import VoiceMatch.Yaml.Values

/-! Settings as documents. Fields that a document leaves out have their defaults, and unknown
fields do not count. -/

namespace VoiceMatch

variable {δ : Type}

def readConfidenceScale (f : ValueFormat δ) (v : δ) : Option ConfidenceScale := do
  match ← f.record ["very_high", "high", "moderate", "low"] 0 0 v with
  | [veryHigh, high, moderate, low] =>
    let d := ConfidenceScale.standard
    return ⟨← readOr d.veryHigh f.single veryHigh, ← readOr d.high f.single high,
      ← readOr d.moderate f.single moderate, ← readOr d.low f.single low⟩
  | _ => none

def readVerifierSettings (f : ValueFormat δ) (v : δ) : Option VerifierSettings := do
  match ← f.record ["model_sample_rate", "min_seconds", "min_source_rate", "max_source_rate",
    "threshold", "confidence"] 0 0 v with
  | [modelRate, minSeconds, lowestRate, highestRate, threshold, confidence] =>
    let d : VerifierSettings := {}
    return {
      modelRate := ← readOr d.modelRate f.word32 modelRate
      minSeconds := ← readOr d.minSeconds f.single minSeconds
      lowestRate := ← readOr d.lowestRate f.word32 lowestRate
      highestRate := ← readOr d.highestRate f.word32 highestRate
      threshold := ← readOr d.threshold f.single threshold
      confidence := ← readOr d.confidence (readConfidenceScale f) confidence }
  | _ => none

def readRemoteSettings (f : ValueFormat δ) (v : δ) : Option RemoteSettings := do
  match ← f.record ["url", "api_key", "dimension", "timeout_secs"] 0 0 v with
  | [url, apiKey, dimension, timeoutSeconds] =>
    let d : RemoteSettings := {}
    return {
      url := ← readOr d.url f.text url
      apiKey := ← readOr d.apiKey (f.nullable f.text) apiKey
      dimension := ← readOr d.dimension f.word64 dimension
      timeoutSeconds := ← readOr d.timeoutSeconds f.word64 timeoutSeconds }
  | _ => none

def readExtractorKind (f : ValueFormat δ) (v : δ) : Option ExtractorKind :=
  (f.variant ["stub", "remote"] v).bind ExtractorKind.ofName?

def readExtractorSettings (f : ValueFormat δ) (v : δ) : Option ExtractorSettings := do
  match ← f.record ["backend", "stub_dimension", "remote"] 0 0 v with
  | [kind, stubDimension, remote] =>
    let d : ExtractorSettings := {}
    return {
      kind := ← readOr d.kind (readExtractorKind f) kind
      stubDimension := ← readOr d.stubDimension f.word64 stubDimension
      remote := ← readOr d.remote (readRemoteSettings f) remote }
  | _ => none

def readServiceSettings (f : ValueFormat δ) (v : δ) : Option ServiceSettings := do
  match ← f.record ["listen", "registry_dir", "max_upload_bytes", "extract_timeout_secs",
    "ffmpeg_path", "default_pcm_rate", "model", "verifier"] 0 0 v with
  | [listen, registryPath, maxUploadBytes, timeoutSeconds, converterPath, defaultRate, extractor,
      verifier] =>
    let d : ServiceSettings := {}
    return {
      listen := ← readOr d.listen f.text listen
      registryPath := ← readOr d.registryPath f.text registryPath
      maxUploadBytes := ← readOr d.maxUploadBytes f.word64 maxUploadBytes
      timeoutSeconds := ← readOr d.timeoutSeconds f.word64 timeoutSeconds
      converterPath := ← readOr d.converterPath f.text converterPath
      defaultRate := ← readOr d.defaultRate f.word32 defaultRate
      extractor := ← readOr d.extractor (readExtractorSettings f) extractor
      verifier := ← readOr d.verifier (readVerifierSettings f) verifier }
  | _ => none

def isAsciiBlank (b : UInt8) : Bool :=
  b = 9 || b = 10 || b = 12 || b = 13 || b = 32

/-- The settings of a YAML file. Blanks alone are the defaults. -/
def ServiceSettings.ofYaml? (bytes : Bytes) : Option ServiceSettings :=
  if bytes.all isAsciiBlank then some {}
  else (YamlDocument.ofBytes? bytes).bind (readServiceSettings yamlFormat)

/-! The documents that settings are shown as. -/

def ConfidenceScale.toJson (s : ConfidenceScale) : Json :=
  .object [("very_high", .single s.veryHigh), ("high", .single s.high),
    ("moderate", .single s.moderate), ("low", .single s.low)]

def VerifierSettings.toJson (s : VerifierSettings) : Json :=
  .object [("model_sample_rate", .nat s.modelRate.toNat), ("min_seconds", .single s.minSeconds),
    ("min_source_rate", .nat s.lowestRate.toNat), ("max_source_rate", .nat s.highestRate.toNat),
    ("threshold", .single s.threshold), ("confidence", s.confidence.toJson)]

def RemoteSettings.toJson (s : RemoteSettings) : Json :=
  .object [("url", .string s.url), ("api_key", .stringOrNull s.apiKey),
    ("dimension", .nat s.dimension.toNat), ("timeout_secs", .nat s.timeoutSeconds.toNat)]

def ExtractorSettings.toJson (s : ExtractorSettings) : Json :=
  .object [("backend", .string s.kind.name), ("stub_dimension", .nat s.stubDimension.toNat),
    ("remote", s.remote.toJson)]

def ServiceSettings.toJson (s : ServiceSettings) : Json :=
  .object [("listen", .string s.listen), ("registry_dir", .string s.registryPath),
    ("max_upload_bytes", .nat s.maxUploadBytes.toNat),
    ("extract_timeout_secs", .nat s.timeoutSeconds.toNat),
    ("ffmpeg_path", .string s.converterPath), ("default_pcm_rate", .nat s.defaultRate.toNat),
    ("model", s.extractor.toJson), ("verifier", s.verifier.toJson)]

end VoiceMatch
