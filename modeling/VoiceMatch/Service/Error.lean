import VoiceMatch.Store.Error
import VoiceMatch.Text.Quoted
import VoiceMatch.Voice.Error

/-! Faults that a request can end with: their codes, messages and HTTP statuses. -/

namespace VoiceMatch

/-- Faults of bringing an uploaded file to WAV. -/
inductive ConversionError where
  /-- A temporary file cannot be written or read. -/
  | staging (extension reason : String)
  | spawn (program reason : String)
  /-- The program ran and failed, with what it wrote to its error output. -/
  | failed (extension stderr : String)
deriving DecidableEq

def ConversionError.message : ConversionError → String
  | .staging extension reason => s!"stage {extension} input: {reason}"
  | .spawn program reason => s!"run {program}: {reason}"
  | .failed extension stderr => s!"cannot decode {extension} audio: {stderr}"

inductive ServiceError where
  | voice (e : VoiceError)
  | store (e : StoreError)
  | conversion (e : ConversionError)
  | badRequest (reason : String)
  | missingFile (name : String)
  | emptyFilename
  | unsupportedFileType (extension allowed : String)
  | payloadTooLarge (limit : Nat)
  | bodyTooLarge (reason : String)
  | timeout (seconds : Nat)
  | internal (reason : String)
deriving DecidableEq

namespace ServiceError

def ofAudio (e : AudioError) : ServiceError := .voice (.ofAudio e)

def message : ServiceError → String
  | .voice e => e.message
  | .store e => e.message
  | .conversion e => e.message
  | .badRequest reason => reason
  | .missingFile name => s!"{name} is required"
  | .emptyFilename => "file must have a valid filename"
  | .unsupportedFileType extension allowed =>
    s!"unsupported file type {quoteText extension}, allowed types: {allowed}"
  | .payloadTooLarge limit => s!"file exceeds the upload limit of {limit} bytes"
  | .bodyTooLarge reason => s!"request body too large: {reason}"
  | .timeout seconds => s!"request timed out after {seconds}s"
  | .internal reason => s!"internal error: {reason}"

def code : ServiceError → String
  | .voice e => e.code
  | .store (.notFound _) => "NOT_FOUND"
  | .store _ => "REGISTRY_ERROR"
  | .conversion _ => "TRANSCODE_FAILED"
  | .badRequest _ => "BAD_REQUEST"
  | .missingFile _ => "MISSING_FILE"
  | .emptyFilename => "EMPTY_FILENAME"
  | .unsupportedFileType _ _ => "UNSUPPORTED_FILE_TYPE"
  | .payloadTooLarge _ | .bodyTooLarge _ => "PAYLOAD_TOO_LARGE"
  | .timeout _ => "TIMEOUT"
  | .internal _ => "INTERNAL_ERROR"

/-- The HTTP status. What is not there is 404, mistakes of the client are 400. -/
def status : ServiceError → Nat
  | .voice .noCandidates => 404
  | .voice e => if e.isClientError then 400 else 500
  | .store (.notFound _) => 404
  | .store _ => 500
  | .conversion (.failed _ _) => 400
  | .conversion _ => 500
  | .badRequest _ | .missingFile _ | .emptyFilename | .unsupportedFileType _ _ => 400
  | .payloadTooLarge _ | .bodyTooLarge _ => 413
  | .timeout _ => 504
  | .internal _ => 500

end ServiceError

end VoiceMatch
