import VoiceMatch.Service.Extractor
import VoiceMatch.Service.Form
import VoiceMatch.Store.SpeakerStore
import VoiceMatch.Voice.Verifier

/-! The running service: its settings, its verifier, its store and the work that requests ask for.
The directory of the store and the state of the extractor change from request to request. -/

namespace VoiceMatch

structure Server (σ : Type) where
  settings : ServiceSettings
  verifier : Verifier σ
  store : SpeakerStore
  converter : Converter

/-- What requests change. -/
structure World (σ : Type) where
  directory : Directory
  extractor : σ

/-- Work for a request. What it has changed before a fault stays changed. -/
abbrev ServerM (σ : Type) := ExceptT ServiceError (StateM (World σ))

namespace ServerM

variable {σ α : Type}

def ofResult (r : Except ServiceError α) : ServerM σ α := ExceptT.mk (pure r)

def ofVoice (r : Except VoiceError α) : ServerM σ α := ofResult (r.mapError ServiceError.voice)

/-- Runs the extractor. -/
def extract (p : VoiceM σ α) : ServerM σ α :=
  ExceptT.mk fun w =>
    let (r, extractor) := p.run w.extractor
    (r.mapError ServiceError.voice, { w with extractor })

/-- Runs a program on the directory. -/
def store (p : StoreM α) : ServerM σ α :=
  ExceptT.mk fun w =>
    let (r, directory) := p.runOn w.directory
    (r.mapError ServiceError.store, { w with directory })

end ServerM

/-- Why the service does not start. -/
inductive StartFault where
  | settings (e : SettingsError)
  | voice (e : VoiceError)
  | store (e : StoreError)
deriving DecidableEq

/-- The message of a fault followed by those of its causes. -/
def StartFault.chain : StartFault → List String
  | .settings (.read path reason) => [(SettingsError.read path reason).message, reason]
  | .settings e => [e.message]
  | .voice e => [e.message]
  | .store (.file step path reason) => [(StoreError.file step path reason).message, reason]
  | .store e => [e.message]

/-- How work that ran beside the service ended. -/
inductive WorkOutcome (α : Type) where
  | finished (result : Except ServiceError α)
  | crashed (reason : String)
  | late

/-- The result of work under a deadline. -/
def WorkOutcome.settle {α : Type} (seconds : Nat) : WorkOutcome α → Except ServiceError α
  | .finished result => result
  | .crashed reason => .error (.internal s!"worker failed: {reason}")
  | .late => .error (.timeout seconds)

namespace Server

variable {σ : Type}

/-- Checks the settings and opens the store. -/
def start (settings : ServiceSettings) (extractor : Extractor σ) (converter : Converter)
    (place : PathState) : Except StartFault (Server σ) := do
  settings.validate.mapError StartFault.settings
  let verifier ← (Verifier.create extractor settings.verifier).mapError StartFault.voice
  let store ←
    (SpeakerStore.openAt settings.registryPath jsonMetadata place).mapError StartFault.store
  return ⟨settings, verifier, store, converter⟩

/-- Decodes an uploaded file and computes its embedding. -/
def embedUpload (s : Server σ) (upload : Upload) : ServerM σ Embedding := do
  let (_, recording) ← .ofResult (upload.decode s.converter)
  .extract (s.verifier.embedSamples recording.samples recording.format.rate)

/-- The limit of a request body: two files and the fields of a form. -/
def bodyLimit (s : Server σ) : UInt64 := s.settings.maxUploadBytes * 2 + 65536

end Server

end VoiceMatch
