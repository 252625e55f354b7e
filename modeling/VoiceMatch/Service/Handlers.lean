import VoiceMatch.Json.Reader
import VoiceMatch.Json.Values
import VoiceMatch.Number.Rounding
import VoiceMatch.Service.Http
import VoiceMatch.Service.Multipart
import VoiceMatch.Service.Server

/-! What the service does for each kind of request, and the documents it answers with. -/

namespace VoiceMatch

/-- A score as shown, rounded to four places. Rankings are made before. -/
def shownScore (score : Single) : Single :=
  .ofDouble (roundHalfAway (score.toDouble * 10000) / 10000)

/-- A request for an embedding or for the best of several candidates. -/
structure PcmRequest where
  pcm : String
  rate : Option UInt32
  candidates : List String

def PcmRequest.ofFields (pcm rate candidates : Option Json) : Option PcmRequest := do
  return ⟨← (← pcm).text, ← readOr none (jsonFormat.nullable jsonFormat.word32) rate,
    ← readOr [] (fun j => j.items.bind (·.mapM Json.text)) candidates⟩

def readEmbedRequest (j : Json) : Option PcmRequest := do
  match ← j.record ["pcm_base64", "sample_rate"] 1 2 with
  | [pcm, rate] => PcmRequest.ofFields pcm rate none
  | _ => none

def readVerifyRequest (j : Json) : Option PcmRequest := do
  match ← j.record ["pcm_base64", "sample_rate", "candidates"] 1 2 with
  | [pcm, rate, candidates] => PcmRequest.ofFields pcm rate candidates
  | _ => none

/-- Whether a content type is that of JSON. -/
def isJsonType (contentType : Option String) : Bool :=
  (contentType.bind MediaType.parse?).any MediaType.isJson

def rowJson (m : MatchResult) : Json :=
  .object [("filename", .string m.id), ("speaker_name", .string m.speakerName),
    ("score", .single (shownScore m.score)), ("same_speaker", .bool m.sameSpeaker),
    ("confidence", .string m.confidence.label)]

def rankingJson (r : Ranking) : Json :=
  .object [("success", .bool true), ("threshold", .single r.threshold),
    ("total_registered", .nat r.total),
    ("best_match", match r.bestMatch with
      | some m => rowJson m
      | none => .null),
    ("all_results", .array (r.results.map rowJson))]

def comparisonJson (c : Comparison) : Json :=
  let verdict :=
    if c.sameSpeaker then "The speakers are LIKELY the same person"
    else "The speakers are LIKELY different people"
  .object [("success", .bool true), ("score", .single (shownScore c.score)),
    ("threshold", .single c.threshold), ("same_speaker", .bool c.sameSpeaker),
    ("confidence", .string c.confidence.label),
    ("interpretation",
      .object [("message", .string verdict), ("certainty", .string c.confidence.label)])]

def listingJson (l : Listing) : Json :=
  .object [("filename", .string l.filename), ("speaker_name", .string l.speakerName),
    ("registered_at", .string l.registeredAt), ("file_size", .nat l.fileSize)]

namespace Server

variable {σ : Type} (s : Server σ)

/-- The form in the body of a request. -/
def readForm (r : Request) : ServerM σ Form :=
  .ofResult (Form.ofBody ⟨s.settings.maxUploadBytes.toNat, s.bodyLimit.toNat⟩ r.contentType r.body)

/-- The JSON document in the body of a request. -/
def readJson {α : Type} (read : Json → Option α) (r : Request) : ServerM σ α :=
  .ofResult <|
    if !isJsonType r.contentType then .error (.badRequest "the content type is not JSON")
    else if s.bodyLimit.toNat < r.body.length then .error (.badRequest "the body is too long")
    else match (Json.parseBytes? r.body).bind read with
      | some a => .ok a
      | none => .error (.badRequest "the body is not a document of the expected form")

def health : ServerM σ Response := do
  let count ← ServerM.store s.store.count
  return .ok (.object [("status", .string "healthy"),
    ("message", .string "Speaker Verification API is running"),
    ("registered_speakers", .nat count),
    ("embedding_dimension", .nat s.verifier.extractor.dimension)])

def embed (r : Request) : ServerM σ Response := do
  let request ← s.readJson readEmbedRequest r
  let pcm ← ServerM.ofVoice (decodeBase64 request.pcm)
  let rate := request.rate.getD s.settings.defaultRate
  let embedding ← ServerM.extract (s.verifier.embedBytes pcm rate)
  return .ok (.object [("embedding", .string embedding.toBase64)])

def verify (r : Request) : ServerM σ Response := do
  let request ← s.readJson readVerifyRequest r
  let pcm ← ServerM.ofVoice (decodeBase64 request.pcm)
  let rate := request.rate.getD s.settings.defaultRate
  let candidates ← ServerM.ofVoice (request.candidates.mapM decodeBase64)
  let best ← ServerM.extract (s.verifier.verifyCandidates pcm rate candidates)
  return .ok (.object [("best_index", .int best.number), ("score", .single best.score)])

def verifyFiles (r : Request) : ServerM σ Response := do
  let form ← s.readForm r
  let (first, form) := form.takeUpload "audio1"
  let first ← ServerM.ofResult first
  let (second, form) := form.takeUpload "audio2"
  let second ← ServerM.ofResult second
  let chosen ← ServerM.ofResult (form.single "threshold")
  let threshold ← ServerM.ofVoice (s.verifier.thresholdOr chosen)
  let a ← s.embedUpload first
  let b ← s.embedUpload second
  return .ok (comparisonJson (← ServerM.ofVoice (s.verifier.compare a b threshold)))

def register (now : LocalTime) (r : Request) : ServerM σ Response := do
  let form ← s.readForm r
  let (upload, form) := form.takeUpload "audio"
  let upload ← ServerM.ofResult upload
  let (wav, recording) ← ServerM.ofResult (upload.decode s.converter)
  let embedding ← ServerM.extract
    (s.verifier.embedSamples recording.samples recording.format.rate)
  let (filename, record) ← ServerM.store (s.store.register now
    { speakerName := form.text "speaker_name"
      uploadName := upload.filename
      uploadFormat := upload.extension
      wav
      embedding := some embedding })
  return ⟨201, some (.object [("success", .bool true),
    ("message", .string "Audio registered successfully"), ("filename", .string filename),
    ("speaker_name", .string record.speakerName),
    ("original_format", .string record.uploadFormat), ("converted_to", .string "wav"),
    ("registered_at", .string record.registeredAt)])⟩

def listRegistered : ServerM σ Response := do
  let speakers ← ServerM.store s.store.list
  return .ok (.object [("success", .bool true), ("count", .nat speakers.length),
    ("registered_speakers", .array (speakers.map listingJson))])

def delete (filename : String) : ServerM σ Response := do
  let removed ← ServerM.store (s.store.delete filename)
  return .ok (.object [("success", .bool true), ("message", .string "Audio deleted successfully"),
    ("filename", .string removed)])

/-- The options of a ranking in a form. No rows asked for means all of them. -/
def rankOptions (form : Form) : Except ServiceError RankOptions := do
  let threshold ← (s.verifier.thresholdOr (← form.single "threshold")).mapError ServiceError.voice
  let topK := (← form.natural "top_n").filter (0 < ·)
  return { threshold, topK, matchesOnly := ← form.flag "matches_only" }

/-- Ranks an uploaded file against all registered speakers. Without any the file is not read. -/
def rankRegistered (r : Request) : ServerM σ Response := do
  let form ← s.readForm r
  let (upload, form) := form.takeUpload "audio"
  let upload ← ServerM.ofResult upload
  let options ← ServerM.ofResult (s.rankOptions form)
  if (← ServerM.store s.store.count) = 0 then throw (.voice .noCandidates)
  let probe ← s.embedUpload upload
  let registry := s.store.toRegistry (← get).directory
  return .ok (rankingJson (← ServerM.extract (s.verifier.rank probe registry options)))

end Server

end VoiceMatch
