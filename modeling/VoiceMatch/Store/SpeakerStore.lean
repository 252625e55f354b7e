import VoiceMatch.Audio.Wav.Reader
import VoiceMatch.Store.Clock
import VoiceMatch.Store.Error
import VoiceMatch.Store.FileName
import VoiceMatch.Store.Record
import VoiceMatch.Store.Script
import VoiceMatch.Voice.Embedding
import VoiceMatch.Voice.Registry

/-! The store of registered speakers: a directory of recordings and one document of notes about
them. Every file whose name ends in `.wav` is a registered speaker, with notes or without. -/

namespace VoiceMatch

structure SpeakerStore where
  path : String
  format : MetadataFormat

/-- A program on the directory that may fail. -/
abbrev StoreM := ExceptT StoreError Script

def metadataName : String := "metadata.json"

/-- Where new notes are written before they take the place of the old ones. -/
def metadataDraft : String := "metadata.json.tmp"

/-- The name of a speaker of whom none is known. -/
def unknownSpeaker : String := "Unknown"

/-- A recording to register. -/
structure NewSpeaker where
  speakerName : Option String
  uploadName : String
  uploadFormat : String
  wav : Bytes
  embedding : Option Embedding

/-- One line of the list of registered speakers. -/
structure Listing where
  filename : String
  speakerName : String
  registeredAt : String
  fileSize : Nat
deriving DecidableEq

namespace StoreM

def read (name : String) : StoreM (Except FileError Bytes) :=
  ExceptT.mk (.read name fun r => .done (.ok r))

def write (name : String) (bytes : Bytes) : StoreM (Except FileError Unit) :=
  ExceptT.mk (.write name bytes fun r => .done (.ok r))

def remove (name : String) : StoreM (Except FileError Unit) :=
  ExceptT.mk (.remove name fun r => .done (.ok r))

def rename (source target : String) : StoreM (Except FileError Unit) :=
  ExceptT.mk (.rename source target fun r => .done (.ok r))

def fileNames : StoreM (Except FileError (List String)) :=
  ExceptT.mk (.fileNames fun r => .done (.ok r))

def freeName (name : Nat → String) : StoreM String :=
  ExceptT.mk (.freeName name fun r => .done (.ok r))

/-- Does a whole program on a directory, with trouble in some of its steps. -/
def runAmid {α : Type} (p : StoreM α) (troubles : Nat → Option Trouble) (d : Directory) :
    Except StoreError α × Directory :=
  (ExceptT.run p).runAmid troubles d

/-- Does a whole program on a directory. -/
def runOn {α : Type} (p : StoreM α) (d : Directory) : Except StoreError α × Directory :=
  (ExceptT.run p).run d

end StoreM

namespace SpeakerStore

variable (s : SpeakerStore)

/-- The path of a file in the store. -/
def pathOf (name : String) : String :=
  if s.path = "" then name
  else if s.path.endsWith "/" then s.path ++ name
  else s.path ++ "/" ++ name

/-- Makes sure that a step went well. -/
def check {α : Type} (step name : String) : Except FileError α → StoreM α
  | .ok a => pure a
  | .error e => throw (.file step (s.pathOf name) e.message)

/-- The store at a path, made if nothing stands there. -/
def openAt (path : String) (format : MetadataFormat) (place : PathState) :
    Except StoreError SpeakerStore :=
  match place.openDirectory with
  | .ok _ => .ok ⟨path, format⟩
  | .error e => .error (.file "create" path e.message)

/-- All notes. Without the document there are none. -/
def loadMetadata : StoreM Metadata := do
  match ← StoreM.read metadataName with
  | .ok bytes =>
    match s.format.read bytes with
    | some m => return m
    | none => throw .metadata
  | .error .notFound => return []
  | .error e => throw (.file "read" (s.pathOf metadataName) e.message)

def saveMetadata (m : Metadata) : StoreM Unit := do
  s.check "write" metadataDraft (← StoreM.write metadataDraft (s.format.write m))
  s.check "rename" metadataName (← StoreM.rename metadataDraft metadataName)

/-- The names of all recordings in ascending order. -/
def audioFiles : StoreM (List String) := do
  match ← StoreM.fileNames with
  | .ok names => return (names.filter isAudioFileName).mergeSort fun a b => decide (a ≤ b)
  | .error e => throw (.file "read" s.path e.message)

/-- The name that a recording is filed under, tried with growing numbers after the first. -/
def nameFor (base : List Char) : Nat → String
  | 0 => String.ofList (base ++ audioSuffix)
  | n + 1 => String.ofList (base ++ '_' :: Nat.toDigits 10 (n + 1) ++ audioSuffix)

/-- The name that is shown for a speaker. -/
def shownName (given : Option String) : String :=
  match given.map trimText with
  | some name => if name = "" then unknownSpeaker else name
  | none => unknownSpeaker

/-- The part of the file name that comes from the name of the speaker. -/
def stemFor (given : Option String) : List Char :=
  match given.map fun name => safeChars name.toList with
  | some (c :: rest) => c :: rest
  | _ => "speaker".toList

/-- Stores a recording and notes about it, and returns the name of its file with the notes. -/
def register (now : LocalTime) (new : NewSpeaker) : StoreM (String × SpeakerRecord) := do
  let filename ← StoreM.freeName (nameFor (stemFor new.speakerName ++ '_' :: now.stamp))
  s.check "write" filename (← StoreM.write filename new.wav)
  let record : SpeakerRecord :=
    { speakerName := shownName new.speakerName
      uploadName := new.uploadName
      uploadFormat := new.uploadFormat
      registeredAt := now.text
      fileSize := new.wav.length
      embedding := new.embedding.map Embedding.toBase64 }
  let metadata ← s.loadMetadata
  s.saveMetadata (metadata.insert filename record)
  return (filename, record)

def listing (metadata : Metadata) (filename : String) : Listing :=
  match metadata.find? filename with
  | some r => ⟨filename, r.speakerName, r.registeredAt, r.fileSize⟩
  | none => ⟨filename, unknownSpeaker, unknownSpeaker, 0⟩

/-- All registered speakers in the order of their files' names. -/
def list : StoreM (List Listing) := do
  let metadata ← s.loadMetadata
  return (← s.audioFiles).map (listing metadata)

def count : StoreM Nat := do
  return (← s.audioFiles).length

/-- Removes a recording and the notes about it. The name is made safe first. -/
def delete (filename : String) : StoreM String := do
  let safe := safeFileName filename
  unless isAudioFileName safe do throw (.notFound filename)
  match ← StoreM.remove safe with
  | .ok _ => pure ()
  | .error .notFound => throw (.notFound filename)
  | .error e => throw (.file "remove" (s.pathOf safe) e.message)
  let metadata ← s.loadMetadata
  if (metadata.find? safe).isSome then s.saveMetadata (metadata.erase safe)
  return safe

/-- The bytes of the embedding in a record, if there is one that can be read as base64. -/
def notedEmbedding (record : Option SpeakerRecord) : Option Bytes :=
  match record.bind (·.embedding) with
  | some text => (decodeBase64 text).toOption
  | none => none

/-- The voice of a registered speaker: the noted embedding, or else the recording. -/
def loadVoice (filename : String) (record : Option SpeakerRecord) : StoreM StoredVoice := do
  match notedEmbedding record with
  | some bytes => return .embedding bytes
  | none =>
    let bytes ← s.check "read" filename (← StoreM.read filename)
    match decodeWav bytes with
    | .ok recording => return .recording recording.samples recording.format.rate
    | .error fault => throw (.decode (s.pathOf filename) fault)

def entry (metadata : Metadata) (filename : String) : StoreM RegistryEntry := do
  let record := metadata.find? filename
  let voice ← s.loadVoice filename record
  return ⟨filename, (record.map (·.speakerName)).getD unknownSpeaker, voice⟩

/-- All registered speakers as verification reads them. -/
def entries : StoreM (List RegistryEntry) := do
  let metadata ← s.loadMetadata
  (← s.audioFiles).mapM (s.entry metadata)

/-- A result as verification sees it. -/
def asVoice {α : Type} (r : Except StoreError α) : Except VoiceError α :=
  r.mapError fun e => .registry e.message

/-- The registered speakers in a directory that does not change meanwhile. -/
def toRegistry (d : Directory) : Registry where
  entries := asVoice (s.entries.runOn d).1
  count := asVoice (s.count.runOn d).1

end SpeakerStore

end VoiceMatch
