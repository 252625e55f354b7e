import VoiceMatch.Json.Printer
import VoiceMatch.Json.Reader
import VoiceMatch.Json.Values

/-! What is noted about each registered recording, and the document that holds all notes. -/

namespace VoiceMatch

structure SpeakerRecord where
  speakerName : String
  uploadName : String
  uploadFormat : String
  registeredAt : String
  fileSize : Nat
  /-- The embedding computed at registration, as text. -/
  embedding : Option String
deriving DecidableEq

namespace SpeakerRecord

def toJson (r : SpeakerRecord) : Json :=
  .object ([("speaker_name", .string r.speakerName), ("original_filename", .string r.uploadName),
    ("original_format", .string r.uploadFormat), ("registered_at", .string r.registeredAt),
    ("file_size", .nat r.fileSize)]
    ++ match r.embedding with
      | some text => [("embedding", .string text)]
      | none => [])

def ofJson? (j : Json) : Option SpeakerRecord := do
  match ← j.record ["speaker_name", "original_filename", "original_format", "registered_at",
    "file_size", "embedding"] 5 5 with
  | [some speakerName, some uploadName, some uploadFormat, some registeredAt, some fileSize,
      embedding] =>
    return ⟨← speakerName.text, ← uploadName.text, ← uploadFormat.text,
      ← registeredAt.text, ← fileSize.natural (UInt64.size - 1),
      ← readOr none (jsonFormat.nullable Json.text) embedding⟩
  | _ => none

end SpeakerRecord

/-- Notes by file name, in the order of the names. -/
abbrev Metadata := List (String × SpeakerRecord)

namespace Metadata

def find? (m : Metadata) (name : String) : Option SpeakerRecord := m.lookup name

/-- Puts a note in its place. One that the name had before is replaced. -/
def insert (name : String) (record : SpeakerRecord) : Metadata → Metadata
  | [] => [(name, record)]
  | (key, value) :: rest =>
    if name < key then (name, record) :: (key, value) :: rest
    else if name = key then (name, record) :: rest
    else (key, value) :: insert name record rest

def erase (m : Metadata) (name : String) : Metadata := m.filter fun e => e.1 ≠ name

end Metadata

/-- A way to write notes down and to read them back. -/
structure MetadataFormat where
  write : Metadata → Bytes
  read : Bytes → Option Metadata

/-- An object of records by name. Of two records with one name the later one counts. -/
def metadataOfJson? : Json → Option Metadata
  | .object fields =>
    fields.foldlM (fun m (name, j) => (SpeakerRecord.ofJson? j).map fun r => m.insert name r) []
  | _ => none

def metadataToJson (m : Metadata) : Json :=
  .object (m.map fun (name, record) => (name, record.toJson))

def jsonMetadata : MetadataFormat where
  write m := textBytes ((metadataToJson m).print .lines)
  read bytes := (Json.parseBytes? bytes).bind metadataOfJson?

end VoiceMatch
