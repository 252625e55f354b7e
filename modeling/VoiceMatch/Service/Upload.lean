import VoiceMatch.Audio.Wav.Reader
import VoiceMatch.Service.Error
import VoiceMatch.Store.FileName
import VoiceMatch.Text.Blank

/-! Uploaded files. A file has to have one of a few extensions, and all but WAV files are converted
before they are read. -/

namespace VoiceMatch

def allowedExtensions : List String := ["wav", "mp3", "flac", "ogg", "m4a", "aac"]

structure Upload where
  /-- The safe form of the name that the client gave. -/
  filename : String
  extension : String
  data : Bytes
deriving DecidableEq

/-- Brings the bytes of a file with the given extension to WAV. -/
abbrev Converter := Bytes → String → Except ConversionError Bytes

namespace Upload

def create (name : String) (data : Bytes) : Except ServiceError Upload :=
  if trimText name = "" then .error .emptyFilename
  else
    let extension := (extensionOf? name).getD ""
    if extension ∈ allowedExtensions then .ok ⟨safeFileName name, extension, data⟩
    else .error (.unsupportedFileType extension (", ".intercalate allowedExtensions))

def isWav (u : Upload) : Bool := u.extension = "wav"

/-- The file itself if it is a WAV file, and otherwise what the converter makes of it. -/
def toWav (u : Upload) (convert : Converter) : Except ServiceError Bytes :=
  if u.isWav then .ok u.data
  else (convert u.data u.extension).mapError ServiceError.conversion

/-- The WAV bytes and the recording in them. -/
def decode (u : Upload) (convert : Converter) : Except ServiceError (Bytes × Recording) := do
  let bytes ← u.toWav convert
  return (bytes, ← (decodeWav bytes).mapError ServiceError.ofAudio)

end Upload

end VoiceMatch
