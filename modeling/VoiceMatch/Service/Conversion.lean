import VoiceMatch.Service.Upload
import VoiceMatch.Text.Utf8

/-! Conversion of uploaded files by a program. The file is put into a temporary file, and the
program writes mono WAV at the usual rate into another one. -/

namespace VoiceMatch

/-- What a run of the program came to. -/
inductive ProgramOutcome where
  | notStarted (reason : String)
  /-- The run failed, with what it wrote to its error output. -/
  | failed (stderr : Bytes)
  /-- The run went well, with what is read from the output file. -/
  | succeeded (output : Except FileError Bytes)

/-- The arguments that the program is given. -/
def conversionArguments (input output : String) : List String :=
  ["-hide_banner", "-loglevel", "error", "-nostdin", "-y", "-i", input, "-ac", "1", "-ar", "16000",
    "-acodec", "pcm_s16le", "-f", "wav", output]

/-- The names of the temporary files begin with this. -/
def stagingPrefix : String := "voicegate-"

/-- What a run means for the file of the given extension. -/
def conversionResult (program extension : String) :
    ProgramOutcome → Except ConversionError Bytes
  | .notStarted reason => .error (.spawn program reason)
  | .failed stderr => .error (.failed extension (trimText (lossyText stderr)))
  | .succeeded (.ok bytes) => .ok bytes
  | .succeeded (.error e) => .error (.staging extension e.message)

/-- A converter that runs a program on a file with an extension. -/
def programConverter (program : String) (run : Bytes → String → ProgramOutcome) : Converter :=
  fun bytes extension => conversionResult program extension (run bytes extension)

end VoiceMatch
