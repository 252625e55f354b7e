import VoiceMatch.Audio.Error
import VoiceMatch.Store.Directory

/-! Faults of the store of registered speakers. -/

namespace VoiceMatch

inductive StoreError where
  | notFound (name : String)
  /-- A step on a file that went wrong, with the reason that was given. -/
  | file (step path reason : String)
  | decode (path : String) (fault : AudioError)
  | metadata
deriving DecidableEq

def StoreError.message : StoreError → String
  | .notFound name => s!"no registered audio found with filename: {name}"
  | .file step path reason => s!"{step} {path}: {reason}"
  | .decode path fault => s!"decode {path}: {fault.message}"
  | .metadata => "metadata: not a map of speaker records"

end VoiceMatch
