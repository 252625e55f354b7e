import VoiceMatch.Voice.Error

/-! The score above which two voices count as one speaker. -/

namespace VoiceMatch

/-- A number in `[0, 1]`. -/
structure Threshold where
  value : Single
deriving DecidableEq

namespace Threshold

/-- The threshold 0.25. -/
def standard : Threshold := ⟨⟨0x3e800000⟩⟩

def ofValue (x : Single) : Except VoiceError Threshold :=
  if Single.zero ≤ x ∧ x ≤ Single.one then .ok ⟨x⟩ else .error (.invalidThreshold x)

/-- The verdict for a score. The threshold itself is not enough. -/
def accepts (t : Threshold) (score : Single) : Bool := t.value < score

end Threshold

end VoiceMatch
