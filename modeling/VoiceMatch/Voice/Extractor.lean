import VoiceMatch.Voice.Waveform

/-! Extractors compute a raw vector from a waveform. One may keep a state from call to call; calls
never overlap. -/

namespace VoiceMatch

/-- A computation that may fail and that may change the state of an extractor. -/
abbrev VoiceM (σ : Type) := ExceptT VoiceError (StateM σ)

/-- A result that does not touch the state. -/
def VoiceM.ofResult {σ α : Type} (r : Except VoiceError α) : VoiceM σ α :=
  ExceptT.mk (pure r)

structure Extractor (σ : Type) where
  /-- The length that every vector should have. -/
  dimension : Nat
  extract : Waveform → VoiceM σ (List Single)

end VoiceMatch
