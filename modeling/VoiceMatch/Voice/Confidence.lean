import VoiceMatch.Voice.Error

/-! Five labels for how sure a score makes us. They do not depend on the threshold. -/

namespace VoiceMatch

inductive Confidence where
  | veryLow
  | low
  | moderate
  | high
  | veryHigh
deriving DecidableEq

namespace Confidence

def label : Confidence → String
  | .veryLow => "Very Low"
  | .low => "Low"
  | .moderate => "Moderate"
  | .high => "High"
  | .veryHigh => "Very High"

def all : List Confidence := [.veryLow, .low, .moderate, .high, .veryHigh]

def ofLabel? (s : String) : Option Confidence :=
  all.find? fun c => c.label = s

/-- How many labels are below this one. -/
def rank : Confidence → Nat
  | .veryLow => 0
  | .low => 1
  | .moderate => 2
  | .high => 3
  | .veryHigh => 4

end Confidence

/-- The score that each label but the lowest has to exceed. -/
structure ConfidenceScale where
  veryHigh : Single
  high : Single
  moderate : Single
  low : Single
deriving DecidableEq

namespace ConfidenceScale

/-- The bounds 0.7, 0.5, 0.35 and 0.25. -/
def standard : ConfidenceScale := ⟨⟨0x3f333333⟩, ⟨0x3f000000⟩, ⟨0x3eb33333⟩, ⟨0x3e800000⟩⟩

def bounds (s : ConfidenceScale) : List Single := [s.veryHigh, s.high, s.moderate, s.low]

def classify (s : ConfidenceScale) (score : Single) : Confidence :=
  if s.veryHigh < score then .veryHigh
  else if s.high < score then .high
  else if s.moderate < score then .moderate
  else if s.low < score then .low
  else .veryLow

def isBound (x : Single) : Bool :=
  x.isFinite && Single.minusOne ≤ x && x ≤ Single.one

/-- The bounds lie in `[-1, 1]` and each is below the one before. -/
def validate (s : ConfidenceScale) : Except VoiceError Unit :=
  if s.bounds.any fun x => !isBound x then
    .error (.settings s!"confidence bounds must lie in [-1, 1], got {singleListText s.bounds}")
  else if s.veryHigh ≤ s.high ∨ s.high ≤ s.moderate ∨ s.moderate ≤ s.low then
    .error (.settings
      s!"confidence bounds must be strictly descending, got {singleListText s.bounds}")
  else .ok ()

end ConfidenceScale

end VoiceMatch
