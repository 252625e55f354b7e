import VoiceMatch.Voice.Confidence
import VoiceMatch.Voice.Embedding
import VoiceMatch.Voice.Threshold

/-! Choosing among candidates: the single best one, or all of them in the order of their scores. -/

namespace VoiceMatch

/-- The score that stands for no match. -/
def noMatchScore : Single := .minusOne

/-- The place of the winner among the candidates, if there is one, and its score. -/
structure BestMatch where
  index : Option Nat
  score : Single
deriving DecidableEq

namespace BestMatch

def none : BestMatch := ⟨.none, noMatchScore⟩

/-- The place as a number, -1 if there is none. -/
def number (m : BestMatch) : Int :=
  match m.index with
  | some i => i
  | .none => -1

/-- Keeps the better of a match and the score at place `i`. -/
def step (best : BestMatch) (entry : Single × Nat) : BestMatch :=
  if entry.1.isFinite ∧ best.score < entry.1 then ⟨some entry.2, entry.1⟩ else best

end BestMatch

/-- The first of the highest scores. A score that is not finite never wins. -/
def selectBest (scores : List Single) : BestMatch :=
  scores.zipIdx.foldl BestMatch.step .none

def checkDimension (probe candidate : Embedding) : Except VoiceError Unit :=
  if probe.dimension ≠ candidate.dimension then
    .error (.dimensionMismatch probe.dimension candidate.dimension)
  else .ok ()

def scoreStored (probe : Embedding) (stored : Bytes) : Except VoiceError Single := do
  let decoded ← deserialize stored
  checkDimension probe decoded.embedding
  return score probe decoded.embedding

/-- The best of stored candidates. No candidates are no fault. -/
def bestOf (probe : Embedding) (candidates : List Bytes) : Except VoiceError BestMatch := do
  return selectBest (← candidates.mapM (scoreStored probe))

structure Candidate where
  id : String
  speakerName : String
  embedding : Embedding
deriving DecidableEq

/-- One row of a ranking. -/
structure MatchResult where
  id : String
  speakerName : String
  score : Single
  sameSpeaker : Bool
  confidence : Confidence
deriving DecidableEq

structure RankOptions where
  threshold : Threshold := .standard
  /-- How many rows to keep, all of them if absent. -/
  topK : Option Nat := none
  matchesOnly : Bool := false

structure Ranking where
  threshold : Single
  total : Nat
  /-- The first row of all, kept or not. -/
  bestMatch : Option MatchResult
  results : List MatchResult
deriving DecidableEq

/-- The score that a row shows. One that is not finite counts as no match. -/
def rankedScore (x : Single) : Single :=
  if x.isFinite then x else noMatchScore

def rankRow (probe : Embedding) (threshold : Threshold) (scale : ConfidenceScale)
    (c : Candidate) : Except VoiceError MatchResult := do
  checkDimension probe c.embedding
  let shown := rankedScore (score probe c.embedding)
  return ⟨c.id, c.speakerName, shown, threshold.accepts shown, scale.classify shown⟩

/-- Whether a row may stand before another. -/
def ranksBefore (a b : MatchResult) : Bool :=
  b.score.orderKey ≤ a.score.orderKey

/-- Rows by falling score; rows of one score keep the order of their candidates. -/
def sortRows (rows : List MatchResult) : List MatchResult :=
  rows.mergeSort ranksBefore

def selectRows (topK : Option Nat) (matchesOnly : Bool) (rows : List MatchResult) :
    List MatchResult :=
  let kept := if matchesOnly then rows.filter (·.sameSpeaker) else rows
  match topK with
  | some k => kept.take k
  | none => kept

def rank (probe : Embedding) (candidates : List Candidate) (options : RankOptions)
    (scale : ConfidenceScale) : Except VoiceError Ranking :=
  if candidates = [] then .error .noCandidates
  else do
    let rows := sortRows (← candidates.mapM (rankRow probe options.threshold scale))
    return ⟨options.threshold.value, candidates.length, rows.head?,
      selectRows options.topK options.matchesOnly rows⟩

end VoiceMatch
