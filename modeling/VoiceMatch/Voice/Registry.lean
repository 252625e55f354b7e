import VoiceMatch.Bytes
import VoiceMatch.Voice.Error

/-! Registered voices, as verification reads them and as kept in memory. Entries have a stable
order. -/

namespace VoiceMatch

inductive StoredVoice where
  /-- The bytes of an embedding. -/
  | embedding (bytes : Bytes)
  /-- Mono samples, from which the embedding is computed when it is needed. -/
  | recording (samples : List Int16) (rate : UInt32)
deriving DecidableEq

structure RegistryEntry where
  id : String
  speakerName : String
  voice : StoredVoice
deriving DecidableEq

/-- What verification sees of registered voices. Reading them may fail. -/
structure Registry where
  entries : Except VoiceError (List RegistryEntry)
  count : Except VoiceError Nat := entries.map List.length

/-- Entries in the order of their first insertion, no two with the same id. -/
structure MemoryRegistry where
  entries : List RegistryEntry
deriving DecidableEq

namespace MemoryRegistry

def empty : MemoryRegistry := ⟨[]⟩

/-- Puts an entry in the place of the first one with its id, or at the end. -/
def place (entry : RegistryEntry) : List RegistryEntry → List RegistryEntry
  | [] => [entry]
  | e :: rest => if e.id = entry.id then entry :: rest else e :: place entry rest

def insert (r : MemoryRegistry) (entry : RegistryEntry) : MemoryRegistry :=
  ⟨place entry r.entries⟩

/-- Removes the entry with an id, and tells whether there was one. -/
def remove (r : MemoryRegistry) (id : String) : Bool × MemoryRegistry :=
  let kept := r.entries.filter fun e => e.id ≠ id
  (kept.length ≠ r.entries.length, ⟨kept⟩)

def size (r : MemoryRegistry) : Nat := r.entries.length

def toRegistry (r : MemoryRegistry) : Registry where
  entries := .ok r.entries
  count := .ok r.size

end MemoryRegistry

end VoiceMatch
