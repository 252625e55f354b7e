import VoiceMatch.Store.Directory

/-! Files and folders below a root, and what paths lead to. Every step of a path starts from a
folder. -/

namespace VoiceMatch

/-- The names on the way to an entry, the last one first. The root has none. -/
abbrev Location := List String

/-- A tree of files. `sealed` are the folders in which nothing can be made. -/
structure FileTree where
  entries : List (Location × DirectoryEntry)
  sealed : List Location := []
  /-- The folder where paths start that do not start at the root. -/
  working : Location := []

namespace FileTree

variable (t : FileTree)

def find? (location : Location) : Option DirectoryEntry :=
  if location = [] ∨ location = t.working then some .folder else t.entries.lookup location

/-- Follows names from a location. Nothing is above the root. -/
def follow (location : Location) : List String → Except FileError (Location × DirectoryEntry)
  | [] =>
    match t.find? location with
    | some entry => .ok (location, entry)
    | none => .error .notFound
  | name :: rest =>
    match t.find? location with
    | none => .error .notFound
    | some (.file _) => .error .notADirectory
    | some .folder =>
      if name = "" ∨ name = "." then follow location rest
      else if name = ".." then follow location.tail rest
      else if Directory.isTooLongName name then .error .nameTooLong
      else follow (name :: location) rest

/-- Where a path starts. -/
def start (path : String) : Location :=
  if path.startsWith "/" then [] else t.working

/-- The names in a path, if it is not empty and not too long as a whole. -/
def names? (path : String) : Except FileError (List String) :=
  if path = "" then .error .notFound
  else if 4096 ≤ path.utf8ByteSize then .error .nameTooLong
  else .ok (path.splitOn "/")

/-- The bytes of the file at a path. -/
def read (path : String) : Except FileError Bytes := do
  match ← t.follow (t.start path) (← names? path) with
  | (_, .file bytes) => return bytes
  | (_, .folder) => throw .isADirectory

/-- The last folder that names lead to. -/
def lastFolder (location : Location) (names : List String) : Location :=
  match names with
  | [] => location
  | name :: rest =>
    match t.follow location [name] with
    | .ok (next, .folder) => lastFolder next rest
    | _ => location

/-- What a directory at a path would find there. Folders on the way are made with it. -/
def place (path : String) : PathState :=
  let names := ((path.splitOn "/").reverse.dropWhile (· = "")).reverse
  match names? path with
  | .error .notFound => .folder
  | .error e => .unreachable e
  | .ok _ =>
    match t.follow (t.start path) names with
    | .ok (_, .folder) => .folder
    | .ok (_, .file _) => .file
    | .error .notFound =>
      if t.lastFolder (t.start path) names ∈ t.sealed then .unreachable .notFound
      else if names.any Directory.isTooLongName then .unreachable .nameTooLong
      else .free
    | .error e => .unreachable e

end FileTree

end VoiceMatch
