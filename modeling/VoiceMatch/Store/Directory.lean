import VoiceMatch.Bytes

/-! One directory of files, as far as a store of recordings can see it. It holds regular files, each
under one name, and folders. Links and special files are left out, and so are names that are no
text. Two names that differ in any character are two entries.

Every operation is one step that fails only for a reason in the directory itself, and then changes
nothing. What else can go wrong with a step is told by `Trouble`: a lack of permission or of space,
a broken disk. Under it a write may leave a part of its file behind. -/

namespace VoiceMatch

inductive FileError where
  | notFound
  | alreadyExists
  | notADirectory
  | isADirectory
  | nameTooLong
  /-- Any other fault, by what the system says of it. -/
  | other (reason : String)
deriving DecidableEq

def FileError.message : FileError → String
  | .notFound => "No such file or directory (os error 2)"
  | .alreadyExists => "File exists (os error 17)"
  | .notADirectory => "Not a directory (os error 20)"
  | .isADirectory => "Is a directory (os error 21)"
  | .nameTooLong => "File name too long (os error 36)"
  | .other reason => reason

inductive DirectoryEntry where
  | file (bytes : Bytes)
  | folder
deriving DecidableEq

/-- The entries of a directory by name. One that is not there has none. -/
structure Directory where
  present : Bool := true
  entries : List (String × DirectoryEntry) := []
deriving DecidableEq

namespace Directory

def find? (d : Directory) (name : String) : Option DirectoryEntry :=
  d.entries.lookup name

def has (d : Directory) (name : String) : Bool := (d.find? name).isSome

/-- Whether a name has more than 255 bytes. -/
def isTooLongName (name : String) : Bool := 255 < name.utf8ByteSize

/-- Why a name cannot be looked up at all. -/
def fault (d : Directory) (name : String) : Option FileError :=
  if !d.present then some .notFound
  else if isTooLongName name then some .nameTooLong
  else none

/-- Takes an entry away. -/
def erase (d : Directory) (name : String) : Directory :=
  { d with entries := d.entries.filter fun e => e.1 ≠ name }

def put (d : Directory) (name : String) (entry : DirectoryEntry) : Directory :=
  { d with entries := (d.erase name).entries ++ [(name, entry)] }

def read (d : Directory) (name : String) : Except FileError Bytes :=
  match d.fault name, d.find? name with
  | some e, _ => .error e
  | none, some (.file bytes) => .ok bytes
  | none, some .folder => .error .isADirectory
  | none, none => .error .notFound

def write (d : Directory) (name : String) (bytes : Bytes) : Except FileError Directory :=
  match d.fault name, d.find? name with
  | some e, _ => .error e
  | none, some .folder => .error .isADirectory
  | none, _ => .ok (d.put name (.file bytes))

def remove (d : Directory) (name : String) : Except FileError Directory :=
  match d.fault name, d.find? name with
  | some e, _ => .error e
  | none, some (.file _) => .ok (d.erase name)
  | none, some .folder => .error .isADirectory
  | none, none => .error .notFound

/-- Gives a file another name. A file that has this name already is replaced. -/
def rename (d : Directory) (source target : String) : Except FileError Directory :=
  match d.read source with
  | .error e => .error e
  | .ok bytes => (d.erase source).write target bytes

/-- The names of all files. -/
def fileNames (d : Directory) : Except FileError (List String) :=
  if !d.present then .error .notFound
  else .ok (d.entries.filterMap fun (name, entry) =>
    match entry with
    | .file _ => some name
    | .folder => none)

/-- Whether a name can be used for a new file: nothing is found under it. -/
def isFree (d : Directory) (name : String) : Bool :=
  (d.fault name).isSome || !d.has name

end Directory

/-- The first number from `i` on whose name is not among those taken. Every taken name is met at
most once, so it is struck off when it is met. -/
def firstFree (name : Nat → String) (taken : List String) (i : Nat) : Nat :=
  if h : name i ∈ taken then firstFree name (taken.erase (name i)) (i + 1) else i
termination_by taken.length
decreasing_by
  have := List.length_pos_of_mem h
  rw [List.length_erase_of_mem h]
  omega

namespace Directory

/-- The number of the first name that is free. -/
def firstFreePlace (d : Directory) (name : Nat → String) : Nat :=
  if d.present then firstFree name ((d.entries.map (·.1)).filter fun n => !d.isFree n) 0 else 0

/-- The first of several names that is free. -/
def firstFreeName (d : Directory) (name : Nat → String) : String :=
  name (d.firstFreePlace name)

end Directory

/-- What goes wrong with one step for a reason outside the directory. -/
structure Trouble where
  cause : FileError
  /-- How many bytes a write stores before it breaks off, if its file is opened at all. -/
  stored : Option Nat := none
  /-- Which of several tries goes wrong. -/
  attempt : Nat := 0
deriving DecidableEq

/-- What a step comes to if there may be trouble with it. -/
def amid {α : Type} (trouble : Option Trouble) (r : Except FileError α) : Except FileError α :=
  match trouble with
  | none => r
  | some t => .error t.cause

/-- The directory after a change that may have failed. -/
def settleChange (d : Directory) : Except FileError Directory → Except FileError Unit × Directory
  | .ok changed => (.ok (), changed)
  | .error e => (.error e, d)

namespace Directory

/-- Writes a file. The file is opened first and is empty then, so what was stored before trouble
came is all that it holds. -/
def writeAmid (d : Directory) (trouble : Option Trouble) (name : String) (bytes : Bytes) :
    Except FileError Unit × Directory :=
  match trouble with
  | none => settleChange d (d.write name bytes)
  | some t =>
    match t.stored with
    | none => (.error t.cause, d)
    | some n => (.error t.cause, (settleChange d (d.write name (bytes.take n))).2)

/-- The first of several names that is free, or the first one that could not be looked up. Such a
name counts as free. -/
def firstFreeNameAmid (d : Directory) (trouble : Option Trouble) (name : Nat → String) : String :=
  match trouble with
  | none => d.firstFreeName name
  | some t => name (min t.attempt (d.firstFreePlace name))

end Directory

/-- What stands at the place where a directory should be. -/
inductive PathState where
  | free
  | folder
  | file
  /-- Nothing can be looked up or made there. -/
  | unreachable (e : FileError)
deriving DecidableEq

/-- Opens a directory, and makes it first if nothing is there. -/
def PathState.openDirectory : PathState → Except FileError Unit
  | .free | .folder => .ok ()
  | .file => .error .alreadyExists
  | .unreachable e => .error e

end VoiceMatch
