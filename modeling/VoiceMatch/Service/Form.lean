import VoiceMatch.Number.Decimal
import VoiceMatch.Service.PartHeader
import VoiceMatch.Service.Upload

/-! Forms of files and text fields. Of several parts with one name the last one counts. -/

namespace VoiceMatch

/-- One part of a form. Parts with a file name are files, and parts without a name do not count. -/
structure FormPart extends PartHeader where
  data : Bytes

structure Form where
  files : List (String × String × Bytes)
  fields : List (String × String)

namespace Form

def empty : Form := ⟨[], []⟩

/-- Puts a value under a name and drops the one before. -/
def put {α : Type} (name : String) (value : α) (entries : List (String × α)) :
    List (String × α) :=
  (name, value) :: entries.filter fun e => e.1 ≠ name

/-- Adds a part. A file must not be longer than the limit. -/
def add (limit : Nat) (form : Form) (part : FormPart) : Except ServiceError Form :=
  match part.name, part.filename with
  | none, _ => .ok form
  | some name, some filename =>
    if limit < part.data.length then .error (.payloadTooLarge limit)
    else .ok { form with files := put name (filename, part.data) form.files }
  | some name, none => .ok { form with fields := put name (part.charset.text part.data) form.fields }

/-- Takes the file of a name out of the form. -/
def takeUpload (form : Form) (name : String) : Except ServiceError Upload × Form :=
  match form.files.lookup name with
  | none => (.error (.missingFile name), form)
  | some (filename, data) =>
    (Upload.create filename data, { form with files := form.files.filter fun e => e.1 ≠ name })

/-- A text field without blanks around it, if there is more than blanks. -/
def text (form : Form) (name : String) : Option String :=
  ((form.fields.lookup name).map trimText).filter (· ≠ "")

/-- Reads a text field with a reader of numerals. -/
def parse {α : Type} (form : Form) (name : String)
    (read : List Char → Except NumeralFault α) : Except ServiceError (Option α) :=
  match form.text name with
  | none => .ok none
  | some s =>
    match read s.toList with
    | .ok a => .ok (some a)
    | .error fault => .error (.badRequest s!"invalid {name} {quoteText s}: {fault.message}")

def single (form : Form) (name : String) : Except ServiceError (Option Single) :=
  form.parse name fun cs => (Numeral.parse cs).map Numeral.toSingle

def natural (form : Form) (name : String) : Except ServiceError (Option Nat) :=
  form.parse name (parseNatural (UInt64.size - 1))

/-- A field that says yes or no. Without it the answer is no. -/
def flag (form : Form) (name : String) : Except ServiceError Bool :=
  match form.text name with
  | none => .ok false
  | some s =>
    let word := String.ofList (s.toList.map Char.toLower)
    if word ∈ ["true", "1", "yes", "on"] then .ok true
    else if word ∈ ["false", "0", "no", "off"] then .ok false
    else .error (.badRequest s!"invalid {name} {quoteText word}: expected true or false")

end Form

end VoiceMatch
