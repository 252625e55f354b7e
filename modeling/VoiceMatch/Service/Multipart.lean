import VoiceMatch.Service.Form

/-! Multipart bodies: parts between lines with a boundary, each with a header of its own. -/

namespace VoiceMatch

/-- Splits bytes at the first place where a pattern stands. -/
def breakAt (pattern : Bytes) (done : Bytes) : Bytes → Option (Bytes × Bytes)
  | [] => if pattern = [] then some (done.reverse, []) else none
  | b :: rest =>
    if pattern.isPrefixOf (b :: rest) then
      some (done.reverse, (b :: rest).drop pattern.length)
    else breakAt pattern (b :: done) rest

def lineEnd : Bytes := [13, 10]

/-- What limits a body: the length of a file, and the length of all of it. -/
structure BodyLimits where
  file : Nat
  whole : Nat

def malformedBody : ServiceError := .badRequest "malformed multipart body"

/-- Reads a part behind a boundary, up to the next one. Its header ends with the first empty line
behind the first line. -/
def readPart (delimiter rest : Bytes) : Option (FormPart × Bytes) :=
  match rest.dropWhile isHeaderBlank with
  | 13 :: 10 :: rest => do
    let (header, rest) ← breakAt (lineEnd ++ lineEnd) [] rest
    let header ← PartHeader.parse? (header ++ lineEnd ++ lineEnd)
    let (data, rest) ← breakAt (lineEnd ++ delimiter) [] rest
    return ({ toPartHeader := header, data }, rest)
  | _ => none

/-- Reads parts from behind a boundary on. Every part takes bytes, so as much fuel as there are bytes
is enough. -/
def readParts (limit : Nat) (delimiter : Bytes) :
    (fuel : Nat) → Form → Bytes → Except ServiceError Form
  | 0, _, _ => .error malformedBody
  | fuel + 1, form, rest =>
    if ([45, 45] : Bytes).isPrefixOf rest then .ok form
    else match readPart delimiter rest with
      | none => .error malformedBody
      | some (part, rest) =>
        match form.add limit part with
        | .error e => .error e
        | .ok form => readParts limit delimiter fuel form rest

/-- Reads a body. What stands before the first boundary does not count. -/
def Form.ofBody (limits : BodyLimits) (contentType : Option String) (body : Bytes) :
    Except ServiceError Form :=
  match (contentType.bind MediaType.parse?).bind MediaType.boundary? with
  | none => .error (.badRequest "not a multipart form with a boundary")
  | some boundary =>
    let delimiter : Bytes := [45, 45] ++ textBytes boundary
    if limits.whole < body.length then .error (.bodyTooLarge "length limit exceeded")
    else match breakAt delimiter [] body with
      | none => .error malformedBody
      | some (_, rest) => readParts limits.file delimiter (body.length + 1) .empty rest

/-! Writing a body. -/

/-- A part behind its boundary. -/
def FormPart.render (boundary : String) (p : FormPart) : Bytes :=
  textBytes ("--" ++ boundary) ++ lineEnd ++ p.toPartHeader.render ++ p.data ++ lineEnd

/-- The body of a form with the given parts. The boundary must not occur in them. -/
def renderBody (boundary : String) (parts : List FormPart) : Bytes :=
  parts.flatMap (FormPart.render boundary) ++ textBytes ("--" ++ boundary ++ "--\r\n")

/-- The content type of a form. -/
def formType (boundary : String) : String := "multipart/form-data; boundary=" ++ boundary

end VoiceMatch
