import VoiceMatch.Json.Printer
import VoiceMatch.Json.Reader
import VoiceMatch.Json.Values
import VoiceMatch.Voice.Extractor

/-! An extractor on another machine. It is sent the waveform as JSON and answers with a vector. -/

namespace VoiceMatch

structure RemoteRequest where
  url : String
  /-- The credentials to send along, if any. -/
  authorization : Option String
  rate : UInt32
  samples : List Single

def RemoteRequest.body (r : RemoteRequest) : Bytes :=
  textBytes ((Json.object [("sample_rate", .nat r.rate.toNat),
    ("samples", .array (r.samples.map Json.single))]).print .compact)

structure RemoteReply where
  status : Nat
  body : Bytes

/-- Sends a request. There may be no reply. -/
abbrev Transport (σ : Type) := RemoteRequest → StateM σ (Option RemoteReply)

/-- Where requests go. -/
structure RemoteEndpoint where
  url : String
  authorization : Option String
  dimension : Nat
deriving DecidableEq

namespace RemoteEndpoint

def create (url : String) (apiKey : Option String) (dimension : Nat) :
    Except VoiceError RemoteEndpoint :=
  if url = "" then .error (.settings "remote model url is empty")
  else if dimension = 0 then .error (.settings "remote model dimension must be positive")
  else .ok ⟨url, apiKey.map fun key => "Bearer " ++ key, dimension⟩

def vectorOfJson? (j : Json) : Option (List Single) := do
  match ← j.record ["embedding"] 1 1 with
  | [some values] => (← values.items).mapM Json.toSingle
  | _ => none

/-- A status that sends the client elsewhere. Requests are not sent twice. -/
def isRedirect (status : Nat) : Bool :=
  status = 301 || status = 302 || status = 303 || status = 307 || status = 308

/-- The vector in a reply. -/
def vectorOfReply : Option RemoteReply → Except VoiceError (List Single)
  | none => .error (.model "remote extract")
  | some reply =>
    if 400 ≤ reply.status then .error (.model s!"remote extract: http status: {reply.status}")
    else if isRedirect reply.status then .error (.model "remote extract")
    else match (Json.parseBytes? reply.body).bind vectorOfJson? with
      | some values => .ok values
      | none => .error (.model "remote extract: decode response")

def request (e : RemoteEndpoint) (w : Waveform) : RemoteRequest :=
  ⟨e.url, e.authorization, w.rate, w.samples⟩

/-- Whether a text can be sent along in one line: it has no control characters but tabs. -/
def isOneLine (s : String) : Bool :=
  s.toList.all fun c => c = '\t' || (32 ≤ c.toNat && c.toNat ≠ 127)

/-- Credentials that cannot be sent along leave no reply. -/
def extractor {σ : Type} (e : RemoteEndpoint) (send : Transport σ) : Extractor σ where
  dimension := e.dimension
  extract w := ExceptT.mk (
    if e.authorization.all isOneLine then vectorOfReply <$> send (e.request w)
    else pure (vectorOfReply none))

end RemoteEndpoint

end VoiceMatch
