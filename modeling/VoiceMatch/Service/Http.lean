import VoiceMatch.Json
import VoiceMatch.Service.Error
import VoiceMatch.Text.Utf8

/-! Requests and responses. -/

namespace VoiceMatch

structure Request where
  method : String
  /-- The path, or the path behind a scheme and a host. -/
  path : String
  contentType : Option String
  body : Bytes

/-- A status and a JSON body, if there is one. -/
structure Response where
  status : Nat
  body : Option Json

namespace Response

def ok (body : Json) : Response := ⟨200, some body⟩

def bare (status : Nat) : Response := ⟨status, none⟩

def ofError (e : ServiceError) : Response :=
  ⟨e.status, some (.object [("error", .string e.code), ("message", .string e.message)])⟩

end Response

/-- What follows the scheme and the host of a target, if it names them. -/
def dropHost (target : List Char) : List Char :=
  let scheme := target.takeWhile fun c => c.isAlphanum || c = '+' || c = '-' || c = '.'
  match scheme, target.drop scheme.length with
  | _ :: _, ':' :: '/' :: '/' :: rest =>
    match rest.dropWhile fun c => c ≠ '/' && c ≠ '?' with
    | '/' :: rest => '/' :: rest
    | rest => '/' :: rest
  | _, _ => target

/-- The path of a request without its query and its fragment. -/
def Request.route (r : Request) : String :=
  let target := dropHost (r.path.toList.takeWhile (· ≠ '#'))
  String.ofList (target.takeWhile (· ≠ '?'))

/-- Bytes with the escapes of a path resolved. -/
def percentDecode : Bytes → Bytes
  | 37 :: a :: b :: rest =>
    match hex? a, hex? b with
    | some high, some low => UInt8.ofNat (16 * high + low) :: percentDecode rest
    | _, _ => 37 :: percentDecode (a :: b :: rest)
  | b :: rest => b :: percentDecode rest
  | [] => []
where
  hex? (b : UInt8) : Option Nat :=
    if 48 ≤ b ∧ b ≤ 57 then some (b.toNat - 48)
    else if 97 ≤ b ∧ b ≤ 102 then some (b.toNat - 87)
    else if 65 ≤ b ∧ b ≤ 70 then some (b.toNat - 55)
    else none

/-- The text that a part of a path stands for, if it is one. -/
def pathText? (s : String) : Option String := text? (percentDecode (textBytes s))

end VoiceMatch
