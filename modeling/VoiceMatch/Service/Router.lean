import VoiceMatch.Service.Handlers

/-! From requests to responses: each route has one method, and a request for any other way or
place gets a bare status. -/

namespace VoiceMatch

inductive Route where
  | health
  | embed
  | verify
  | verifyFiles
  | register
  | listRegistered
  | delete (filename : String)
  | rankRegistered

namespace Route

def method : Route → String
  | .health | .listRegistered => "GET"
  | .delete _ => "DELETE"
  | _ => "POST"

/-- The route of a path. A file name is kept as it stands in the path. -/
def ofPath? (path : String) : Option Route :=
  if path = "/health" then some .health
  else if path = "/embed" then some .embed
  else if path = "/verify" then some .verify
  else if path = "/verify-files" then some .verifyFiles
  else if path = "/register" then some .register
  else if path = "/registered" then some .listRegistered
  else if path = "/verify-against-registered" then some .rankRegistered
  else
    let start := "/delete/".toList
    let rest := path.toList.drop start.length
    if start.isPrefixOf path.toList ∧ rest ≠ [] ∧ '/' ∉ rest then
      some (.delete (String.ofList rest))
    else none

end Route

namespace Server

variable {σ : Type} (s : Server σ)

def perform (now : LocalTime) (r : Request) : Route → ServerM σ Response
  | .health => s.health
  | .embed => s.embed r
  | .verify => s.verify r
  | .verifyFiles => s.verifyFiles r
  | .register => s.register now r
  | .listRegistered => s.listRegistered
  | .delete name =>
    match pathText? name with
    | some filename => s.delete filename
    | none => pure (.bare 400)
  | .rankRegistered => s.rankRegistered r

/-- The response to a request at a time, and the world after it. -/
def handle (now : LocalTime) (r : Request) (w : World σ) : Response × World σ :=
  if r.method = "OPTIONS" then (.bare 200, w)
  else match Route.ofPath? r.route with
    | none => (.bare 404, w)
    | some route =>
      let isHead := r.method = "HEAD" ∧ route.method = "GET"
      if r.method ≠ route.method ∧ ¬isHead then (.bare 405, w)
      else
        let (result, w) := (s.perform now r route).run w
        let response := match result with
          | .ok response => response
          | .error e => .ofError e
        (if isHead then .bare response.status else response, w)

end Server

end VoiceMatch
