import Sn360Es.Lib.Hex
import Sn360Es.Lib.Utf8
import Sn360Es.Lib.Whitespace

/-!
# Posting to a sink (`pkg/sinks/webhook/publisher.go`)

`Publish` posts a body once and sorts what comes back: success, a failure for good, or one that may pass. The cause is
an excerpt of the reply, cut by bytes. Texts of the outside are byte strings here, since they need not be valid UTF-8.
-/

namespace Sn360Es.Sinks

open Lib

/-- `PublishOutcome`. -/
inductive PublishOutcome where
  | unknown
  | success
  | permanentFailure
  | retriable
  deriving DecidableEq, Repr

/-- `PublishResult`, but for the latency. -/
structure PublishResult where
  outcome : PublishOutcome := .unknown
  httpStatus : ℕ := 0
  cause : Bytes := []
  deriving DecidableEq, Repr

/-- `Request`; the fields that only go to the headers are left out. -/
structure Request where
  sinkID : String
  tenantID : String
  sinkName : String
  url : String
  format : String
  body : Bytes
  signature : String
  eventID : String
  attempt : ℕ
  deriving DecidableEq, Repr

/-- What becomes of a request. -/
inductive Reply where
  /-- `http.NewRequestWithContext` fails. -/
  | unbuilt (err : Bytes)
  /-- The time is over before the endpoint has answered. -/
  | timeout
  /-- The guard has refused the address. -/
  | blocked (err : Bytes)
  | network (err : Bytes)
  | response (status : ℕ) (location : Bytes) (body : Bytes)
  deriving DecidableEq, Repr

/-- `s[:n] + "..."` if the string is longer. -/
def cutAt (n : ℕ) (s : Bytes) : Bytes := if n < s.length then s.take n ++ bytesOf "..." else s

/-- Line ends and tabs become spaces. -/
def oneLine (s : Bytes) : Bytes := s.map fun b => if b = 0x0A ∨ b = 0x0D ∨ b = 0x09 then 0x20 else b

/-- `shortCause`; the loop leaves one space of a run. -/
def shortCause (body : Bytes) : Bytes :=
  if body = [] then bytesOf "no body"
  else cutAt 200 (Utf8.trimSpace (Whitespace.squeeze (· = (0x20 : UInt8)) 0x20 false (oneLine body)))

/-- `sanitiseError`: the first quoted text goes, and the rest is cut. -/
def sanitiseError (msg : Bytes) : Bytes :=
  cutAt 240 <|
    match GoBytes.index [0x22] msg with
    | none => msg
    | some i =>
      match GoBytes.index [0x22] (msg.drop (i + 1)) with
      | none => msg
      | some j => msg.take i ++ bytesOf "\"<redacted>\"" ++ msg.drop (i + 1 + j + 1)

/-- `sanitiseLocation`. -/
def sanitiseLocation (loc : Bytes) : Bytes := cutAt 256 (Utf8.trimSpace (oneLine loc))

/-- The result of a reply; `quote` is the verb `%q`, and `maxBody` the part of the body that is read. -/
def classify (quote : Bytes → Bytes) (maxBody : ℕ) : Reply → PublishResult
  | .unbuilt err => { outcome := .retriable, cause := bytesOf "build request: " ++ err }
  | .timeout => { outcome := .retriable, cause := bytesOf "timeout" }
  | .blocked err => { outcome := .permanentFailure, cause := bytesOf "blocked: " ++ sanitiseError err }
  | .network err => { outcome := .retriable, cause := bytesOf "network: " ++ sanitiseError err }
  | .response status location body =>
    let http := bytesOf ("http " ++ toString status)
    let excerpt := http ++ bytesOf ": " ++ shortCause (body.take maxBody)
    if 200 ≤ status ∧ status < 300 then { outcome := .success, httpStatus := status, cause := http }
    else if 300 ≤ status ∧ status < 400 then
      { outcome := .permanentFailure, httpStatus := status
        cause := http ++ bytesOf ": redirect not followed (Location=" ++ quote (sanitiseLocation location) ++
          bytesOf ")" }
    else if status = 408 ∨ status = 429 then { outcome := .retriable, httpStatus := status, cause := excerpt }
    else if 400 ≤ status ∧ status < 500 then { outcome := .permanentFailure, httpStatus := status, cause := excerpt }
    else { outcome := .retriable, httpStatus := status, cause := excerpt }

/-- The checks before a request is built. -/
def Request.sendable (req : Request) : Bool :=
  req.url ≠ "" && "https://".toList.isPrefixOf (req.url.toList.map Char.toLower) && req.body ≠ [] && req.signature ≠ ""

/-- `Publish`: the result, and whether the endpoint may have received the request. -/
def publish (quote : Bytes → Bytes) (maxBody : ℕ) (req : Request) (reply : Reply) : PublishResult × Bool :=
  if req.sendable then
    (classify quote maxBody reply,
      match reply with
      | .unbuilt _ | .blocked _ => false
      | _ => true)
  else ({}, false)

end Sn360Es.Sinks
