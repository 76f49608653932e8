import ClusterScript.Text.Quoted
import ClusterScript.Text.Utf8

/-!
# Requests and replies

What a client of a cluster sends and what it gets back: addresses with
form-urlencoded parameters, replies with a status and a text, and the ways in
which a request fails.
-/
namespace ClusterScript

namespace Http

structure Request where
  method : String
  /-- Path and parameters. -/
  uri : String
  /-- Empty if there is none. -/
  body : String
deriving DecidableEq, Repr, Inhabited

/-- What comes of sending a request. -/
inductive Reply
  | answer (status : Nat) (body : String)
  /-- The connection broke. -/
  | broken (text : String)
  /-- No answer came for another reason. -/
  | failure (text : String)
deriving DecidableEq, Repr, Inhabited

/-! ## Addresses -/

/-- Characters that stand for themselves in a form. -/
def isFormChar (b : UInt8) : Bool :=
  (0x30 ≤ b && b ≤ 0x39) || (0x41 ≤ b && b ≤ 0x5A) || (0x61 ≤ b && b ≤ 0x7A) ||
    b == 0x2A || b == 0x2D || b == 0x2E || b == 0x5F

def hexDigit (n : Nat) : Char := if n < 10 then Char.ofNat (48 + n) else Char.ofNat (55 + n)

/-- A byte in a form: a blank as a plus sign, other bytes by two hexadecimal digits. -/
def formByte (b : UInt8) : List Char :=
  if isFormChar b then [Char.ofNat b.toNat]
  else if b == 0x20 then ['+']
  else ['%', hexDigit (b.toNat / 16), hexDigit (b.toNat % 16)]

def formText (s : String) : String := String.ofList ((Text.encode s).flatMap formByte)

/-- A parameter with its separator. -/
def parameter (name value : String) : String := s!"&{name}=" ++ formText value

/-- Bytes that a path may have. -/
def isPathByte (b : UInt8) : Bool :=
  b == 0x21 || b == 0x22 || (0x24 ≤ b && b ≤ 0x3B) || b == 0x3D || (0x40 ≤ b && b ≤ 0x5F) ||
    (0x61 ≤ b && b ≤ 0x7E) || 0x7F ≤ b

/-- Bytes that parameters may have. -/
def isQueryByte (b : UInt8) : Bool :=
  b == 0x21 || (0x24 ≤ b && b ≤ 0x3B) || b == 0x3D || 0x3F ≤ b

/-- Whether bytes form an address up to a fragment; `inQuery` says that its path has ended. -/
def uriOk (inQuery : Bool) : List UInt8 → Bool
  | [] => true
  | b :: rest =>
    if b == 0x23 then true
    else if !inQuery && b == 0x3F then uriOk true rest
    else (if inQuery then isQueryByte b else isPathByte b) && uriOk inQuery rest

/-- An address without its fragment; `none` if some character is not allowed. -/
def uri? (target : String) : Option String :=
  if uriOk false (Text.encode target) then
    some (String.ofList (target.toList.takeWhile (· != '#')))
  else none

/-! ## Failures -/

/-- The cluster's account of an error. -/
structure ErrorReport where
  status : String
  message : String
  reason : String
  code : Nat
deriving DecidableEq, Repr

namespace ErrorReport

def describe (e : ErrorReport) : String :=
  s!"ApiError: {e.message}: {e.reason} (ErrorResponse \x7b status: " ++ Text.quoted e.status ++
    ", message: " ++ Text.quoted e.message ++ ", reason: " ++ Text.quoted e.reason ++
    s!", code: {e.code} \x7d)"

end ErrorReport

/-- How a request fails. -/
inductive Failure
  /-- The cluster answered with an error. -/
  | api (e : ErrorReport)
  /-- The connection broke. -/
  | connection (text : String)
  /-- No answer came for another reason. -/
  | service (text : String)
  | undecodable
  | unsendable (text : String)
deriving DecidableEq, Repr

def Failure.message : Failure → String
  | .api e => e.describe
  | .connection text => "HyperError: " ++ text
  | .service text => "ServiceError: " ++ text
  | .undecodable => "Error deserializing response"
  | .unsendable text => "Failed to build request: " ++ text

/-- `is_retryable_error`: failures that may pass are broken connections, too many requests, and
gateways without an answer in time. -/
def Failure.isTransient : Failure → Bool
  | .connection _ => true
  | .api e => e.code = 429 || e.code = 503 || e.code = 504
  | _ => false

end Http

end ClusterScript
