import UsageLedger.Http.Router
import UsageLedger.Telemetry.Client

/-!
# HTTP messages

A message is a head, which is a first line and headers, and behind an empty
line a body.  Requests to the program and answers of the telemetry service are
read from their bytes, responses and questions are written as text.  Questions
are asked in version 1.0, so that an answer ends where its connection does.
-/

namespace UsageLedger.Http

open UsageLedger.Telemetry (HttpRequest HttpResponse receivedValue)
open UsageLedger.Text

/-- The start of a message. -/
structure Head where
  firstLine : List String
  headers : List (String × String)
  deriving DecidableEq, Repr

/-- Splits bytes at the first empty line. -/
def splitHead : List UInt8 → Option (List UInt8 × List UInt8)
  | 13 :: 10 :: 13 :: 10 :: rest => some ([], rest)
  | byte :: rest => (splitHead rest).map fun (head, body) => (byte :: head, body)
  | [] => none

/-- The text whose characters are the bytes. -/
def byteText (bytes : List UInt8) : String :=
  String.ofList (bytes.map fun byte => Char.ofNat byte.toNat)

/-- A line of a head as a header; the name in small letters. -/
def headerOfLine? (line : String) : Option (String × String) :=
  match line.toList.dropWhile (· != ':') with
  | [] => none
  | _ :: value =>
    let name := line.toList.takeWhile (· != ':')
    some (String.ofList (name.map Char.toLower), receivedValue (String.ofList value))

/-- The head that bytes hold. -/
def Head.ofBytes (bytes : List UInt8) : Head :=
  let lines := (byteText bytes).splitOn "\r\n"
  ⟨(lines.headD "").splitOn " ", lines.tail.filterMap headerOfLine?⟩

/-- The value of a header. -/
def Head.header? (head : Head) (name : String) : Option String :=
  member? name head.headers

/-- The number that a text of digits denotes. -/
def naturalOfText? (text : String) : Option Nat :=
  let digits := text.toList
  if !digits.isEmpty && digits.all isDigit then some (naturalOf digits) else none

/-- The number of bytes that the body of a request has. -/
def Head.bodyLength (head : Head) : Nat :=
  ((head.header? "content-length").bind naturalOfText?).getD 0

def Head.request? (head : Head) (body : List UInt8) : Option Request :=
  match head.firstLine with
  | [method, target, _] =>
    some ⟨method, target, head.header? "content-type", body⟩
  | _ => none

def statusWords : Nat → String
  | 200 => "OK"
  | 400 => "Bad Request"
  | 404 => "Not Found"
  | 405 => "Method Not Allowed"
  | 413 => "Payload Too Large"
  | 415 => "Unsupported Media Type"
  | 422 => "Unprocessable Entity"
  | 503 => "Service Unavailable"
  | _ => "Internal Server Error"

/-- The headers and the body behind the first line of a response. -/
def bodyPart : Option Json → String
  | none => "content-length: 0\r\n\r\n"
  | some json =>
    let body := Json.print json
    "content-type: application/json\r\ncontent-length: " ++
      toString body.utf8ByteSize ++ "\r\n\r\n" ++ body

/-- A response as text; its connection is closed after it. -/
def Response.text (response : Response) : String :=
  "HTTP/1.1 " ++ toString response.status ++ " " ++ statusWords response.status ++
    "\r\nconnection: close\r\n" ++ bodyPart response.body

/-- The response to bytes that are no request. -/
def badRequest : Response := ⟨400, none⟩

/-- A question to the telemetry service as text. -/
def questionText (request : HttpRequest) : String :=
  request.method ++ " " ++ request.address.target ++ " HTTP/1.0\r\nhost: " ++
    request.address.authority ++ "\r\nauthorization: " ++ request.authorization ++
    "\r\naccept: */*\r\n\r\n"

/-- The answer that bytes hold. -/
def answerOfBytes? (bytes : List UInt8) : Option HttpResponse := do
  let (headBytes, body) ← splitHead bytes
  let head := Head.ofBytes headBytes
  let status ← (head.firstLine[1]?).bind naturalOfText?
  some ⟨status, head.headers, body⟩

end UsageLedger.Http
