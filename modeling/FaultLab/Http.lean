import FaultLab.Call
import FaultLab.Document

/-! # Requests to remote services

A `Request` goes to a service over a `Carrier`, which comes back with a `Reply`: an answer with a
status and a body, or the reason why there is none.  A service that cannot be reached has not seen
the request; one that breaks off may have. -/

namespace FaultLab.Http

/-- What a request asks for. -/
inductive Method where
  | get
  | post
  | delete
deriving DecidableEq

/-- The name of a method on the wire. -/
def Method.name : Method → String
  | get => "GET"
  | post => "POST"
  | delete => "DELETE"

/-- A request to a service. -/
structure Request where
  method : Method
  url : String
  /-- What shows who asks. -/
  credential : Option String
  body : Option Document

/-- The answer of a service. -/
structure Response where
  status : Nat
  body : String
deriving DecidableEq

/-- What becomes of a request. -/
inductive Reply where
  /-- The service answered. -/
  | answered (response : Response)
  /-- The service could not be reached. -/
  | refused
  /-- The service broke off before its answer. -/
  | brokenOff
  /-- The request cannot be sent at all. -/
  | unusable

/-- Carries requests to their services. -/
abbrev Carrier (σ : Type) := Request → Call σ Reply

/-- The status says that the request was carried out. -/
def isSuccess (status : Nat) : Bool := 200 ≤ status && status < 300

/-- The status blames the request. -/
def isClientError (status : Nat) : Bool := 400 ≤ status && status < 500

/-- The status of a request without valid credentials. -/
def unauthorized : Nat := 401

/-- The status of a request for something that is not there. -/
def notFound : Nat := 404

/-- The status of a service that cannot serve now. -/
def serviceUnavailable : Nat := 503

/-- The registered statuses and their phrases. -/
def phrases : List (Nat × String) := [
  (100, "Continue"), (101, "Switching Protocols"), (102, "Processing"),
  (200, "OK"), (201, "Created"), (202, "Accepted"), (203, "Non Authoritative Information"),
  (204, "No Content"), (205, "Reset Content"), (206, "Partial Content"), (207, "Multi-Status"),
  (208, "Already Reported"), (226, "IM Used"),
  (300, "Multiple Choices"), (301, "Moved Permanently"), (302, "Found"), (303, "See Other"),
  (304, "Not Modified"), (305, "Use Proxy"), (307, "Temporary Redirect"),
  (308, "Permanent Redirect"),
  (400, "Bad Request"), (401, "Unauthorized"), (402, "Payment Required"), (403, "Forbidden"),
  (404, "Not Found"), (405, "Method Not Allowed"), (406, "Not Acceptable"),
  (407, "Proxy Authentication Required"), (408, "Request Timeout"), (409, "Conflict"),
  (410, "Gone"), (411, "Length Required"), (412, "Precondition Failed"),
  (413, "Payload Too Large"), (414, "URI Too Long"), (415, "Unsupported Media Type"),
  (416, "Range Not Satisfiable"), (417, "Expectation Failed"), (418, "I'm a teapot"),
  (421, "Misdirected Request"), (422, "Unprocessable Entity"), (423, "Locked"),
  (424, "Failed Dependency"), (425, "Too Early"), (426, "Upgrade Required"),
  (428, "Precondition Required"), (429, "Too Many Requests"),
  (431, "Request Header Fields Too Large"), (451, "Unavailable For Legal Reasons"),
  (500, "Internal Server Error"), (501, "Not Implemented"), (502, "Bad Gateway"),
  (503, "Service Unavailable"), (504, "Gateway Timeout"), (505, "HTTP Version Not Supported"),
  (506, "Variant Also Negotiates"), (507, "Insufficient Storage"), (508, "Loop Detected"),
  (510, "Not Extended"), (511, "Network Authentication Required")]

/-- A status with its phrase. -/
def describe (status : Nat) : String :=
  match phrases.find? fun (n, _) => n = status with
  | some (_, phrase) => s!"{status} {phrase}"
  | none => s!"{status} <unknown status code>"

/-- An answer on one line. -/
def Response.describe (r : Response) : String := s!"{Http.describe r.status}: {r.body}"

end FaultLab.Http
