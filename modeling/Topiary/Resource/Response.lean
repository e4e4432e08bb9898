import Topiary.Json.Reader
import Topiary.Number.Duration
import Topiary.Resource.Disk
import Topiary.Text.Blank

/-!
Answers to requests for documents, and why there may be none.
-/

namespace Topiary.Resource

/-- Why a document was not loaded. -/
inductive Failure where
  /-- The other side refused with a status. -/
  | status (code : Nat)
  | network (reason : String)
  | address (reason : String)
  /-- No answer for so many milliseconds. -/
  | timeout (milliseconds : Nat)
  | decode (reason : String)
  | disk (error : DiskError)
deriving Repr, DecidableEq

def Failure.message : Failure → String
  | .status code => "HTTP error: " ++ toString code
  | .network reason => "Network error: " ++ reason
  | .address reason => "Invalid URL: " ++ reason
  | .timeout milliseconds => "Timed out after " ++ Number.durationText milliseconds
  | .decode reason => "Failed to decode body: " ++ reason
  | .disk error => "I/O error: " ++ error.message

structure Response where
  status : Nat
  headers : List (String × String)
  body : List UInt8
deriving Repr, DecidableEq

namespace Response

/-- The value of the first header with a name, ASCII letters in any case. -/
def header? (r : Response) (name : String) : Option String :=
  (r.headers.find? fun h => Text.lower h.1 == Text.lower name).map Prod.snd

/-- The body as text. -/
def text (r : Response) : Except Failure String :=
  (Text.decodeUtf8 r.body).mapError fun e => .decode e.message

/-- The body as a JSON document. -/
def json (r : Response) : Except Failure Json :=
  match r.text with
  | .error failure => .error failure
  | .ok text =>
    match Json.read text with
    | .ok document => .ok document
    | .error .ended => .error (.decode "the document is cut short")
    | .error .malformed => .error (.decode "the document is malformed")

end Response

end Topiary.Resource
