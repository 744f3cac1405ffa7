import Ratchet.Json.Value
import Ratchet.Text.Split
import Ratchet.Text.Whole

/-!
# Requests and responses

The requests that the report service understands, and what it answers. A path
is one of few shapes, each with the methods it allows; a slash too many at its
end is forgiven. A document is sent as text, so one that holds the name of a file
that is no text cannot be sent.
-/

namespace Ratchet.Web

open Json (Value)

/-- A request. -/
structure Request where
  /-- The method. -/
  method : String
  /-- The path. -/
  path : String
  /-- The parameters of the query. -/
  query : List (String × String) := []
  /-- The document that is sent along. -/
  body : Option Value := none

/-! ## Responses -/

/-- The body of a response. -/
inductive Body where
  /-- A document. -/
  | document (v : Value)
  /-- Plain text. -/
  | text (s : String)
  /-- A description of what is wrong with the request. -/
  | rejection

/-- A response. -/
structure Response where
  /-- The status. -/
  status : Nat
  /-- The body. -/
  body : Body

namespace Response

/-- A response with a document. -/
def ok (v : Value) : Response := ⟨200, .document v⟩

/-- A response that tells what went wrong. -/
def detail (status : Nat) (text : String) : Response :=
  ⟨status, .document (.ofMembers [("detail", .ofString text)])⟩

/-- The response to a request that is not valid. -/
def invalid : Response := ⟨422, .rejection⟩

/-- The response when something broke. -/
def broken : Response := ⟨500, .text "Internal Server Error"⟩

end Response

/-! ## Sending -/

mutual

/-- Whether a value can be sent: none of its texts holds half of a surrogate pair. -/
def isSendable : Value → Bool
  | .null | .boolean _ | .number _ => true
  | .string t => !t.any Json.isSurrogate
  | .array items => areSendable items
  | .object members => areSendableMembers members

/-- Whether items can be sent. -/
def areSendable : List Value → Bool
  | [] => true
  | v :: vs => isSendable v && areSendable vs

/-- Whether members can be sent. -/
def areSendableMembers : List (Json.Text × Value) → Bool
  | [] => true
  | (key, v) :: ms => !key.any Json.isSurrogate && isSendable v && areSendableMembers ms

end

/-- A response as it is sent. -/
def Response.sent (r : Response) : Response :=
  match r.body with
  | .document v => if isSendable v then r else broken
  | .text _ | .rejection => r

/-! ## Routes -/

/-- What a path leads to. -/
inductive Route where
  /-- All scans. -/
  | scans
  /-- One scan. -/
  | scan (name : String)
  /-- The components of a scan. -/
  | components (name : String)
  /-- The candidates of a scan. -/
  | candidates (name : String)
  deriving Repr, DecidableEq

/-- The route that the parts of a path spell. -/
def Route.ofParts? : List String → Option Route
  | ["", "api", "scan"] => some .scans
  | ["", "api", "scan", name] => if name = "" then none else some (.scan name)
  | ["", "api", "scan", name, "components"] => if name = "" then none else some (.components name)
  | ["", "api", "scan", name, "candidates"] => if name = "" then none else some (.candidates name)
  | _ => none

/-- The route of a path, whatever slashes it ends with. -/
def Route.ofPath? (path : String) : Option Route :=
  let cs := path.toList
  let bare := (cs.reverse.dropWhile (· = '/')).reverse
  let parts s := Text.splitString '/' s
  (Route.ofParts? (parts path)).or (Route.ofParts? (parts (.ofList bare)))

/-- The methods that a route allows. -/
def Route.methods : Route → List String
  | .scans => ["POST"]
  | .scan _ => ["GET", "DELETE"]
  | .components _ | .candidates _ => ["GET"]

/-! ## Values -/

/-- The truth value that a parameter spells. -/
def flagOf? (s : String) : Option Bool :=
  let s := s.toLower
  if ["1", "true", "t", "yes", "y", "on"].contains s then some true
  else if ["0", "false", "f", "no", "n", "off"].contains s then some false
  else none

/-- A text without a point and noughts at its end. -/
def withoutNoughts (s : List Char) : List Char :=
  let whole := s.takeWhile (· ≠ '.')
  if (s.drop (whole.length + 1)).all (· = '0') then whole else s

/-- The number of candidates that a parameter asks for. -/
def limitOf? (s : String) : Option Nat :=
  (Text.integer? Char.isDigit (withoutNoughts (Text.trim s.toList))).bind fun n =>
    if 1 ≤ n ∧ n ≤ 1000 then some n.toNat else none

/-! ## Questions -/

/-- What can be asked about a scan. -/
inductive Question where
  /-- What it is about, and its summary. -/
  | overview
  /-- Its components, or only those on the frontier. -/
  | components (eligibleOnly : Bool)
  /-- Its first candidates. -/
  | candidates (limit : Nat)
  deriving Repr, DecidableEq

/-- The scan that a route asks about and what it asks, if the parameters are valid. -/
def Route.question? (query : List (String × String)) : Route → Option (String × Question)
  | .scans => none
  | .scan name => some (name, .overview)
  | .components name =>
    (flagOf? ((query.lookup "eligible_only").getD "false")).map fun eligibleOnly =>
      (name, .components eligibleOnly)
  | .candidates name =>
    (limitOf? ((query.lookup "limit").getD "50")).map fun limit => (name, .candidates limit)

end Ratchet.Web
