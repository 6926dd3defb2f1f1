import FacetedQuery.Endpoint.Target
import FacetedQuery.Event
import FacetedQuery.Solution.Document

/-!
# Exchanges with endpoints

A query is sent as a form, and the answer is a results document or a fault.  Of the body of an
answer that is no success a start is kept.
-/

namespace FacetedQuery.Endpoint

/-- The form of the results that is asked for. -/
def resultsMediaType : String :=
  "application/sparql-results+json"

def formMediaType : String :=
  "application/x-www-form-urlencoded"

/-- The request that carries a query. -/
structure Message where
  line : String
  accept : String
  contentType : String
  body : String
deriving DecidableEq

/-- The request for a query; `address` is what follows the host. -/
def message (address query : String) : Message where
  line := "POST " ++ target address ++ " HTTP/1.1"
  accept := resultsMediaType
  contentType := formMediaType
  body := "query=" ++ Text.formEncode query

/-- How the body of an answer arrives. -/
inductive Delivery where
  | whole
  /-- The connection ends before the body does. -/
  | cut
  /-- The body does not end in time. -/
  | stalled
deriving DecidableEq

/-- An answer to a request. -/
structure Reply where
  status : Nat
  body : List UInt8
  delivery : Delivery
deriving DecidableEq

/-- What comes of a request. -/
inductive Exchange where
  /-- No connection, or one that ends without an answer. -/
  | failed
  | timedOut
  | answered (reply : Reply)
deriving DecidableEq

namespace Reply

/-- Answers of these statuses have no body, whatever is sent. -/
def isBodiless (reply : Reply) : Bool :=
  reply.status == 204 || reply.status == 304

/-- The reply as it is received. -/
def received (reply : Reply) : Reply :=
  if reply.isBodiless then { reply with body := [], delivery := .whole } else reply

def isSuccess (reply : Reply) : Bool :=
  200 ≤ reply.status && reply.status ≤ 299

/-- The number of bytes that are kept of the text of an answer that is no success. -/
def excerptLimit : Nat :=
  512

/-- The start of a text that is kept: a longer text is cut at the last border within the limit. -/
def excerpt (text : List Char) : List Char :=
  let bytes := Text.encodeUtf8 text
  if excerptLimit < bytes.length then
    Text.takeBytes ((Text.lastCharBorder? excerptLimit bytes).getD 0) text
  else text

/-- The text of an answer; a body that does not arrive whole has none. -/
def text (reply : Reply) : List Char :=
  match reply.delivery with
  | .whole => Text.decodeLossy reply.body
  | .cut => []
  | .stalled => []

/-- What is kept of the text of an answer that is no success. -/
def statusText (reply : Reply) : String :=
  String.ofList (excerpt reply.text)

/-- The solutions of a reply that arrived. -/
def solutions (endpoint : String) (reply : Reply) : Except ExecutionFault (List Solution) :=
  if reply.isSuccess then
    match reply.delivery with
    | .whole => readResults endpoint (documentChars reply.body)
    | .cut => .error (.transport endpoint none)
    | .stalled => .error (.timeout endpoint)
  else .error (.status endpoint reply.status reply.statusText)

end Reply

/-- The solutions that come of an exchange. -/
def Exchange.solutions (endpoint : String) : Exchange → Except ExecutionFault (List Solution)
  | .failed => .error (.transport endpoint none)
  | .timedOut => .error (.timeout endpoint)
  | .answered reply => reply.received.solutions endpoint

/-- What is logged of an exchange. -/
def Exchange.events (endpoint : String) (exchange : Exchange) : List Event :=
  match exchange.solutions endpoint with
  | .ok solutions => [.received endpoint solutions.length]
  | .error _ => []

end FacetedQuery.Endpoint
