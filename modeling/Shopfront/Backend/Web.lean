import Shopfront.Backend.Call
import Shopfront.Journal
import Shopfront.Payload.Json

/-! The backend behind a web interface. A call is one request, except that a call that only reads is
sent again when the transport fails or the server has an error, up to a number of attempts. -/

namespace Shopfront

/-- How a request ended: with a response, or without one. -/
inductive Outcome where
  | response (status : Int) (body : String)
  | disconnected (message : String)
  | raised (name message : String)

structure WebRequest where
  method : String
  url : String
  headers : List (String × String)
  timeout : Payload
  query : Option (List (String × String))
  body : Option Fields

structure Web where
  root : String
  timeout : Payload
  attempts : Int
  /-- How the requests end, from the first on. -/
  outcomes : Nat → Outcome
  sent : List WebRequest
  isClosed : Bool

namespace Web

def defaultBase : String := "http://localhost:8080"
def defaultPath : String := "/api/v1"
def defaultTimeout : Payload := .float (Binary64.ofInt 15)
def defaultAttempts : Int := 3

def standingHeaders : List (String × String) :=
  [("User-Agent", "storefront-sync/0.1"), ("Accept", "application/json")]

def dropTrailingSlashes (s : String) : String :=
  String.ofList (s.toList.reverse.dropWhile (· = '/')).reverse

/-- The address in front of every path; an empty base stands for the default one. -/
def rootOf (base path : String) : String :=
  dropTrailingSlashes (if base = "" then defaultBase else base) ++ dropTrailingSlashes path

/-- The payload in a response: null if it is empty, the text itself if it is not JSON. -/
def decode (body : String) : Payload :=
  if body = "" then .null
  else
    match Json.read body with
    | .ok p => p
    | .error _ => .text body

example : ["", " [7, \"9\", null]", "[7,]", "Bad Gateway"].map (fun body => (decode body).quoted) =
    ["None", "[7, '9', None]", "'[7,]'", "'Bad Gateway'"] := by decide +kernel

/-- A path with what goes with it. -/
structure Target where
  method : String
  path : String
  query : Option (List (String × String))
  body : Option Fields

def get (path : String) : Target := ⟨"GET", path, none, none⟩

def idList (ids : List Int) : String := ",".intercalate (ids.map Integer.text)

def target : Call → Target
  | .getFavourites => get "/favourites/"
  | .addFavourite id => ⟨"POST", "/favourites/", none, some [("sneaker_id", .int id)]⟩
  | .removeFavourite id => ⟨"DELETE", "/favourites/" ++ Integer.text id ++ "/", none, none⟩
  | .getProducts => get "/products"
  | .getProductsBatch ids => ⟨"GET", "/products/batch", some [("ids", idList ids)], none⟩
  | .getCart => get "/cart/"
  | .addToCart id quantity =>
    ⟨"POST", "/cart/", none, some [("sneaker_id", .int id), ("quantity", .int quantity)]⟩
  | .updateCartLine line quantity =>
    ⟨"PUT", "/cart/" ++ line.plain, none, some [("quantity", .int quantity)]⟩
  | .removeCartLine line => ⟨"DELETE", "/cart/" ++ line.plain, none, none⟩
  | .getOrders => get "/orders/"

/-- Whether a call only reads, so that it may be sent again. -/
def isRead (call : Call) : Bool := (target call).method == "GET"

/-- What a request's outcome means for the call. -/
def replyOf (t : Target) : Outcome → Reply
  | .response status body =>
    if 400 ≤ status then
      .failure ⟨t.method ++ " " ++ t.path ++ " returned " ++ Integer.text status, some status,
        decode body⟩
    else .value (decode body)
  | .disconnected message =>
    .failure ⟨t.method ++ " " ++ t.path ++ " failed: " ++ message, none, .null⟩
  | .raised name message => .fault (.outside name message)

def journalOf (t : Target) (url : String) : Outcome → Journal
  | .response status _ =>
    if 400 ≤ status then
      [.warning (t.method ++ " " ++ url ++ " returned status " ++ Integer.text status)]
    else []
  | _ => []

/-- The result of sending: the reply, and what the journal says. -/
structure Sent where
  web : Web
  journal : Journal
  reply : Reply

/-- Send one request. -/
def send (w : Web) (headers : List (String × String)) (t : Target) : Sent :=
  let url := w.root ++ t.path
  let outcome := w.outcomes w.sent.length
  { web := { w with sent := w.sent ++
      [⟨t.method, url, headers, w.timeout, t.query, t.body⟩] }
    journal := journalOf t url outcome
    reply := replyOf t outcome }

/-- A failure that may pass: of the transport, or of the server. -/
def mayPass : Reply → Bool
  | .failure f =>
    match f.status with
    | none => true
    | some status => decide (500 ≤ status)
  | _ => false

/-- Send, and send again while the failure may pass and attempts are left. -/
def sendAgain (headers : List (String × String)) (t : Target) : Nat → Web → Sent
  | 0, w => send w headers t
  | left + 1, w =>
    let first := send w headers t
    if mayPass first.reply then
      let last := sendAgain headers t left first.web
      { last with journal := first.journal ++ last.journal }
    else first

/-- One call. -/
def perform (w : Web) (headers : List (String × String)) (call : Call) : Sent :=
  if isRead call then sendAgain headers (target call) (w.attempts.toNat - 1) w
  else send w headers (target call)

def close (w : Web) : Web := { w with isClosed := true }

end Web

end Shopfront
