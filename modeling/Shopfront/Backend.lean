import Shopfront.Backend.Memory
import Shopfront.Backend.Script
import Shopfront.Backend.Web

/-! What answers the calls of a shop, and what can be arranged with it besides. -/

namespace Shopfront

/-- The memory answers a call when its turn comes again, a script and a web backend at once, and a
call that is held waits until it is settled. -/
inductive Backend where
  | memory (m : Memory)
  | script (s : Script)
  | held
  | web (w : Web)

/-- Arrangements with a backend. They need no reply and no credential. -/
inductive Arrangement where
  /-- Let the next call of the named endpoint fail. -/
  | failNext (endpoint : String) (status : Option Int) (error : Option String)
  /-- Put a line into the cart. -/
  | addLine (product quantity : Int)
  /-- Put replies in store for the named endpoint. -/
  | queue (endpoint : String) (replies : List Reply)
  | close

namespace Backend

/-- Make an arrangement, and answer with the new line of the cart if there is one. Each kind of
backend knows some arrangements and passes over the others, and over endpoints that do not exist. -/
def arrange (b : Backend) : Arrangement → Backend × Payload
  | .failNext name status error =>
    match b, Endpoint.ofName? name with
    | memory m, some endpoint => (memory (m.failNext endpoint status error), .null)
    | _, _ => (b, .null)
  | .addLine product quantity =>
    match b with
    | memory m => (memory (m.appendLine product quantity), (m.newLine product quantity).payload)
    | _ => (b, .null)
  | .queue name replies =>
    match b, Endpoint.ofName? name with
    | script s, some endpoint => (script (s.queue endpoint replies), .null)
    | _, _ => (b, .null)
  | .close =>
    match b with
    | web w => (web w.close, .null)
    | _ => (b, .null)

end Backend

end Shopfront
