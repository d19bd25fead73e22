import Shopfront.Backend.Call

/-! A scripted backend: each endpoint has replies in store and a reply for when they are used up. -/

namespace Shopfront

structure Script where
  /-- Replies in store. -/
  replies : List (Endpoint × Reply)
  /-- The replies for when none is in store; without one it is null. -/
  defaults : List (Endpoint × Reply)

namespace Script

def queue (s : Script) (endpoint : Endpoint) (replies : List Reply) : Script :=
  { s with replies := s.replies ++ replies.map fun r => (endpoint, r) }

def serve (s : Script) (call : Call) : Script × Reply :=
  match call.endpoint.takeFirst s.replies with
  | (some r, rest) => ({ s with replies := rest }, r)
  | (none, _) => (s, (s.defaults.lookup call.endpoint).getD (.value .null))

end Script

end Shopfront
