import CandleRelay.Gateway.Listener
import CandleRelay.Json.Quoted
import CandleRelay.RelayError

/-!
# The gateway server

The server answers plain requests about itself, turns upgrade requests into sessions, feeds the
sessions from their sockets, and fans out the bus to them. It stops on request, or with an error
when its bus subscription fails or ends; either way every session ends with it.
-/

namespace CandleRelay.Gateway

/-- A plain request: its method, its path without the query, and whether it asks for an upgrade. -/
structure Request where
  method : String
  path : String
  upgrade : Bool := false
  deriving DecidableEq, Repr

/-- What a request is answered with. -/
inductive Reply where
  /-- The client gets a session. -/
  | upgraded
  /-- A JSON page. -/
  | page (body : String)
  /-- Another status. -/
  | status (code : Nat)
  deriving DecidableEq, Repr

/-- A JSON object of figures. -/
def figuresPage (figures : List (String × Nat)) : String :=
  "\x7b" ++ ",".intercalate (figures.map fun f => Json.quoted f.1 ++ ":" ++ toString f.2) ++ "\x7d"

/-- The page that says how the gateway fares. -/
def healthPage (g : Gateway) : String :=
  "\x7b\"status\":\"ok\",\"connections\":" ++ toString g.registry.size ++ ",\"subscriptions\":" ++
    toString g.registry.subscriptionCount ++ "\x7d"

/-- The answer to a request. Pages are read with `GET` or `HEAD` only, and the streaming endpoint
takes nothing but upgrades. -/
def answer (g : Gateway) (r : Request) : Reply :=
  let reads := r.method == "GET" || r.method == "HEAD"
  if r.path == "/ws" then
    if !reads then .status 405 else if r.upgrade then .upgraded else .status 400
  else if r.path == "/health" then
    if reads then .page (healthPage g) else .status 405
  else if r.path == "/stats" then
    if reads then .page (figuresPage g.metrics.figures) else .status 405
  else .status 404

/-- What the server's loop for one client meets. -/
inductive SocketEvent where
  | text (data : Bytes)
  | binary (data : Bytes)
  | ping
  /-- The client closes, or its stream ends or breaks. -/
  | gone
  deriving DecidableEq

/-- A session that no longer takes frames is closed. -/
def endIfClosed (g : Gateway) (i : Nat) : Gateway :=
  match g.sessions[i]? with
  | some s => if s.state = .closed then g.closeSession i else g
  | none => g

/-- Session `i` meets an event on its socket. -/
def onSocket (g : Gateway) (i : Nat) : SocketEvent → Gateway
  | .text data => endIfClosed (g.receive i data).2 i
  | .binary data => endIfClosed (g.receive i data).2 i
  | .ping => g
  | .gone => g.closeSession i

/-- Sessions whose connection was evicted end. -/
def endEvicted (g : Gateway) : Gateway :=
  (List.range g.sessions.length).foldl
    (fun g i =>
      match g.sessions[i]? with
      | some s => if s.finished || g.registry.contains s.id then g else g.closeSession i
      | none => g)
    g

/-- All sessions end. -/
def endAll (g : Gateway) : Gateway :=
  (List.range g.sessions.length).foldl closeSession g

/-- A server: its gateway, and how it ended if it has. -/
structure Server where
  settings : Settings
  gateway : Gateway := {}
  result : Option (Except RelayError Unit) := none

namespace Server

/-- Starts serving; without a bus subscription the server has ended already. -/
def start (settings : Settings) (subscribed : Except BusError Unit) : Server :=
  match subscribed with
  | .ok _ => { settings }
  | .error e => { settings, result := some (.error (.bus e)) }

/-- Whether the server still serves. -/
def isRunning (s : Server) : Bool := s.result.isNone

/-- The server ends, and its sessions with it. -/
def finish (s : Server) (result : Except RelayError Unit) : Server :=
  if s.isRunning then { s with gateway := endAll s.gateway, result := some result } else s

/-- A client connects with an upgrade request. -/
def connect (s : Server) (path : String) (sink : Sink) : Bool × Server :=
  if s.isRunning && answer s.gateway ⟨"GET", path, true⟩ == .upgraded then
    (true, { s with gateway := (s.gateway.openSession sink).2 })
  else (false, s)

/-- A message comes from the bus. -/
def publish (s : Server) (m : Message) : Server :=
  if s.isRunning then
    let (_, _, g) := dispatch s.settings (s.gateway.count .busMessages) m
    { s with gateway := endEvicted g }
  else s

/-- Shutdown is requested. -/
def shutDown (s : Server) : Server := s.finish (.ok ())

/-- The bus goes away. -/
def loseBus (s : Server) : Server := s.finish (.error (.bus .closed))

end Server

end CandleRelay.Gateway
