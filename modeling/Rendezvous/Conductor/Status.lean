import Rendezvous.Conductor.Operations
import Rendezvous.Conductor.Request

/-!
# Status pages

What a conductor tells about itself: a snapshot of its state and three pages served over HTTP, for
health, status and metrics.
-/

namespace Rendezvous

/-! ## Documents -/

/-- A JSON document. -/
inductive Document where
  | null
  | bool (b : Bool)
  | number (n : Nat)
  | text (s : String)
  | array (items : List Document)
  | object (fields : List (String × Document))

/-- A document that may be absent. -/
def Document.optional {α : Type} (f : α → Document) : Option α → Document
  | none => .null
  | some a => f a

def Role.toDocument (r : Role) : Document := .text r.name

def Address.toDocument (a : Address) : Document :=
  .object [("protocol", .text a.protocol), ("system", .text a.system),
    ("host", .optional .text a.host), ("port", .optional (fun p => .number p.toNat) a.port)]

/-! ## The snapshot -/

/-- A snapshot of a conductor. -/
structure Status where
  /-- The registered players, in order. -/
  players : List (Role × Address)
  barrier : Option Awaited
  connections : Nat
  pendingCommands : Nat
  parkedAddressRequests : Nat

namespace Conductor

/-- The snapshot of a conductor. -/
def status (c : Conductor) : Status where
  players := c.roster.members.map fun (role, m) => (role, m.address)
  barrier := c.gate.awaited
  connections := c.connections.length
  pendingCommands := c.ledger.size
  parkedAddressRequests := c.roster.interestCount

end Conductor

/-- The awaited barrier as a document; its deadline is given in milliseconds. -/
def Awaited.toDocument (b : Awaited) : Document :=
  .object [("name", .text b.name), ("epoch", .number b.epoch.number),
    ("expected", .array (b.expected.map Role.toDocument)),
    ("arrived", .array (b.arrived.map Role.toDocument)),
    ("timeout_ms", .optional (fun t => .number t.wholeMillis.toNat) b.timeout)]

/-- The snapshot as a document. -/
def Status.toDocument (s : Status) : Document :=
  .object [
    ("players", .array (s.players.map fun (role, address) =>
      .object [("role", role.toDocument), ("address", address.toDocument)])),
    ("barrier", .optional Awaited.toDocument s.barrier),
    ("connections", .number s.connections),
    ("pending_commands", .number s.pendingCommands),
    ("parked_address_requests", .number s.parkedAddressRequests)]

/-! ## Metrics -/

/-- One number of the metrics page. -/
structure Metric where
  name : String
  help : String
  kind : String
  /-- What stands between the name and the value. -/
  label : String := ""
  value : Nat

/-- The lines of a metric: what it is, of which type, and its value. -/
def Metric.render (m : Metric) : String :=
  "# HELP testconductor_" ++ m.name ++ " " ++ m.help ++ "\n" ++
  "# TYPE testconductor_" ++ m.name ++ " " ++ m.kind ++ "\n" ++
  "testconductor_" ++ m.name ++ m.label ++ " " ++ Decimal.text m.value ++ "\n"

/-- The version that the pages show. -/
def version : String := "0.1.0"

namespace Conductor

/-- The numbers of the metrics page, in order. -/
def metrics (c : Conductor) : List Metric :=
  let gauge (name help : String) (value : Nat) : Metric :=
    { name, help, kind := "gauge", value }
  let counter (name help : String) (value : Nat) : Metric :=
    { name, help, kind := "counter", value }
  let s := c.status
  [gauge "players_active" "Number of registered players" s.players.length,
    gauge "connections_active" "Number of open connections" s.connections,
    gauge "barrier_active" "Whether a barrier is awaited" (if s.barrier.isSome then 1 else 0),
    gauge "commands_pending" "Fault commands waiting for an ack" s.pendingCommands,
    { name := "info", help := "Server information", kind := "gauge",
      label := "\x7bversion=\"" ++ version ++ "\"\x7d", value := 1 },
    counter "connections_total" "Total connections accepted" c.tally.connections,
    counter "connections_rejected_total" "Connections refused at the player limit"
      c.tally.rejectedConnections,
    counter "handshakes_total" "Successful handshakes" c.tally.handshakes,
    counter "protocol_errors_total" "Protocol and usage errors" c.tally.protocolErrors,
    counter "barriers_opened_total" "Barriers opened" c.tally.barriersOpened,
    counter "barriers_succeeded_total" "Barriers released" c.tally.barriersSucceeded,
    counter "barriers_failed_total" "Barriers failed" c.tally.barriersFailed,
    counter "commands_issued_total" "Fault commands sent" c.tally.commandsIssued,
    counter "commands_acked_total" "Fault commands acknowledged" c.tally.commandsAcked,
    counter "commands_failed_total" "Fault commands timed out or lost" c.tally.commandsFailed]

/-- The health page, but for the time since the start. -/
def health (c : Conductor) : Document :=
  .object [("status", .text (if c.closing then "shutting_down" else "ok")),
    ("version", .text version),
    ("players", .number c.roster.size),
    ("connections", .number c.connections.length),
    ("barrier", .optional (fun b => .text b.name) c.gate.awaited)]

end Conductor

/-! ## Pages -/

/-- What a page holds. -/
inductive Body where
  | plain (text : String)
  | document (d : Document)

/-- The answer to a request. -/
structure Response where
  status : Nat
  contentType : Option String := none
  body : Body := .plain ""

namespace Conductor

/-- The page at a path. -/
def page? (c : Conductor) (path : String) : Option Response :=
  if path = "/health" then
    some { status := 200, contentType := "application/json", body := .document c.health }
  else if path = "/status" then
    some { status := 200, contentType := "application/json",
           body := .document c.status.toDocument }
  else if path = "/metrics" then
    some { status := 200, contentType := "text/plain; version=0.0.4; charset=utf-8",
           body := .plain ("\n".intercalate (c.metrics.map Metric.render)) }
  else none

/-- Answers a request; `HEAD` gets the head of the page. -/
def respond (c : Conductor) (r : Request) : Response :=
  match c.page? r.path with
  | none => { status := 404 }
  | some page =>
    if r.method = "GET" then page
    else if r.method = "HEAD" then { page with body := .plain "" }
    else { status := 405 }

end Conductor

end Rendezvous
