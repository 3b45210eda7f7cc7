import Starry.Source.Connector

/-!
# The end of a `starry::TcpClient`

`~TcpClient` of `net/src/tcp_client.cpp`, called by the loop thread, with `detail::removeConnection`
and `detail::removeConnector`. The loop is that of `Starry.Source.Connector`. The connector is bound
to the raw `this` of its client; it is kept by the client, by its retry timers and, when there is no
connection, for another second by the timer of `removeConnector`.

`client.connector` says that the client or that last timer holds the connector. An open connection
survives its client with another close callback.
-/
namespace Starry.Source

open Starry.Foundation

structure OwnedClient where
  loop : ClientLoop
  /-- The client has not been destroyed. -/
  alive : Bool
  /-- The open connection of a client that was destroyed. -/
  left : Option Nat
  /-- `forceCloseInLoop` is queued for that connection. -/
  forced : Bool
  /-- The timer of `removeConnector` is running. -/
  removing : Bool
  deriving DecidableEq, Repr

namespace OwnedClient

def new : OwnedClient where
  loop := .new
  alive := true
  left := none
  forced := false
  removing := false

inductive Act where
  | client (a : ClientLoop.Act)
  /-- `~TcpClient`; `unique` says that nobody else holds the connection. -/
  | destroy (unique : Bool)
  | removeConnector
  | forceCloseInLoop
  /-- The close callback of a connection that was left. -/
  | closeLeft
  deriving DecidableEq

/-- A `shared_ptr` of the connector goes, which is not that of a retry timer. -/
def dropConnector (l : ClientLoop) : Except Abort ClientLoop :=
  if l.client.connector then
    Connector.release { l with client := { l.client with connector := false } }
  else .ok l

/-- `TcpClient::~TcpClient` -/
def destroy (s : OwnedClient) (unique : Bool) : Except Abort OwnedClient :=
  match s.loop.client.connection with
  | some socket => do
    let loop ← dropConnector
      { s.loop with client := { s.loop.client with connection := none } }
    return { s with loop := loop, alive := false, left := some socket, forced := unique }
  | none =>
    if s.loop.client.connector = false then .error (.undefinedBehaviour .tcpClientCpp 62)
    else .ok { s with loop := Connector.stop s.loop, alive := false, removing := true }

/-- `detail::removeConnection` -/
def removeConnection (s : OwnedClient) : OwnedClient :=
  { s with loop := Connector.queueInLoop s.loop .connectDestroyed, left := none }

/-- `newConnection` is bound to the `this` of the client. -/
def clientStep (s : OwnedClient) (a : ClientLoop.Act) : Except Abort OwnedClient := do
  let loop ← s.loop.step a
  if s.alive = false ∧ loop.client.connection ≠ none then
    .error (.undefinedBehaviour .tcpClientCpp 91)
  else return { s with loop := loop }

def step (s : OwnedClient) : Act → Except Abort OwnedClient
  | .client a => s.clientStep a
  | .destroy unique => s.destroy unique
  | .removeConnector => do
    let loop ← dropConnector s.loop
    return { s with loop := loop, removing := false }
  | .forceCloseInLoop =>
    let run := { s with forced := false }
    .ok (if s.left = none then run else run.removeConnection)
  | .closeLeft => .ok s.removeConnection

def Enabled (s : OwnedClient) : Act → Prop
  | .client (.connect _) | .client .disconnect | .client .stop | .client .enableRetry
  | .destroy _ => s.alive = true
  | .client a => s.loop.Enabled a
  | .removeConnector => s.removing = true
  | .forceCloseInLoop => s.forced = true
  | .closeLeft => s.left ≠ none

def machine : Machine OwnedClient Act Abort where
  enabled := Enabled
  step := step

instance (s : OwnedClient) (a : Act) : Decidable (s.Enabled a) :=
  match a with
  | .client (.connect _) | .client .disconnect | .client .stop | .client .enableRetry
  | .destroy _ | .removeConnector | .forceCloseInLoop => inferInstanceAs (Decidable (_ = _))
  | .client (.timer index answers) =>
    inferInstanceAs (Decidable (s.loop.Enabled (.timer index answers)))
  | .client (.event revents soError selfConnect) =>
    inferInstanceAs (Decidable (s.loop.Enabled (.event revents soError selfConnect)))
  | .client .functor => inferInstanceAs (Decidable (s.loop.Enabled .functor))
  | .client .close => inferInstanceAs (Decidable (s.loop.Enabled .close))
  | .closeLeft => inferInstanceAs (Decidable (_ ≠ _))

instance (s : OwnedClient) (a : Act) : Decidable (machine.enabled s a) :=
  inferInstanceAs (Decidable (s.Enabled a))

end OwnedClient

end Starry.Source
