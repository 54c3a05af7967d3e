/-
  Requests sent over the network: a connection for each, which ends with the answer. There is no
  encryption, so a server that asks for it is as good as absent.
-/
import Std.Async.DNS
import Std.Async.TCP
import Std.Async.Timer
import TaintClient.Http.Wire

namespace TaintClient.Network

open Std.Async Std.Net

/-- The mark between the parts of a body. -/
def boundary : IO String := do
  let n ← IO.rand 0 4611686018427387904
  let m ← IO.rand 0 4611686018427387904
  pure ("taint-client-" ++ toString n ++ "-" ++ toString m)

/-- An address and a port. -/
def place (address : IPAddr) (port : UInt16) : SocketAddress :=
  match address with
  | .v4 a => .v4 ⟨a, port⟩
  | .v6 a => .v6 ⟨a, port⟩

/-- A connection to the first of some places that takes one. -/
def connect? : List SocketAddress → Async (Option TCP.Socket.Client)
  | [] => pure none
  | p :: ps => do
    try
      let c ← TCP.Socket.Client.mk
      c.connect p
      pure (some c)
    catch _ => connect? ps

/-- The places of the server of a URL. -/
def places (u : Url) : Async (List SocketAddress) := do
  let name := match (u.host.map Url.Host.text).getD [] with
    | '[' :: rest => rest.dropLast
    | name => name
  let port := ((u.port.or (Url.defaultPort? u.scheme)).getD 0).toUInt16
  let found ← DNS.getAddrInfo (String.ofList name) (toString port)
  pure (found.toList.map (place · port))

/-- All that comes until the connection ends. -/
partial def receive (c : TCP.Socket.Client) (soFar : ByteArray) : Async ByteArray := do
  match ← c.recv? 65536 with
  | some bytes => receive c (soFar ++ bytes)
  | none => pure soFar

/-- Sends a request and waits for the answer, however long it takes. -/
def ask (mark : String) (r : Http.Request) : Async Http.Reply := do
  let found ← try places r.url catch _ => pure []
  match ← connect? found with
  | none => pure .refused
  | some c =>
    try
      c.send (ByteArray.mk (Http.Wire.request mark r).toArray)
      pure (Http.Wire.ofOctets (← receive c .empty).toList)
    catch _ => pure .lost

instance : Inhabited Http.Reply := ⟨.lost⟩

/-- The longest time that is waited, in milliseconds. -/
def longestWait : Nat := 4000000000

/-- Sends a request; if it is past the deadline before there is an answer, that is late. The
deadline is in milliseconds of the clock of the system. -/
def send (deadline : Nat) (r : Http.Request) : IO Http.Reply := do
  if r.url.scheme ≠ "http" then pure .refused
  else
    let mark ← boundary
    let limit := min (deadline - (← IO.monoMsNow)) longestWait
    let late : Async Http.Reply := do
      sleep (Std.Time.Millisecond.Offset.ofNat limit)
      pure .late
    (Async.race (ask mark r) late).block

end TaintClient.Network
