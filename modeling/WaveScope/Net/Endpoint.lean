import WaveScope.Net.Address
import WaveScope.Text.Blank
import WaveScope.Text.Quoted

/-!
# Endpoints

The host and port of the sample server.  A host that is an IP literal (after trimming blanks and
one pair of square brackets) needs no name lookup; it is written back with brackets when it is an
IPv6 address, so that the port separator stays unambiguous.  Any other host is written as given.

Connection failures are values of `ConnectError`, each naming the endpoint.

**Main statement.**  `text_of_not_literal` says a host that is no IP literal is written as given.
-/

namespace WaveScope.Net

open Os

/-- The sample server's address as configured. -/
structure Endpoint where
  host : String
  port : Nat
deriving DecidableEq, Repr

namespace Endpoint

/-- The server the scope connects to unless told otherwise. -/
def default : Endpoint := ⟨"127.0.0.1", 60001⟩

/-- The IP address the host spells, after trimming blanks and one pair of square brackets. -/
def literalIp (e : Endpoint) : Option IpAddr :=
  let h := Text.trimBlank e.host
  let inner :=
    if h.startsWith "[" && h.endsWith "]" && h.length ≥ 2 then
      String.ofList ((h.toList.drop 1).take (h.length - 2))
    else h
  parseIp inner

/-- The endpoint as text: `[ip]:port` for an IPv6 literal, `host:port` otherwise. -/
def text (e : Endpoint) : String :=
  match e.literalIp with
  | some (.v6 gs) => socketText (.v6 gs) e.port
  | _ => e.host ++ ":" ++ toString e.port

/-- The structural form of an endpoint. -/
def debug (e : Endpoint) : String :=
  "Endpoint \x7b host: " ++ Text.quoted e.host ++ ", port: " ++ toString e.port ++ " \x7d"

theorem text_of_not_literal (e : Endpoint) (h : e.literalIp = none) :
    e.text = e.host ++ ":" ++ toString e.port := by
  unfold text
  rw [h]

end Endpoint

/-- Why a connection could not be started. -/
inductive ConnectError where
  | resolve (endpoint : Endpoint) (source : IoError)
  | noAddress (endpoint : Endpoint)
  | io (endpoint : Endpoint) (source : IoError)
deriving DecidableEq, Repr

namespace ConnectError

/-- The name of the kind of failure. -/
def kind : ConnectError → String
  | .resolve .. => "Resolve"
  | .noAddress .. => "NoAddress"
  | .io .. => "Io"

/-- The message of the failure. -/
def message : ConnectError → String
  | .resolve e s => "Failed to resolve " ++ e.text ++ ": " ++ s.message
  | .noAddress e => "No address found for " ++ e.text
  | .io e s => "Failed to connect to " ++ e.text ++ ": " ++ s.message

/-- The underlying I/O error, if any. -/
def source? : ConnectError → Option IoError
  | .resolve _ s => some s
  | .noAddress _ => none
  | .io _ s => some s

/-- The structural form of the failure. -/
def debug : ConnectError → String
  | .resolve e s => "Resolve \x7b endpoint: " ++ e.debug ++ ", source: " ++ Text.Os.IoError.debug s ++ " \x7d"
  | .noAddress e => "NoAddress \x7b endpoint: " ++ e.debug ++ " \x7d"
  | .io e s => "Io \x7b endpoint: " ++ e.debug ++ ", source: " ++ Text.Os.IoError.debug s ++ " \x7d"

end ConnectError

namespace Endpoint

/-- The socket address of a literal host.  A name is looked up with `lookup`; a name holding a
NUL byte is refused before any lookup, and a lookup with no answer is `noAddress`. -/
def resolve (e : Endpoint) (lookup : String → Nat → Except IoError (List IpAddr)) :
    Except ConnectError IpAddr :=
  match e.literalIp with
  | some ip => .ok ip
  | none =>
    if e.host.toList.contains '\x00' then .error (.resolve e IoError.nulByte)
    else match lookup e.host e.port with
      | .error s => .error (.resolve e s)
      | .ok [] => .error (.noAddress e)
      | .ok (ip :: _) => .ok ip

end Endpoint

end WaveScope.Net
