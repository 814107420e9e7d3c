import ToolAgent.Gateway.Failure
import ToolAgent.Url.Parser

/-!
# Exchanges with a gateway

One request and its reply, as data. What carries them is a `Transport`, which may fail on the way
out or, by a reply that is cut short, on the way back.
-/

namespace ToolAgent

structure HttpRequest where
  url : String
  authorization : Option String
  /-- JSON text. -/
  body : String
deriving DecidableEq, Repr

structure HttpReply where
  status : Nat := 200
  contentType : Option String := none
  /-- The body as it arrives. -/
  pieces : List Bytes := []
  /-- The connection breaks after these pieces. -/
  isCut : Bool := false
deriving DecidableEq, Repr

namespace HttpRequest

/-- Controls other than the tab have no place in a header. -/
def isHeaderText (s : String) : Bool :=
  s.toList.all fun c => c = '\t' || (0x20 ≤ c.toNat && c.toNat ≠ 0x7F)

/-- Characters of a host that have no place in a request. -/
def unsendable : List Char := ['"', '\x60', '\x7b', '\x7d']

/-- The most bytes of a URL in a request. -/
def urlLimit : Nat := 0xFFFE

def isSendable (url : Url) : Bool :=
  url.text.utf8ByteSize ≤ urlLimit &&
    url.host?.all fun host => !host.text.toList.any unsendable.contains

/-- Where the request goes, if it can be sent at all. -/
def destination (request : HttpRequest) : Except TransportFailure Url := do
  let url ← (Url.parse request.url).mapError .invalidUrl
  if url.host?.isNone then throw (.unsupportedScheme url.text)
  let url := url.withoutUser
  if !request.authorization.all isHeaderText then throw .invalidHeader
  if url.scheme ≠ "http" && url.scheme ≠ "https" then throw (.unsupportedScheme url.text)
  if !isSendable url then throw (.unsendableUrl url.text)
  return url

end HttpRequest

abbrev Transport (σ : Type) := HttpRequest → StateM σ (Except TransportFailure HttpReply)

namespace Transport

/-- Why no connection is opened to such an address without a network. Those that stand for addresses
of four bytes, and those of groups, are looked for on a network; others are called from an address
like them. -/
def offlineFault (address : Ipv6) : ConnectFault :=
  let first := (address.pairs.headD 0).toNat
  if address.pairs.take 6 = [0, 0, 0, 0, 0, 0xFFFF] || 0xFF00 ≤ first then .networkUnreachable
  else if 0xFE80 ≤ first && first < 0xFEC0 then .vagueAddress
  else .noOwnAddress

/-- Why a host cannot be reached without a network. Only the name of this machine needs no
look-up. -/
def offlineFailure : Host → TransportFailure
  | .name name => if name = "localhost" then .unconnected .networkUnreachable else .unknownHost
  | .ipv4 _ => .unconnected .networkUnreachable
  | .ipv6 address => .unconnected (offlineFault address)

/-- The transport of a machine without a network. -/
def offline {σ : Type} : Transport σ := fun request =>
  return .error <|
    match request.destination with
    | .ok url => (url.host?.map offlineFailure).getD (.unsupportedScheme url.text)
    | .error failure => failure

end Transport

namespace HttpReply

/-- The pieces that hold something; some statuses have no body at all. -/
def arriving (reply : HttpReply) : List Bytes :=
  if reply.status = 204 || reply.status = 304 then []
  else reply.pieces.filter (!·.isEmpty)

def isEventStream (reply : HttpReply) : Bool :=
  reply.contentType.any fun type =>
    type.toList.all (fun c => c = '\t' || (0x20 ≤ c.toNat && c.toNat < 0x7F)) &&
      "text/event-stream".toList.isPrefixOf type.toList

end HttpReply

end ToolAgent
