import ToolAgent.Json.Fault
import ToolAgent.Url.Host

/-!
# Why a completion fails

From the request that cannot be built to the reply that makes no sense, with the wording of each.
-/

namespace ToolAgent

/-- Why the system opens no connection to an address. -/
inductive ConnectFault where
  | networkUnreachable
  /-- This machine has no address to call from. -/
  | noOwnAddress
  /-- The address leaves open which network it is on. -/
  | vagueAddress
deriving DecidableEq, Repr

def ConnectFault.message : ConnectFault → String
  | networkUnreachable => "Network is unreachable (os error 101)"
  | noOwnAddress => "Cannot assign requested address (os error 99)"
  | vagueAddress => "Invalid argument (os error 22)"

/-- Why a request did not get there or its reply did not get back. -/
inductive TransportFailure where
  | unconnected (fault : ConnectFault)
  /-- The name of the host could not be looked up. -/
  | unknownHost
  | invalidUrl (fault : UrlFault)
  | unsupportedScheme (url : String)
  /-- The URL has no place in a request. -/
  | unsendableUrl (url : String)
  | invalidHeader
  | brokenBody
deriving DecidableEq, Repr

namespace TransportFailure

/-- The stages of a connection that was not made, outermost first. -/
def connecting (stage cause : String) : List String :=
  let connect := stage ++ ": " ++ cause
  ["error trying to connect: " ++ connect, connect, cause]

/-- The stages of the failure that have a wording of their own, outermost first. -/
def causes : TransportFailure → List String
  | unconnected fault => connecting "tcp connect error" fault.message
  | unknownHost =>
    connecting "dns error"
      "failed to lookup address information: Temporary failure in name resolution"
  | invalidUrl fault => [fault.message]
  | unsupportedScheme _ => ["URL scheme is not allowed"]
  | unsendableUrl _ => ["Parsed Url is not a valid Uri"]
  | invalidHeader => ["failed to parse header value"]
  | brokenBody => ["error reading a body from connection"]

/-- What the outermost stage says, before its cause. -/
def context (url : String) : TransportFailure → String
  | unconnected _ | unknownHost => "error sending request for url (" ++ url ++ ")"
  | unsupportedScheme url | unsendableUrl url => "builder error for url (" ++ url ++ ")"
  | invalidUrl _ | invalidHeader => "builder error"
  | brokenBody => "error decoding response body"

def message (url : String) (failure : TransportFailure) : String :=
  ": ".intercalate (failure.context url :: failure.causes.take 1)

end TransportFailure

inductive GatewayFailure where
  | duplicateTool (name : String)
  | transport (url : String) (failure : TransportFailure)
  | refused (status : Nat) (text : Option String)
  | inputTooLong (text : String)
  | unreadableBody (error : Json.ParseError)
  | unreadableChunk (error : Json.ParseError) (payload : String)
  | streamFailed
  | streamError (error : Json)
  | replyError (error : Json)
  | noMessage (response : Json)

/-- The name of a status code. -/
def statusReason : Nat → String
  | 100 => "Continue" | 101 => "Switching Protocols" | 102 => "Processing"
  | 200 => "OK" | 201 => "Created" | 202 => "Accepted" | 203 => "Non Authoritative Information"
  | 204 => "No Content" | 205 => "Reset Content" | 206 => "Partial Content"
  | 207 => "Multi-Status" | 208 => "Already Reported" | 226 => "IM Used"
  | 300 => "Multiple Choices" | 301 => "Moved Permanently" | 302 => "Found" | 303 => "See Other"
  | 304 => "Not Modified" | 305 => "Use Proxy" | 307 => "Temporary Redirect"
  | 308 => "Permanent Redirect"
  | 400 => "Bad Request" | 401 => "Unauthorized" | 402 => "Payment Required" | 403 => "Forbidden"
  | 404 => "Not Found" | 405 => "Method Not Allowed" | 406 => "Not Acceptable"
  | 407 => "Proxy Authentication Required" | 408 => "Request Timeout" | 409 => "Conflict"
  | 410 => "Gone" | 411 => "Length Required" | 412 => "Precondition Failed"
  | 413 => "Payload Too Large" | 414 => "URI Too Long" | 415 => "Unsupported Media Type"
  | 416 => "Range Not Satisfiable" | 417 => "Expectation Failed" | 418 => "I'm a teapot"
  | 421 => "Misdirected Request" | 422 => "Unprocessable Entity" | 423 => "Locked"
  | 424 => "Failed Dependency" | 426 => "Upgrade Required" | 428 => "Precondition Required"
  | 429 => "Too Many Requests" | 431 => "Request Header Fields Too Large"
  | 451 => "Unavailable For Legal Reasons"
  | 500 => "Internal Server Error" | 501 => "Not Implemented" | 502 => "Bad Gateway"
  | 503 => "Service Unavailable" | 504 => "Gateway Timeout" | 505 => "HTTP Version Not Supported"
  | 506 => "Variant Also Negotiates" | 507 => "Insufficient Storage" | 508 => "Loop Detected"
  | 510 => "Not Extended" | 511 => "Network Authentication Required"
  | _ => "<unknown status code>"

namespace GatewayFailure

def message : GatewayFailure → String
  | duplicateTool name => "Duplicate tool name: " ++ name
  | transport url failure => failure.message url
  | refused status none => s!"Request failed: {status} {statusReason status}"
  | refused status (some text) => s!"Request failed: {status} {statusReason status}: " ++ text
  | inputTooLong text => "Input message too long. Message: " ++ text
  | unreadableBody error => "error decoding response body: " ++ error.message
  | unreadableChunk error payload =>
    "Failed to parse stream chunk: " ++ error.message ++ " (data: " ++ payload ++ ")"
  | streamFailed => "Gateway reported an error in the completion stream"
  | streamError error => "Gateway stream error: " ++ error.toText
  | replyError error => "Gateway API error: " ++ error.toText
  | noMessage response => "No message in response: " ++ response.toText

/-- The texts of the failures that led to this one, nearest first. -/
def causes : GatewayFailure → List String
  | transport _ failure => failure.causes
  | unreadableBody error => [error.message]
  | _ => []

end GatewayFailure

end ToolAgent
