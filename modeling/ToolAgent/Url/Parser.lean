import ToolAgent.Url.Basic
import ToolAgent.Url.Path

/-!
# Reading URLs

An absolute URL is read into its parts, each in its normal form. How it is read depends on the
scheme.
-/

namespace ToolAgent

/-- How URLs of a scheme are read. -/
inductive SchemeKind where
  | file
  /-- The URLs name a host of the web, with this port unless another is given. -/
  | web (port : Nat)
  | other
deriving DecidableEq, Repr

namespace SchemeKind

def of (scheme : String) : SchemeKind :=
  match scheme with
  | "http" | "ws" => web 80
  | "https" | "wss" => web 443
  | "ftp" => web 21
  | "file" => file
  | _ => other

/-- Backslashes count as slashes but in URLs of other schemes. -/
def isSlash (kind : SchemeKind) (c : Char) : Bool :=
  c = '/' || (c = '\\' && kind ≠ other)

end SchemeKind

namespace Url

/-- What stands before a query or fragment. -/
def front (cs : List Char) : List Char :=
  cs.takeWhile fun c => c ≠ '?' && c ≠ '#'

/-- The query and the fragment. -/
def queryAndFragment (kind : SchemeKind) (cs : List Char) : Option String × Option String :=
  let query (cs : List Char) : String :=
    let also := if kind = .other then [] else ['\x27']
    String.ofList (Percent.encode (also ++ Percent.inQuery) cs)
  let fragment : List Char → Option String
    | [] => none
    | _ :: cs => some (String.ofList (Percent.encode Percent.inFragment cs))
  match cs.drop (front cs).length with
  | '?' :: cs => (some (query (cs.takeWhile (· ≠ '#'))), fragment (cs.dropWhile (· ≠ '#')))
  | cs => (none, fragment cs)

end Url

open Url (front)

/-- The user before the last `@` of an authority, if there is one. -/
def Userinfo.read? (cs : List Char) : Option Userinfo :=
  let encoded (cs : List Char) := String.ofList (Percent.encode Percent.inUserinfo cs)
  let username := cs.takeWhile (· ≠ ':')
  let password := (cs.dropWhile (· ≠ ':')).drop 1
  if username.isEmpty && password.isEmpty then none
  else some {
    username := encoded username
    password := if password.isEmpty then none else some (encoded password) }

namespace Authority

/-- The host at the beginning of a text, up to the first colon outside brackets, and what
follows. -/
def splitHost (isInBrackets : Bool) : List Char → List Char × List Char
  | [] => ([], [])
  | c :: cs =>
    if c = ':' && !isInBrackets then ([], c :: cs)
    else
      let (host, rest) := splitHost (c = '[' || (isInBrackets && c ≠ ']')) cs
      (c :: host, rest)

/-- The port that a text begins with, unless it is the usual one, and what follows it. -/
def readPort (kind : SchemeKind) : List Char → Except UrlFault (Option Nat × List Char)
  | ':' :: cs =>
    let digits := cs.takeWhile Char.isDigit
    let rest := cs.drop digits.length
    match numberIn? 10 digits with
    | some n =>
      if 0xFFFF < n || (!rest.isEmpty && rest.head? ≠ some '\\') then .error .invalidPort
      else .ok (if digits.isEmpty || kind = .web n then none else some n, rest)
    | none => .error .invalidPort
  | cs => .ok (none, cs)

/-- Reads an authority, and returns what follows it. It needs a host, except in a URL of another
scheme that has nothing else there either. -/
def read (kind : SchemeKind) (cs : List Char) : Except UrlFault (Authority × List Char) := do
  let inAuthority := (front cs).takeWhile (!kind.isSlash ·)
  let beyond := cs.drop inAuthority.length
  let located := (inAuthority.reverse.takeWhile (· ≠ '@')).reverse
  let named := inAuthority.take (inAuthority.length - located.length - 1)
  let (name, rest) := splitHost false located
  let user := Userinfo.read? named
  if name.isEmpty then
    let isBare := kind = .other && user.isNone && rest.isEmpty
    if isBare && (inAuthority ≠ ['@'] || beyond.isEmpty) then return ({}, beyond)
    else .error .emptyHost
  else
    let host ← Host.parse (kind ≠ .other) name
    let (port, rest) ← readPort kind rest
    return ({ user, host := some host, port }, rest ++ beyond)

end Authority

namespace Url

/-- The URL of what follows the scheme and the slashes before an authority. -/
def ofAuthority (scheme : String) (cs : List Char) : Except UrlFault Url := do
  let kind := SchemeKind.of scheme
  let (authority, cs) ← Authority.read kind cs
  let path := front cs
  let path := match path with
    | [] => if kind = .other then "" else "/"
    | c :: rest =>
      Path.written (Path.segments false kind.isSlash (if kind.isSlash c then rest else path))
  let (query, fragment) := queryAndFragment kind cs
  return { scheme, authority := some authority, path, query, fragment }

/-- The host of a file. This machine is as good as none. -/
def fileHost (cs : List Char) : Except UrlFault (Option Host) := do
  if cs.isEmpty then return none
  else
    let host ← Host.parse true cs
    return if host = .name "localhost" then none else some host

/-- The URL of a file, from what follows the scheme. A host takes the place after two slashes,
unless a drive stands there. -/
def ofFile (cs : List Char) : Except UrlFault Url := do
  let isSlash := SchemeKind.file.isSlash
  let (host, path) ← match cs with
    | c :: d :: rest =>
      if isSlash c && isSlash d then
        let name := (front rest).takeWhile (!isSlash ·)
        if Path.isDrive name then pure (none, front rest)
        else pure (← fileHost name, (front rest).drop (name.length + 1))
      else pure (none, if isSlash c then front (d :: rest) else front cs)
    | cs => pure (none, (front cs).dropWhile isSlash)
  let segments := Path.segments true isSlash path
  let host := if segments.head?.any Path.isDrive then none else host
  let (query, fragment) := queryAndFragment .file cs
  let path := Path.writtenFile segments
  return { scheme := "file", authority := some { host }, path, query, fragment }

/-- The URL of a scheme whose URLs need not have an authority. -/
def ofOther (scheme : String) (cs : List Char) : Except UrlFault Url :=
  let (query, fragment) := queryAndFragment .other cs
  match cs with
  | '/' :: '/' :: rest => ofAuthority scheme rest
  | '/' :: rest =>
    let segments := Path.segments false SchemeKind.other.isSlash (front rest)
    .ok { scheme, path := Path.written segments, query, fragment }
  | cs => .ok { scheme, path := String.ofList (Percent.encode [] (front cs)), query, fragment }

/-- The scheme before a colon, in lowercase, and what follows the colon. -/
def scheme? (cs : List Char) : Option (String × List Char) :=
  let scheme := cs.takeWhile fun c => c.isAlphanum || c = '+' || c = '-' || c = '.'
  match scheme, cs.drop scheme.length with
  | c :: _, ':' :: rest =>
    if c.isAlpha then some (String.ofList (scheme.map Char.toLower), rest) else none
  | _, _ => none

/-- A text without what does not count: controls and spaces around it, tabs and line breaks in
it. -/
def significant (cs : List Char) : List Char :=
  let isMargin (c : Char) : Bool := c.toNat ≤ 0x20
  let cs := ((cs.dropWhile isMargin).reverse.dropWhile isMargin).reverse
  cs.filter fun c => c ≠ '\t' && c ≠ '\n' && c ≠ '\r'

def parse (text : String) : Except UrlFault Url :=
  match scheme? (significant text.toList) with
  | none => .error .relative
  | some (scheme, rest) =>
    match SchemeKind.of scheme with
    | .file => ofFile rest
    | .web _ => ofAuthority scheme (rest.dropWhile (SchemeKind.of scheme).isSlash)
    | .other => ofOther scheme rest

end Url

end ToolAgent
