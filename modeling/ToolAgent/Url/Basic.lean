import ToolAgent.Url.Host

/-!
# URLs

The parts of an absolute URL, each in the one form in which it is written.
-/

namespace ToolAgent

/-- Whom a URL is to be used as. Both parts are percent-encoded. -/
structure Userinfo where
  username : String
  password : Option String
deriving DecidableEq, Repr

/-- Where a URL points, before its path. -/
structure Authority where
  user : Option Userinfo := none
  host : Option Host := none
  port : Option Nat := none
deriving DecidableEq

structure Url where
  scheme : String
  authority : Option Authority := none
  path : String
  query : Option String := none
  fragment : Option String := none
deriving DecidableEq

section Writing

def Userinfo.text (user : Userinfo) : String :=
  user.username ++ (user.password.elim "" (":" ++ ·)) ++ "@"

def Authority.text (a : Authority) : String :=
  (a.user.elim "" Userinfo.text) ++ (a.host.elim "" Host.text) ++
    (a.port.elim "" fun port => ":" ++ toString port)

namespace Url

/-- What a request to the URL asks for. -/
def target (url : Url) : String :=
  url.path ++ url.query.elim "" ("?" ++ ·)

/-- A path that begins with two slashes and has no authority before it is kept from looking like
one. -/
def text (url : Url) : String :=
  let start := match url.authority with
    | some a => "//" ++ a.text
    | none => if "//".toList.isPrefixOf url.path.toList then "/." else ""
  url.scheme ++ ":" ++ start ++ url.target ++ url.fragment.elim "" ("#" ++ ·)

end Url

end Writing

namespace Url

def host? (url : Url) : Option Host :=
  url.authority.bind Authority.host

section Credentials

/-- The text that a percent-encoded part of a URL stands for, if it is UTF-8. -/
def decoded? (part : String) : Option String :=
  (Percent.decode (Bytes.ofString part)).toString?

/-- Takes away whom a URL is to be used as, unless that is not text. -/
def withoutUser (url : Url) : Url :=
  match url.authority with
  | some ⟨some user, host, port⟩ =>
    match decoded? user.username with
    | none => url
    | some username =>
      if username ≠ "" || (user.password.bind decoded?).isSome then
        { url with authority := some { host, port } }
      else url
  | _ => url

end Credentials

end Url

end ToolAgent
