import TokenDesk.Text.Digits
import TokenDesk.Text.Hex

/-!
Addresses on the web in their normal form: every part is kept as it stands in the written address,
with the characters that the part may not hold already percent-encoded.
-/

namespace TokenDesk

/-- The path of an address: plain text, or segments with a slash in front of each. -/
inductive Url.Path
  | plain (text : List Char)
  | segments (parts : List (List Char))
  deriving DecidableEq, Repr

/-- An address on the web. -/
structure Url where
  scheme : List Char
  user : List Char
  password : List Char
  /-- The host, which may be empty; none if nothing stands between scheme and path. -/
  host : Option (List Char)
  port : Option Nat
  path : Url.Path
  query : Option (List Char)
  fragment : Option (List Char)
  deriving DecidableEq, Repr

namespace Url

/-- Why a text is no address, or a relative address leads nowhere. -/
inductive ReadError
  | noBase
  | plainBase
  | emptyHost
  | badPort
  | badDomain
  | badDomainCharacter
  | badIpv4
  | badIpv6
  deriving DecidableEq, Repr

def ReadError.message : ReadError → String
  | .noBase => "relative URL without a base"
  | .plainBase => "relative URL with a cannot-be-a-base base"
  | .emptyHost => "empty host"
  | .badPort => "invalid port number"
  | .badDomain => "invalid international domain name"
  | .badDomainCharacter => "invalid domain character"
  | .badIpv4 => "invalid IPv4 address"
  | .badIpv6 => "invalid IPv6 address"

def segmentText (parts : List (List Char)) : List Char := parts.flatMap fun s => '/' :: s

def Path.text : Path → List Char
  | .plain text => text
  | .segments parts => segmentText parts

def userText (u : Url) : List Char :=
  if u.user.isEmpty && u.password.isEmpty then []
  else u.user ++ (if u.password.isEmpty then [] else ':' :: u.password) ++ ['@']

/-- Whatever stands between the scheme and the path. A path that begins with two slashes would be
read as a host, so a point goes in front of it. -/
def authorityText (u : Url) : List Char :=
  match u.host with
  | some host =>
    '/' :: '/' :: u.userText ++ host ++ (u.port.elim [] fun p => ':' :: Text.numeral p)
  | none =>
    match u.path with
    | .segments ([] :: _ :: _) => ['/', '.']
    | _ => []

/-- A part behind a mark, if the part is there. -/
def markedText (mark : Char) (part : Option (List Char)) : List Char :=
  part.elim [] fun text => mark :: text

def text (u : Url) : List Char :=
  u.scheme ++ ':' :: u.authorityText ++ u.path.text ++ markedText '?' u.query ++
    markedText '#' u.fragment

def toString (u : Url) : String := String.ofList u.text

/-- The schemes whose addresses always have a host, and the port each implies. -/
def defaultPort? (scheme : List Char) : Option Nat :=
  if scheme = "http".toList || scheme = "ws".toList then some 80
  else if scheme = "https".toList || scheme = "wss".toList then some 443
  else if scheme = "ftp".toList then some 21
  else none

def isFile (scheme : List Char) : Bool := scheme = "file".toList

/-- Whether a scheme follows the rules of the web: a backslash is a slash, and the path is never
empty. -/
def isSpecial (scheme : List Char) : Bool := (defaultPort? scheme).isSome || isFile scheme

end Url

end TokenDesk
