import CloudClient.Url.Domain
/-! URLs in parts. A path is a list of segments under a root, or, after a scheme that is followed by
no slash, a bare text without segments. -/
namespace CloudClient

inductive Url.ParseError
  | emptyHost
  | invalidPort
  | invalidIpv4
  | invalidIpv6
  | invalidDomain
  | invalidHostCharacter
  | relativeWithoutBase
  deriving DecidableEq, Repr

def Url.ParseError.message : Url.ParseError → String
  | emptyHost => "empty host"
  | invalidPort => "invalid port number"
  | invalidIpv4 => "invalid IPv4 address"
  | invalidIpv6 => "invalid IPv6 address"
  | invalidDomain => "invalid international domain name"
  | invalidHostCharacter => "invalid domain character"
  | relativeWithoutBase => "relative URL without a base"

inductive Url.Host
  | domain (name : List Char)
  | ipv4 (address : Nat)
  | ipv6 (groups : List Nat)
  deriving DecidableEq, Repr

inductive Url.Path
  | segments (list : List (List Char))
  | bare (text : List Char)
  deriving DecidableEq, Repr

structure Url where
  scheme : List Char
  host : Option Url.Host
  port : Option Nat
  path : Url.Path
  query : Option (List Char)
  fragment : Option (List Char)
  deriving DecidableEq, Repr

namespace Url

def isSpecial (scheme : List Char) : Bool :=
  ["http", "https", "ws", "wss", "ftp", "file"].contains (String.ofList scheme)

def isFile (scheme : List Char) : Bool := scheme == "file".toList

def defaultPort (scheme : List Char) : Option Nat :=
  match String.ofList scheme with
  | "http" | "ws" => some 80
  | "https" | "wss" => some 443
  | "ftp" => some 21
  | _ => none

def pathSegments (u : Url) : Option (List (List Char)) :=
  match u.path with
  | .segments [] | .bare _ => none
  | .segments list => some list

def queryPairs (u : Url) : List (String × String) := Form.decode (u.query.getD [])

def pathText (u : Url) : List Char :=
  match u.path with
  | .segments list => list.flatMap ('/' :: ·)
  | .bare text => text

def target (u : Url) : List Char :=
  u.pathText ++ match u.query with
    | some query => '?' :: query
    | none => []

end Url
end CloudClient
