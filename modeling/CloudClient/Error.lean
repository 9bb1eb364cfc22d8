import CloudClient.Href
import CloudClient.Json.DecodeError
/-! Failures of a request or of an argument. A status of a provider is classified once, by `ofStatus`;
everything above works with the causes. -/
namespace CloudClient

inductive Malformed
  | body (cause : Json.DecodeError)
  | pageBody (cause : Json.DecodeError)
  | item (cause : Json.DecodeError)
  | value (cause : Json.DecodeError)
  | href (fault : Href.Fault)
  | itemsKind (path : String) (found : String)
  | markerKind (path : String) (found : String)
  | linksKind (path : String) (found : String)
  | missingEnvelope (key path : String)
  | other (text : String)
  deriving DecidableEq, Repr

def Malformed.message : Malformed → String
  | body cause => "Failed to decode response body: " ++ cause.message
  | pageBody cause => "Failed to parse page body: " ++ cause.message
  | item cause => "Failed to decode item: " ++ cause.message
  | value cause => cause.message
  | href fault => fault.message
  | itemsKind path found => "Expected an array at '" ++ path ++ "', found " ++ found
  | markerKind path found => "Marker at '" ++ path ++ "' must be a string, found " ++ found
  | linksKind path found => "Links at '" ++ path ++ "' must be an array, found " ++ found
  | missingEnvelope key path => "Missing '" ++ key ++ "' in response from " ++ path
  | other text => text

def Malformed.cause? : Malformed → Option Json.DecodeError
  | body cause | pageBody cause | item cause | value cause => some cause
  | _ => none

inductive InvalidArgument
  | lifetime (what : String) (least greatest given : Nat)
  | pageLimit (greatest given : Nat)
  | listLimit
  | sortDirection (given : String)
  | queueName (given : String)
  | streamMarker (given : String)
  | other (text : String)
  deriving DecidableEq, Repr

def InvalidArgument.message : InvalidArgument → String
  | lifetime what least greatest given =>
    what ++ " must be between " ++ toString least ++ "s and " ++ toString greatest ++ "s, got " ++
      toString given ++ "s"
  | pageLimit greatest given =>
    "limit must be between 1 and " ++ toString greatest ++ ", got " ++ toString given
  | listLimit => "limit must be positive"
  | sortDirection given => "sort direction must be asc or desc, got '" ++ given ++ "'"
  | queueName given => "Invalid queue name '" ++ given ++ "'"
  | streamMarker given => "Invalid stream marker '" ++ given ++ "'"
  | other text => text

inductive TransportFault
  | unsendable
  | notConnected
  | broken
  deriving DecidableEq, Repr

inductive Error
  | notFound (resource : String)
  | unauthorized (message : String)
  | forbidden (message : String)
  | rateLimited (retryAfter : Nat)
  | serverError (status : Nat) (body : String)
  | httpStatus (status : Nat) (body : String)
  | malformed (what : Malformed)
  | claimMismatch (message claim : String) (heldBy : Option String)
  | notClaimed (message : String)
  | transport (fault : TransportFault)
  | timeout (millis : Nat)
  | maxRetriesExceeded (retries : Nat)
  | invalidUrl (cause : Url.ParseError)
  | invalidArgument (what : InvalidArgument)
  | config (text : String)
  deriving DecidableEq, Repr

namespace Error

def message : Error → String
  | notFound resource => "Not found: " ++ resource
  | unauthorized text => "Unauthorized: " ++ text
  | forbidden text => "Forbidden: " ++ text
  | rateLimited seconds => "Rate limited, retry after " ++ toString seconds ++ "s"
  | serverError status body => "Server error " ++ toString status ++ ": " ++ body
  | httpStatus status body => "HTTP " ++ toString status ++ ": " ++ body
  | malformed what => "Malformed response: " ++ what.message
  | claimMismatch message claim _ =>
    "Message '" ++ message ++ "' is not held by claim '" ++ claim ++ "'"
  | notClaimed message => "Message '" ++ message ++ "' is not claimed"
  | transport _ => "HTTP request failed"
  | timeout millis => "Request timeout after " ++ toString millis ++ "ms"
  | maxRetriesExceeded retries => "Max retries (" ++ toString retries ++ ") exceeded"
  | invalidUrl cause => "Invalid URL: " ++ cause.message
  | invalidArgument what => "Invalid argument: " ++ what.message
  | config text => "Configuration error: " ++ text

def defaultRetryAfter : Nat := 60

def ofStatus (status : Nat) (body : String) (retryAfter : Option Nat) : Error :=
  if status = 401 then unauthorized body
  else if status = 403 then forbidden body
  else if status = 404 then notFound body
  else if status = 429 then rateLimited (retryAfter.getD defaultRetryAfter)
  else if 500 ≤ status ∧ status ≤ 599 then serverError status body
  else httpStatus status body

def isNotFound : Error → Bool
  | notFound _ => true
  | _ => false

def isRetryable : Error → Bool
  | transport _ | rateLimited _ | timeout _ | serverError .. => true
  | _ => false

def ofDecode (cause : Json.DecodeError) : Error := malformed (.value cause)

def ofHref (fault : Href.Fault) : Error := malformed (.href fault)

end Error

abbrev Outcome (α : Type) := Except Error α

/-! A missing resource as an answer: a look-up of something that is gone finds nothing, and a deletion
of it has nothing to do. -/

def Outcome.noneIfMissing {α : Type} : Outcome α → Outcome (Option α)
  | .ok a => .ok (some a)
  | .error e => if e.isNotFound then .ok none else .error e

def Outcome.foundAny {α : Type} (r : Outcome α) : Outcome Bool := r.noneIfMissing.map Option.isSome

end CloudClient
