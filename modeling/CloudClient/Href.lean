import CloudClient.Url.Parser
/-! Resource hrefs. Providers name resources by absolute or relative hrefs: the last path segment is
the identity of the resource, and claim and marker tokens stand in the query. -/
namespace CloudClient.Href

inductive Fault
  | invalid (href : String) (cause : Url.ParseError)
  | noResource (href : String)
  deriving DecidableEq, Repr

def Fault.message : Fault → String
  | invalid href cause => "Invalid href '" ++ href ++ "': " ++ cause.message
  | noResource href => "No resource id in href '" ++ href ++ "'"

def origin : Url.Origin := ⟨"http".toList, .domain "href.invalid".toList, none⟩

def parse (href : String) : Except Fault Url :=
  (Url.parse (some origin) href).mapError (.invalid href)

def queryParam (href name : String) : Except Fault (Option String) :=
  (parse href).map fun url =>
    (Url.Form.firstValue name url.queryPairs).filter (· != "")

def lastSegment (href : String) : Except Fault String :=
  (parse href).bind fun url =>
    match ((url.pathSegments.getD []).filter (· != [])).getLast? with
    | some segment => .ok (String.ofList segment)
    | none => .error (.noResource href)

end CloudClient.Href
