import CloudClient.Http.Dialogue
import CloudClient.Page.Codec
import CloudClient.Page.Cursor
/-! A collection of a provider: one `GET` per page, with the options in the query and the same headers
each time. -/
namespace CloudClient.Page

open CloudClient.Http

structure Listing (α : Type) where
  path : String
  codec : Codec
  headers : Headers
  item : Json.Decoder α

namespace Listing

variable {α σ ο : Type} [Options ο]

def new (path : String) (item : Json.Decoder α) : Listing α := ⟨path, .bare, [], item⟩

def request (l : Listing α) (options : ο) : Request :=
  ((Request.get l.path).addQuery (Options.query options)).addHeaders l.headers

def decodeItem (l : Listing α) (item : Json) : Outcome α :=
  (l.item.ofValue item).mapError fun cause => .malformed (.item cause)

def read (l : Listing α) (reply : Outcome Response) : Outcome (Page α) :=
  reply.bind fun response => (l.codec.decode response.body).bind fun page => page.tryMap l.decodeItem

def page (l : Listing α) (options : ο) : Dialogue (Page α) :=
  .checked (Options.validate options) (.once (l.request options) l.read)

def fetcher (l : Listing α) (execute : Executor σ) : Fetcher σ ο α := fun options s =>
  (l.page options).run execute s

end Listing
end CloudClient.Page
