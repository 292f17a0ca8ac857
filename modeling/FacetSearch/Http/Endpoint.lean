/-
# FacetSearch.Http.Endpoint — what is done for each route.

Searching and compiling read the body first and do nothing if it is rejected.  What the engine
returns, or the compiled document, becomes the data of an answer; data that is no dictionary of
names, or that JSON cannot spell, is a failure.  What depends on the place where the service runs,
and not on the service, is its site.
-/
import FacetSearch.Http.Origin
import FacetSearch.Http.Refusal
import FacetSearch.Http.Route
import FacetSearch.Json.Plain
import FacetSearch.Search.Searcher

namespace FacetSearch

/-- Where the service runs: the index that it searches, the host that a request goes to if it names
none, how deep a body may be nested, and the texts of the pages. -/
structure Site where
  index : Text
  host : Text
  maxDepth : Nat
  pages : Page → Text

namespace Endpoint

open Logging

/-- What comes of an endpoint. -/
abbrev Reply := Except Refusal HttpResponse

/-- Work of an endpoint. -/
abbrev Work := Exchange ClientCall Event Reply

/-- The logger of the product endpoints. -/
def logger : Text := "product_search.app.api.routers.products"

def searchMessage : Value := "검색 성공"

def compileMessage : Value := "컴파일 성공"

def productMessage : Value := "조회 성공"

/-- The failure of an answer that JSON cannot spell. -/
def unwritable : Failure :=
  Failure.ofFault .unwritable "Error serializing to JSON: invalid unicode"

/-- The answer that carries data. -/
def respond (message : Value) (requestId : Text) (data : Value) : Except Failure HttpResponse :=
  match Answer.read (Envelope.success data message (.text requestId)) with
  | .error issues => .error (.invalid Answer.modelName issues)
  | .ok a =>
    match Json.plainRecord? a.data with
    | none => .error unwritable
    | some plain => HttpResponse.json 200 ({ a with data := plain } : Answer).dump

/-- The reply to what came of the service. -/
def reply (message : Value) (requestId : Text) : Outcome → Reply
  | .error failure => .error (.failed failure)
  | .ok data => (respond message requestId data).mapError .failed

/-- The parameters that a body asks for. -/
def params (request : Request) : Except Refusal Params :=
  request.toParams.mapError fun issues => .failed (.invalid Params.modelName issues)

/-- What is said about the body of a search. -/
def requestEvent (request : Request) : Event :=
  .plain Level.info logger ("ProductSearchRequest: " ++ request.describe)

/-- Searches for what an accepted body asks. -/
def searchAccepted (index requestId : Text) (request : Request) : Work := do
  Exchange.saying (requestEvent request)
  match params request with
  | .error refusal => return .error refusal
  | .ok p =>
    let outcome ← (Service.search p).through (Searcher.answer index)
    return reply searchMessage requestId outcome

/-- The document for what an accepted body asks. -/
def compileAccepted (requestId : Text) (request : Request) : Reply :=
  match params request with
  | .error refusal => .error refusal
  | .ok p => reply compileMessage requestId (.ok (Service.compile p))

/-- Looks up a product. -/
def product (index requestId id : Text) : Work := do
  let outcome ← (Service.get (.text id)).through (Searcher.answer index)
  return reply productMessage requestId outcome

/-- The sign of life. -/
def health : Reply :=
  (HttpResponse.json 200 (.record [("ok", .bool true)])).mapError .failed

/-- Does what a route asks. -/
def serve (site : Site) (requestId : Text) (request : HttpRequest) : Route → Work
  | .health => .done health
  | .search =>
    match Body.read site.maxDepth request.headers request.body with
    | .error fault => .done (.error (.ofBodyFault fault))
    | .ok accepted => searchAccepted site.index requestId accepted
  | .compile =>
    match Body.read site.maxDepth request.headers request.body with
    | .error fault => .done (.error (.ofBodyFault fault))
    | .ok accepted => .done (compileAccepted requestId accepted)
  | .product id => product site.index requestId id

/-- The response that shows a page. -/
def showPage (site : Site) (page : Page) : HttpResponse :=
  ⟨.number 200, [("content-type", page.contentType)], site.pages page⟩

/-- The failure of a path that exists but not for this method. -/
def methodNotAllowed : Failure := .status (.int 405) (.text "Method Not Allowed")

/-- The failure of a path that does not exist. -/
def notFound : Failure := .status (.int 404) (.text "Not Found")

/-- Does what a request asks. -/
def handle (site : Site) (requestId : Text) (request : HttpRequest) : Work :=
  match Routing.ofRequest request.method request.target with
  | .page page => .done (.ok (showPage site page))
  | .found route => serve site requestId request route
  | .methodNotAllowed => .done (.error (.failed methodNotAllowed))
  | .moved target =>
    .done (.ok (.redirect (target.location (Origin.ofHeaders site.host request.headers))))
  | .notFound => .done (.error (.failed notFound))

end Endpoint

end FacetSearch
