/-
# FacetSearch.Http.Route — from method and path to what is to be done.

Some pages tell of the service itself; they come before everything else.  Any other path may belong
to several routes: the word `search` is a product id too.  The first of them that takes the method
is the one.  A path that belongs to something but to nothing with this method is refused; a path
that belongs to nothing is looked at without its final slashes, and if it then belongs to something,
whatever the method, the client is sent there.
-/
import FacetSearch.Http.Target

namespace FacetSearch

/-- The pages that tell of the service: the schema of its interface, two manuals made of it, and a
page that the first of them comes back to. -/
inductive Page where
  | schema
  | console
  | signedIn
  | manual
  deriving DecidableEq, Repr

/-- What can be asked for. -/
inductive Route where
  | health
  | search
  | compile
  | product (id : Text)
  deriving DecidableEq, Repr

namespace Route

/-- The one method of a route. -/
def method : Route → Text
  | .health => "GET"
  | .search => "POST"
  | .compile => "POST"
  | .product _ => "GET"

/-- A path without a line feed at its very end. -/
def withoutLineFeed (path : Text) : Text :=
  if path.getLast? = some (CodePoint.ofChar '\n') then path.dropLast else path

/-- The routes with a fixed path that a path belongs to. -/
def fixed (path : Text) : List Route :=
  let named : List (Text × Route) :=
    [("/health", .health), ("/api/products/search", .search),
      ("/api/products/search/compile", .compile)]
  (named.filter fun (name, _) => name = withoutLineFeed path).map Prod.snd

/-- The id in the path of a product: one segment that is not empty. -/
def productId? (path : Text) : Option Text :=
  match Text.dropLead? "/api/products/" path with
  | some id => if id.isEmpty || id.contains ('/' : CodePoint) then none else some id
  | none => none

/-- All routes that a path belongs to, in order. -/
def ofPath (path : Text) : List Route :=
  fixed path ++ ((productId? path).map Route.product).toList

end Route

namespace Page

/-- All pages. -/
def all : List Page := [.schema, .console, .signedIn, .manual]

/-- The path of a page. -/
def path : Page → Text
  | .schema => "/openapi.json"
  | .console => "/docs"
  | .signedIn => "/docs/oauth2-redirect"
  | .manual => "/redoc"

/-- The methods that every page takes. -/
def methods : List Text := ["GET", "HEAD"]

/-- What a page consists of. -/
def contentType : Page → Text
  | .schema => "application/json"
  | _ => "text/html; charset=utf-8"

/-- The page of a path. -/
def ofPath? (path : Text) : Option Page :=
  all.find? fun page => page.path = Route.withoutLineFeed path

end Page

/-- What becomes of a request before anything is done. -/
inductive Routing where
  | page (page : Page)
  | found (route : Route)
  | methodNotAllowed
  | moved (target : Target)
  | notFound
  deriving DecidableEq, Repr

namespace Routing

/-- Whether the final slashes of a path may be dropped: there are some, and it is not the root. -/
def hasFinalSlash (path : Text) : Bool :=
  path ≠ Text.ofString "/" && path.getLast? == some ('/' : CodePoint)

/-- Whether a path belongs to a page or to a route. -/
def isTaken (path : Text) : Bool := (Page.ofPath? path).isSome || !(Route.ofPath path).isEmpty

/-- Routes a request whose path is that of no page. -/
def ofRoutes (method : Text) (target : Target) : Routing :=
  let routes := Route.ofPath target.path
  match routes.find? fun route => route.method = method with
  | some route => .found route
  | none =>
    if !routes.isEmpty then .methodNotAllowed
    else if hasFinalSlash target.path && isTaken target.trimmed.path then .moved target.trimmed
    else .notFound

/-- Routes a request. -/
def ofRequest (method : Text) (target : Target) : Routing :=
  match Page.ofPath? target.path with
  | some p => if method ∈ Page.methods then .page p else .methodNotAllowed
  | none => ofRoutes method target

end Routing

end FacetSearch
