/-
# FacetSearch.Search.Service — searching and looking up products.

The service turns parameters into a document and hands the document to whoever can search.  A
product id is handed on as it is, unless it is blank.
-/
import FacetSearch.Logging.Event
import FacetSearch.Query.Compile
import FacetSearch.Search.Exchange
import FacetSearch.Value.Access

namespace FacetSearch

/-- What the service asks of the one who can search. -/
inductive SearchCall where
  | search (body : Value)
  | get (id : Value)

namespace Service

open Logging

/-- The logger of the service. -/
def logger : Text := "product_search.app.domain.services.search_service"

/-- What is asked for makes no sense: the id says nothing. -/
def blankId : Failure := .invalidInput "product_id must not be blank"

/-- Whether an id says nothing; only texts and bytes can be looked into. -/
def isBlankId (id : Value) : Except Failure Bool :=
  if id.isFilled then id.isBlankText else .ok true

/-- What the service says before a search. -/
def searchEvent (p : Params) : Event :=
  .plain Level.info logger
    ("service.search: query=" ++ (Params.textValue p.query).display ++
      " from=" ++ Text.ofInt p.offset ++ " sorting=" ++ p.sorting.label ++
      " properties=" ++ (Params.propertiesValue p.properties).display ++
      " taxon_ids=" ++ (Params.taxonIdsValue p.taxonIds).display)

/-- What the service says about the document of a search. -/
def bodyEvent (body : Value) : Event :=
  .plain Level.debug logger ("service.search: body=" ++ body.display)

/-- What the service says before a look-up. -/
def getEvent (id : Value) : Event :=
  .plain Level.info logger ("service.get: product_id=" ++ id.display)

/-- The document for given parameters; nothing is asked of anyone. -/
def compile (p : Params) : Value := (FacetSearch.compile p).toBody

/-- Searches for what the parameters ask. -/
def search (p : Params) : Exchange SearchCall Event Outcome := do
  Exchange.saying (searchEvent p)
  Exchange.saying (bodyEvent (compile p))
  Exchange.asking (.search (compile p))

/-- Looks up one product. -/
def get (id : Value) : Exchange SearchCall Event Outcome :=
  match isBlankId id with
  | .error failure => .done (.error failure)
  | .ok true => .done (.error blankId)
  | .ok false => do
    Exchange.saying (getEvent id)
    Exchange.asking (.get id)

end Service

end FacetSearch
