/-
# FacetSearch.Search.Searcher — the one who can search: an engine's client and an index.

Every call of the service becomes one call of the client, on the configured index.  That a
document is not there is news only for a look-up, where it becomes a missing product; every other
failure of the client goes back as it came.
-/
import FacetSearch.Search.Service

namespace FacetSearch

/-- What can be asked of the engine's client. -/
inductive ClientCall where
  | search (index : Text) (body : Value)
  | get (index : Text) (id : Value)
  | close

namespace Searcher

open Logging

/-- The logger of the searcher. -/
def logger : Text := "product_search.app.adapters.searchers.opensearch_searcher"

/-- What the searcher says when a product is not there. -/
def missingEvent (index : Text) (id : Value) : Event :=
  .plain Level.info logger ("product not found: index=" ++ index ++ " id=" ++ id.display)

/-- The failure of a look-up that found nothing. -/
def missingProduct (id : Value) : Failure :=
  .missing "product" (.text ("product " ++ id.display ++ " not found")) (some .notFound)

/-- What comes of a look-up, given what the client answered. -/
def afterGet (index : Text) (id : Value) : Outcome → Exchange ClientCall Event Outcome
  | .error (.engine .notFound _) =>
    .say (missingEvent index id) (.done (.error (missingProduct id)))
  | outcome => .done outcome

/-- Makes a call of the service by a call of the client on an index. -/
def answer (index : Text) : SearchCall → Exchange ClientCall Event Outcome
  | .search body => Exchange.asking (.search index body)
  | .get id => .ask (.get index id) (afterGet index id)

end Searcher

end FacetSearch
