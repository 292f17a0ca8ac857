/-
# FacetSearch.Http.Context — which request is being handled.

The context knows the id of the request that is being handled, or a dash outside of any.  Entering
a request gives back a token with which leaving restores what was there before.
-/
import FacetSearch.Text.Basic

namespace FacetSearch

/-- The id of the request that is being handled. -/
structure Context where
  requestId : Text
  deriving DecidableEq, Repr

/-- What has to be restored when a request is left. -/
structure Context.Token where
  previous : Text
  deriving DecidableEq, Repr

namespace Context

/-- The context outside of any request. -/
def outside : Context := ⟨"-"⟩

/-- Enters a request. -/
def enter (ctx : Context) (requestId : Text) : Context × Token := (⟨requestId⟩, ⟨ctx.requestId⟩)

/-- Leaves a request. -/
def leave (_ : Context) (token : Token) : Context := ⟨token.previous⟩

end Context

end FacetSearch
