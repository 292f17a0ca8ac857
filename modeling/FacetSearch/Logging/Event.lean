/-
# FacetSearch.Logging.Event — what the service reports while it works.

An event is said by a logger at a level.  It may tell of a failure, and the event that closes a
request carries the figures of the request.  An entry is an event together with the id of the
request during which it was said.
-/
import FacetSearch.Http.Status
import FacetSearch.Logging.Level

namespace FacetSearch.Logging

/-- The figures of a request that has been answered; the duration is in milliseconds. -/
structure Access where
  method : Text
  path : Text
  status : StatusCode
  duration : Binary64
  deriving DecidableEq, Repr

/-- What a logger says. -/
structure Event where
  level : Level
  logger : Text
  message : Text
  failure : Option Failure
  access : Option Access

namespace Event

/-- A plain event. -/
def plain (level : Level) (logger message : Text) : Event := ⟨level, logger, message, none, none⟩

/-- An event that tells of a failure. -/
def ofFailure (level : Level) (logger message : Text) (failure : Failure) : Event :=
  ⟨level, logger, message, some failure, none⟩

end Event

/-- An event and the id of the request during which it was said. -/
structure Entry where
  event : Event
  requestId : Text

end FacetSearch.Logging
