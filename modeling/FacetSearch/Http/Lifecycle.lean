/-
# FacetSearch.Http.Lifecycle — from start-up to shutdown.

Starting up sets the logging up and makes one client, which is kept for every request until the
next start-up.  Then the service is up until it is told to stop or something is thrown into it, and
in the end, whichever it was, the client that is kept is closed; that this failed is reported and
goes no further.  A request that finds no client kept makes one of its own.
-/
import FacetSearch.Engine.Address
import FacetSearch.Logging.Config
import FacetSearch.Search.Exchange
import FacetSearch.Settings.Settings

namespace FacetSearch.Lifecycle

open Logging

/-- The logger of the service as a whole. -/
def logger : Text := "product_search.app.main"

/-- A client: where it connects to, and how many were made before it. -/
structure Client where
  address : Address
  number : Nat
  deriving DecidableEq, Repr

/-- What is kept between requests: the client, and how many clients were ever made. -/
structure State where
  client : Option Client
  made : Nat
  deriving DecidableEq, Repr

/-- Before the first start-up. -/
def State.initial : State := ⟨none, 0⟩

/-- What happens to clients. -/
inductive Action where
  | made (c : Client)
  | served (c : Client)
  | closed (c : Client)
  deriving DecidableEq, Repr

/-- What may happen to the service. -/
inductive Step where
  | startup
  | request
  | shutdown (closing : Outcome) (thrown : Option Failure)

/-- What a step does: the state after it, what happened to clients, what was said, and the failure
that goes on beyond it. -/
structure Effect where
  state : State
  actions : List Action
  events : List Event
  escaped : Option Failure

/-- Whatever is kept, or else something built for the occasion. -/
def keptOr {γ : Type} (kept : Option γ) (build : Except Failure γ) : Except Failure γ :=
  match kept with
  | some c => .ok c
  | none => build

/-- Makes a client for the configured address. -/
def make (settings : Settings) (s : State) : Except Failure Client :=
  match Address.ofText settings.engineHost with
  | .error fault => .error fault.toFailure
  | .ok address => .ok ⟨address, s.made⟩

/-- The logging that the settings ask for. -/
def logging (settings : Settings) : Except Failure Config :=
  Config.ofSetup ⟨settings.logToFile, settings.logAsJson, .text settings.logLevel⟩

/-- Starts up: the logging first, then the client. -/
def startup (settings : Settings) (s : State) : Effect :=
  match logging settings, make settings s with
  | .error failure, _ => ⟨s, [], [], some failure⟩
  | .ok _, .error failure => ⟨s, [], [], some failure⟩
  | .ok _, .ok c => ⟨⟨some c, s.made + 1⟩, [.made c], [], none⟩

/-- The client for a request: the one that is kept, or else a new one. -/
def resolve (settings : Settings) (s : State) : Except Failure Client :=
  keptOr s.client (make settings s)

/-- Serves a request with its client. -/
def request (settings : Settings) (s : State) : Effect :=
  match resolve settings s with
  | .error failure => ⟨s, [], [], some failure⟩
  | .ok c =>
    if s.client.isSome then ⟨s, [.served c], [], none⟩
    else ⟨{ s with made := s.made + 1 }, [.made c, .served c], [], none⟩

/-! ## Shutting down -/

/-- A course of work: what happens to clients, what is said, and the failure that it ends with if it
does not end well. -/
structure Course where
  actions : List Action
  events : List Event
  failure : Option Failure

namespace Course

/-- A course and what follows it, where nothing but the failure of what follows goes on. -/
def followedBy (first next : Course) : Course :=
  ⟨first.actions ++ next.actions, first.events ++ next.events, next.failure⟩

/-- A course that is left to a handler if it fails. -/
def guarded (course : Course) (handle : Failure → Course) : Course :=
  match course.failure with
  | none => course
  | some failure => course.followedBy (handle failure)

/-- A course with another one in the end, however it went.  If that one fails its failure goes on,
and otherwise the first one's does. -/
def inTheEnd (course last : Course) : Course :=
  let whole := course.followedBy last
  { whole with failure := whole.failure.orElse fun _ => course.failure }

end Course

/-- The failure of asking for a client where none was ever kept. -/
def noClient : Failure :=
  Failure.ofFault .attribute "'State' object has no attribute 'opensearch'"

/-- Closes the client that is kept; `closing` is what becomes of it. -/
def close (closing : Outcome) (s : State) : Course :=
  match s.client with
  | none => ⟨[], [], some noClient⟩
  | some c =>
    match closing with
    | .ok _ => ⟨[.closed c], [], none⟩
    | .error failure => ⟨[.closed c], [], some failure⟩

/-- What is said when closing failed. -/
def closeFailedEvent (failure : Failure) : Event :=
  .ofFailure Level.warning logger "failed to close opensearch client" failure

/-- Says that closing failed, whatever the failure is. -/
def reportClosing (failure : Failure) : Course := ⟨[], [closeFailedEvent failure], none⟩

/-- Closes the client that is kept, and says so if that failed. -/
def closeGuarded (closing : Outcome) (s : State) : Course :=
  (close closing s).guarded reportClosing

/-- The course of being up: nothing happens but what is thrown. -/
def up (thrown : Option Failure) : Course := ⟨[], [], thrown⟩

/-- Shuts down: the service was up, and in the end its client is closed. -/
def shutdown (closing : Outcome) (thrown : Option Failure) (s : State) : Effect :=
  let course := (up thrown).inTheEnd (closeGuarded closing s)
  ⟨s, course.actions, course.events, course.failure⟩

/-- One step. -/
def step (settings : Settings) (s : State) : Step → Effect
  | .startup => startup settings s
  | .request => request settings s
  | .shutdown closing thrown => shutdown closing thrown s

/-- Steps one after another, with the effect of each. -/
def run (settings : Settings) : State → List Step → List Effect
  | _, [] => []
  | s, x :: xs =>
    let effect := step settings s x
    effect :: run settings effect.state xs

end FacetSearch.Lifecycle
