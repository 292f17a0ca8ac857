/-
# FacetSearch.Search.Exchange — work that talks to someone else.

An exchange is a piece of work that may say things for the log and may ask someone else to do
something, and that goes on with the outcome it gets.  What the other side does is no part of it:
`run` plays an exchange against a client, which is any function of its own state and the call.
An exchange over one kind of calls becomes one over another kind `through` the work that answers
each call.
-/
import FacetSearch.Failure

namespace FacetSearch

/-- What comes of a call: a value, or a failure. -/
abbrev Outcome := Except Failure Value

/-- Work that makes calls of type `κ`, says events of type `ε` and ends with a result. -/
inductive Exchange (κ ε α : Type) where
  | done (result : α)
  | say (event : ε) (next : Exchange κ ε α)
  | ask (call : κ) (resume : Outcome → Exchange κ ε α)

/-- All that there is to see of an exchange when it has been played. -/
structure Transcript (κ ε α : Type) where
  calls : List κ
  events : List ε
  result : α

namespace Exchange

variable {κ κ' ε ε' α β σ : Type}

/-- Goes on with the result of an exchange. -/
def bind : Exchange κ ε α → (α → Exchange κ ε β) → Exchange κ ε β
  | done a, f => f a
  | say event next, f => say event (next.bind f)
  | ask call resume, f => ask call fun outcome => (resume outcome).bind f

instance : Monad (Exchange κ ε) where
  pure := done
  bind := bind

/-- Says one event. -/
def saying (event : ε) : Exchange κ ε Unit := say event (done ())

/-- Asks once and ends with the outcome. -/
def asking (call : κ) : Exchange κ ε Outcome := ask call done

/-- Says every event in another form. -/
def mapEvents (f : ε → ε') : Exchange κ ε α → Exchange κ ε' α
  | done a => done a
  | say event next => say (f event) (next.mapEvents f)
  | ask call resume => ask call fun outcome => (resume outcome).mapEvents f

/-- Makes every call by an exchange of its own. -/
def through (answer : κ → Exchange κ' ε Outcome) : Exchange κ ε α → Exchange κ' ε α
  | done a => done a
  | say event next => say event (next.through answer)
  | ask call resume => (answer call).bind fun outcome => (resume outcome).through answer

/-- Plays an exchange against a client. -/
def run (client : σ → κ → Outcome × σ) (s : σ) : Exchange κ ε α → Transcript κ ε α × σ
  | done a => (⟨[], [], a⟩, s)
  | say event next =>
    let (t, s') := next.run client s
    ({ t with events := event :: t.events }, s')
  | ask call resume =>
    let (outcome, s') := client s call
    let (t, s'') := (resume outcome).run client s'
    ({ t with calls := call :: t.calls }, s'')

end Exchange

end FacetSearch
