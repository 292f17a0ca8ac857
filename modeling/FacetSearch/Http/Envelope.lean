/-
# FacetSearch.Http.Envelope — the envelopes of answers.

Every answer wears one of two envelopes: data with a message, or an error with its code, message
and details.  Both carry the id of the request they answer.
-/
import FacetSearch.Validation.Collection
import FacetSearch.Value.Access

namespace FacetSearch

namespace Envelope

/-- The message of a success that has nothing to say. -/
def defaultMessage : Value := "ok"

/-- The code of an error that has none of its own. -/
def defaultCode : Value := "BAD_REQUEST"

/-- The envelope of a success. -/
def success (data message : Value) (traceId : Value) : Value :=
  .record [("success", .bool true), ("message", message), ("data", data), ("trace_id", traceId)]

/-- The envelope of an error. -/
def failure (message code details traceId : Value) : Value :=
  .record [("success", .bool false),
    ("error", .record [("code", code), ("message", message), ("details", details)]),
    ("trace_id", traceId)]

/-- The particulars of an error, each as its text. -/
def displayParticulars (entries : Entries) : Value :=
  .dict (entries.map fun (k, x) => (k, .text x.display))

/-- An error given as any value that makes a dictionary.  Its particulars, under `ctx`, become
texts; everything else in it stays. -/
def plainErrorOf (v : Value) : Except Failure Value := do
  let entries ← v.toEntries
  match Entries.get? entries "ctx" with
  | none => return .dict entries
  | some particulars =>
    return .dict (entries.insert "ctx" (displayParticulars (← particulars.items)))

/-- The errors that a value yields, each with its particulars as texts. -/
def plainErrorsOf (v : Value) : Except Failure Value := do
  return .list (← (← v.walked).mapM plainErrorOf)

/-- An issue as an error of an answer, the path beginning with `origin`. -/
def errorOfIssue (origin : List Step) (i : Issue) : Value :=
  .record ([("type", .text i.problem.code),
      ("loc", .list ((origin ++ i.path).map Step.toValue)),
      ("msg", .text i.problem.message), ("input", i.input)] ++
    (match i.problem.context? with
      | some particulars => [("ctx", displayParticulars (particulars.map fun (name, x) =>
          (.text name, x)))]
      | none => []))

end Envelope

/-- The answer that is promised for a success. -/
structure Answer where
  success : Bool
  message : Text
  data : Record
  traceId : Option Text

namespace Answer

open Validation

/-- The name that a refusal calls an answer by. -/
def modelName : Text := "ApiResponse"

/-- Reads an answer from the entries of a dictionary. -/
def ofEntries (entries : Entries) : Checked Answer :=
  .ok Answer.mk
    |> (Checked.ap · (required entries "success" (scalar bool?)))
    |> (Checked.ap · (required entries "message" (scalar text?)))
    |> (Checked.ap · (required entries "data" record))
    |> (Checked.ap · (field entries "trace_id" (nullable (scalar text?)) (.ok none)))

/-- Reads an answer from any value. -/
def read (v : Value) : Checked Answer :=
  match v with
  | .dict entries => ofEntries entries
  | _ => Checked.fail (.notModel modelName) v

/-- The answer as a dictionary. -/
def dump (a : Answer) : Value :=
  .record [("success", .bool a.success), ("message", .text a.message), ("data", a.data.toValue),
    ("trace_id", match a.traceId with
      | some t => .text t
      | none => .null)]

end Answer

end FacetSearch
