/-
# FacetSearch.Query.Document — the document that is sent to the engine.

A document can be read back from a dictionary: the score threshold is a number, query and
aggregations are dictionaries, a sort entry is a text or a dictionary, the offset goes by either of
its two names.  Written out, the offset has one name, and a filter that is not there leaves no key
behind.
-/
import FacetSearch.Validation.Collection

namespace FacetSearch

/-- An entry of the sort list. -/
inductive SortEntry where
  | name (t : Text)
  | record (r : Record)

namespace SortEntry

def toValue : SortEntry → Value
  | .name t => .text t
  | .record r => r.toValue

/-- Places the issues of a reading under the word for the form that was tried. -/
def trying {α : Type} (form : Text) (reading : Checked α) : Checked α :=
  Checked.under (.name form) reading

/-- Reads a sort entry: a text or a dictionary; what is neither has the problems of both. -/
def read (v : Value) : Checked SortEntry :=
  match trying "str" (Validation.scalar Validation.text? v),
      trying "dict[str,any]" (Validation.record v) with
  | .ok t, _ => .ok (.name t)
  | .error _, .ok r => .ok (.record r)
  | .error issues, .error issues' => .error (issues ++ issues')

end SortEntry

/-- The document that is sent to the engine. -/
structure Document where
  minScore : Binary64
  query : Record
  filter : Option Record
  sort : List SortEntry
  offset : Int
  aggregations : Record

namespace Document

open Validation

/-- The name that a refusal calls a document by. -/
def modelName : Text := "SearchRequest"

/-- Reads a document from the entries of a dictionary. -/
def ofEntries (entries : Entries) : Checked Document :=
  .ok Document.mk
    |> (Checked.ap · (required entries "min_score" (scalar float?)))
    |> (Checked.ap · (required entries "query" record))
    |> (Checked.ap · (field entries "filter" (nullable record) (.ok none)))
    |> (Checked.ap · (required entries "sort" (listOf SortEntry.read)))
    |> (Checked.ap · (fieldEither entries "from" "from_" (scalar int?) (.ok 0)))
    |> (Checked.ap · (required entries "aggregations" record))

/-- Reads a document from any value. -/
def read (v : Value) : Checked Document :=
  match v with
  | .dict entries => ofEntries entries
  | _ => Checked.fail (.notModel modelName) v

/-- The document as the dictionary that the engine takes. -/
def toBody (d : Document) : Value :=
  .record ([("min_score", .float d.minScore), ("query", d.query.toValue)] ++
    (match d.filter with
      | some filter => [("filter", filter.toValue)]
      | none => []) ++
    [("sort", .list (d.sort.map SortEntry.toValue)), ("from", .int d.offset),
      ("aggregations", d.aggregations.toValue)])

end Document

end FacetSearch
