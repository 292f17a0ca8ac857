/-
# FacetSearch.Query.TextClause — the clause for the search text.

The engine reads the text in a small language of its own, in which a backslash takes the next
character literally.  A double quote in the text is therefore escaped, once, and nothing else is
changed.  A text that is missing or blank selects everything.
-/
import FacetSearch.Query.Field
import FacetSearch.Value.Access

namespace FacetSearch

/-- The clause for the search text. -/
inductive TextClause where
  | matchAll
  | queryString (escaped : Text)
  deriving DecidableEq, Repr

/-- Puts a backslash before every double quote. -/
def escapeQuotes (t : Text) : Text :=
  t.flatMap fun c => if c = ('"' : CodePoint) then ['\\', c] else [c]

namespace TextClause

/-- The clause for an optional search text. -/
def ofQuery : Option Text → TextClause
  | none => .matchAll
  | some t => if t.isBlank then .matchAll else .queryString (escapeQuotes t)

/-- The fields that the text is looked for in; a hit in the name counts five times. -/
def searchFields : List Text :=
  [Field.name.label ++ "^5", Field.description.label, Field.sku.label]

/-- The form in which the engine takes the clause: every word must be found in some field, and the
best field counts. -/
def toValue : TextClause → Value
  | .matchAll => .record [("match_all", .dict [])]
  | .queryString escaped => .record [("query_string", .record
      [("query", .text escaped), ("fields", .list (searchFields.map Value.text)),
        ("default_operator", "AND"), ("use_dis_max", .bool true)])]

/-! ## Search texts of any kind -/

/-- The text of a value with its double quotes escaped.  Bytes have no quote to escape. -/
def escapedOf (v : Value) : Except Failure Text :=
  match v, v.text? with
  | _, some t => .ok (escapeQuotes t)
  | .bytes _, none => .error (.ofFault .type "a bytes-like object is required, not 'str'")
  | v, none => .error (v.lacking "replace")

/-- The clause for a search text given as any value. -/
def ofValue (v : Value) : Except Failure TextClause :=
  match v with
  | .null => .ok .matchAll
  | v => do
    if ← v.isBlankText then return .matchAll
    else return .queryString (← escapedOf v)

end TextClause

end FacetSearch
