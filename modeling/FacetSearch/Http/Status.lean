/-
# FacetSearch.Http.Status — status codes and their phrases.

The status of an answer is a number.  It may be a number of any kind, and stays of its kind in
whatever tells of the answer.
-/
import FacetSearch.Value.Order

namespace FacetSearch

/-- The status of an answer: a number of any kind. -/
inductive StatusCode where
  | number (n : Int)
  | truth (b : Bool)
  | float (x : Binary64)
  | decimal (d : DecimalDatum)
  deriving DecidableEq, Repr

namespace StatusCode

def toValue : StatusCode → Value
  | .number n => .int n
  | .truth b => .bool b
  | .float x => .float x
  | .decimal d => .decimal d

/-- Reads a status, which has to be a key and a value that can be compared with numbers. -/
def ofValue (code : Value) : Except Failure StatusCode :=
  match code.hashFault? with
  | some fault => .error (.ofFault .type fault)
  | none =>
    match code, Value.less code (.int 200) with
    | _, .error failure => .error failure
    | .bool b, _ => .ok (.truth b)
    | .float x, _ => .ok (.float x)
    | .decimal d, _ => .ok (.decimal d)
    | .int n, _ => .ok (.number n)
    | v, _ => .error (Value.incomparable v (.int 200))

end StatusCode

namespace Status

/-- The registered status codes, each with its phrase. -/
def phrases : List (Nat × String) :=
  [(100, "Continue"), (101, "Switching Protocols"), (102, "Processing"), (103, "Early Hints"),
    (200, "OK"), (201, "Created"), (202, "Accepted"), (203, "Non-Authoritative Information"),
    (204, "No Content"), (205, "Reset Content"), (206, "Partial Content"), (207, "Multi-Status"),
    (208, "Already Reported"), (226, "IM Used"), (300, "Multiple Choices"),
    (301, "Moved Permanently"), (302, "Found"), (303, "See Other"), (304, "Not Modified"),
    (305, "Use Proxy"), (307, "Temporary Redirect"), (308, "Permanent Redirect"),
    (400, "Bad Request"), (401, "Unauthorized"), (402, "Payment Required"), (403, "Forbidden"),
    (404, "Not Found"), (405, "Method Not Allowed"), (406, "Not Acceptable"),
    (407, "Proxy Authentication Required"), (408, "Request Timeout"), (409, "Conflict"),
    (410, "Gone"), (411, "Length Required"), (412, "Precondition Failed"),
    (413, "Request Entity Too Large"), (414, "Request-URI Too Long"),
    (415, "Unsupported Media Type"), (416, "Requested Range Not Satisfiable"),
    (417, "Expectation Failed"), (418, "I'm a Teapot"), (421, "Misdirected Request"),
    (422, "Unprocessable Entity"), (423, "Locked"), (424, "Failed Dependency"),
    (425, "Too Early"), (426, "Upgrade Required"), (428, "Precondition Required"),
    (429, "Too Many Requests"), (431, "Request Header Fields Too Large"),
    (451, "Unavailable For Legal Reasons"), (500, "Internal Server Error"),
    (501, "Not Implemented"), (502, "Bad Gateway"), (503, "Service Unavailable"),
    (504, "Gateway Timeout"), (505, "HTTP Version Not Supported"),
    (506, "Variant Also Negotiates"), (507, "Insufficient Storage"), (508, "Loop Detected"),
    (510, "Not Extended"), (511, "Network Authentication Required")]

/-- The phrase of a status code, which may be a number of any kind. -/
def phrase? (code : Value) : Option Text :=
  (phrases.find? fun (n, _) => code.sameKey (.int n)).map fun (_, phrase) => Text.ofString phrase

/-- The failure that asks for an answer with a status.  Without a detail of its own the answer
tells the phrase of the status, and a code that is not registered has an empty one. -/
def failure (code : Value) (detail : Value) : Failure :=
  match detail with
  | .null => .status code (.text ((phrase? code).getD []))
  | detail => .status code detail

end Status

end FacetSearch
