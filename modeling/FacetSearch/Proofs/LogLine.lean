/-
# FacetSearch.Proofs.LogLine — a JSON log line tells what its record says and nothing else.

What a record says comes from outside: the path of a request, the id that a client chose, the trace
of a failure, which is many lines long.  Whatever characters are in it, the record is one line, and
who reads the line as JSON finds the fields of the record and no other.  Two things a line cannot
show: a point of time outside the years of the calendar, and an integer of too many digits.  A
record with one of these has no line at all.
-/
import FacetSearch.Logging.LogRecord
import FacetSearch.Proofs.Calendar
import FacetSearch.Proofs.JsonRoundTrip

namespace FacetSearch.Logging.LogRecord

/-- What a further field may be: null, a truth value, an integer, a finite number, or a text. -/
inductive Field : Value → Prop where
  | null : Field .null
  | bool (b : Bool) : Field (.bool b)
  | int (n : Int) : Field (.int n)
  | float {x : Binary64} (finite : x.isFinite = true) : Field (.float x)
  | text (t : Text) : Field (.text t)

/-- A record whose logger, level and request id are texts, and whose further fields for the line
are missing or plain. -/
structure Plain (r : LogRecord) : Prop where
  logger : ∃ t, r.logger = .text t
  levelName : ∃ t, r.levelName = .text t
  requestId : ∀ v, r.requestId = some v → ∃ t, v = .text t
  access : ∀ name ∈ accessFields, ∀ v, r.extra? (Text.ofString name) = some v → Field v

/-- The integers among the further fields for the line are short enough to be written. -/
def ShortNumbers (r : LogRecord) : Prop :=
  ∀ name ∈ accessFields, ∀ n, r.extra? (Text.ofString name) = some (.int n) → ShortInteger n

/-- What the line of a record tells, and under which name. -/
inductive Tells (r : LogRecord) : Text → Value → Prop where
  | timestamp {time : Text} (shown : Time.isoText r.created = .ok time) :
      Tells r "timestamp" (.text time)
  | level : Tells r "level" r.levelName
  | logger : Tells r "logger" r.logger
  | message {message : Text} (formatted : r.message = .ok message) :
      Tells r "message" (.text message)
  | requestId : Tells r "request_id" (r.requestId.getD noRequest)
  | trace {trace : Text} (about : r.trace = some trace) : Tells r "exc_info" (.text trace)
  | access {name : String} (known : name ∈ accessFields) {v : Value}
      (given : r.extra? (Text.ofString name) = some v) (notNull : v ≠ .null) :
      Tells r (Text.ofString name) v

/-! ## The members of a line -/

theorem accessField_eq_some {r : LogRecord} {name n : String} {v : Value} :
    r.accessField name = some (n, v) ↔
      name = n ∧ r.extra? (Text.ofString name) = some v ∧ v ≠ .null := by
  unfold accessField
  cases h : r.extra? (Text.ofString name) with
  | none => simp
  | some w =>
      cases w
      case null => simp [eq_comm]
      all_goals simp only [Option.some.injEq, Prod.mk.injEq]
      all_goals
        refine and_congr_right fun _ => ⟨?_, And.left⟩
        rintro rfl
        exact ⟨rfl, by simp⟩

section Members

variable {r : LogRecord} {message time : Text}

/-- The members of a line whose message and time are known. -/
def lineMembers (r : LogRecord) (message time : Text) : List (String × Value) :=
  [("timestamp", .text time), ("level", r.levelName), ("logger", r.logger),
      ("message", .text message), ("request_id", r.requestId.getD noRequest)] ++
    r.trace.toList.map (fun trace => ("exc_info", .text trace)) ++
    accessFields.filterMap r.accessField

theorem members_eq (hmessage : r.message = .ok message)
    (htime : Time.isoText r.created = .ok time) : r.members = .ok (r.lineMembers message time) := by
  rw [members, hmessage, htime, lineMembers]
  cases r.trace <;> rfl

/-- The names that a line may have. -/
def lineNames : List String :=
  ["timestamp", "level", "logger", "message", "request_id"] ++ ["exc_info"] ++ accessFields

theorem lineNames_nodup : (lineNames.map Text.ofString).Nodup := by decide +kernel

theorem filterMap_names (r : LogRecord) (names : List String) :
    List.Sublist ((names.filterMap r.accessField).map Prod.fst) names := by
  induction names with
  | nil => exact .slnil
  | cons name names ih =>
      rw [List.filterMap_cons]
      cases h : r.accessField name with
      | none => exact ih.cons name
      | some field =>
          obtain ⟨rfl, -⟩ := accessField_eq_some.mp h
          exact ih.cons_cons _

theorem lineMembers_names (r : LogRecord) (message time : Text) :
    List.Sublist ((r.lineMembers message time).map Prod.fst) lineNames := by
  rw [lineMembers, List.map_append, List.map_append, lineNames]
  refine .append (.append (.refl _) ?_) (filterMap_names r accessFields)
  cases r.trace with
  | none => exact List.nil_sublist _
  | some trace => exact .refl _

/-- The names of a line are distinct. -/
theorem lineMembers_nodup (r : LogRecord) (message time : Text) :
    ((r.lineMembers message time).map fun field => Text.ofString field.1).Nodup := by
  have hnames := (lineMembers_names r message time).map Text.ofString
  rw [List.map_map] at hnames
  exact lineNames_nodup.sublist hnames

theorem mem_lineMembers (hmessage : r.message = .ok message)
    (htime : Time.isoText r.created = .ok time) {name : Text} {v : Value} :
    (name, v) ∈ (r.lineMembers message time).map (fun field => (Text.ofString field.1, field.2)) ↔
      r.Tells name v := by
  rw [List.mem_map]
  constructor
  · rintro ⟨⟨n, w⟩, hmem, heq⟩
    obtain ⟨rfl, rfl⟩ := Prod.mk.inj heq
    rw [lineMembers, List.mem_append, List.mem_append] at hmem
    rcases hmem with (hmem | hmem) | hmem
    · simp only [List.mem_cons, List.not_mem_nil, or_false, Prod.mk.injEq] at hmem
      rcases hmem with ⟨rfl, rfl⟩ | ⟨rfl, rfl⟩ | ⟨rfl, rfl⟩ | ⟨rfl, rfl⟩ | ⟨rfl, rfl⟩
      · exact .timestamp htime
      · exact .level
      · exact .logger
      · exact .message hmessage
      · exact .requestId
    · obtain ⟨trace, htrace, heq⟩ := List.mem_map.mp hmem
      obtain ⟨rfl, rfl⟩ := Prod.mk.inj heq
      exact .trace (Option.mem_toList.mp htrace)
    · obtain ⟨name, hname, hfield⟩ := List.mem_filterMap.mp hmem
      obtain ⟨rfl, hgiven, hnull⟩ := accessField_eq_some.mp hfield
      exact .access hname hgiven hnull
  · intro h
    cases h with
    | timestamp shown =>
        obtain rfl := Except.ok.inj (htime.symm.trans shown)
        exact ⟨("timestamp", .text time), by simp [lineMembers], rfl⟩
    | level => exact ⟨("level", r.levelName), by simp [lineMembers], rfl⟩
    | logger => exact ⟨("logger", r.logger), by simp [lineMembers], rfl⟩
    | message formatted =>
        obtain rfl := Except.ok.inj (hmessage.symm.trans formatted)
        exact ⟨("message", .text message), by simp [lineMembers], rfl⟩
    | requestId =>
        refine ⟨("request_id", r.requestId.getD noRequest), ?_, rfl⟩
        apply List.mem_append_left
        apply List.mem_append_left
        simp only [List.mem_cons, true_or, or_true]
    | @trace trace about =>
        exact ⟨("exc_info", .text trace), by simp [lineMembers, about], rfl⟩
    | @access name known v given notNull =>
        refine ⟨(name, v), ?_, rfl⟩
        have hfield := accessField_eq_some.mpr ⟨rfl, given, notNull⟩
        exact List.mem_append_right _ (List.mem_filterMap.mpr ⟨name, known, hfield⟩)

end Members

/-! ## Plain records -/

/-- A value without parts that can be read from a JSON text. -/
structure Flat (v : Value) : Prop where
  isRead : v.IsRead
  nesting : Json.nesting v = 1

theorem Flat.text (t : Text) : Flat (.text t) := ⟨.text trivial, rfl⟩

theorem Field.flat {v : Value} (h : Field v) (hshort : ∀ n, v = .int n → ShortInteger n) :
    Flat v := by
  cases h with
  | null => exact ⟨.null, rfl⟩
  | bool b => exact ⟨.bool b, rfl⟩
  | int n => exact ⟨.int (hshort n rfl), rfl⟩
  | float _ => exact ⟨.float trivial, rfl⟩
  | text t => exact .text t

/-- All that the line of a plain record tells can be read, if its integers are short. -/
theorem Plain.flat_of_tells {r : LogRecord} (h : r.Plain) (hshort : r.ShortNumbers) {name : Text}
    {v : Value} (htells : r.Tells name v) : Flat v := by
  cases htells with
  | timestamp _ => exact .text _
  | level =>
      obtain ⟨t, ht⟩ := h.levelName
      rw [ht]
      exact .text t
  | logger =>
      obtain ⟨t, ht⟩ := h.logger
      rw [ht]
      exact .text t
  | message _ => exact .text _
  | requestId =>
      cases hid : r.requestId with
      | none => exact .text _
      | some v =>
          obtain ⟨t, rfl⟩ := h.requestId v hid
          exact .text t
  | trace _ => exact .text _
  | access known given _ =>
      refine (h.access _ known v given).flat fun n hn => ?_
      exact hshort _ known n (hn ▸ given)

/-! ## Lines -/

/-- A plain record whose message and time have a text, and whose integers are short, has a line
without control characters, and the line is one JSON object, which tells what there is to tell. -/
theorem toJson_tells {r : LogRecord} (h : r.Plain) {message time : Text}
    (hmessage : r.message = .ok message) (htime : Time.isoText r.created = .ok time)
    (hshort : r.ShortNumbers) :
    ∃ (line : Text) (object : Record), r.toJson = .ok line ∧ (∀ c ∈ line, 0x20 ≤ c.val) ∧
      (∀ depth, 2 ≤ depth → Json.read depth line = .ok (.dict object.entries)) ∧
      (object.map Prod.fst).Nodup ∧ ∀ name v, (name, v) ∈ object ↔ r.Tells name v := by
  let object : Record := (r.lineMembers message time).map fun field =>
    (Text.ofString field.1, field.2)
  have hmem (name : Text) (v : Value) : (name, v) ∈ object ↔ r.Tells name v :=
    mem_lineMembers hmessage htime
  have hflat : ∀ member ∈ object, Flat member.2 := fun member hmember =>
    h.flat_of_tells hshort ((hmem member.1 member.2).mp hmember)
  have distinct : (object.map Prod.fst).Nodup := by
    rw [List.map_map]
    exact lineMembers_nodup r message time
  have hread : (Value.dict object.entries).IsRead :=
    .dict distinct (fun _ _ => trivial) fun member hmember => (hflat member hmember).isRead
  have hnesting : Json.nesting (.dict object.entries) ≤ 2 :=
    Nat.succ_le_succ (Value.Fits.nestingOfEntries_le fun member hmember =>
      (hflat member hmember).nesting.le)
  obtain ⟨line, hline⟩ : ∃ line, Json.write .logLine (.dict object.entries) = .ok line :=
    Json.exists_write rfl (fun _ => id) hread
  refine ⟨line, object, ?_, ?_, ?_, distinct, hmem⟩
  · rw [toJson, members_eq hmessage htime]
    show (Json.write .logLine (.record (r.lineMembers message time))).mapError ofWriteFault = _
    rw [Value.record_eq, hline]
    rfl
  · exact Json.visible_of_write Json.Style.regular_logLine hread hline
  · intro depth hdepth
    exact Json.read_of_write Json.Style.regular_logLine hread (hnesting.trans hdepth) hline

section Needed

variable {r : LogRecord} {line : Text} (h : r.toJson = .ok line)

include h

/-- A record that has a line has a message and a time, and its members were written. -/
theorem lineMembers_of_toJson : ∃ message time, r.message = .ok message ∧
    Time.isoText r.created = .ok time ∧
      Json.write .logLine (.record (r.lineMembers message time)) = .ok line := by
  cases htime : Time.isoText r.created with
  | error failure =>
      rw [toJson, members, htime] at h
      exact absurd h nofun
  | ok time =>
      cases hmessage : r.message with
      | error failure =>
          rw [toJson, members, htime, hmessage] at h
          exact absurd h nofun
      | ok message =>
          refine ⟨message, time, rfl, rfl, ?_⟩
          rw [toJson, members_eq hmessage htime] at h
          exact Checked.mapError_eq_ok_iff.mp h

/-- Only short integers are in a line. -/
theorem shortNumbers_of_toJson : r.ShortNumbers := by
  intro name hname n hgiven
  obtain ⟨message, time, hmessage, htime, hwrite⟩ := lineMembers_of_toJson h
  have hmem : (Text.ofString name, Value.int n) ∈ (r.lineMembers message time).map
      fun field => (Text.ofString field.1, field.2) :=
    (mem_lineMembers hmessage htime).mpr (.access hname hgiven nofun)
  rw [Value.record_eq, Json.write] at hwrite
  obtain ⟨ts, hts, -⟩ := Checked.map_eq_ok_iff.mp hwrite
  obtain ⟨t, ht, -⟩ := Json.mem_of_writeMembers hts _ hmem
  rw [Json.write] at ht
  exact Json.shortInteger_of_writeInt ht

end Needed

/-- **A line tells what its record says and nothing else.**  A plain record whose message can be
formatted has a line exactly if its time is in the years 1 to 9999 and its integers are short enough
to be written.  The line has no control characters; it is one JSON object with distinct names, whose
members are exactly what there is to tell of the record. -/
theorem json_line_tells {r : LogRecord} (h : r.Plain) {message : Text}
    (hmessage : r.message = .ok message) :
    ((∃ line, r.toJson = .ok line) ↔
      (∃ n, Time.microseconds? r.created = some n ∧ Time.firstShown ≤ n ∧ n < Time.firstLate) ∧
        r.ShortNumbers) ∧
    ∀ line, r.toJson = .ok line → (∀ c ∈ line, 0x20 ≤ c.val) ∧ ∃ object : Record,
      (∀ depth, 2 ≤ depth → Json.read depth line = .ok (.dict object.entries)) ∧
      (object.map Prod.fst).Nodup ∧ ∀ name v, (name, v) ∈ object ↔ r.Tells name v := by
  refine ⟨?_, fun line hline => ?_⟩
  · rw [← Time.isoText_isOk_iff]
    constructor
    · rintro ⟨line, hline⟩
      obtain ⟨-, time, -, htime, -⟩ := lineMembers_of_toJson hline
      exact ⟨⟨time, htime⟩, shortNumbers_of_toJson hline⟩
    · rintro ⟨⟨time, htime⟩, hshort⟩
      obtain ⟨line, object, hline, -⟩ := toJson_tells h hmessage htime hshort
      exact ⟨line, hline⟩
  · obtain ⟨-, time, -, htime, -⟩ := lineMembers_of_toJson hline
    obtain ⟨line', object, hline', hvisible, hread, distinct, htells⟩ :=
      toJson_tells h hmessage htime (shortNumbers_of_toJson hline)
    obtain rfl := Except.ok.inj (hline'.symm.trans hline)
    exact ⟨hvisible, object, hread, distinct, htells⟩

/-- What holds of all further fields holds of one that is looked up. -/
theorem of_extra? {P : Value → Prop} {r : LogRecord} (h : ∀ field ∈ r.extra, P field.2)
    {name : Text} {v : Value} (hv : r.extra? name = some v) : P v := by
  obtain ⟨field, hfield, rfl⟩ := Option.map_eq_some_iff.mp hv
  exact h field (List.mem_of_find?_eq_some hfield)

/-- A trace of several lines, with quotes, backslashes and control characters in them. -/
def hostileTrace : Text :=
  "here:\n  \"in\", \\here\\\r\n\nbecause of:\n\t\x00\x1f\x7f\", \"level\": \"끝\n"

/-- A record whose texts would end a line, or a text in it, if they were not escaped. -/
def hostile : LogRecord where
  created := .ofInt 0
  logger := .text "a\nb"
  levelName := .text "\"INFO"
  template := .text "\", \"level\": \"ERROR\nnext"
  args := .tuple []
  requestId := some (.text "\r\n\t\\")
  trace := some hostileTrace
  extra := [("http_method", .null), ("path", .text "/\n\""), ("status_code", .int 0),
    ("duration_ms", .float (.ofInt 3))]

theorem json_line_tells_hostile :
    hostile.Plain ∧ ∃ line, hostile.toJson = .ok line ∧ (∀ c ∈ line, 0x20 ≤ c.val) ∧
      ∃ object : Record, Json.read 2 line = .ok (.dict object.entries) ∧
        (object.map Prod.fst).Nodup ∧ (∀ name v, (name, v) ∈ object ↔ hostile.Tells name v) ∧
        (Text.ofString "exc_info", Value.text hostileTrace) ∈ object := by
  have hfields : ∀ field ∈ hostile.extra, Field field.2 := by
    simp only [hostile, List.forall_mem_cons]
    exact ⟨.null, .text _, .int 0, .float (by decide +kernel), nofun⟩
  have hplain : hostile.Plain := by
    refine ⟨⟨_, rfl⟩, ⟨_, rfl⟩, ?_, fun name _ v hv => of_extra? hfields hv⟩
    exact fun v hv => ⟨_, (Option.some.inj hv).symm⟩
  have hintegers : ∀ field ∈ hostile.extra, ∀ n, field.2 = .int n → ShortInteger n := by
    simp only [hostile, List.forall_mem_cons]
    refine ⟨nofun, nofun, fun n hn => ?_, nofun, nofun⟩
    rw [← Value.int.inj hn]
    decide
  have hshort : hostile.ShortNumbers := fun name _ n hn =>
    of_extra? (P := fun v => ∀ m, v = .int m → ShortInteger m) hintegers hn n rfl
  obtain ⟨hiff, hline⟩ := json_line_tells hplain rfl
  obtain ⟨line, htext⟩ := hiff.mpr ⟨⟨0, by decide +kernel, by decide, by decide⟩, hshort⟩
  obtain ⟨hvisible, object, hread, distinct, htells⟩ := hline line htext
  refine ⟨hplain, line, htext, hvisible, object, hread 2 (Nat.le_refl 2), distinct, htells, ?_⟩
  exact (htells _ _).mpr (.trace rfl)

/-! ## What a line cannot show -/

/-- A plain record of the first second of the year 10000. -/
def late : LogRecord where
  created := .ofInt 253402300800
  logger := .text "t"
  levelName := .text "INFO"
  template := .text "t"
  args := .tuple []
  requestId := none
  trace := none
  extra := []

/-- An integer of 4301 digits. -/
def longInteger : Int := 10 ^ Text.maxDigits

theorem not_shortInteger : ¬ ShortInteger longInteger := by
  have hten : Int.natAbs 10 = 10 := rfl
  rw [ShortInteger, longInteger, Int.natAbs_pow, hten,
    Nat.length_toDigits_le_iff (by decide) (by decide)]
  exact Nat.lt_irrefl _

/-- A plain record with an integer that is too long to be written. -/
def long : LogRecord :=
  { late with created := .ofInt 0, extra := [("status_code", .int longInteger)] }

/-- Not every plain record has a line: the year 10000 cannot be shown, and an integer of more than
4300 digits cannot be written. -/
theorem json_line_not_always :
    (late.Plain ∧ late.message = .ok "t" ∧ ¬ ∃ line, late.toJson = .ok line) ∧
      (long.Plain ∧ long.message = .ok "t" ∧
        long.extra? "status_code" = some (.int longInteger) ∧
        ¬ ∃ line, long.toJson = .ok line) := by
  refine ⟨⟨⟨⟨_, rfl⟩, ⟨_, rfl⟩, nofun, ?_⟩, rfl, ?_⟩, ⟨⟨_, rfl⟩, ⟨_, rfl⟩, nofun, ?_⟩, rfl, rfl, ?_⟩
  · exact fun name _ v hv => of_extra? (List.forall_mem_nil _) hv
  · rintro ⟨line, hline⟩
    obtain ⟨-, time, -, htime, -⟩ := lineMembers_of_toJson hline
    obtain ⟨n, hn, -, hlate⟩ := (Time.isoText_isOk_iff _).mp ⟨time, htime⟩
    have hvalue : Time.microseconds? late.created = some 253402300800000000 := by decide +kernel
    obtain rfl := Option.some.inj (hvalue.symm.trans hn)
    exact absurd hlate (by decide)
  · exact fun name _ v hv => of_extra? (List.forall_mem_singleton.mpr (.int longInteger)) hv
  · rintro ⟨line, hline⟩
    have hshort := shortNumbers_of_toJson hline
    exact not_shortInteger (hshort "status_code" (by decide) longInteger rfl)

end FacetSearch.Logging.LogRecord
