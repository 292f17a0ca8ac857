/-
# FacetSearch.Proofs.Interleaving — requests that are handled at the same time.

Each request is handled by a task of its own with a copy of the context, which the task sets, reads
and restores; the client and the log are shared.  In each step one task makes one move: it enters
its context, says one event, asks the client once, tells the access log, leaves its context, or
answers.  Whatever the order of the moves, a task goes through the exchange that its request is
dispatched in, so what holds of that exchange under every behaviour of a client holds of the task
among all others.  A task that gets its turn again and again comes to its end.
-/
import FacetSearch.Proofs.AccessLog
import Mathlib.Data.Nat.Find
import Mathlib.Logic.Function.Basic

namespace FacetSearch.Dispatch

open Logging

/-! ## Tasks -/

/-- How far the handling of a request has come. -/
inductive Stage where
  /-- Nothing was done yet. -/
  | arrived
  /-- The context was entered, and the rest is still to do inside. -/
  | handling (token : Context.Token)
      (rest : Exchange ClientCall Event (Except Failure HttpResponse))
  /-- The access log was told. -/
  | told (token : Context.Token) (response : Except Failure HttpResponse)
  /-- The context was left. -/
  | left (response : Except Failure HttpResponse)
  /-- The client was answered. -/
  | answered (served : Served)

/-- A request that is being handled, with its own copy of the context. -/
structure Task where
  arrival : Arrival
  context : Context
  stage : Stage

/-- What a move does: the task and the client after it, and what was said. -/
structure Move (σ : Type) where
  task : Task
  client : σ
  said : List Entry

namespace Task

variable {σ : Type} (site : Site) (client : σ → ClientCall → Outcome × σ) (s : σ)

/-- One move of a task.  What it says bears the id that its context has at that moment. -/
def step (t : Task) : Move σ :=
  match t.stage with
  | .arrived =>
    let (within, token) := t.context.enter t.arrival.id
    ⟨{ t with context := within, stage := .handling token (inside site within t.arrival.request) },
      s, []⟩
  | .handling token (.say event next) =>
    ⟨{ t with stage := .handling token next }, s, [stamp t.context event]⟩
  | .handling token (.ask call resume) =>
    let (outcome, s') := client s call
    ⟨{ t with stage := .handling token (resume outcome) }, s', []⟩
  | .handling token (.done response) =>
    ⟨{ t with stage := .told token response }, s,
      [stamp t.context (accessEvent t.arrival.timing t.arrival.request
        (reportedStatus response))]⟩
  | .told token response =>
    ⟨{ t with context := t.context.leave token, stage := .left response }, s, []⟩
  | .left response =>
    ⟨{ t with stage := .answered (served t.context t.arrival.id response) }, s,
      outsideEntries t.context response⟩
  | .answered _ => ⟨t, s, []⟩

/-- What is still to do after the access log was told. -/
def outsideFrom (a : Arrival) (after : Context) (response : Except Failure HttpResponse) :
    Exchange ClientCall Entry (Served × Context) :=
  (outside after a.id response).bind fun served => .done (served, after)

/-- What a task still has to do, as an exchange. -/
def remaining (t : Task) : Exchange ClientCall Entry (Served × Context) :=
  match t.stage with
  | .arrived => t.arrival.dispatch site t.context
  | .handling token rest =>
    (rest.mapEvents (stamp t.context)).bind fun response =>
      .say (stamp t.context (accessEvent t.arrival.timing t.arrival.request
          (reportedStatus response)))
        (outsideFrom t.arrival (t.context.leave token) response)
  | .told token response => outsideFrom t.arrival (t.context.leave token) response
  | .left response => outsideFrom t.arrival t.context response
  | .answered served => .done (served, t.context)

theorem step_arrival (t : Task) : (t.step site client s).task.arrival = t.arrival := by
  obtain ⟨arrival, context, stage⟩ := t
  cases stage with
  | handling token rest => cases rest <;> rfl
  | _ => rfl

/-- **A move of a task is a move of its exchange**, or changes nothing about what is still to do. -/
theorem step_remaining {x : Exchange ClientCall Entry (Served × Context)} {entries : List Entry}
    {t : Task} (h : Exchange.Reaches x entries (t.remaining site)) :
    Exchange.Reaches x (entries ++ (t.step site client s).said)
      ((t.step site client s).task.remaining site) := by
  obtain ⟨a, context, stage⟩ := t
  cases stage with
  | arrived => exact h.silent
  | handling token rest =>
      cases rest with
      | done response => exact h.said
      | say event next => exact h.said
      | ask call resume => exact (h.answered (client s call).1).silent
  | told token response => exact h.silent
  | left response =>
      cases response with
      | ok response => exact h.silent
      | error failure => exact h.said
  | answered served => exact h.silent

end Task

/-! ## Tasks that share a client and a log -/

/-- Tasks, the client they share, and the log with the task that said each entry. -/
structure System (ι σ : Type) where
  tasks : ι → Task
  client : σ
  log : List (ι × Entry)

namespace System

variable {ι σ : Type} [DecidableEq ι]

/-- Requests that have arrived, each with its copy of a context. -/
def start (arrivals : ι → Arrival) (contexts : ι → Context) (s : σ) : System ι σ where
  tasks i := ⟨arrivals i, contexts i, .arrived⟩
  client := s
  log := []

/-- What a task has said. -/
def said (i : ι) (y : System ι σ) : List Entry := (y.log.filter (·.1 = i)).map Prod.snd

variable (site : Site) (client : σ → ClientCall → Outcome × σ)

/-- One task makes a move. -/
def step (y : System ι σ) (i : ι) : System ι σ :=
  let move := (y.tasks i).step site client y.client
  ⟨Function.update y.tasks i move.task, move.client, y.log ++ move.said.map (i, ·)⟩

/-- The system after a number of moves, when `schedule` says whose each of them is. -/
def after (schedule : Nat → ι) (y : System ι σ) : Nat → System ι σ
  | 0 => y
  | n + 1 => (after schedule y n).step site client (schedule n)

theorem said_step_self (y : System ι σ) (i : ι) :
    (y.step site client i).said i =
      y.said i ++ ((y.tasks i).step site client y.client).said := by
  simp [said, step, List.filter_map, Function.comp_def]

theorem said_step_of_ne (y : System ι σ) {i j : ι} (h : i ≠ j) :
    (y.step site client j).said i = y.said i := by
  simp [said, step, List.filter_map, Function.comp_def, h.symm]

theorem tasks_step_self (y : System ι σ) (i : ι) :
    (y.step site client i).tasks i = ((y.tasks i).step site client y.client).task :=
  Function.update_self ..

theorem tasks_step_of_ne (y : System ι σ) {i j : ι} (h : i ≠ j) :
    (y.step site client j).tasks i = y.tasks i :=
  Function.update_of_ne h ..

/-- What a task has said and what it still has to do belong to the exchange of its request. -/
def Follows (arrivals : ι → Arrival) (contexts : ι → Context) (i : ι) (y : System ι σ) : Prop :=
  (y.tasks i).arrival = arrivals i ∧
    Exchange.Reaches ((arrivals i).dispatch site (contexts i)) (y.said i)
      ((y.tasks i).remaining site)

variable {site client} {arrivals : ι → Arrival} {contexts : ι → Context} {i : ι}

theorem Follows.step {y : System ι σ} (h : Follows site arrivals contexts i y) (j : ι) :
    Follows site arrivals contexts i (y.step site client j) := by
  obtain ⟨harrival, hreaches⟩ := h
  by_cases hij : i = j
  · subst hij
    rw [Follows, tasks_step_self, said_step_self, Task.step_arrival]
    exact ⟨harrival, Task.step_remaining site client y.client hreaches⟩
  · rw [Follows, tasks_step_of_ne _ _ _ hij, said_step_of_ne _ _ _ hij]
    exact ⟨harrival, hreaches⟩

theorem follows_after (schedule : Nat → ι) (s : σ) (n : Nat) :
    Follows site arrivals contexts i
      (after site client schedule (start arrivals contexts s) n) := by
  induction n with
  | zero => exact ⟨rfl, .refl _⟩
  | succ n ih => exact ih.step (schedule n)

/-! ## Every task comes to its end -/

section Progress

variable {schedule : Nat → ι} {y : System ι σ}

/-- A task is answered at some time from a given one on. -/
def AnsweredFrom (site : Site) (client : σ → ClientCall → Outcome × σ) (schedule : Nat → ι)
    (y : System ι σ) (i : ι) (n : Nat) : Prop :=
  ∃ m ≥ n, ∃ served, ((after site client schedule y m).tasks i).stage = .answered served

/-- A task waits unchanged until its next turn. -/
theorem waits {n k : Nat} (h : ∀ m, n ≤ m → m < n + k → schedule m ≠ i) :
    (after site client schedule y (n + k)).tasks i =
      (after site client schedule y n).tasks i := by
  induction k with
  | zero => rfl
  | succ k ih =>
      have hturn : i ≠ schedule (n + k) := (h (n + k) (by omega) (by omega)).symm
      rw [← Nat.add_assoc, after, tasks_step_of_ne _ _ _ hturn]
      exact ih fun m hn hm => h m hn (by omega)

/-- A task that gets its turn again and again makes its next move from where it stands. -/
theorem next_move (hfair : ∀ n, ∃ m ≥ n, schedule m = i) (n : Nat) :
    ∃ m > n, ∃ s, (after site client schedule y m).tasks i =
      (((after site client schedule y n).tasks i).step site client s).task := by
  have hturn : ∃ k, schedule (n + k) = i := by
    obtain ⟨m, hm, hi⟩ := hfair n
    exact ⟨m - n, by rwa [Nat.add_sub_cancel' hm]⟩
  -- the first turn from `n` on
  let k := Nat.find hturn
  have hk : schedule (n + k) = i := Nat.find_spec hturn
  have hbefore : ∀ m, n ≤ m → m < n + k → schedule m ≠ i := by
    intro m hn hm hi
    have hearlier : m - n < k := by omega
    refine Nat.find_min hturn hearlier ?_
    rwa [Nat.add_sub_cancel' hn]
  refine ⟨n + k + 1, by omega, (after site client schedule y (n + k)).client, ?_⟩
  rw [after, hk, tasks_step_self, waits hbefore]

variable (hfair : ∀ n, ∃ m ≥ n, schedule m = i)
include hfair

/-- A task is answered if it is after its next move. -/
theorem AnsweredFrom.of_move {n : Nat}
    (h : ∀ m s, (after site client schedule y m).tasks i =
        (((after site client schedule y n).tasks i).step site client s).task →
      AnsweredFrom site client schedule y i m) :
    AnsweredFrom site client schedule y i n := by
  obtain ⟨m, hm, s, htask⟩ := next_move hfair n
  obtain ⟨k, hk, hanswered⟩ := h m s htask
  exact ⟨k, Nat.le_trans (Nat.le_of_lt hm) hk, hanswered⟩

theorem answered_of_left {n : Nat} {response : Except Failure HttpResponse}
    (h : ((after site client schedule y n).tasks i).stage = .left response) :
    AnsweredFrom site client schedule y i n := by
  refine .of_move hfair fun m s htask => ⟨m, Nat.le_refl m, ?_⟩
  rw [htask]
  simp only [Task.step, h]
  exact ⟨_, rfl⟩

theorem answered_of_told {n : Nat} {token : Context.Token}
    {response : Except Failure HttpResponse}
    (h : ((after site client schedule y n).tasks i).stage = .told token response) :
    AnsweredFrom site client schedule y i n := by
  refine .of_move hfair fun m s htask => ?_
  have hleft : ((after site client schedule y m).tasks i).stage = .left response := by
    rw [htask]
    simp only [Task.step, h]
  exact answered_of_left hfair hleft

/-- Inside its context a task comes to the end of its exchange, whatever the client answers. -/
theorem answered_of_handling {token : Context.Token}
    (rest : Exchange ClientCall Event (Except Failure HttpResponse)) {n : Nat}
    (h : ((after site client schedule y n).tasks i).stage = .handling token rest) :
    AnsweredFrom site client schedule y i n := by
  induction rest generalizing n with
  | done response =>
      refine .of_move hfair fun m s htask => ?_
      have htold : ((after site client schedule y m).tasks i).stage = .told token response := by
        rw [htask]
        simp only [Task.step, h]
      exact answered_of_told hfair htold
  | say event next ih =>
      refine .of_move hfair fun m s htask => ih ?_
      rw [htask]
      simp only [Task.step, h]
  | ask call resume ih =>
      refine .of_move hfair fun m s htask => ih (client s call).1 ?_
      rw [htask]
      simp only [Task.step, h]

/-- **A task that gets its turn again and again is answered.** -/
theorem answered_of_fair (n : Nat) : AnsweredFrom site client schedule y i n := by
  cases h : ((after site client schedule y n).tasks i).stage with
  | arrived =>
      refine .of_move hfair fun m s htask => ?_
      have hinside : ∃ token rest,
          ((after site client schedule y m).tasks i).stage = .handling token rest := by
        rw [htask]
        simp only [Task.step, h]
        exact ⟨_, _, rfl⟩
      obtain ⟨token, rest, hstage⟩ := hinside
      exact answered_of_handling hfair rest hstage
  | handling token rest => exact answered_of_handling hfair rest h
  | told token response => exact answered_of_told hfair h
  | left response => exact answered_of_left hfair h
  | answered served => exact ⟨n, Nat.le_refl n, served, h⟩

end Progress

end System

/-! ## One access record for each request, in every order of handling -/

/-- Requests handled one after another in one context leave one record each in the access log, in
order, and the context is as it was after each of them. -/
structure LoggedInTurn (c : Config) (ctx : Context) (arrivals : List Arrival)
    (seen : Transcript ClientCall Entry (List (Served × Context))) : Prop where
  restored : ∀ ending ∈ seen.result, ending.2 = ctx
  once : (c.accessEntries seen.events).length = arrivals.length
  told : List.Forall₂ (fun told ending => TellsOf told.1 told.2 ending.1)
    ((c.accessEntries seen.events).zip arrivals) seen.result

/-- A task among others, at every time `y n`: once it is answered it has left one record in the
access log and has its context as it was, and it is answered if it gets its turn again and again. -/
structure LoggedAmongOthers {ι σ : Type} [DecidableEq ι] (c : Config) (arrival : Arrival)
    (ctx : Context) (schedule : Nat → ι) (y : Nat → System ι σ) (i : ι) : Prop where
  restored : ∀ n served, ((y n).tasks i).stage = .answered served → ((y n).tasks i).context = ctx
  once : ∀ n served, ((y n).tasks i).stage = .answered served →
    ∃ entry, c.accessEntries ((y n).said i) = [entry] ∧ TellsOf entry arrival served
  answered : (∀ n, ∃ m ≥ n, schedule m = i) → ∃ n served, ((y n).tasks i).stage = .answered served

theorem System.Follows.logged {ι σ : Type} [DecidableEq ι] {c : Config}
    (hinfo : c.isEnabled Level.info = true) {site : Site} {arrivals : ι → Arrival}
    {contexts : ι → Context} {i : ι} {y : System ι σ} (h : y.Follows site arrivals contexts i)
    {served : Served} (hstage : (y.tasks i).stage = .answered served) :
    (∃ entry, c.accessEntries (y.said i) = [entry] ∧ TellsOf entry (arrivals i) served) ∧
      (y.tasks i).context = contexts i := by
  obtain ⟨-, hreaches⟩ := h
  have hdone : (y.tasks i).remaining site = .done (served, (y.tasks i).context) := by
    simp only [Task.remaining, hstage]
  rw [hdone] at hreaches
  exact accessEntries_of_reaches hinfo hreaches

/-- A logging at the level of the access records. -/
def infoLogging : Config := ⟨.number Level.info, false, .json⟩

/-- A client whose every call fails in a way that nobody expects. -/
def brokenClient : Unit → ClientCall → Outcome × Unit :=
  fun _ _ => (.error (.ofFault .type "broken"), ())

/-- A look-up that brings an id, and a request for a path that does not exist, without an id. -/
def mixedArrivals : Bool → Arrival
  | true => ⟨⟨"GET", Target.ofText "/api/products/p1", [("x-request-id", "r5")], []⟩, "r1",
      ⟨.ofInt 0, .ofInt 1⟩⟩
  | false => ⟨⟨"GET", Target.ofText "/nowhere", [], []⟩, "r2", ⟨.ofInt 0, .ofInt 2⟩⟩

/-- Two tasks by turns. -/
def byTurns (n : Nat) : Bool := decide (n % 2 = 0)

/-- The two requests handled at the same time, move by move. -/
def mixedHandling : Nat → System Bool Unit :=
  System.after someSite brokenClient byTurns (System.start mixedArrivals (fun _ => .outside) ())

end FacetSearch.Dispatch
