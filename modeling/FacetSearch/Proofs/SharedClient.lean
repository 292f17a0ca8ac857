/-
# FacetSearch.Proofs.SharedClient — one client for each life of the service.

A server leads the service through one life after another: it starts the service up, hands it any
number of requests, and shuts it down, perhaps because something was thrown.  A service that does
not come up is neither asked nor shut down.  The client of the life before is still kept when the
next life begins, so what carries the proofs is the state after start-up: it keeps the client that
was just made, no request and no shutdown changes it, and the number of a client that is made is one
that no client had before.
-/
import FacetSearch.Http.Lifecycle
import Mathlib.Data.List.Count
import Mathlib.Data.List.Forall2
import Mathlib.Tactic.IntervalCases

namespace FacetSearch.Lifecycle

/-! ## Lives -/

/-- One life of the service: the settings that it finds, how many requests come, what becomes of
closing its client, and what is thrown into it while it is up. -/
structure Life where
  settings : Settings
  requests : Nat
  closing : Outcome
  thrown : Option Failure

namespace Life

/-- What the server does once the service is up. -/
def whileUp (life : Life) : List Step :=
  List.replicate life.requests .request ++ [.shutdown life.closing life.thrown]

/-- What a life does, step by step.  It ends at once if starting up fails. -/
def effects (life : Life) (s : State) : List Effect :=
  let up := startup life.settings s
  up :: if up.escaped.isSome then [] else run life.settings up.state life.whileUp

/-- The service comes up: the logging can be set up, and the engine has an address. -/
def ComesUp (life : Life) : Prop :=
  ∃ config address, logging life.settings = .ok config ∧
    Address.ofText life.settings.engineHost = .ok address

end Life

/-- The state after some steps that began in a state. -/
def stateAfter (s : State) (effects : List Effect) : State :=
  (effects.getLast?.map Effect.state).getD s

/-- Lives one after another, each beginning in the state that the one before left. -/
def lived : State → List Life → List (List Effect)
  | _, [] => []
  | s, life :: lives => life.effects s :: lived (stateAfter s (life.effects s)) lives

/-- All that happens to clients in some lives, in order. -/
def happened (s : State) (lives : List Life) : List Action :=
  (lived s lives).flatten.flatMap Effect.actions

/-- The client that something happened to. -/
def Action.client : Action → Client
  | .made c => c
  | .served c => c
  | .closed c => c

/-! ## What one step does -/

/-- What is said about the closing of a client. -/
def closingEvents : Outcome → List Logging.Event
  | .ok _ => []
  | .error failure => [closeFailedEvent failure]

section Step

variable {life : Life} {settings : Settings} {s : State} {c : Client}

/-- A service that comes up makes one client, with a number that no client had before. -/
theorem startup_of_comesUp (h : life.ComesUp) :
    ∃ c, c.number = s.made ∧ Address.ofText life.settings.engineHost = .ok c.address ∧
      startup life.settings s = ⟨⟨some c, s.made + 1⟩, [.made c], [], none⟩ := by
  obtain ⟨config, address, hlogging, haddress⟩ := h
  refine ⟨⟨address, s.made⟩, rfl, haddress, ?_⟩
  simp only [startup, make, hlogging, haddress]

/-- A service that does not come up leaves everything as it was. -/
theorem startup_of_not_comesUp (h : ¬ life.ComesUp) :
    ∃ failure, startup life.settings s = ⟨s, [], [], some failure⟩ := by
  rw [startup, make]
  cases hlogging : logging life.settings with
  | error failure => exact ⟨failure, rfl⟩
  | ok config =>
      cases haddress : Address.ofText life.settings.engineHost with
      | error fault => exact ⟨fault.toFailure, rfl⟩
      | ok address => exact absurd ⟨config, address, hlogging, haddress⟩ h

/-- A request is served with the client that is kept, and makes none. -/
theorem request_kept (h : s.client = some c) :
    request settings s = ⟨s, [.served c], [], none⟩ := by
  simp only [request, resolve, keptOr, h, Option.isSome_some, if_true]

/-- A guard whose handler never fails lets nothing out. -/
theorem Course.guarded_failure {handle : Failure → Course} (h : ∀ f, (handle f).failure = none)
    (course : Course) : (course.guarded handle).failure = none := by
  unfold guarded
  cases hfailure : course.failure with
  | none => exact hfailure
  | some failure => exact h failure

/-- What comes in the end neither hides nor adds a failure if it has none itself. -/
theorem Course.inTheEnd_failure {course last : Course} (h : last.failure = none) :
    (course.inTheEnd last).failure = course.failure := by
  show (last.failure.orElse fun _ => course.failure) = course.failure
  rw [h]
  rfl

theorem closeGuarded_failure (closing : Outcome) (s : State) :
    (closeGuarded closing s).failure = none :=
  Course.guarded_failure (fun _ => rfl) _

/-- What closing comes to is never thrown: what goes on is what was thrown before, from whatever
state and whatever became of closing. -/
theorem shutdown_escaped (closing : Outcome) (thrown : Option Failure) (s : State) :
    (shutdown closing thrown s).escaped = thrown :=
  Course.inTheEnd_failure (closeGuarded_failure closing s)

/-- A client that is kept is closed, and a failure of that is said. -/
theorem closeGuarded_kept (h : s.client = some c) (closing : Outcome) :
    closeGuarded closing s = ⟨[.closed c], closingEvents closing, none⟩ := by
  rw [closeGuarded, close, h]
  cases closing with
  | ok _ => rfl
  | error failure => rfl

/-- Where no client is kept none is closed, and that there was none is said. -/
theorem closeGuarded_unkept (h : s.client = none) (closing : Outcome) :
    closeGuarded closing s = ⟨[], [closeFailedEvent noClient], none⟩ := by
  rw [closeGuarded, close, h]
  rfl

/-- Being up does nothing, so shutting down does what is done in the end; only what was thrown goes
on. -/
theorem shutdown_eq (closing : Outcome) (thrown : Option Failure) (s : State) :
    shutdown closing thrown s = ⟨s, (closeGuarded closing s).actions,
      (closeGuarded closing s).events, thrown⟩ := by
  have hescaped := shutdown_escaped closing thrown s
  show Effect.mk s _ _ (shutdown closing thrown s).escaped = _
  rw [hescaped]
  rfl

/-- Shutting down closes the client that is kept.  Only what was thrown goes on. -/
theorem shutdown_kept (h : s.client = some c) (closing : Outcome) (thrown : Option Failure) :
    shutdown closing thrown s = ⟨s, [.closed c], closingEvents closing, thrown⟩ := by
  rw [shutdown_eq, closeGuarded_kept h]

/-- Shutting down without a client only says that there is none. -/
theorem shutdown_unkept (h : s.client = none) (closing : Outcome) (thrown : Option Failure) :
    shutdown closing thrown s = ⟨s, [], [closeFailedEvent noClient], thrown⟩ := by
  rw [shutdown_eq, closeGuarded_unkept h]

/-- Any number of requests is served with the client that is kept, and leaves it kept. -/
theorem run_requests (h : s.client = some c) (n : Nat) (steps : List Step) :
    run settings s (List.replicate n .request ++ steps) =
      List.replicate n ⟨s, [.served c], [], none⟩ ++ run settings s steps := by
  induction n with
  | zero => rfl
  | succ n ih =>
      rw [List.replicate_succ, List.cons_append, run, step, request_kept h, ih]
      rfl

end Step

/-! ## What one life does -/

/-- A life with a client of its own: starting up makes the client and nothing else, every request is
served with it, and shutting down closes it.  A failure to close it is said and goes no further;
what was thrown into the life goes on as it was. -/
structure Life.HasClient (life : Life) (c : Client) (effects : List Effect) : Prop where
  address : Address.ofText life.settings.engineHost = .ok c.address
  actions : effects.map Effect.actions =
    [.made c] :: (List.replicate life.requests [.served c] ++ [[.closed c]])
  events : effects.map Effect.events =
    [] :: (List.replicate life.requests [] ++ [closingEvents life.closing])
  escaped : effects.map Effect.escaped =
    none :: (List.replicate life.requests none ++ [life.thrown])

/-- A life that ends when it should begin: nothing happens to a client, and the failure goes on. -/
structure Life.Fails (effects : List Effect) : Prop where
  actions : effects.map Effect.actions = [[]]
  escaped : ∃ failure, effects.map Effect.escaped = [some failure]

/-- How a life goes: it comes up and has a client of its own, or it fails. -/
def Life.Goes (life : Life) (effects : List Effect) : Prop :=
  (life.ComesUp ∧ ∃ c, life.HasClient c effects) ∨ (¬ life.ComesUp ∧ Life.Fails effects)

section Life

variable {life : Life} {s : State}

/-- The client of a life is a new one, and it is still kept when the life is over. -/
theorem effects_of_comesUp (h : life.ComesUp) :
    ∃ c, c.number = s.made ∧ life.HasClient c (life.effects s) ∧
      stateAfter s (life.effects s) = ⟨some c, s.made + 1⟩ := by
  obtain ⟨c, hnumber, haddress, hstartup⟩ := startup_of_comesUp (s := s) h
  have heffects : life.effects s =
      ⟨⟨some c, s.made + 1⟩, [.made c], [], none⟩ ::
        (List.replicate life.requests ⟨⟨some c, s.made + 1⟩, [.served c], [], none⟩ ++
          [⟨⟨some c, s.made + 1⟩, [.closed c], closingEvents life.closing, life.thrown⟩]) := by
    simp only [Life.effects, hstartup, Life.whileUp, Option.isSome_none, Bool.false_eq_true,
      if_false]
    rw [run_requests rfl, run, step, shutdown_kept rfl, run]
  refine ⟨c, hnumber, ⟨haddress, ?_, ?_, ?_⟩, ?_⟩
  · simp [heffects]
  · simp [heffects]
  · simp [heffects]
  · rw [heffects, stateAfter, ← List.cons_append, List.getLast?_concat]
    rfl

/-- A life that fails leaves everything as it was. -/
theorem effects_of_not_comesUp (h : ¬ life.ComesUp) :
    Life.Fails (life.effects s) ∧ stateAfter s (life.effects s) = s := by
  obtain ⟨failure, hstartup⟩ := startup_of_not_comesUp (s := s) h
  have heffects : life.effects s = [⟨s, [], [], some failure⟩] := by
    simp only [Life.effects, hstartup, Option.isSome_some, if_true]
  rw [heffects]
  exact ⟨⟨rfl, failure, rfl⟩, rfl⟩

theorem goes_effects (life : Life) (s : State) : life.Goes (life.effects s) := by
  by_cases h : life.ComesUp
  · obtain ⟨c, -, hclient, -⟩ := effects_of_comesUp (s := s) h
    exact .inl ⟨h, c, hclient⟩
  · exact .inr ⟨h, (effects_of_not_comesUp h).1⟩

end Life

/-! ## What many lives do -/

/-- All that happens to the client of a life in that life. -/
def wholeLife (c : Client) (requests : Nat) : List Action :=
  .made c :: (List.replicate requests (.served c) ++ [.closed c])

theorem client_of_mem_wholeLife {c : Client} {n : Nat} {a : Action} (h : a ∈ wholeLife c n) :
    a.client = c := by
  simp only [wholeLife, List.mem_cons, List.mem_append, List.mem_replicate, List.not_mem_nil,
    or_false] at h
  rcases h with rfl | ⟨-, rfl⟩ | rfl <;> rfl

/-- Everything that happens to a client happens in one life: it is made, serves requests, and is
closed, and neither before nor after does anything happen to it. -/
def LivesOnce (c : Client) (actions : List Action) : Prop :=
  ∃ requests before after, actions = before ++ wholeLife c requests ++ after ∧
    ∀ a ∈ before ++ after, a.client ≠ c

theorem LivesOnce.append_left {c : Client} {actions : List Action} (h : LivesOnce c actions)
    {earlier : List Action} (hearlier : ∀ a ∈ earlier, a.client ≠ c) :
    LivesOnce c (earlier ++ actions) := by
  obtain ⟨n, before, after, rfl, hothers⟩ := h
  refine ⟨n, earlier ++ before, after, by simp only [List.append_assoc], fun a ha => ?_⟩
  rw [List.append_assoc, List.mem_append] at ha
  exact ha.elim (hearlier a) (hothers a)

/-- A client that lives once is made once and closed once. -/
theorem LivesOnce.count {c : Client} {actions : List Action} (h : LivesOnce c actions) :
    actions.count (.made c) = 1 ∧ actions.count (.closed c) = 1 := by
  obtain ⟨n, before, after, rfl, hothers⟩ := h
  have hnone : ∀ a : Action, a.client = c → before.count a = 0 ∧ after.count a = 0 := by
    intro a ha
    rw [List.count_eq_zero, List.count_eq_zero]
    exact ⟨fun hmem => hothers a (List.mem_append_left _ hmem) ha,
      fun hmem => hothers a (List.mem_append_right _ hmem) ha⟩
  obtain ⟨hmade, hmade'⟩ := hnone (.made c) rfl
  obtain ⟨hclosed, hclosed'⟩ := hnone (.closed c) rfl
  simp [wholeLife, List.count_replicate, hmade, hmade', hclosed, hclosed']

variable {s : State} {lives : List Life}

/-- A life adds all that happens to a new client, or nothing. -/
theorem happened_cons (s : State) (life : Life) (lives : List Life) :
    (∃ c, c.number = s.made ∧ happened s (life :: lives) =
        wholeLife c life.requests ++ happened ⟨some c, s.made + 1⟩ lives) ∨
      happened s (life :: lives) = happened s lives := by
  have hsplit : happened s (life :: lives) = ((life.effects s).map Effect.actions).flatten ++
      happened (stateAfter s (life.effects s)) lives := by
    rw [happened, lived, List.flatten_cons, List.flatMap_append, List.flatMap_def, happened]
  by_cases h : life.ComesUp
  · obtain ⟨c, hnumber, hclient, hstate⟩ := effects_of_comesUp (s := s) h
    refine .inl ⟨c, hnumber, ?_⟩
    rw [hsplit, hstate, hclient.actions]
    simp [wholeLife]
  · obtain ⟨hfails, hstate⟩ := effects_of_not_comesUp (s := s) h
    refine .inr ?_
    rw [hsplit, hstate, hfails.actions]
    rfl

/-- From a state on, things happen only to clients that are made from there on. -/
theorem made_le_number : ∀ a ∈ happened s lives, s.made ≤ a.client.number := by
  induction lives generalizing s with
  | nil => exact fun a ha => absurd ha List.not_mem_nil
  | cons life lives ih =>
      intro a ha
      rcases happened_cons s life lives with ⟨c, hnumber, hhappened⟩ | hhappened
      · rw [hhappened, List.mem_append] at ha
        rcases ha with ha | ha
        · rw [client_of_mem_wholeLife ha]
          exact hnumber.ge
        · exact Nat.le_of_succ_le (ih a ha)
      · exact ih a (hhappened ▸ ha)

/-- **Every client that is made lives once.** -/
theorem livesOnce_of_made {c : Client} (h : .made c ∈ happened s lives) :
    LivesOnce c (happened s lives) := by
  induction lives generalizing s with
  | nil => exact absurd h List.not_mem_nil
  | cons life lives ih =>
      rcases happened_cons s life lives with ⟨first, hnumber, hhappened⟩ | hhappened
      · -- the clients of later lives have greater numbers than the first one
        have hlater : ∀ a ∈ happened ⟨some first, s.made + 1⟩ lives, a.client ≠ first := by
          intro a ha heq
          have hle : s.made + 1 ≤ a.client.number := made_le_number a ha
          rw [heq, hnumber] at hle
          omega
        rw [hhappened] at h ⊢
        rcases List.mem_append.mp h with hfirst | hrest
        · have hc : c = first := client_of_mem_wholeLife hfirst
          exact ⟨life.requests, [], _, by rw [hc]; rfl, hc ▸ hlater⟩
        · refine (ih hrest).append_left fun a ha heq => ?_
          rw [client_of_mem_wholeLife ha] at heq
          exact hlater _ hrest heq.symm
      · rw [hhappened] at h ⊢
        exact ih h

theorem goes_lived (s : State) (lives : List Life) :
    List.Forall₂ Life.Goes lives (lived s lives) := by
  induction lives generalizing s with
  | nil => exact .nil
  | cons life lives ih => exact .cons (goes_effects life s) (ih _)

/-- **One client for each life.**  Whatever lives follow one another, and whatever closing comes to:
a life that comes up makes one client when it starts up, serves every request with it and closes it
when it shuts down; that closing failed never goes further, and what was thrown goes on unchanged.
Nothing happens to a client outside of its life, so it is closed exactly once. -/
theorem one_client_each_life (s : State) (lives : List Life) :
    List.Forall₂ Life.Goes lives (lived s lives) ∧
      ∀ c, .made c ∈ happened s lives →
        LivesOnce c (happened s lives) ∧ (happened s lives).count (.closed c) = 1 := by
  refine ⟨goes_lived s lives, fun c hmade => ?_⟩
  have honce := livesOnce_of_made hmade
  exact ⟨honce, honce.count.2⟩

/-- A life that something is thrown into and whose client cannot be closed, one whose setting names
no address, and one without requests. -/
def unevenLives : List Life :=
  [⟨.default, 2, .error (.ofFault .runtime "closing"), some (.ofFault .runtime "thrown")⟩,
    ⟨{ Settings.default with engineHost := "opensearch" }, 3, .ok .null, none⟩,
    ⟨.default, 0, .ok .null, none⟩]

/-- The client that was made when so many were made before. -/
def unevenClient (number : Nat) : Client := ⟨⟨"http", "opensearch", 9200⟩, number⟩

theorem one_client_each_life_uneven :
    happened .initial unevenLives =
        wholeLife (unevenClient 0) 2 ++ wholeLife (unevenClient 1) 0 ∧
      List.Forall₂ Life.Goes unevenLives (lived .initial unevenLives) ∧
      ∀ number < 2, (happened .initial unevenLives).count (.closed (unevenClient number)) = 1 := by
  have hhappened : happened .initial unevenLives =
      wholeLife (unevenClient 0) 2 ++ wholeLife (unevenClient 1) 0 := by decide +kernel
  obtain ⟨hgoes, hclients⟩ := one_client_each_life .initial unevenLives
  refine ⟨hhappened, hgoes, fun number hnumber => ?_⟩
  have hmade : .made (unevenClient number) ∈ happened .initial unevenLives := by
    rw [hhappened]
    interval_cases number <;> decide
  exact (hclients _ hmade).2

end FacetSearch.Lifecycle
