/-
# FacetSearch.Proofs.Saying — what an exchange may say, whatever it is answered.

An exchange moves on by saying an event or by taking an outcome of a call.  What it has become after
some moves, and what it said on the way, does not depend on who answers: every outcome is allowed at
every call.  Playing against a client is one such way.  What is true of every event that an exchange
may say is true of every event that it has said.
-/
import FacetSearch.Http.Dispatch

namespace FacetSearch.Exchange

variable {κ κ' ε ε' α β σ : Type}

/-! ## What an exchange becomes -/

/-- What an exchange may have become after saying events, its calls answered in any way. -/
inductive Reaches : Exchange κ ε α → List ε → Exchange κ ε α → Prop where
  | refl (x) : Reaches x [] x
  | say {event next events y} : Reaches next events y →
      Reaches (.say event next) (event :: events) y
  | ask {call resume events y} (outcome : Outcome) : Reaches (resume outcome) events y →
      Reaches (.ask call resume) events y

namespace Reaches

variable {x y z : Exchange κ ε α} {events more : List ε}

theorem trans (h : Reaches x events y) (h' : Reaches y more z) : Reaches x (events ++ more) z := by
  induction h with
  | refl => exact h'
  | say _ ih => exact (ih h').say
  | ask outcome _ ih => exact (ih h').ask outcome

/-- Nothing more. -/
theorem silent (h : Reaches x events y) : Reaches x (events ++ []) y := by
  rwa [List.append_nil]

/-- One event more. -/
theorem said {event : ε} (h : Reaches x events (.say event y)) : Reaches x (events ++ [event]) y :=
  h.trans (Reaches.refl y).say

/-- One outcome more. -/
theorem answered {call : κ} {resume : Outcome → Exchange κ ε α}
    (h : Reaches x events (.ask call resume)) (outcome : Outcome) :
    Reaches x events (resume outcome) := by
  have hask : Reaches (.ask call resume) [] (resume outcome) := (Reaches.refl _).ask outcome
  rw [← List.append_nil events]
  exact h.trans hask

/-- Playing an exchange is one way for it to come to its end. -/
theorem run (client : σ → κ → Outcome × σ) (s : σ) (x : Exchange κ ε α) :
    Reaches x (x.run client s).1.events (.done (x.run client s).1.result) := by
  induction x generalizing s with
  | done a => exact .refl _
  | say event next ih => exact (ih s).say
  | ask call resume ih => exact (ih _ (client s call).2).ask (client s call).1

/-- An exchange that has come to its end has come to the end of both of its parts. -/
theorem of_bind {f : α → Exchange κ ε β} {events : List ε} {b : β}
    (h : Reaches (x.bind f) events (.done b)) :
    ∃ first second a, events = first ++ second ∧ Reaches x first (.done a) ∧
      Reaches (f a) second (.done b) := by
  induction x generalizing events with
  | done a => exact ⟨[], events, a, rfl, .refl _, h⟩
  | say event next ih =>
      cases h with
      | say hnext =>
          obtain ⟨first, second, a, rfl, hfirst, hsecond⟩ := ih hnext
          exact ⟨event :: first, second, a, rfl, hfirst.say, hsecond⟩
  | ask call resume ih =>
      cases h with
      | ask outcome hnext =>
          obtain ⟨first, second, a, rfl, hfirst, hsecond⟩ := ih outcome hnext
          exact ⟨first, second, a, rfl, hfirst.ask outcome, hsecond⟩

/-- Events in another form are the events, each in that form. -/
theorem of_mapEvents {g : ε → ε'} {events : List ε'} {a : α}
    (h : Reaches (x.mapEvents g) events (.done a)) :
    ∃ said, events = said.map g ∧ Reaches x said (.done a) := by
  induction x generalizing events with
  | done b =>
      cases h with
      | refl => exact ⟨[], rfl, .refl _⟩
  | say event next ih =>
      cases h with
      | say hnext =>
          obtain ⟨said, rfl, hsaid⟩ := ih hnext
          exact ⟨event :: said, rfl, hsaid.say⟩
  | ask call resume ih =>
      cases h with
      | ask outcome hnext =>
          obtain ⟨said, rfl, hsaid⟩ := ih outcome hnext
          exact ⟨said, rfl, hsaid.ask outcome⟩

end Reaches

/-! ## What an exchange may say -/

/-- Whatever the outcomes of its calls, an exchange says only events of a kind. -/
def SaysOnly (P : ε → Prop) : Exchange κ ε α → Prop
  | done _ => True
  | say event next => P event ∧ next.SaysOnly P
  | ask _ resume => ∀ outcome, (resume outcome).SaysOnly P

variable {P : ε → Prop}

theorem Reaches.saysOnly {x y : Exchange κ ε α} {events : List ε} (h : Reaches x events y)
    (hx : x.SaysOnly P) : ∀ event ∈ events, P event := by
  induction h with
  | refl => exact List.forall_mem_nil _
  | say _ ih => exact List.forall_mem_cons.mpr ⟨hx.1, ih hx.2⟩
  | ask outcome _ ih => exact ih (hx outcome)

theorem saysOnly_bind {x : Exchange κ ε α} {f : α → Exchange κ ε β} (hx : x.SaysOnly P)
    (hf : ∀ a, (f a).SaysOnly P) : (x.bind f).SaysOnly P := by
  induction x with
  | done a => exact hf a
  | say event next ih => exact ⟨hx.1, ih hx.2⟩
  | ask call resume ih => exact fun outcome => ih outcome (hx outcome)

theorem saysOnly_through {answer : κ → Exchange κ' ε Outcome} {x : Exchange κ ε α}
    (hx : x.SaysOnly P) (hanswer : ∀ call, (answer call).SaysOnly P) :
    (x.through answer).SaysOnly P := by
  induction x with
  | done a => exact trivial
  | say event next ih => exact ⟨hx.1, ih hx.2⟩
  | ask call resume ih => exact saysOnly_bind (hanswer call) fun outcome => ih outcome (hx outcome)

end FacetSearch.Exchange
