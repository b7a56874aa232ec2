import InstallMatrix.Proofs.Program
import InstallMatrix.Proofs.Run.Step
import InstallMatrix.Run.Execution

/-!
# `InstallMatrix.Proofs.Run.Execution`: a run that is carried out is a run

`RunState.execute` carries a run out by choosing one event after the other. It may be
answered anything, at any of its questions, and still every state it comes to is one that
a run of the plan may come to. So what holds of every run holds of those that are carried
out.

* `reaches_launch`: a launched run has taken up its plan entry by entry.
* `leads_of_path`: carrying a run on goes by events that may happen.
* `reaches_of_execute` puts the two together.
-/

set_option autoImplicit false

namespace InstallMatrix

namespace RunState

variable {s t u : RunState}

/-! ### From the plan -/

/-- Taking up one entry after the other, with all of them still to be taken up. -/
theorem reaches_takeUp (s : RunState) (plan : List PlannedCell) (clock : Nat) :
    Reaches { s with planned := plan } (plan.map fun _ => .take clock)
      (plan.foldl (fun s entry => s.takeUp clock entry) { s with planned := [] }) := by
  induction plan generalizing s with
  | nil => exact .here _
  | cons entry plan ih =>
    have first : { s with planned := entry :: plan }.step (.take clock)
        = some { s.takeUp clock entry with planned := plan } := by
      cases entry <;> rfl
    have aside : { s with planned := [] }.takeUp clock entry
        = { s.takeUp clock entry with planned := [] } := by
      cases entry <;> rfl
    rw [List.foldl_cons, aside]
    exact .step first (ih (s.takeUp clock entry))

/-- A launched run has taken up its plan entry by entry. -/
theorem reaches_launch (context : RunContext) (plan : List PlannedCell) (cancelled : Bool)
    (clock : Nat) :
    Reaches (start context plan cancelled) (plan.map fun _ => .take clock)
      (launch context plan cancelled clock) :=
  reaches_takeUp (start context plan cancelled) plan clock

/-! ### From event to event -/

/-- A run may lead from `s` to `t`. Which events it goes by is left open, for the executor chooses
them by the answers it gets. -/
def Leads (s t : RunState) : Prop := ∃ events, Reaches s events t

/-- Every state leads to itself, without any event. -/
theorem Leads.refl (s : RunState) : Leads s s := ⟨[], .here s⟩

/-- What leads on from where a state leads to is led to as well: the events are strung together.
-/
theorem Leads.trans (h : Leads s t) (rest : Leads t u) : Leads s u := by
  obtain ⟨events, run⟩ := h
  obtain ⟨more, onward⟩ := rest
  exact ⟨events ++ more, run.trans onward⟩

/-- An event leads on if it may happen. If not, `happen` leaves the state as it is. -/
theorem leads_happen (s : RunState) (e : RunEvent) : Leads s (s.happen e) := by
  unfold happen
  cases stepped : s.step e with
  | none => exact .refl s
  | some t => exact ⟨[e], .step stepped (.here t)⟩

/-- A state leads to the one in which the cancellation has happened, if it happens. -/
theorem leads_cancel (s : RunState) (cancels : Bool) :
    Leads s (if cancels then s.happen .cancel else s) := by
  cases cancels with
  | true => exact leads_happen s .cancel
  | false => exact .refl s

/-- Whatever a served call comes to leads on: a reply, a task that breaks off, or a call that is
still held. -/
theorem leads_afterServe (s : RunState) (held : List Nat) (i : Nat) (c : Call)
    (served : Served c) : Leads s (s.afterServe held i c served).1 := by
  obtain ⟨cancels, outcome⟩ := served
  refine (leads_cancel s cancels).trans ?_
  cases outcome with
  | replied reply => exact leads_happen _ _
  | panicked => exact leads_happen _ _
  | held => exact .refl _

/-- Carrying a run on goes by events that may happen. So what holds of all runs holds of the one
that is executed, whatever its surroundings answer. -/
theorem leads_of_path {fuel : Nat} {held : List Nat} {log : Program.Transcript RunAnswer}
    (path : Program.Path (executeFor fuel s held) log (.pure t)) : Leads s t := by
  -- Each branch of `executeFor` asks what its event needs, lets the event happen, and goes
  -- on with less fuel, or it stops where it is.
  induction fuel generalizing s held log with
  | zero =>
    cases path.of_pure.2
    exact .refl _
  | succ fuel ih =>
    unfold executeFor at path
    split at path
    · next i cell c next found =>
      obtain ⟨served, rest, rfl, onward⟩ := path.of_question_bind
      exact (leads_afterServe s held i c served).trans (ih onward)
    · next i task other found =>
      obtain ⟨clock, rest, rfl, onward⟩ := path.of_question_bind
      exact (leads_happen s _).trans (ih onward)
    · split at path
      · next i task waits =>
        split at path
        · obtain ⟨clock, rest, rfl, onward⟩ := path.of_question_bind
          exact (leads_happen s _).trans (ih onward)
        · split at path
          · exact (leads_happen s _).trans (ih path)
          · cases path.of_pure.2
            exact .refl _
      · split at path
        · next i held =>
          split at path
          · next e given =>
            split at path
            · exact (leads_happen s e).trans (ih path)
            · cases path.of_pure.2
              exact .refl _
          · cases path.of_pure.2
            exact .refl _
        · obtain ⟨swept, rest, rfl, looks⟩ := path.of_question_bind
          obtain ⟨clock, last, rfl, stops⟩ := looks.of_question_bind
          cases stops.of_pure.2
          exact (leads_cancel s swept.cancels).trans (leads_happen _ _)

/-- However a plan is carried out, with these or those answers, a run of it comes to the
same end. -/
theorem reaches_of_execute {context : RunContext} {plan : List PlannedCell} {cancelled : Bool}
    {clock : Nat} {log : Program.Transcript RunAnswer}
    (path : Program.Path (execute (launch context plan cancelled clock)) log (.pure t)) :
    ∃ events, Reaches (start context plan cancelled) events t :=
  Leads.trans ⟨_, reaches_launch context plan cancelled clock⟩ (leads_of_path path)

end RunState

end InstallMatrix
