import InstallMatrix.Proofs.Program
import InstallMatrix.Run.Question

/-!
# `InstallMatrix.Proofs.Run.Deed`: what a cell does

Of all a cell asks, the others see its calls and the result it hands in. `Deed` is
one of these, and `CellProgram.deeds` leaves out of a transcript what is none.

`CellProgram.Does p ds a` says that `p` may end with `a` having done `ds`, whatever
it saw and was answered on the way. `does_pure`, `does_bind` and their companions
for single questions compute it, so that a program in `do` notation is read line
by line.
-/

set_option autoImplicit false

namespace InstallMatrix

/-- What a cell does before the eyes of others. Looking at the clock is no deed, and neither is
whatever the cell computes. -/
inductive Deed
  /-- It called the gateway and was answered. -/
  | called (call : Call) (reply : call.Reply)
  /-- It handed in a result. -/
  | recorded (result : CellResult)

namespace CellProgram

/-- Every question has an answer: a moment, a failed call, or the nod to a result. -/
instance (q : CellQuestion) : Nonempty (CellAnswer q) :=
  match q with
  | .observe => ⟨⟨false, 0⟩⟩
  | .call c => ⟨c.failed (.timeout "")⟩
  | .record _ => ⟨()⟩

/-- The deed that a question with its answer is. Looking at the run is none. -/
def deed? : (Σ q, CellAnswer q) → Option Deed
  | ⟨.observe, _⟩ => none
  | ⟨.call c, reply⟩ => some (.called c reply)
  | ⟨.record r, _⟩ => some (.recorded r)

/-- The deeds of a transcript, the oldest first. -/
def deeds (log : Program.Transcript CellAnswer) : List Deed := log.filterMap deed?

/-- Nothing asked is nothing done. -/
@[simp] theorem deeds_nil : deeds [] = [] := rfl

/-- The deeds of a transcript in two parts are those of the first and then those of the second. -/
@[simp] theorem deeds_append (log more : Program.Transcript CellAnswer) :
    deeds (log ++ more) = deeds log ++ deeds more :=
  List.filterMap_append

/-- Looking at the run leaves no trace among the deeds. So clock readings, which differ from run
to run, play no part in what is said of them. -/
@[simp] theorem deeds_observe (m : Moment) (log : Program.Transcript CellAnswer) :
    deeds (⟨.observe, m⟩ :: log) = deeds log := rfl

/-- A call is a deed together with its reply. What a cell does later depends on the reply, so the
two are kept in one piece. -/
@[simp] theorem deeds_call (c : Call) (reply : c.Reply)
    (log : Program.Transcript CellAnswer) :
    deeds (⟨.call c, reply⟩ :: log) = .called c reply :: deeds log := rfl

/-- A result that is handed in is a deed. The nod that answers it says nothing and is left out. -/
@[simp] theorem deeds_record (r : CellResult) (u : Unit)
    (log : Program.Transcript CellAnswer) :
    deeds (⟨.record r, u⟩ :: log) = .recorded r :: deeds log := rfl

/-- `Does p ds a`: the program may end with `a`, having done `ds`. The looks on the way may have
shown anything, and so `Does` is about all runs of the program. -/
def Does {α : Type} (p : CellProgram α) (ds : List Deed) (a : α) : Prop :=
  ∃ log, Program.Path p log (.pure a) ∧ deeds log = ds

variable {α β : Type}

/-- A program without questions ends with its value and has done nothing. The rules from here on
are equivalences: a program in `do` notation is read off line by line with them, and the same
rules put a run of it together. -/
theorem does_pure {a b : α} {ds : List Deed} :
    Does (pure a) ds b ↔ ds = [] ∧ b = a := by
  constructor
  · rintro ⟨log, path, rfl⟩
    obtain ⟨rfl, end_eq⟩ := path.of_pure
    cases end_eq
    exact ⟨rfl, rfl⟩
  · rintro ⟨rfl, rfl⟩
    exact ⟨[], .here _, rfl⟩

/-- What follows a program begins with the value the program ended with, and the deeds of both are
strung together. -/
theorem does_bind {p : CellProgram α} {f : α → CellProgram β} {ds : List Deed} {b : β} :
    Does (p >>= f) ds b ↔
      ∃ a first second, ds = first ++ second ∧ Does p first a ∧ Does (f a) second b := by
  constructor
  · rintro ⟨log, path, rfl⟩
    obtain ⟨a, first, second, rfl, inside, after⟩ := path.split_pure
    exact ⟨a, _, _, deeds_append first second, ⟨first, inside, rfl⟩, ⟨second, after, rfl⟩⟩
  · rintro ⟨a, -, -, rfl, ⟨first, inside, rfl⟩, ⟨second, after, rfl⟩⟩
    exact ⟨first ++ second, (inside.bind f).trans after, deeds_append first second⟩

/-- What follows a look at the run may have seen any moment, and the look is no deed. -/
theorem does_observe_bind {f : Moment → CellProgram β} {ds : List Deed} {b : β} :
    Does (observe >>= f) ds b ↔ ∃ m, Does (f m) ds b := by
  constructor
  · rintro ⟨log, path, rfl⟩
    obtain ⟨m, rest, rfl, after⟩ := path.of_question_bind
    exact ⟨m, rest, after, rfl⟩
  · rintro ⟨m, log, path, rfl⟩
    refine ⟨⟨.observe, m⟩ :: log, ?_, rfl⟩
    -- `observe >>= f` is `.ask .observe f` by computation, which `apply` sees through.
    apply Program.Path.step
    exact path

/-- What follows a call may have got any reply, and the call with this reply is the first deed. -/
theorem does_call_bind {c : Call} {f : c.Reply → CellProgram β} {ds : List Deed} {b : β} :
    Does (call c >>= f) ds b ↔
      ∃ reply rest, ds = .called c reply :: rest ∧ Does (f reply) rest b := by
  constructor
  · rintro ⟨log, path, rfl⟩
    obtain ⟨reply, rest, rfl, after⟩ := path.of_question_bind
    exact ⟨reply, _, rfl, rest, after, rfl⟩
  · rintro ⟨reply, -, rfl, log, path, rfl⟩
    refine ⟨⟨.call c, reply⟩ :: log, ?_, rfl⟩
    apply Program.Path.step
    exact path

/-- What follows a result that was handed in comes after that deed. There is nothing to learn from
the answer. -/
theorem does_record_bind {r : CellResult} {f : Unit → CellProgram β} {ds : List Deed} {b : β} :
    Does (record r >>= f) ds b ↔ ∃ rest, ds = .recorded r :: rest ∧ Does (f ()) rest b := by
  constructor
  · rintro ⟨log, path, rfl⟩
    obtain ⟨u, rest, rfl, after⟩ := path.of_question_bind
    exact ⟨_, rfl, rest, after, rfl⟩
  · rintro ⟨-, rfl, log, path, rfl⟩
    refine ⟨⟨.record r, ()⟩ :: log, ?_, rfl⟩
    apply Program.Path.step
    exact path

/-- A call that nothing follows: its only deed is the call itself, and it ends with the reply. -/
theorem does_call {c : Call} {ds : List Deed} {reply : c.Reply} :
    Does (call c) ds reply ↔ ds = [.called c reply] := by
  -- A call at the end of a program is one that nothing follows.
  rw [← bind_pure (call c), does_call_bind]
  simp only [does_pure]
  constructor
  · rintro ⟨_, _, rfl, rfl, rfl⟩
    rfl
  · rintro rfl
    exact ⟨reply, [], rfl, rfl, rfl⟩

/-- The handing in of a result that nothing follows, which is the last deed of a cell without a
container. -/
theorem does_record {r : CellResult} {ds : List Deed} {u : Unit} :
    Does (record r) ds u ↔ ds = [.recorded r] := by
  rw [← bind_pure (record r), does_record_bind]
  simp only [does_pure]
  constructor
  · rintro ⟨_, rfl, rfl, -⟩
    rfl
  · rintro rfl
    exact ⟨[], rfl, rfl, trivial⟩

end CellProgram

end InstallMatrix
