/-!
# `InstallMatrix.Program`: computations that ask their surroundings

A `Program` is a computation written as the questions it puts to its
surroundings and what it does with each answer. Cell pipelines, engine commands
and the command line are programs; a state machine, a scripted engine or the
operating system answers them. The questions are data, so a statement about every
behaviour of the surroundings is a statement about every answer.

Definitions: `Program`, `ask`, `perform` (answers every question in some monad),
`run` (answers from a state), and `Path`, the relation between a program, a
transcript of questions with their answers, and the program that is left.
-/

set_option autoImplicit false

namespace InstallMatrix

/-- A computation of an `α` that may ask questions, `A q` being the answers to
the question `q`. -/
inductive Program {Q : Type} (A : Q → Type) (α : Type) : Type
  | pure (value : α)
  | ask (question : Q) (next : A question → Program A α)

namespace Program

variable {Q : Type} {A : Q → Type} {α β : Type}

/-- Continues a program with its result. -/
def bind (p : Program A α) (f : α → Program A β) : Program A β :=
  match p with
  | .pure a => f a
  | .ask q next => .ask q fun a => (next a).bind f

/-- What is put together of programs are programs, so they can be written in `do` notation. -/
instance : Monad (Program A) where
  pure := .pure
  bind := bind

/-- A program without questions hands its value on. -/
@[simp] theorem pure_bind (a : α) (f : α → Program A β) : (Program.pure a >>= f) = f a := rfl

/-- What follows a question follows it for every answer. -/
@[simp] theorem ask_bind (q : Q) (next : A q → Program A α) (f : α → Program A β) :
    (Program.ask q next >>= f) = .ask q fun a => next a >>= f := rfl

/-- Handing the value on and nothing else changes no program. -/
theorem bind_pure (p : Program A α) : p.bind .pure = p := by
  induction p with
  | pure a => rfl
  | ask q next ih => simp only [bind]; congr 1; funext a; exact ih a

/-- It does not matter how three programs are grouped. -/
theorem bind_assoc {γ : Type} (p : Program A α) (f : α → Program A β) (g : β → Program A γ) :
    (p.bind f).bind g = p.bind fun a => (f a).bind g := by
  induction p with
  | pure a => rfl
  | ask q next ih => simp only [bind]; congr 1; funext a; exact ih a

/-- The rules that `do` notation relies on, so that lemmas about monads apply. -/
instance : LawfulMonad (Program A) := LawfulMonad.mk' _
  (fun p => bind_pure p) (fun _ _ => rfl) bind_assoc

/-- The program that asks one question and yields the answer. -/
def question (q : Q) : Program A (A q) := .ask q .pure

/-- Answers every question of a program in a monad. -/
def perform {m : Type → Type} [Monad m] (answer : (q : Q) → m (A q)) : Program A α → m α
  | .pure a => Pure.pure a
  | .ask q next => do
    let a ← answer q
    perform answer (next a)

/-- Answers every question of a program from a state that each answer may
change. -/
def run {σ : Type} (answer : (q : Q) → σ → A q × σ) : Program A α → σ → α × σ
  | .pure a, s => (a, s)
  | .ask q next, s =>
    let (a, s) := answer q s
    run answer (next a) s

/-- The questions a program has asked, each with its answer, the oldest first. -/
abbrev Transcript (A : Q → Type) := List (Σ q, A q)

/-- `Path p log r`: answered as in `log`, the program `p` becomes `r`. -/
inductive Path : Program A α → Transcript A → Program A α → Prop
  | here (p : Program A α) : Path p [] p
  | step {q : Q} {next : A q → Program A α} {log : Transcript A} {r : Program A α} (a : A q)
      (rest : Path (next a) log r) : Path (.ask q next) (⟨q, a⟩ :: log) r

end Program

end InstallMatrix
