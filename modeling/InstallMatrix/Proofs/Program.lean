import InstallMatrix.Program
import Mathlib.Order.Lattice.Nat

/-!
# `InstallMatrix.Proofs.Program`: paths through programs

A `Program.Path` goes from a program, along answered questions, to the program
that is left. The theorems:

* `Path.trans` and `Path.answer`: paths are put together, and go on by one answer
  to the question the program stands at.
* `Path.split`: a path through `p >>= f` stays inside `p`, or goes to an end of
  `p` and on from there. Every statement about a program written in `do` notation
  starts from this one.
* `Path.complete`: where every question has an answer, every program has a path to
  an end. So whatever holds of all finished paths holds, in its beginning, of the
  unfinished ones. `Path.exists_allowed` says so of restricted answers.
* `path_of_run_invariant`: running a program is going along one of its paths. `eval` runs it on
  answers that never change.
* `meets_bind`: what a program asks and ends in under restricted answers, put together
  from the parts; `Meets.along` and `Meets.asks_of_path` say it of the paths.
* `Within.bind`: a bound on the length of the paths, put together from the parts.
* `height_answer_lt`: every answer lowers the height of a program, the length of its
  longest path.
-/

set_option autoImplicit false

namespace InstallMatrix.Program

variable {Q : Type} {A : Q → Type} {α β : Type}

/-- Every answer in the transcript is allowed. -/
def Allowed (allowed : (q : Q) → A q → Prop) (log : Transcript A) : Prop :=
  ∀ {q : Q} {a : A q}, ⟨q, a⟩ ∈ log → allowed q a

namespace Path

/-- From a program without questions there is only the empty path. -/
theorem of_pure {a : α} {log : Transcript A} {r : Program A α}
    (h : Path (.pure a) log r) : log = [] ∧ r = .pure a := by
  cases h
  exact ⟨rfl, rfl⟩

/-- A finished path from a program without questions is empty, and ends in what the program
yields. -/
theorem end_of_pure {a b : α} {log : Transcript A} (h : Path (.pure a) log (.pure b)) :
    log = [] ∧ b = a := by
  cases h
  exact ⟨rfl, rfl⟩

/-- A path from a question is empty, or begins with an answer to it. -/
theorem of_ask {q : Q} {next : A q → Program A α} {log : Transcript A} {r : Program A α}
    (h : Path (.ask q next) log r) :
    (log = [] ∧ r = .ask q next) ∨ ∃ a rest, log = ⟨q, a⟩ :: rest ∧ Path (next a) rest r := by
  cases h with
  | here => exact .inl ⟨rfl, rfl⟩
  | step a rest => exact .inr ⟨a, _, rfl, rest⟩

/-- A finished path from a question begins with an answer to it. -/
theorem of_ask_pure {q : Q} {next : A q → Program A α} {log : Transcript A} {b : α}
    (h : Path (.ask q next) log (.pure b)) :
    ∃ a rest, log = ⟨q, a⟩ :: rest ∧ Path (next a) rest (.pure b) := by
  cases h with
  | step a rest => exact ⟨a, _, rfl, rest⟩

/-- The first answer of a transcript is used up. -/
theorem ask_cons_iff {q : Q} {next : A q → Program A α} {a : A q} {log : Transcript A}
    {r : Program A α} : Path (.ask q next) (⟨q, a⟩ :: log) r ↔ Path (next a) log r := by
  constructor
  · intro h
    cases h with
    | step a rest => exact rest
  · exact .step a

/-- A program without questions yields its value, and nothing else. -/
theorem pure_nil_iff {a b : α} : Path (.pure a : Program A α) [] (.pure b) ↔ b = a := by
  constructor
  · intro h
    exact h.end_of_pure.2
  · intro same
    exact same ▸ .here _

/-- A finished path through a question and what follows it begins with an answer. -/
theorem of_question_bind {q : Q} {f : A q → Program A β} {log : Transcript A} {b : β}
    (h : Path (question q >>= f) log (.pure b)) :
    ∃ a rest, log = ⟨q, a⟩ :: rest ∧ Path (f a) rest (.pure b) :=
  of_ask_pure h

/-- Two paths that meet are one path. -/
theorem trans {p q r : Program A α} {log more : Transcript A} (h : Path p log q)
    (rest : Path q more r) : Path p (log ++ more) r := by
  induction h with
  | here p => exact rest
  | step a _ ih => exact .step a (ih rest)

/-- A path goes on with any answer to the question its end stands at. -/
theorem answer {p : Program A α} {log : Transcript A} {q : Q} {next : A q → Program A α}
    (h : Path p log (.ask q next)) (a : A q) : Path p (log ++ [⟨q, a⟩]) (next a) :=
  h.trans (.step a (.here _))

/-- The bounds of two parts add up. A path stays inside the first part and is short, or it goes
through and is as long as two paths together. -/
theorem bind {p r : Program A α} {log : Transcript A} (h : Path p log r)
    (f : α → Program A β) : Path (p >>= f) log (r >>= f) := by
  induction h with
  | here p => exact .here _
  | step a _ ih => exact .step a ih

/-- A path through `p >>= f` stays inside `p`, or goes to an end of `p` and on from
there. -/
theorem split {p : Program A α} {f : α → Program A β} {log : Transcript A} {r : Program A β}
    (h : Path (p >>= f) log r) :
    (∃ r', Path p log r' ∧ r = r' >>= f) ∨
      ∃ a first second, log = first ++ second ∧ Path p first (.pure a) ∧
        Path (f a) second r := by
  -- The log is generalised because it grows shorter as the program does.
  induction p generalizing log with
  | pure a => exact .inr ⟨a, [], log, rfl, .here _, h⟩
  | ask q next ih =>
    rcases h.of_ask with ⟨rfl, rfl⟩ | ⟨a, rest, rfl, path⟩
    · exact .inl ⟨_, .here _, rfl⟩
    · rcases ih a path with ⟨r', inside, rfl⟩ | ⟨b, first, second, rfl, inside, after⟩
      · exact .inl ⟨r', .step a inside, rfl⟩
      · exact .inr ⟨b, ⟨q, a⟩ :: first, second, rfl, .step a inside, after⟩

/-- A finished path through `p >>= f` goes to an end of `p` and on from there. -/
theorem split_pure {p : Program A α} {f : α → Program A β} {log : Transcript A} {b : β}
    (h : Path (p >>= f) log (.pure b)) :
    ∃ a first second, log = first ++ second ∧ Path p first (.pure a) ∧
      Path (f a) second (.pure b) := by
  rcases h.split with ⟨r', inside, end_eq⟩ | after
  · -- What stays inside `p` and is an end all the same has come to the end of both.
    cases r' with
    | pure a => exact ⟨a, log, [], by simp, inside, end_eq ▸ .here _⟩
    | ask q next => cases end_eq
  · exact after

/-- A finished path through a program whose result is changed. -/
theorem split_map {p : Program A α} {f : α → β} {log : Transcript A} {b : β}
    (h : Path (do return f (← p)) log (.pure b)) : ∃ a, Path p log (.pure a) ∧ b = f a := by
  obtain ⟨a, first, rest, rfl, inside, onward⟩ := h.split_pure
  obtain ⟨rfl, rfl⟩ := onward.end_of_pure
  rw [List.append_nil]
  exact ⟨a, inside, rfl⟩

/-- Where every question has an allowed answer, every program has an allowed path to an
end. -/
theorem exists_allowed {allowed : (q : Q) → A q → Prop} (some : ∀ q, ∃ a, allowed q a)
    (p : Program A α) : ∃ log a, Path p log (.pure a) ∧ Allowed allowed log := by
  induction p with
  | pure a => exact ⟨[], a, .here _, nofun⟩
  | ask q next ih =>
    -- Any allowed answer will do, for the path goes on from each of them.
    obtain ⟨answer, may⟩ := some q
    obtain ⟨log, a, path, rest⟩ := ih answer
    refine ⟨⟨q, answer⟩ :: log, a, .step answer path, fun mem => ?_⟩
    rcases List.mem_cons.mp mem with same | later
    · cases same
      exact may
    · exact rest later

/-- Where every question has an answer, every program has a path to an end. -/
theorem complete [∀ q, Nonempty (A q)] (p : Program A α) : ∃ log a, Path p log (.pure a) := by
  have some : ∀ q : Q, ∃ _ : A q, True := fun q => exists_const _ |>.mpr trivial
  obtain ⟨log, a, path, -⟩ := exists_allowed some p
  exact ⟨log, a, path⟩

end Path

/-! ### Running -/

section Run
variable {σ : Type} (answer : (q : Q) → σ → A q × σ)

/-- A program that is run goes along a path to what it yields. What holds of the path and the
state at the beginning and is kept by every answer holds in the end. -/
theorem path_of_run_invariant {p : Program A α} {s : σ} (Holds : Transcript A → σ → Prop)
    (keeps : ∀ {log : Transcript A} {q : Q} {next : A q → Program A α} {s : σ},
      Path p log (.ask q next) → Holds log s →
        Holds (log ++ [⟨q, (answer q s).1⟩]) (answer q s).2)
    (start : Holds [] s) :
    ∃ log, Path p log (.pure (run answer p s).1) ∧ Holds log (run answer p s).2 := by
  -- What is left of the program is run on from the end of the path so far.
  have onward (r : Program A α) {log : Transcript A} {s : σ} (path : Path p log r)
      (holds : Holds log s) :
      ∃ log, Path p log (.pure (run answer r s).1) ∧ Holds log (run answer r s).2 := by
    induction r generalizing log s with
    | pure a => exact ⟨log, path, holds⟩
    | ask q next ih => exact ih (answer q s).1 (path.answer _) (keeps path holds)
  exact onward p (.here p) start

/-- A program that is run goes along one of its paths to the end, whatever the state the answers
are taken from. This is `path_of_run_invariant` for nothing in particular. -/
theorem path_of_run (p : Program A α) (s : σ) :
    ∃ log, Path p log (.pure (run answer p s).1) := by
  obtain ⟨log, path, -⟩ :=
    path_of_run_invariant answer (p := p) (s := s) (fun _ _ => True) (fun _ _ => trivial) trivial
  exact ⟨log, path⟩

/-- What follows a program is run on its result, from the state it left. -/
theorem run_bind (p : Program A α) (f : α → Program A β) (s : σ) :
    run answer (p >>= f) s = run answer (f (run answer p s).1) (run answer p s).2 := by
  induction p generalizing s with
  | pure a => rfl
  | ask q next ih => exact ih (answer q s).1 (answer q s).2

end Run

section Eval
variable {answer : (q : Q) → A q}

/-- What a program yields where every question always has the same answer. -/
def eval (answer : (q : Q) → A q) : Program A α → α
  | .pure a => a
  | .ask q next => (next (answer q)).eval answer

/-- A program without questions evaluates to its value. With the two rules below, `simp` computes
`eval` through a `do` block. -/
@[simp] theorem eval_pure (a : α) : (Pure.pure a : Program A α).eval answer = a := rfl

/-- A single question evaluates to its answer, which is what the rest of the program goes on with.
-/
@[simp] theorem eval_question_bind (q : Q) (f : A q → Program A β) :
    (question q >>= f).eval answer = (f (answer q)).eval answer := rfl

/-- What follows a program is evaluated on the value of the program. Unlike in `run_bind` there is
no state to hand on, for the answers never change. -/
@[simp] theorem eval_bind (p : Program A α) (f : α → Program A β) :
    (p >>= f).eval answer = (f (p.eval answer)).eval answer := by
  induction p with
  | pure a => rfl
  | ask q next ih => exact ih (answer q)

end Eval

/-! ### Restricted answers -/

section Meets
variable {allowed : (q : Q) → A q → Prop} {asks : Q → Prop}

/-- A transcript that is put together from two is allowed iff both of them are. -/
theorem allowed_append {log more : Transcript A} :
    Allowed allowed (log ++ more) ↔ Allowed allowed log ∧ Allowed allowed more := by
  constructor
  · intro h
    exact ⟨fun mem => h (List.mem_append_left _ mem), fun mem => h (List.mem_append_right _ mem)⟩
  · rintro ⟨first, second⟩ q a mem
    exact (List.mem_append.mp mem).elim first second

/-- One more allowed answer leaves the transcript allowed. Transcripts grow at their end while a
program is run, so this is the form an induction along a run needs. -/
theorem Allowed.answer {log : Transcript A} {q : Q} {a : A q} (h : Allowed allowed log)
    (may : allowed q a) : Allowed allowed (log ++ [⟨q, a⟩]) := by
  refine allowed_append.mpr ⟨h, fun mem => ?_⟩
  cases List.mem_singleton.mp mem
  exact may

/-- `Meets allowed asks p post`: given allowed answers, `p` asks no question but those of
`asks` and ends in nothing but what `post` says. -/
def Meets (allowed : (q : Q) → A q → Prop) (asks : Q → Prop) :
    Program A α → (α → Prop) → Prop
  | .pure a, post => post a
  | .ask q next, post => asks q ∧ ∀ a, allowed q a → (next a).Meets allowed asks post

/-- A program without questions meets what its value does. The rules for `Meets` are equivalences,
so `simp` may use them in both directions. -/
theorem meets_pure {a : α} {post : α → Prop} :
    Meets allowed asks (Pure.pure a) post ↔ post a := Iff.rfl

/-- A program that begins with a question meets `post` iff the question is one of those it may ask
and the rest meets `post` for every allowed answer. -/
theorem meets_question_bind {q : Q} {f : A q → Program A β} {post : β → Prop} :
    Meets allowed asks (question q >>= f) post ↔
      asks q ∧ ∀ a, allowed q a → Meets allowed asks (f a) post := Iff.rfl

/-- What follows a program has to meet the rest, for every value the program may end in. The
induction is on the program, and every answer takes one step of it. -/
theorem meets_bind {p : Program A α} {f : α → Program A β} {post : β → Prop} :
    Meets allowed asks (p >>= f) post ↔
      Meets allowed asks p fun a => Meets allowed asks (f a) post := by
  induction p with
  | pure a => exact Iff.rfl
  | ask q next ih =>
    exact and_congr_right fun _ => forall_congr' fun a => imp_congr_right fun _ => ih a

/-- More questions and a weaker end may be promised instead. So a part of a program may be shown
to meet its own narrow statement and then be used where less is wanted. -/
theorem Meets.mono {p : Program A α} {asks' : Q → Prop} {post post' : α → Prop}
    (h : Meets allowed asks p post) (wider : ∀ q, asks q → asks' q)
    (weaker : ∀ a, post a → post' a) : Meets allowed asks' p post' := by
  induction p with
  | pure a => exact weaker a h
  | ask q next ih => exact ⟨wider q h.1, fun a may => ih a (h.2 a may)⟩

/-- What a program meets, it meets on from everywhere along an allowed path. -/
theorem Meets.along {p r : Program A α} {log : Transcript A} {post : α → Prop}
    (h : Meets allowed asks p post) (path : Path p log r) (allowedLog : Allowed allowed log) :
    Meets allowed asks r post := by
  induction path with
  | here p => exact h
  | step a rest ih =>
    exact ih (h.2 a (allowedLog List.mem_cons_self))
      fun mem => allowedLog (List.mem_cons_of_mem _ mem)

/-- The questions along an allowed path. -/
theorem Meets.asks_of_path {p r : Program A α} {log : Transcript A} {post : α → Prop}
    (h : Meets allowed asks p post) (path : Path p log r) (allowedLog : Allowed allowed log)
    {q : Q} {a : A q} (mem : ⟨q, a⟩ ∈ log) : asks q := by
  induction path with
  | here p => cases mem
  | step b rest ih =>
    rcases List.mem_cons.mp mem with same | later
    · cases same
      exact h.1
    · exact ih (h.2 b (allowedLog List.mem_cons_self))
        (fun mem => allowedLog (List.mem_cons_of_mem _ mem)) later

end Meets

/-! ### The length of paths -/

/-- No path of the program is longer than `n`. -/
def Within (n : Nat) (p : Program A α) : Prop :=
  ∀ ⦃log : Transcript A⦄ ⦃r : Program A α⦄, Path p log r → log.length ≤ n

namespace Within

/-- A program without questions is at its end, so that its only path is the empty one. -/
theorem pure (a : α) : Within 0 (.pure a : Program A α) := by
  intro log r path
  rw [path.of_pure.1]
  exact Nat.le_refl 0

/-- A single question has the paths of length zero and one: it is unanswered or answered. -/
theorem question (q : Q) : Within 1 (Program.question q : Program A (A q)) := by
  intro log r path
  rcases path.of_ask with ⟨rfl, -⟩ | ⟨a, rest, rfl, after⟩
  · exact Nat.zero_le 1
  · rw [after.of_pure.1]
    exact Nat.le_refl 1

/-- A bound may be enlarged, which is how branches of different lengths get a common one. -/
theorem mono {m n : Nat} {p : Program A α} (h : Within m p) (le : m ≤ n) : Within n p :=
  fun _ _ path => Nat.le_trans (h path) le

/-- The bounds of two parts add up. -/
theorem bind {m n : Nat} {p : Program A α} {f : α → Program A β} (h : Within m p)
    (rest : ∀ a, Within n (f a)) : Within (m + n) (p >>= f) := by
  intro log r path
  rcases path.split with ⟨r', inside, -⟩ | ⟨a, first, second, rfl, inside, after⟩
  · exact Nat.le_add_right_of_le (h inside)
  · rw [List.length_append]
    exact Nat.add_le_add (h inside) (rest a after)

/-- An answer uses up one step of the bound. -/
theorem answer {n : Nat} {q : Q} {next : A q → Program A α} (h : Within n (.ask q next))
    (a : A q) : ∃ m, n = m + 1 ∧ Within m (next a) := by
  -- The answer itself is a path of length one, so the bound is not zero.
  have one : 1 ≤ n := h (.step a (.here _))
  refine ⟨n - 1, by omega, ?_⟩
  intro log r path
  have longer : log.length + 1 ≤ n := h (.step a path)
  omega

/-- A bound holds on from everywhere along a path, for what comes before only adds to the length.
-/
theorem along {n : Nat} {p r : Program A α} {log : Transcript A} (h : Within n p)
    (path : Path p log r) : Within n r := by
  intro more r' onward
  have whole : (log ++ more).length ≤ n := h (path.trans onward)
  rw [List.length_append] at whole
  omega

end Within

/-- The length of the longest path, if there is a longest. -/
noncomputable def height (p : Program A α) : Nat := sInf {n | Within n p}

/-- Every bound is at least the height, which is the least bound there is. -/
theorem height_le {n : Nat} {p : Program A α} (h : Within n p) : p.height ≤ n := Nat.sInf_le h

/-- The height of a program is itself a bound, provided that there is one. Without a bound the
height would be zero and say nothing. -/
theorem within_height {n : Nat} {p : Program A α} (h : Within n p) : Within p.height p :=
  Nat.sInf_mem (s := {n | Within n p}) ⟨n, h⟩

/-- An answer lowers the height. So a run that goes on answering questions comes to its end, and
the sum of the heights of all tasks is a measure for a whole run. -/
theorem height_answer_lt {n : Nat} {q : Q} {next : A q → Program A α}
    (h : Within n (.ask q next)) (a : A q) : (next a).height < (ask q next).height := by
  -- The height is itself a bound, the least one. One less bounds what the answer leaves.
  obtain ⟨m, top, rest⟩ := (within_height h).answer a
  have lower := height_le rest
  omega

end InstallMatrix.Program
