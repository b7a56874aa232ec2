import InstallMatrix.Gateway.Memory
import Mathlib.Data.List.Perm.Basic
import Mathlib.Data.List.Nodup

/-!
# `InstallMatrix.Proofs.Gateway.Memory`: the books of the memory gateway

Of all a `MemoryGateway` keeps, `MemoryGateway.books` is what tells of containers. The
books are `Balanced` when every container that was created is live, removed or retained,
and that once. Starting a container keeps them balanced, and so does giving up one that
is live; a container that is not live would be entered twice.

`Balanced.sweep` says that after a sweep the removed and the retained containers are all
there are.
-/

set_option autoImplicit false

namespace InstallMatrix

/-- What a gateway has noted of its containers. The containers that were created are kept as a
whole, and of the others the ids. -/
structure Books where
  started : Nat
  created : List Container
  removed : List String
  retained : List String
  live : List String

namespace MemoryGateway

/-- The notes of a memory gateway on its containers. Images and requests are left out, for they
have nothing to do with who removes what. -/
def books (g : MemoryGateway) : Books := ⟨g.started, g.created, g.removed, g.retained, g.live⟩

/-- The id of the container with this number, counted from zero. Ids are given out in turn and
never again. -/
def idOf (n : Nat) : String := "mock-" ++ toString (n + 1)

/-- The id of a container tells its number. -/
theorem idOf_injective : Function.Injective idOf := by
  intro m n same
  have numbers : Nat.repr (m + 1) = Nat.repr (n + 1) := (String.append_right_inj _).mp same
  have digits : Nat.toDigits 10 (m + 1) = Nat.toDigits 10 (n + 1) := by
    rw [← Nat.toList_repr, ← Nat.toList_repr, numbers]
  -- Reading the digits again gives the number back.
  have values := congrArg (fun chars => Nat.ofDigitChars 10 chars 0) digits
  simp only [Nat.ofDigitChars_toDigits (by decide : 1 < 10) (by decide)] at values
  exact Nat.succ.inj values

end MemoryGateway

namespace Books

open MemoryGateway (idOf)

variable {b : Books}

/-- A container was started: it is created and live, and the next id is used up. -/
def start (b : Books) (c : Container) : Books :=
  { b with started := b.started + 1, created := b.created ++ [c], live := b.live ++ [c.id] }

/-- A container was removed: its id goes from the live ones to the removed ones. -/
def remove (b : Books) (c : Container) : Books :=
  { b with live := b.live.filter (· != c.id), removed := b.removed ++ [c.id] }

/-- A container was left running: its id goes from the live ones to the retained ones. -/
def retain (b : Books) (c : Container) : Books :=
  { b with live := b.live.filter (· != c.id), retained := b.retained ++ [c.id] }

/-- All live containers were removed. Those that were retained are not live any more, and stay. -/
def sweep (b : Books) : Books := { b with live := [], removed := b.removed ++ b.live }

/-- Books are balanced if the ids were given out in turn, and every container that was created is
either removed, retained or live, and only one of these. -/
structure Balanced (b : Books) : Prop where
  ids : b.created.map Container.id = (List.range b.started).map idOf
  once : (b.removed ++ b.retained ++ b.live).Perm (b.created.map Container.id)

/-- No two containers have the same id. Ids are numbered, and no number is used twice. -/
theorem Balanced.nodup (h : Balanced b) : (b.created.map Container.id).Nodup := by
  rw [h.ids]
  exact List.nodup_range.map MemoryGateway.idOf_injective

/-- A container is known by its id, since no two that were created share one. -/
theorem Balanced.eq_of_id_eq (h : Balanced b) {c c' : Container} (mem : c ∈ b.created)
    (mem' : c' ∈ b.created) (same : c.id = c'.id) : c = c' :=
  List.inj_on_of_nodup_map h.nodup mem mem' same

/-- No container is listed twice among the live ones. -/
theorem Balanced.live_nodup (h : Balanced b) : b.live.Nodup :=
  (List.nodup_append.mp (h.once.nodup_iff.mpr h.nodup)).2.1

/-- A container with the next number keeps the books balanced. It is new, so it is entered once.
-/
theorem Balanced.start (h : Balanced b) {c : Container} (next : c.id = idOf b.started) :
    Balanced (b.start c) where
  ids := by
    rw [Books.start, List.map_append, h.ids, List.range_succ, List.map_append, List.map_singleton,
      next]
    rfl
  once := by
    rw [Books.start, List.map_append, ← List.append_assoc]
    exact h.once.append_right _

/-- The next id has not been given out. The numbers of the ids that were are smaller, so a new
container is told from all before. -/
theorem Balanced.not_mem_of_next (h : Balanced b) {c : Container} (next : c.id = idOf b.started) :
    c ∉ b.created := by
  intro mem
  have given : idOf b.started ∈ (List.range b.started).map idOf := by
    rw [← h.ids, ← next]
    exact List.mem_map_of_mem mem
  obtain ⟨n, lt, same⟩ := List.mem_map.mp given
  rw [MemoryGateway.idOf_injective same] at lt
  exact absurd (List.mem_range.mp lt) (Nat.lt_irrefl _)

/-- One live container taken out of the live ones. The others are those with another id, since no
id is live twice. -/
theorem Balanced.live_perm (h : Balanced b) {id : String} (mem : id ∈ b.live) :
    b.live.Perm (id :: b.live.filter (· != id)) := by
  -- There are no two containers of one id, so filtering takes just one out.
  have rest : b.live.filter (· != id) = b.live.erase id := (h.live_nodup.erase_eq_filter id).symm
  rw [rest]
  exact List.perm_cons_erase mem

/-- Removing a live container keeps the books balanced: its id goes from one list to another. -/
theorem Balanced.remove (h : Balanced b) {c : Container} (mem : c.id ∈ b.live) :
    Balanced (b.remove c) where
  ids := h.ids
  once := by
    have moved : (b.removed ++ [c.id] ++ b.retained ++ b.live.filter (· != c.id)).Perm
        (b.removed ++ b.retained ++ c.id :: b.live.filter (· != c.id)) := by
      rw [List.append_assoc b.removed [c.id], List.append_cons (b.removed ++ b.retained),
        List.append_assoc b.removed b.retained]
      exact (List.perm_append_comm.append_left b.removed).append_right _
    exact moved.trans (((h.live_perm mem).append_left _).symm.trans h.once)

/-- Leaving a live container running keeps the books balanced. -/
theorem Balanced.retain (h : Balanced b) {c : Container} (mem : c.id ∈ b.live) :
    Balanced (b.retain c) where
  ids := h.ids
  once := by
    have moved : (b.removed ++ (b.retained ++ [c.id]) ++ b.live.filter (· != c.id)).Perm
        (b.removed ++ b.retained ++ c.id :: b.live.filter (· != c.id)) := by
      rw [← List.append_assoc, List.append_assoc _ [c.id]]
      exact .refl _
    exact moved.trans (((h.live_perm mem).append_left _).symm.trans h.once)

/-- After a sweep, the removed and the retained containers are all there are. None of them is live
any more, and none is counted twice. -/
theorem Balanced.sweep (h : Balanced b) :
    (b.sweep.removed ++ b.sweep.retained).Perm (b.created.map Container.id) := by
  refine List.Perm.trans ?_ h.once
  show (b.removed ++ b.live ++ b.retained).Perm (b.removed ++ b.retained ++ b.live)
  rw [List.append_assoc, List.append_assoc]
  exact List.perm_append_comm.append_left b.removed

end Books

namespace MemoryGateway

variable {g : MemoryGateway} {cancelled : Bool}

/-- The books of a fresh gateway are empty, and so they balance. -/
theorem balanced_fresh (behaviour : MemoryBehaviour) : (fresh behaviour).books.Balanced where
  ids := rfl
  once := .nil

/-! ### Calls -/

/-- Asking for a build has nothing to do with containers. -/
theorem books_requestBuild (g : MemoryGateway) (d : Definition) :
    (g.requestBuild d).books = g.books := rfl

/-- Nor has the end of a build, whether it succeeds or not. -/
theorem books_finishBuild (g : MemoryGateway) (d : Definition) :
    (g.finishBuild d).2.books = g.books := by
  unfold finishBuild
  cases g.behaviour.buildFailure <;> rfl

/-- Builds, commands and logs have nothing to do with which containers there are. -/
theorem books_serve_build (g : MemoryGateway) (d : Definition) :
    (g.serve cancelled (.build d)).2.books = g.books := by
  unfold serve
  simp only
  split
  · exact books_requestBuild g d
  · exact (books_finishBuild _ d).trans (books_requestBuild g d)

/-- A command leaves the containers what they were. -/
theorem books_serve_exec (g : MemoryGateway) (container : Container) (command : ShellCommand) :
    (g.serve cancelled (.exec container command)).2.books = g.books := by
  have same : (g.exec container command).2.books = g.books := by
    unfold exec
    split <;> rfl
  rw [← same]
  unfold serve
  simp only
  split <;> next e => rw [e]

/-- So does reading the logs. -/
theorem books_serve_logs (g : MemoryGateway) (container : Container) :
    (g.serve cancelled (.logs container)).2.books = g.books := rfl

/-- A container is started with the next id, or there is an error and the gateway stays as
it was. -/
theorem start_cases (g : MemoryGateway) (image : ImageTag) (options : StartOptions) :
    (∃ error, g.start image options = (.error error, g)) ∨
      ∃ c g', g.start image options = (.ok c, g') ∧ c.id = idOf g.started ∧
        g'.books = g.books.start c := by
  unfold start
  cases g.behaviour.startFailure with
  | some message => exact .inl ⟨_, rfl⟩
  | none =>
    by_cases built : image ∈ g.images
    · simp only [built, if_true]
      exact .inr ⟨_, _, rfl, rfl, rfl⟩
    · simp only [built, if_false]
      exact .inl ⟨_, rfl⟩

/-- The gateway removes a container when it is told to, and says that it did. It asks for no more
than the id. -/
theorem serve_remove (g : MemoryGateway) (container : Container) :
    g.serve cancelled (.remove container) = (.replied (.ok ()), g.remove container) := rfl

/-- Removing a container is an entry in the books. -/
theorem books_remove (g : MemoryGateway) (container : Container) :
    (g.remove container).books = g.books.remove container := rfl

/-- The gateway retains a container when it is told to. -/
theorem serve_retain (g : MemoryGateway) (container : Container) :
    g.serve cancelled (.retain container) = (.replied (), g.retain container) := rfl

/-- Retaining a container is an entry in the books. -/
theorem books_retain (g : MemoryGateway) (container : Container) :
    (g.retain container).books = g.books.retain container := rfl

/-- The sweep of a gateway is a sweep of its books. -/
theorem books_sweep (g : MemoryGateway) : g.sweep.2.books = g.books.sweep := rfl

end MemoryGateway

end InstallMatrix
