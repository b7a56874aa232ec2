import InstallMatrix.Command.Run
import InstallMatrix.Proofs.Program
import InstallMatrix.Proofs.Text.Basic

/-!
# `InstallMatrix.Proofs.Engine.Detection`: the engine that is found

An engine is looked for on sockets that the environment tells and on sockets that are known.
What responds is up to the machine: any of the paths may be there, and any of those that are
there may answer.

* `candidates_unix` and `candidates_of_other`: a Docker host that names a socket comes before
  all other candidates, and any other host changes nothing.
* `pairwise_candidates`: the candidates of an engine come before those of the next one.
* `detect_eq_ok_iff_split` and `detect_eq_error_iff`: what is found is the first candidate that
  responds, and nothing is found just if none does.

`detect_priority` puts these together, and `eval_detectEngine` says that this is the search a
run begins with.
-/

set_option autoImplicit false

namespace InstallMatrix

/-- The place of an engine in the order of preference. Docker comes first, and Podman last. -/
def EngineKind.rank : EngineKind → Nat
  | .docker => 0
  | .finch => 1
  | .podman => 2

namespace Engine

/-! ### Candidates -/

/-- A Docker host names a socket just if it begins with the scheme for sockets. -/
theorem socketOfHost?_eq_some_iff {host socket : String} :
    socketOfHost? host = some socket ↔ host = "unix://" ++ socket := by
  simp only [socketOfHost?, Option.map_eq_some_iff, Text.after?_eq_some_iff]
  constructor
  · rintro ⟨chars, same, rfl⟩
    rw [← String.toList_inj, same, String.toList_append, @String.toList_ofList chars]
  · rintro rfl
    exact ⟨socket.toList, String.toList_append, String.ofList_toList⟩

section

variable (runtimeDir home : Option String)

/-- The socket of a Docker host is tried before everything else. -/
theorem candidates_unix (socket : String) :
    candidates (some ("unix://" ++ socket)) runtimeDir home
      = ⟨.docker, socket⟩ :: candidates none runtimeDir home := by
  have named : socketOfHost? ("unix://" ++ socket) = some socket :=
    socketOfHost?_eq_some_iff.mpr rfl
  simp [candidates, named]

/-- A Docker host that names no socket is passed over. So a host with an address of the network
changes nothing. -/
theorem candidates_of_other {host : String} (other : ∀ socket, host ≠ "unix://" ++ socket) :
    candidates (some host) runtimeDir home = candidates none runtimeDir home := by
  have none : socketOfHost? host = none :=
    Option.eq_none_iff_forall_ne_some.mpr fun socket named =>
      other socket (socketOfHost?_eq_some_iff.mp named)
  simp [candidates, none]

end

/-- The engines are tried in the order of preference. Several candidates of one engine stand side
by side. -/
theorem pairwise_candidates (dockerHost runtimeDir home : Option String) :
    (candidates dockerHost runtimeDir home).Pairwise
      fun a b => a.engine.rank ≤ b.engine.rank := by
  -- Each of the three values of the environment is there or not.
  cases named : dockerHost.bind socketOfHost? <;> cases runtimeDir <;> cases home <;>
    simp [candidates, named, EngineKind.rank]

/-! ### The search -/

section

variable (isThere answers : String → Bool)

/-- The socket of a candidate is there and answers. A socket without anybody behind it does not
count. -/
def Responds (c : SocketCandidate) : Prop := isThere c.path = true ∧ answers c.path = true

/-- Whether a candidate responds can be decided, by asking. -/
instance : DecidablePred (Responds isThere answers) :=
  fun _ => inferInstanceAs (Decidable (_ ∧ _))

/-- Some candidate of this engine responds. -/
def Offers (tried : List SocketCandidate) (k : EngineKind) : Prop :=
  ∃ c ∈ tried, c.engine = k ∧ Responds isThere answers c

/-- Whether an engine offers a candidate that responds can be decided, by trying them. -/
instance (tried : List SocketCandidate) : DecidablePred (Offers isThere answers tried) :=
  fun k => inferInstanceAs (Decidable (∃ c ∈ tried, c.engine = k ∧ Responds isThere answers c))

variable {isThere answers} {tried : List SocketCandidate} {c : SocketCandidate}

/-- The search looks at the first candidate, and at the others only if that one does not respond.
-/
theorem firstResponding_cons (c : SocketCandidate) (tried : List SocketCandidate) :
    (firstResponding (m := Id) isThere answers (c :: tried)).run
      = if Responds isThere answers c then some c
        else (firstResponding (m := Id) isThere answers tried).run := by
  show (if isThere c.path then
      if answers c.path then some c else (firstResponding (m := Id) isThere answers tried).run
    else (firstResponding (m := Id) isThere answers tried).run) = _
  by_cases there : isThere c.path = true <;> by_cases answer : answers c.path = true <;>
    simp [Responds, there, answer]

/-- The search ends at the first candidate that responds. A socket that is there but does not
answer is passed over like one that is missing. -/
theorem firstResponding_eq_find? (tried : List SocketCandidate) :
    (firstResponding (m := Id) isThere answers tried).run
      = tried.find? fun c => Responds isThere answers c := by
  induction tried with
  | nil => rfl
  | cons c tried ih =>
    rw [firstResponding_cons, List.find?_cons, ih]
    by_cases responds : Responds isThere answers c <;> simp [responds]

/-- The search finds a candidate just if it responds and none before it does. -/
theorem firstResponding_eq_some_iff :
    (firstResponding (m := Id) isThere answers tried).run = some c ↔
      ∃ before after, tried = before ++ c :: after ∧
        (∀ b ∈ before, ¬ Responds isThere answers b) ∧ Responds isThere answers c := by
  rw [firstResponding_eq_find?]
  constructor
  · intro found
    obtain ⟨responds, before, after, split, earlier⟩ := List.find?_eq_some_iff_append.mp found
    exact ⟨before, after, split, by simpa using earlier, by simpa using responds⟩
  · intro ⟨before, after, split, earlier, responds⟩
    exact List.find?_eq_some_iff_append.mpr
      ⟨by simpa using responds, before, after, split, by simpa using earlier⟩

/-- The search finds nothing just if no candidate responds. -/
theorem firstResponding_eq_none_iff :
    (firstResponding (m := Id) isThere answers tried).run = none ↔
      ∀ c ∈ tried, ¬ Responds isThere answers c := by
  rw [firstResponding_eq_find?, List.find?_eq_none]
  simp

/-- No engine that is preferred to that of the first candidate that responds has one. The
candidates are tried in the order of preference, so an earlier one would have been found. -/
theorem rank_le_of_first (ordered : tried.Pairwise fun a b => a.engine.rank ≤ b.engine.rank)
    (first : (firstResponding (m := Id) isThere answers tried).run = some c) {d : SocketCandidate}
    (mem : d ∈ tried) (responds : Responds isThere answers d) : c.engine.rank ≤ d.engine.rank := by
  obtain ⟨before, after, rfl, earlier, -⟩ := firstResponding_eq_some_iff.mp first
  rcases List.mem_append.mp mem with left | right
  · exact absurd responds (earlier d left)
  · have later := (List.pairwise_append.mp ordered).2.1
    rcases List.mem_cons.mp right with rfl | right
    · exact Nat.le_refl _
    · exact (List.pairwise_cons.mp later).1 d right

/-- The preferred engine among those that have a candidate that responds. -/
theorem engine_of_first (ordered : tried.Pairwise fun a b => a.engine.rank ≤ b.engine.rank)
    (first : (firstResponding (m := Id) isThere answers tried).run = some c) :
    c.engine = if Offers isThere answers tried .docker then .docker
      else if Offers isThere answers tried .finch then .finch else .podman := by
  have own : Offers isThere answers tried c.engine := by
    obtain ⟨before, after, rfl, -, responds⟩ := firstResponding_eq_some_iff.mp first
    exact ⟨c, by simp, rfl, responds⟩
  -- The candidates are tried in the order of preference, so no engine on offer comes before it.
  have least {k : EngineKind} (offers : Offers isThere answers tried k) :
      c.engine.rank ≤ k.rank := by
    obtain ⟨d, mem, rfl, responds⟩ := offers
    exact rank_le_of_first ordered first mem responds
  cases kind : c.engine with
  | docker => rw [if_pos (kind ▸ own)]
  | finch =>
    rw [kind] at own least
    have noDocker : ¬ Offers isThere answers tried .docker := fun offers =>
      absurd (least offers) (by decide)
    rw [if_neg noDocker, if_pos own]
  | podman =>
    rw [kind] at own least
    have noDocker : ¬ Offers isThere answers tried .docker := fun offers =>
      absurd (least offers) (by decide)
    have noFinch : ¬ Offers isThere answers tried .finch := fun offers =>
      absurd (least offers) (by decide)
    rw [if_neg noDocker, if_neg noFinch]

/-- An engine is detected by the search, and the failure lists what was tried. -/
theorem detect_eq (tried : List SocketCandidate) :
    (detect (m := Id) isThere answers tried).run
      = match (firstResponding (m := Id) isThere answers tried).run with
        | some c => .ok ⟨c.engine, c.path⟩
        | none => .error (noneResponded tried) := by
  show (match (firstResponding (m := Id) isThere answers tried).run with
    | some c => pure (.ok ⟨c.engine, c.path⟩)
    | none => pure (.error (noneResponded tried)) : Id (Except GatewayError DetectedEngine)) = _
  split <;> rfl

/-- What is found is the first candidate that responds. -/
theorem detect_eq_ok_iff {engine : DetectedEngine} :
    (detect (m := Id) isThere answers tried).run = .ok engine ↔
      ∃ c, (firstResponding (m := Id) isThere answers tried).run = some c ∧
        engine = ⟨c.engine, c.path⟩ := by
  rw [detect_eq]
  cases (firstResponding (m := Id) isThere answers tried).run with
  | none => exact ⟨nofun, nofun⟩
  | some c =>
    constructor
    · intro same
      exact ⟨c, rfl, (Except.ok.inj same).symm⟩
    · intro ⟨other, found, same⟩
      rw [same, Option.some.inj found]

/-- Detection fails just if no candidate responds, and in one way. -/
theorem detect_eq_error_iff {e : GatewayError} :
    (detect (m := Id) isThere answers tried).run = .error e ↔
      (∀ c ∈ tried, ¬ Responds isThere answers c) ∧ e = noneResponded tried := by
  rw [detect_eq, ← firstResponding_eq_none_iff]
  cases (firstResponding (m := Id) isThere answers tried).run with
  | none =>
    constructor
    · intro same
      exact ⟨rfl, (Except.error.inj same).symm⟩
    · rintro ⟨-, rfl⟩
      rfl
  | some c => exact ⟨nofun, nofun⟩

/-- Nothing that was tried before the engine that is found responds. What comes behind it is not
looked at. -/
theorem detect_eq_ok_iff_split {engine : DetectedEngine} :
    (detect (m := Id) isThere answers tried).run = .ok engine ↔
      ∃ before c after, tried = before ++ c :: after ∧
        (∀ b ∈ before, ¬ Responds isThere answers b) ∧ Responds isThere answers c ∧
          engine = ⟨c.engine, c.path⟩ := by
  rw [detect_eq_ok_iff]
  constructor
  · intro ⟨c, first, same⟩
    obtain ⟨before, after, split, earlier, responds⟩ := firstResponding_eq_some_iff.mp first
    exact ⟨before, c, after, split, earlier, responds, same⟩
  · intro ⟨before, c, after, split, earlier, responds, same⟩
    exact ⟨c, firstResponding_eq_some_iff.mpr ⟨before, after, split, earlier, responds⟩, same⟩

/-- The candidate at the head is found before all others. -/
theorem detect_cons_of_responds (responds : Responds isThere answers c) :
    (detect (m := Id) isThere answers (c :: tried)).run = .ok ⟨c.engine, c.path⟩ :=
  detect_eq_ok_iff_split.mpr ⟨[], c, tried, rfl, List.forall_mem_nil _, responds, rfl⟩

/-- How a candidate is told: by its engine and its path. -/
def shown (c : SocketCandidate) : String := c.engine.name ++ " (" ++ c.path ++ ")"

/-- The failure names all that was tried, each with its engine and its path. -/
theorem exists_message (tried : List SocketCandidate) :
    ∃ message, noneResponded tried = .unavailable message ∧
      ∀ c ∈ tried, (shown c).toList <:+: message.toList := by
  refine ⟨"none of the known sockets responded; tried " ++ Text.joined ", " (tried.map shown),
    rfl, ?_⟩
  intro c mem
  have piece := Text.infix_joined (List.mem_map_of_mem (f := shown) mem) ", "
  refine piece.trans ?_
  rw [String.toList_append]
  exact (List.suffix_append _ _).isInfix

end

/-- **The first candidate that responds is the engine, in the order of preference.** Where the
Docker host names a socket that responds, it is that one; else it is an engine of the most
preferred kind that responds at all. There is none just if nothing responds, and then all that
was tried is named. A Docker host that names no socket changes nothing. -/
theorem detect_priority (isThere answers : String → Bool)
    (dockerHost runtimeDir home : Option String) :
    let tried := candidates dockerHost runtimeDir home
    let found := (detect (m := Id) isThere answers tried).run
    (∀ engine, found = .ok engine ↔ ∃ before c after, tried = before ++ c :: after ∧
      (∀ b ∈ before, ¬ Responds isThere answers b) ∧ Responds isThere answers c ∧
        engine = ⟨c.engine, c.path⟩) ∧
    (∀ socket, dockerHost = some ("unix://" ++ socket) →
      isThere socket = true → answers socket = true → found = .ok ⟨.docker, socket⟩) ∧
    (∀ engine, found = .ok engine →
      engine.kind = if Offers isThere answers tried .docker then .docker
        else if Offers isThere answers tried .finch then .finch else .podman) ∧
    ((∃ e, found = .error e) ↔ ∀ c ∈ tried, ¬ Responds isThere answers c) ∧
    (∀ e, found = .error e →
      ∃ message, e = .unavailable message ∧
        ∀ c ∈ tried, (shown c).toList <:+: message.toList) ∧
    ∀ host, dockerHost = some host → (∀ socket, host ≠ "unix://" ++ socket) →
      tried = candidates none runtimeDir home := by
  intro tried found
  refine ⟨fun engine => detect_eq_ok_iff_split, ?_, ?_, ?_, ?_, ?_⟩
  · rintro socket rfl there answer
    have first : tried = ⟨.docker, socket⟩ :: candidates none runtimeDir home :=
      candidates_unix runtimeDir home socket
    have responds : Responds isThere answers ⟨.docker, socket⟩ := ⟨there, answer⟩
    show (detect (m := Id) isThere answers tried).run = _
    rw [first, detect_cons_of_responds responds]
  · intro engine ok
    obtain ⟨c, first, rfl⟩ := detect_eq_ok_iff.mp ok
    exact engine_of_first (pairwise_candidates dockerHost runtimeDir home) first
  · constructor
    · intro ⟨e, error⟩
      exact (detect_eq_error_iff.mp error).1
    · intro none
      exact ⟨_, detect_eq_error_iff.mpr ⟨none, rfl⟩⟩
  · intro e error
    rw [(detect_eq_error_iff.mp error).2]
    exact exists_message tried
  · rintro host rfl other
    exact candidates_of_other runtimeDir home other

namespace Sample

/-- The paths that are there: Docker has left its socket behind. -/
def isThere (path : String) : Bool :=
  path ∈ ["/var/run/docker.sock", "/var/run/finch/finch.sock", "/run/podman/podman.sock"]

/-- The paths at which an engine answers. -/
def answers (path : String) : Bool :=
  path ∈ ["/var/run/finch/finch.sock", "/run/podman/podman.sock"]

end Sample

/-- Finch is found where Docker does not answer any more, though Podman does as well. A socket
the Docker host names would be found before it. -/
theorem detect_priority_of_silent_docker :
    (detect (m := Id) Sample.isThere Sample.answers
        (candidates (some "tcp://127.0.0.1:2375") (some "/run/user/1000") none)).run
      = .ok ⟨.finch, "/var/run/finch/finch.sock"⟩ ∧
    (detect (m := Id) Sample.isThere Sample.answers
        (candidates (some "unix:///run/podman/podman.sock") (some "/run/user/1000") none)).run
      = .ok ⟨.docker, "/run/podman/podman.sock"⟩ := by
  obtain ⟨found, -⟩ := detect_priority Sample.isThere Sample.answers
    (some "tcp://127.0.0.1:2375") (some "/run/user/1000") none
  obtain ⟨-, named, -⟩ := detect_priority Sample.isThere Sample.answers
    (some "unix:///run/podman/podman.sock") (some "/run/user/1000") none
  refine ⟨(found _).mpr ?_, named "/run/podman/podman.sock" rfl (by decide) (by decide)⟩
  refine ⟨[⟨.docker, "/var/run/docker.sock"⟩, ⟨.docker, "/run/user/1000/docker.sock"⟩,
      ⟨.finch, "/run/finch/finch.sock"⟩], ⟨.finch, "/var/run/finch/finch.sock"⟩,
    [⟨.finch, "/Applications/Finch/lima/data/finch/sock/finch.sock"⟩,
      ⟨.podman, "/run/user/1000/podman/podman.sock"⟩, ⟨.podman, "/run/podman/podman.sock"⟩],
    by decide +kernel, by decide +kernel, by decide +kernel, rfl⟩

/-! ### The search of a run -/

/-- The search that asks the host is the search over the host's answers. So what is proved of the
plain search holds of the program. -/
theorem eval_firstResponding (host : (q : HostQuestion) → HostAnswer q)
    (tried : List SocketCandidate) :
    Program.eval host (firstResponding (m := HostProgram)
        (fun path => Program.question (HostQuestion.isThere path))
        (fun path => Program.question (HostQuestion.answersPing path)) tried)
      = (firstResponding (m := Id) (fun path => host (.isThere path))
          (fun path => host (.answersPing path)) tried).run := by
  induction tried with
  | nil => rfl
  | cons c tried ih =>
    rw [firstResponding_cons, firstResponding, Program.eval_question_bind]
    -- A socket that is not there is not pinged.
    by_cases there : host (.isThere c.path) = true
    · rw [if_pos there, Program.eval_question_bind]
      by_cases answer : host (.answersPing c.path) = true
      · rw [if_pos answer, if_pos ⟨there, answer⟩]
        rfl
      · rw [if_neg answer, if_neg fun responds => answer responds.2, ih]
    · rw [if_neg there, if_neg fun responds => there responds.1, ih]

/-- Detection that asks the host is detection over the host's answers. -/
theorem eval_detect (host : (q : HostQuestion) → HostAnswer q) (tried : List SocketCandidate) :
    Program.eval host (detect (m := HostProgram)
        (fun path => Program.question (HostQuestion.isThere path))
        (fun path => Program.question (HostQuestion.answersPing path)) tried)
      = (detect (m := Id) (fun path => host (.isThere path))
          (fun path => host (.answersPing path)) tried).run := by
  rw [detect_eq, ← eval_firstResponding, detect, Program.eval_bind]
  cases Program.eval host (firstResponding (m := HostProgram)
    (fun path => Program.question (HostQuestion.isThere path))
    (fun path => Program.question (HostQuestion.answersPing path)) tried) with
  | none => rfl
  | some c => rfl

/-- A run looks for its engine on the machine it is started on, with what the environment
tells. -/
theorem eval_detectEngine (host : (q : HostQuestion) → HostAnswer q) :
    Command.detectEngine.eval host
      = (detect (m := Id) (fun path => host (.isThere path)) (fun path => host (.answersPing path))
          (candidates (host (.variable "DOCKER_HOST"))
            ((host (.variable "XDG_RUNTIME_DIR")).filter Path.isAbsolute)
            ((host (.variable "HOME")).filter fun dir => dir != ""))).run :=
  eval_detect host _

end Engine

end InstallMatrix
