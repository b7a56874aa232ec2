import InstallMatrix.Engine.Gateway
import InstallMatrix.Proofs.Program
import InstallMatrix.Proofs.Run.Advance
import InstallMatrix.Proofs.Text.Lines
import InstallMatrix.Proofs.Text.Utf8

/-!
# `InstallMatrix.Proofs.Engine.Dispatch`: how a command is known to have been started

A command counts as started if a line of its standard error is the sentinel (`ShowsSentinel`).
The profile of the login shell prints before the sentinel and the script behind it, so it is
not up to the gateway alone whether the sentinel has a line of its own. `Recognized` says of
what the two print when a sentinel line is found, and `showsSentinel_printed_iff` that this is
all there is to it: a profile made of complete lines never hides the sentinel, and neither does
one that ends in blanks.

`stripSentinel_exact` says what is left of an output once its sentinel is taken out.

`replies_of_printed` follows the reply from the engine's output to the failure of the cell. A
profile that leaves a line unfinished is the exception: `replies_of_unended_profile` is a
command that was started and is reported as one that was not.
-/

set_option autoImplicit false

namespace InstallMatrix

open Program (Path)
open Text (Octets)

namespace EngineGateway

/-! ### The sentinel line -/

/-- One of the lines of the text is the sentinel, if blanks around it are left aside. A sentinel
inside a longer line does not count. -/
def ShowsSentinel (text : String) : Prop :=
  ∃ line ∈ Text.lines text, Text.trim line = sentinel

/-- Whether a text shows the sentinel can be decided, line by line. -/
instance : DecidablePred ShowsSentinel := fun text =>
  inferInstanceAs (Decidable (∃ line ∈ Text.lines text, Text.trim line = sentinel))

/-- No line is dropped just if none is a sentinel line. -/
theorem dropSentinel_eq_none_iff {lines : List String} :
    dropSentinel lines = none ↔ ∀ line ∈ lines, Text.trim line ≠ sentinel := by
  induction lines with
  | nil => exact ⟨fun _ => List.forall_mem_nil _, fun _ => rfl⟩
  | cons line lines ih =>
    rw [dropSentinel, List.forall_mem_cons]
    split
    · next same => exact ⟨nofun, fun other => absurd same other.1⟩
    · next other => rw [Option.map_eq_none_iff, ih, and_iff_right other]

/-- A text is not stripped just if it does not show the sentinel. -/
theorem stripSentinel_eq_none_iff {text : String} :
    stripSentinel text = none ↔ ¬ ShowsSentinel text := by
  rw [stripSentinel, Option.map_eq_none_iff, dropSentinel_eq_none_iff]
  exact ⟨fun other shows => shows.elim fun line h => other line h.1 h.2,
    fun none line mem same => none ⟨line, mem, same⟩⟩

/-- What is not printed at all is not shown. So a text without the sentinel is never taken for one
with it. -/
theorem ShowsSentinel.isInfix {text : String} (h : ShowsSentinel text) :
    sentinel.toList <:+: text.toList := by
  obtain ⟨line, mem, same⟩ := h
  rw [← same]
  exact (Text.trim_infix line).trans (Text.infix_of_mem_lines mem)

/-- Behind complete lines, a text shows the sentinel where they do or where it does itself. No
line reaches from one part into the other. -/
theorem showsSentinel_append {p : String} (h : Text.Finished p) (s : String) :
    ShowsSentinel (p ++ s) ↔ ShowsSentinel p ∨ ShowsSentinel s := by
  unfold ShowsSentinel
  rw [Text.lines_append h]
  simp only [List.mem_append, or_and_right, exists_or]

/-- The sentinel has no blank in it, so trimming a line cannot take any of it away. -/
theorem isBlank_of_mem_sentinel : ∀ ch ∈ sentinel.toList, Text.isBlank ch = false := by
  have none : sentinel.toList.any Text.isBlank = false := by decide
  intro ch mem
  exact Bool.eq_false_iff.mpr (List.any_eq_false.mp none ch mem)

/-- On a line that has begun, the sentinel is one only if it has begun with blanks. This is the
case of a profile that does not end its last line. -/
theorem showsSentinel_line {begun : String} (free : '\n' ∉ begun.toList) :
    ShowsSentinel (begun ++ sentinel ++ "\n") ↔ begun.toList.all Text.isBlank = true := by
  have chars : (begun ++ sentinel).toList = begun.toList ++ sentinel.toList :=
    String.toList_append
  have noFeed : '\n' ∉ (begun ++ sentinel).toList := by
    rw [chars, List.mem_append, not_or]
    exact ⟨free, by decide⟩
  -- The sentinel ends in no carriage return, so the line is kept as it is.
  have bare : (begun ++ sentinel).toList.getLast? ≠ some '\r' := by
    have last : sentinel.toList.getLast? = some '_' := by decide
    rw [chars, List.getLast?_append, last, Option.some_or]
    decide
  have line : begun ++ sentinel = String.ofList (begun.toList ++ sentinel.toList) := by
    rw [← chars, String.ofList_toList]
  have alone : sentinel = String.ofList sentinel.toList := by rw [String.ofList_toList]
  unfold ShowsSentinel
  rw [Text.lines_line noFeed bare]
  simp only [List.mem_singleton, exists_eq_left]
  rw [line, List.all_eq_true]
  nth_rewrite 2 [alone]
  exact Text.trim_append_eq_iff (by decide) isBlank_of_mem_sentinel begun.toList

/-- What a command prints to standard error: first its profile, then the sentinel on a line, then
its script. -/
def printed (profile script : String) : String := profile ++ sentinel ++ "\n" ++ script

/-- The sentinel is recognized between what a profile and what a script prints: it has a line
of its own, but for blanks, or one of the two prints such a line as well. -/
def Recognized (profile script : String) : Prop :=
  (Text.unfinished profile).toList.all Text.isBlank = true ∨
    ShowsSentinel (Text.finished profile) ∨ ShowsSentinel script

/-- Whether a printed sentinel is recognized can be decided from the profile and the script. -/
instance (profile script : String) : Decidable (Recognized profile script) :=
  inferInstanceAs (Decidable (_ ∨ _ ∨ _))

/-- What a command prints shows the sentinel just in the cases that `Recognized` lists. -/
theorem showsSentinel_printed_iff (profile script : String) :
    ShowsSentinel (printed profile script) ↔ Recognized profile script := by
  have cut : printed profile script = Text.finished profile
      ++ (Text.unfinished profile ++ sentinel ++ "\n" ++ script) := by
    rw [printed, ← String.append_assoc, ← String.append_assoc, ← String.append_assoc,
      Text.finished_append_unfinished]
  rw [cut, showsSentinel_append (Text.finished_finished profile),
    showsSentinel_append (Text.finished_feed _),
    showsSentinel_line (Text.not_mem_unfinished profile), Recognized, or_left_comm]

example : Recognized "profile noise\n" "install failed\n" ∧
    ¬ Recognized "profile noise" "install failed\n" := by
  decide +kernel

/-- It is the same with the octets that are printed, for text is decoded as it was encoded. -/
theorem shown_printed_iff {profile script : String} :
    ShowsSentinel (Text.Utf8.decodeLossy (Text.Utf8.encode (printed profile script))) ↔
      Recognized profile script := by
  rw [Text.Utf8.decodeLossy_encode, showsSentinel_printed_iff]

/-! ### What is left of the output -/

/-- The first sentinel line goes, and all lines around it stay. A later sentinel line is one of
them. -/
theorem dropSentinel_append {before : List String} {line : String}
    (earlier : ∀ l ∈ before, Text.trim l ≠ sentinel) (same : Text.trim line = sentinel)
    (after : List String) : dropSentinel (before ++ line :: after) = some (before ++ after) := by
  induction before with
  | nil => rw [List.nil_append, dropSentinel, if_pos same, List.nil_append]
  | cons l before ih =>
    obtain ⟨other, earlier⟩ := List.forall_mem_cons.mp earlier
    rw [List.cons_append, dropSentinel, if_neg other, ih earlier]
    rfl

/-- The sentinel is trimmed already. -/
theorem trim_sentinel : Text.trim sentinel = sentinel := by decide +kernel

/-- Behind a profile made of complete lines, the sentinel is a line of its own. It is then found,
whatever the script prints. -/
theorem lines_printed {profile : String} (finished : Text.Finished profile) (script : String) :
    Text.lines (printed profile script)
      = Text.lines profile ++ sentinel :: Text.lines script := by
  have alone : Text.lines (sentinel ++ "\n") = [sentinel] :=
    Text.lines_line (by decide) (by decide)
  rw [printed, String.append_assoc, String.append_assoc, Text.lines_append finished,
    ← String.append_assoc, Text.lines_append (Text.finished_feed sentinel), alone]
  rfl

/-- **Without the sentinel, an output keeps all its other lines.** Behind a profile that has
ended its lines and shows no sentinel, the line that goes is the one between profile and script;
all that either has printed is left, and sentinel lines of the script with it. An output
without a sentinel line is none at all. -/
theorem stripSentinel_exact :
    (∀ profile script : String, Text.Finished profile →
      (∀ line ∈ Text.lines profile, Text.trim line ≠ sentinel) →
        stripSentinel (profile ++ sentinel ++ "\n" ++ script)
          = some (Text.joined "\n" (Text.lines profile ++ Text.lines script))) ∧
    ∀ text, stripSentinel text = none ↔ ∀ line ∈ Text.lines text, Text.trim line ≠ sentinel := by
  constructor
  · intro profile script finished hidden
    have lines := lines_printed finished script
    rw [printed] at lines
    rw [stripSentinel, lines, dropSentinel_append hidden trim_sentinel]
    rfl
  · intro text
    rw [stripSentinel, Option.map_eq_none_iff, dropSentinel_eq_none_iff]

/-- The script prints a sentinel line as well, and that line stays. -/
theorem stripSentinel_exact_of_two_sentinels :
    Text.Finished "profile noise\n" ∧
      (∀ line ∈ Text.lines "profile noise\n", Text.trim line ≠ sentinel) ∧
      stripSentinel ("profile noise\n" ++ sentinel ++ "\n" ++ (sentinel ++ "\ninstall failed\n"))
        = some ("profile noise\n" ++ sentinel ++ "\ninstall failed") := by
  have finished : Text.Finished "profile noise\n" := Text.finished_feed "profile noise"
  have hidden : ∀ line ∈ Text.lines "profile noise\n", Text.trim line ≠ sentinel := by
    decide +kernel
  have kept := stripSentinel_exact.1 "profile noise\n" (sentinel ++ "\ninstall failed\n")
    finished hidden
  refine ⟨finished, hidden, kept.trans ?_⟩
  decide +kernel

/-! ### What a command comes to -/

section Outcome

variable (c : Container) (command : ShellCommand) (stdout : Octets) {stderr : Octets}
  (elapsed : Nat)

/-- A command that shows the sentinel comes to its exit code, which is then one of the script. -/
theorem execOutcome_shown (shows : ShowsSentinel (Text.Utf8.decodeLossy stderr)) (code : Nat) :
    ∃ rest, execOutcome c command (.ended ⟨stdout, stderr, .exited code, elapsed⟩)
      = .ok ⟨code, Text.Utf8.decodeLossy stdout, rest, elapsed⟩ := by
  cases stripped : stripSentinel (Text.Utf8.decodeLossy stderr) with
  | none => exact absurd shows (stripSentinel_eq_none_iff.mp stripped)
  | some rest =>
    refine ⟨rest, ?_⟩
    rw [execOutcome, stripped]

/-- One that does not show it has failed to start, however the program ended. The message is what
the program printed. -/
theorem execOutcome_unshown (hidden : ¬ ShowsSentinel (Text.Utf8.decodeLossy stderr))
    (ending : Ending) :
    execOutcome c command (.ended ⟨stdout, stderr, ending, elapsed⟩) = .error
      (.commandFailed ("exec " ++ c.name) (Text.trim (Text.Utf8.decodeLossy stderr))) := by
  rw [execOutcome, stripSentinel_eq_none_iff.mpr hidden]

end Outcome

/-- The call that runs a script inside a container, as its user and in its directory. -/
def executing (r : EngineGateway) (c : Container) (command : ShellCommand) : Invocation :=
  ⟨r.engine.kind.hostArguments r.engine.socket, execArguments c command, r.config.execTimeout⟩

/-- When its one call of the engine has ended like this, running a command yields this reply
and no other. -/
def Replies (r : EngineGateway) (c : Container) (command : ShellCommand) (output : ProcessOutput)
    (reply : Except GatewayError CommandOutput) : Prop :=
  ∀ reply', Path (r.exec c command) [⟨.invoke r.program (r.executing c command), .ended output⟩]
    (.pure reply') ↔ reply' = reply

/-- Running a command is one call of the engine, and the reply is what its ending comes to. -/
theorem replies_execOutcome (r : EngineGateway) (c : Container) (command : ShellCommand)
    (output : ProcessOutput) :
    r.Replies c command output (execOutcome c command (.ended output)) := by
  intro reply
  have asks : r.exec c command = .ask (.invoke r.program (r.executing c command)) fun result =>
    .pure (execOutcome c command result) := rfl
  rw [asks, Path.ask_cons_iff, Path.pure_nil_iff]

end EngineGateway

/-! ### What a cell makes of it -/

namespace Pipeline

variable {c container : Container} {command : ShellCommand} {steps : List PhaseStep}
  {ds : List Deed} {records : List StepRecord} {ending : PhaseEnd} {ctx : RunContext}
  {p p' : Pipeline}

/-- The kind of failure a reply to a command leads to, unless it is exit code zero. A command that
was started is blamed on the installation, and one that was not on the infrastructure, or on the
cancellation if it was that. -/
def blame (i : Identity) : Except GatewayError CommandOutput → FailureKind
  | .ok _ => .install i
  | .error e => if e.isCancelled then .cancelled else .infrastructureError

/-- A command that does not exit with code zero is the last of its phase, and the phase ends
with what it is to blame for. -/
theorem PhaseRun.endPhase_of_mem {reply : Except GatewayError CommandOutput}
    (run : PhaseRun container steps ds records ending)
    (mem : .called (.exec c command) reply ∈ ds)
    (fails : ∀ output, reply = .ok output → output.exitCode ≠ 0)
    (p : Pipeline) (i : Identity) (artifact : Artifact) (all : List StepRecord) :
    ∃ failure, (p.endPhase i artifact container all ending).state = .failed failure (some c) ∧
      failure.kind = blame i reply := by
  induction run with
  | finished => cases mem
  | passed output zero rest ih =>
    rcases List.mem_cons.mp mem with same | later
    · -- The phase went on after this command, so it did not fail.
      cases same
      exact absurd zero (fails output rfl)
    · exact ih later
  | exited output nonzero =>
    cases List.mem_singleton.mp mem
    exact ⟨_, rfl, rfl⟩
  | undispatched error logs durationMs =>
    -- Behind the command stands only the call for the logs.
    rcases List.mem_cons.mp mem with same | later
    · cases same
      exact ⟨_, rfl, rfl⟩
    · cases List.mem_singleton.mp later

/-- Commands are run in phases only. So a step with the reply to a command is the end of a phase.
-/
theorem Advances.phase_of_exec {reply : Except GatewayError CommandOutput}
    (h : Advances ctx p ds p') (mem : .called (.exec c command) reply ∈ ds) :
    ∃ artifact container steps records ending, PhaseRun container steps ds records ending ∧
      p' = p.endPhase p.cell.identity artifact container records ending := by
  cases h with
  | aborted | resolved | uncatalogued | passedThrough | completed | stayed => cases mem
  | built | started => cases List.mem_singleton.mp mem
  | phase stands own run =>
    subst own
    exact ⟨_, _, _, _, _, run, rfl⟩

/-- Every cell whose step gets the reply to the command fails, and its failure has this kind,
which may depend on the identity of the cell. -/
def FailsWith (c : Container) (command : ShellCommand)
    (reply : Except GatewayError CommandOutput) (kind : Identity → FailureKind) : Prop :=
  ∀ {ctx : RunContext} {p p' : Pipeline} {ds : List Deed}, Advances ctx p ds p' →
    .called (.exec c command) reply ∈ ds →
      ∃ failure, p'.state = .failed failure (some c) ∧ failure.kind = kind p.cell.identity

/-- A reply that is no success fails a cell with the kind that is to blame for it. -/
theorem failsWith_blame {reply : Except GatewayError CommandOutput}
    (fails : ∀ output, reply = .ok output → output.exitCode ≠ 0) :
    FailsWith c command reply fun i => blame i reply := by
  intro ctx p p' ds advances mem
  obtain ⟨artifact, container, steps, records, ending, run, same⟩ := advances.phase_of_exec mem
  rw [same]
  exact run.endPhase_of_mem mem fails p _ artifact records

end Pipeline

namespace EngineGateway

/-- **A command that was started is known by its sentinel line.** The sentinel stands between
what its profile and what its script printed. Where it is recognized, the call comes to the exit
code, and a code other than zero fails the cell as an install error. Where it is not, the call
fails as if the command had not been started, and so does every call that shows no sentinel,
however its program ended. -/
theorem replies_of_printed (r : EngineGateway) (c : Container) (command : ShellCommand)
    (profile script : String) (stdout : Octets) (code elapsed : Nat) :
    (Recognized profile script → ∃ output : CommandOutput, output.exitCode = code ∧
      r.Replies c command
        ⟨stdout, Text.Utf8.encode (printed profile script), .exited code, elapsed⟩ (.ok output) ∧
      (code ≠ 0 → Pipeline.FailsWith c command (.ok output) .install)) ∧
    (¬ Recognized profile script → ∃ e : GatewayError,
      e = .commandFailed ("exec " ++ c.name) (Text.trim (printed profile script)) ∧
      r.Replies c command
        ⟨stdout, Text.Utf8.encode (printed profile script), .exited code, elapsed⟩ (.error e) ∧
      Pipeline.FailsWith c command (.error e) fun _ => .infrastructureError) ∧
    ∀ (stderr : Octets) (ending : Ending), ¬ ShowsSentinel (Text.Utf8.decodeLossy stderr) →
      r.Replies c command ⟨stdout, stderr, ending, elapsed⟩ (.error
        (.commandFailed ("exec " ++ c.name) (Text.trim (Text.Utf8.decodeLossy stderr)))) := by
  refine ⟨fun recognized => ?_, fun hidden => ?_, fun stderr ending hidden => ?_⟩
  · obtain ⟨rest, comes⟩ := execOutcome_shown c command stdout elapsed
      (shown_printed_iff.mpr recognized) code
    refine ⟨⟨code, Text.Utf8.decodeLossy stdout, rest, elapsed⟩, rfl, ?_, fun nonzero => ?_⟩
    · rw [← comes]
      exact r.replies_execOutcome c command _
    · refine Pipeline.failsWith_blame fun output same => ?_
      cases same
      exact Int.natCast_ne_zero.mpr nonzero
  · have comes := execOutcome_unshown c command stdout elapsed
      (mt shown_printed_iff.mp hidden) (.exited code)
    rw [Text.Utf8.decodeLossy_encode] at comes
    refine ⟨_, rfl, ?_, ?_⟩
    · rw [← comes]
      exact r.replies_execOutcome c command _
    · refine Pipeline.failsWith_blame fun output same => ?_
      cases same
  · rw [← execOutcome_unshown c command stdout elapsed hidden ending]
    exact r.replies_execOutcome c command _

namespace Sample

/-- A gateway to Podman, with its settings as they come. -/
def podman : EngineGateway :=
  ⟨⟨.podman, "/run/podman/podman.sock"⟩, ⟨none, 60000, 600000, 1800000, 40, "run-1"⟩⟩

/-- A container in which the command is run. -/
def alpineContainer : Container :=
  ⟨"c1", "alpine", ⟨"install-matrix/alpine:1"⟩, "alpine-3.19-x86_64-musl-root"⟩

/-- The command that installs as root. -/
def installing : ShellCommand := .of "./install.sh" "root" "/"

/-- The script exits with code three. Its profile has printed one line. -/
def endedProfile : ProcessOutput :=
  ⟨[], Text.Utf8.encode (printed "loading profile\n" "failed\n"), .exited 3, 0⟩

/-- The same, with a profile that has not ended its line. -/
def unendedProfile : ProcessOutput :=
  ⟨[], Text.Utf8.encode (printed "loading profile" "failed\n"), .exited 3, 0⟩

end Sample

/-- A command that was started and exited with code three is reported so, and the cell fails as
an install error. -/
theorem replies_of_printed_of_ended_profile :
    ∃ output : CommandOutput, output.exitCode = 3 ∧
      Sample.podman.Replies Sample.alpineContainer Sample.installing Sample.endedProfile
        (.ok output) ∧
      Pipeline.FailsWith Sample.alpineContainer Sample.installing (.ok output) .install := by
  have recognized : Recognized "loading profile\n" "failed\n" := by decide +kernel
  obtain ⟨output, code, replies, fails⟩ := (replies_of_printed Sample.podman
    Sample.alpineContainer Sample.installing "loading profile\n" "failed\n" [] 3 0).1 recognized
  exact ⟨output, code, replies, fails (by decide)⟩

/-- A command that was started, and exited with code three, is reported as one that was not. -/
theorem replies_of_unended_profile :
    Sample.podman.Replies Sample.alpineContainer Sample.installing Sample.unendedProfile
        (.error (.commandFailed "exec alpine"
          "loading profile__install_matrix_exec_started__\nfailed")) ∧
      ∀ output, ¬ Sample.podman.Replies Sample.alpineContainer Sample.installing
        Sample.unendedProfile (.ok output) := by
  have hidden : ¬ ShowsSentinel (printed "loading profile" "failed\n") := by decide +kernel
  have message : Text.trim (printed "loading profile" "failed\n")
      = "loading profile__install_matrix_exec_started__\nfailed" := by decide +kernel
  have replies := Sample.podman.replies_execOutcome Sample.alpineContainer Sample.installing
    Sample.unendedProfile
  rw [Sample.unendedProfile, execOutcome_unshown _ _ _ _
    (by rwa [Text.Utf8.decodeLossy_encode]), Text.Utf8.decodeLossy_encode, message] at replies
  refine ⟨replies, fun output other => ?_⟩
  -- There is one reply to an output, and this one is an error.
  have both := (replies (.ok output)).mp ((other (.ok output)).mpr rfl)
  cases both

end EngineGateway

end InstallMatrix
