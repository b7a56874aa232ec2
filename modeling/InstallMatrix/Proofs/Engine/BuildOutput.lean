import InstallMatrix.Proofs.Engine.BuildCall
import InstallMatrix.Proofs.Engine.Output

/-!
# `InstallMatrix.Proofs.Engine.BuildOutput`: what a build prints and what it comes to

A build that ran comes to what its exit code says: the tag of the definition, or an error that
shows the last lines of the output. `buildImage_iff` says so of every output that is text, on
either stream. An output that is not breaks the reading off at its first line that is not, and
the call fails whatever the exit code: `buildImage_loses_tag` is a build that exits with code
zero and whose tag is not returned because of one octet.
-/

set_option autoImplicit false

namespace InstallMatrix

open Program (Path Transcript)
open Text Utf8

/-! ### One stream of a program -/

/-- The streams a program prints to. -/
inductive OutputStream
  | out
  | err

/-- What a program leaves behind that prints to one of its streams only. -/
def OutputStream.output (stream : OutputStream) (printed : Octets) (ending : Ending)
    (elapsed : Nat) : ProcessOutput :=
  match stream with
  | .out => ⟨printed, [], ending, elapsed⟩
  | .err => ⟨[], printed, ending, elapsed⟩

/-- Which stream was printed to makes no difference to how the program ended. -/
theorem OutputStream.ending_output (stream : OutputStream) (printed : Octets) (ending : Ending)
    (elapsed : Nat) : (stream.output printed ending elapsed).ending = ending := by
  cases stream <;> rfl

/-- What was printed is among the lines of both streams, because the other stream is empty. -/
theorem OutputStream.octetLines_output (stream : OutputStream) (printed : Octets)
    (ending : Ending) (elapsed : Nat) :
    octetLines (stream.output printed ending elapsed).stdout
      ++ octetLines (stream.output printed ending elapsed).stderr = octetLines printed := by
  cases stream with
  | out => exact List.append_nil _
  | err => rfl

namespace EngineGateway

variable {r : EngineGateway} {d : Definition}

/-! ### Reading lines -/

/-- Lines that are all text go into the tail. -/
theorem readLines_eq_ok {parts : List OctetLine} {texts : List String} (tail : OutputTail)
    (read : parts.map OctetLine.read = texts.map .ok) :
    readLines tail parts = .ok (texts.foldl OutputTail.push tail) := by
  induction parts generalizing tail texts with
  | nil =>
    rw [List.map_nil, eq_comm, List.map_eq_nil_iff] at read
    rw [read]
    rfl
  | cons line parts ih =>
    cases texts with
    | nil => cases read
    | cons text texts =>
      obtain ⟨first, rest⟩ := List.cons.inj read
      rw [readLines, first]
      exact ih _ rest

/-- The first line that is no text ends the reading. What was read before is lost, and so is the
ending of the program. -/
theorem readLines_eq_error {before after : List OctetLine} {line : OctetLine}
    {fault : Text.Utf8.Fault} (tail : OutputTail)
    (texts : ∀ l ∈ before, ∃ text, l.read = .ok text) (bad : line.read = .error fault) :
    readLines tail (before ++ line :: after) = .error fault := by
  induction before generalizing tail with
  | nil => rw [List.nil_append, readLines, bad]
  | cons l before ih =>
    obtain ⟨⟨text, read⟩, texts⟩ := List.forall_mem_cons.mp texts
    rw [List.cons_append, readLines, read]
    exact ih _ texts

/-- Lines that are not all text have a first one that is not. The induction is on the lines. -/
theorem exists_first_fault {parts : List OctetLine}
    (bad : ¬ ∀ line ∈ parts, ∃ text, line.read = .ok text) :
    ∃ before line after fault, parts = before ++ line :: after ∧
      (∀ l ∈ before, ∃ text, l.read = .ok text) ∧ line.read = .error fault := by
  induction parts with
  | nil => exact absurd (List.forall_mem_nil _) bad
  | cons line parts ih =>
    cases read : line.read with
    | error fault => exact ⟨[], line, parts, fault, rfl, List.forall_mem_nil _, read⟩
    | ok text =>
      -- The line in front is text, so the fault lies behind it.
      have later : ¬ ∀ l ∈ parts, ∃ text, l.read = .ok text := fun all =>
        bad (List.forall_mem_cons.mpr ⟨⟨text, read⟩, all⟩)
      obtain ⟨before, l, after, fault, rfl, texts, first⟩ := ih later
      exact ⟨line :: before, l, after, fault, rfl,
        List.forall_mem_cons.mpr ⟨⟨text, read⟩, texts⟩, first⟩

section Outcome

variable {n : Nat} {tag : ImageTag} {stream : OutputStream} {ending : Ending} {elapsed : Nat}

/-- A build whose output is text comes to what its ending says. A failure shows the last lines of
whichever stream was printed to. -/
theorem buildOutcome_text (text : String) :
    buildOutcome n tag (.ended (stream.output (encode text) ending elapsed))
      = if ending.success then .ok tag
        else .error (.buildFailed tag.text ("engine exited with " ++ ending.text)
          (joined "\n" ((lines text).rtake n))) := by
  rw [buildOutcome]
  simp only [stream.octetLines_output, stream.ending_output,
    readLines_eq_ok _ (map_read_octetLines text), OutputTail.foldl_push]
  rfl

/-- A build whose output is no text fails for the first line that is none. How the build itself
ended, and the lines before, do not show in the failure. -/
theorem buildOutcome_fault {printed : Octets} {before after : List OctetLine} {line : OctetLine}
    {fault : Text.Utf8.Fault} (split : octetLines printed = before ++ line :: after)
    (texts : ∀ l ∈ before, ∃ text, l.read = .ok text) (bad : line.read = .error fault) :
    buildOutcome n tag (.ended (stream.output printed ending elapsed))
      = .error (.inputOutput fault.message) := by
  rw [buildOutcome]
  simp only [stream.octetLines_output, split, readLines_eq_error _ texts bad]

end Outcome

/-! ### The call for an image -/

/-- What the call for an image asks and is answered when the image is not there and its build
comes to an end. -/
def buildLog (r : EngineGateway) (d : Definition) (lock : Nat) (looked : ProcessOutput)
    (dir : String) (built : ProcessOutput) : Transcript EngineAnswer :=
  [⟨.lock d.imageTag, lock⟩, ⟨.hold lock, ()⟩,
    ⟨.invoke r.program (r.inspection d), .ended looked⟩, ⟨.writeContext d.context, .ok dir⟩,
    ⟨.invoke r.program (r.building d dir), .ended built⟩]

/-- The call returns what its build comes to, and nothing else. So the outcome is fixed by what
the engine's program did. -/
theorem path_buildLog_iff {lock : Nat} {looked built : ProcessOutput} {dir : String}
    {result : Except GatewayError ImageTag} (missing : looked.ending.success = false) :
    Path (r.buildImage d) (r.buildLog d lock looked dir built) (.pure result) ↔
      result = buildOutcome r.config.logTailLines d.imageTag (.ended built) := by
  have asks : r.buildImage d = .ask (.lock d.imageTag) fun lock =>
    .ask (.hold lock) fun _ => r.findOrBuild d := rfl
  have builds (dir : String) : r.buildIn d dir = .ask (.invoke r.program (r.building d dir))
    fun result => .pure (buildOutcome r.config.logTailLines d.imageTag result) := rfl
  rw [asks, buildLog, Path.ask_cons_iff, Path.ask_cons_iff, findOrBuild_eq, Path.ask_cons_iff,
    inspected_ended, missing, if_neg Bool.false_ne_true, buildMissing_eq, Path.ask_cons_iff,
    written, builds, Path.ask_cons_iff, Path.pure_nil_iff]

/-- **A build that prints text comes to what its exit code says.** A failed one shows the last
lines. A build that prints anything else fails for the first line that is no text, whatever its
exit code. -/
theorem buildImage_iff {lock : Nat} {looked : ProcessOutput} {dir : String}
    {stream : OutputStream} {printed : Octets} {ending : Ending} {elapsed : Nat}
    {result : Except GatewayError ImageTag} (missing : looked.ending.success = false) :
    Path (r.buildImage d)
        (r.buildLog d lock looked dir (stream.output printed ending elapsed)) (.pure result) ↔
      (∃ text, printed = encode text ∧
        result = if ending.success then .ok d.imageTag
          else .error (.buildFailed d.imageTag.text ("engine exited with " ++ ending.text)
            (joined "\n" ((lines text).rtake r.config.logTailLines)))) ∨
      ∃ before line after fault, octetLines printed = before ++ line :: after ∧
        (∀ l ∈ before, ∃ text, l.octets = encode text) ∧ decode line.octets = .error fault ∧
          result = .error (.inputOutput fault.message) := by
  rw [path_buildLog_iff missing]
  constructor
  · intro same
    -- Either all of the output is text, or there is a first line that is none.
    by_cases text : ∃ text, printed = encode text
    · obtain ⟨text, rfl⟩ := text
      exact .inl ⟨text, rfl, same.trans (buildOutcome_text text)⟩
    · rw [exists_text_iff] at text
      obtain ⟨before, line, after, fault, split, texts, bad⟩ := exists_first_fault text
      refine .inr ⟨before, line, after, fault, split, fun l mem => ?_, ?_, ?_⟩
      · exact exists_read_iff.mp (texts l mem)
      · exact read_eq_error_iff.mp bad
      · exact same.trans (buildOutcome_fault split texts bad)
  · intro comes
    rcases comes with
      ⟨text, rfl, same⟩ | ⟨before, line, after, fault, split, texts, bad, same⟩
    · exact same.trans (buildOutcome_text text).symm
    · have read : ∀ l ∈ before, ∃ text, l.read = .ok text := fun l mem =>
        exists_read_iff.mpr (texts l mem)
      exact same.trans (buildOutcome_fault split read (read_eq_error_iff.mpr bad)).symm

/-! ### Two builds -/

namespace Sample

/-- A gateway that keeps two lines of the output of a build. -/
def keepingTwo : EngineGateway :=
  ⟨⟨.podman, "/run/podman/podman.sock"⟩, ⟨none, 60000, 600000, 1800000, 2, "run-1"⟩⟩

/-- A definition to build, with nothing to inject. -/
def alpine : Definition :=
  ⟨"alpine-3.19-x86_64", "alpine:3.19", "linux/amd64", .empty, .empty, [], [], [], "/", ["sh"]⟩

/-- The image is not there, and its build prints this before it exits. -/
def printing (stream : OutputStream) (printed : Octets) (code : Nat) : Transcript EngineAnswer :=
  keepingTwo.buildLog alpine 0 ⟨[], [], .exited 1, 0⟩ "/tmp/context"
    (stream.output printed (.exited code) 0)

end Sample

/-- A build that fails shows the last two of its three lines. -/
theorem buildImage_iff_of_failed_build :
    Path (Sample.keepingTwo.buildImage Sample.alpine)
      (Sample.printing .err (encode "one\ntwo\nthree\n") 1)
      (.pure (.error (.buildFailed Sample.alpine.imageTag.text
        "engine exited with exit status: 1" "two\nthree"))) := by
  refine (buildImage_iff rfl).mpr (.inl ⟨"one\ntwo\nthree\n", rfl, ?_⟩)
  have kept : joined "\n" ((lines "one\ntwo\nthree\n").rtake 2) = "two\nthree" := by decide +kernel
  rw [if_neg (by decide)]
  show _ = Except.error (GatewayError.buildFailed _ _ (joined "\n" ((lines _).rtake 2)))
  rw [kept]
  rfl

/-- A build prints one octet that is no text and exits with code zero. Its tag is not
returned. -/
theorem buildImage_loses_tag :
    ¬ Path (Sample.keepingTwo.buildImage Sample.alpine) (Sample.printing .out [0xFF, 10] 0)
        (.pure (.ok Sample.alpine.imageTag)) ∧
      Path (Sample.keepingTwo.buildImage Sample.alpine) (Sample.printing .out [0xFF, 10] 0)
        (.pure (.error (.inputOutput "invalid utf-8 sequence of 1 bytes from index 0"))) := by
  have split : octetLines [0xFF, 10] = [] ++ ⟨[0xFF, 10], true⟩ :: [] := rfl
  have bad : OctetLine.read ⟨[0xFF, 10], true⟩ = .error (.invalid 1 0) :=
    read_eq_error_iff.mpr (by rfl)
  have outcome : buildOutcome 2 Sample.alpine.imageTag
      (.ended (OutputStream.out.output [0xFF, 10] (.exited 0) 0))
        = .error (.inputOutput "invalid utf-8 sequence of 1 bytes from index 0") :=
    buildOutcome_fault split nofun bad
  -- The program exits with code zero, and still the reading decides.
  constructor
  · intro path
    have same := ((path_buildLog_iff rfl).mp path).trans outcome
    cases same
  · exact (path_buildLog_iff rfl).mpr outcome.symm

end EngineGateway

end InstallMatrix
