import InstallMatrix.Proofs.Engine.BuildCall
import InstallMatrix.Proofs.Environment.Rendering
import InstallMatrix.Proofs.Results.Summary

/-!
# `InstallMatrix.Proofs.Environment.Context`: the files that a Containerfile copies

The files of a build context and the instructions that copy them are numbered each on their own.
A Containerfile is read line by line here: `copied` lists what is copied, and what `chmod` says of
it on the next line.

* `copied_instructions`: the files are copied in order, each with its own permissions right behind.
* `contextDirectory_perm`: no two files have a name in common, so writing one does not overwrite
  another.
* `meets_writes`: while an image is built no other context is written.

`context_exact` puts these together.
-/

set_option autoImplicit false

namespace InstallMatrix

open Program (Path Transcript)

namespace Definition

/-! ### Names -/

/-- The name of a file in the context tells its number. -/
theorem contextName_inj {i j : Nat} : contextName i = contextName j ↔ i = j := by
  refine ⟨fun same => ?_, congrArg _⟩
  have chars := congrArg String.toList same
  simp only [contextName, String.toList_append, Nat.toString_eq_ofList_toDigits,
    String.toList_ofList] at chars
  have digits := List.append_cancel_left chars
  calc i = Nat.ofDigitChars 10 (Nat.toDigits 10 i) 0 := Nat.ofDigitChars_ten_toDigits.symm
    _ = Nat.ofDigitChars 10 (Nat.toDigits 10 j) 0 := by rw [digits]
    _ = j := Nat.ofDigitChars_ten_toDigits

/-- The Containerfile is called otherwise than any injected file. So an injected file never takes
its place. -/
theorem contextName_ne_containerfile (i : Nat) : contextName i ≠ "Containerfile" := by
  intro same
  have first := congrArg (fun s => s.toList.head?) same
  simp [contextName] at first

/-- The injected files are numbered from the given number on, in their order. The induction is on
the files, over all first numbers. -/
theorem injectedContext_eq (index : Nat) (files : List InjectedFile) :
    injectedContext index files
      = files.mapIdx fun i file => (contextName (index + i), file.contents) := by
  induction files generalizing index with
  | nil => rfl
  | cons file files ih =>
    rw [injectedContext, ih, List.mapIdx_cons]
    simp [Nat.add_assoc, Nat.add_comm 1]

/-- The files that are injected have names of their own. None is called like the Containerfile,
and no two share a number. -/
theorem nodup_contextNames (files : List InjectedFile) :
    ("Containerfile" :: files.mapIdx fun i _ => contextName i).Nodup := by
  refine List.nodup_cons.mpr ⟨?_, List.pairwise_iff_getElem.mpr ?_⟩
  · intro mem
    obtain ⟨i, -, same⟩ := List.mem_mapIdx.mp mem
    exact contextName_ne_containerfile i same
  · intro i j _ _ less
    rw [List.getElem_mapIdx, List.getElem_mapIdx]
    intro same
    exact Nat.ne_of_lt less (contextName_inj.mp same)

/-- The names in a context are that of the Containerfile and one for each injected file. -/
theorem names_context (d : Definition) :
    d.context.map Prod.fst = "Containerfile" :: d.injections.mapIdx fun i _ => contextName i := by
  rw [context, List.map_cons, injectedContext_eq]
  congr 1
  exact List.ext_getElem (by simp) (by simp)

/-- The directory that is left when the files have been written one after the other. A file that
is written later would take the place of one with the same name. -/
def contextDirectory (d : Definition) : Table String := .ofList d.context

/-- The directory has the files of the context and no others. Nothing is overwritten, because the
names are all different. -/
theorem contextDirectory_perm (d : Definition) : d.contextDirectory.rows.Perm d.context :=
  Table.ofList_perm (names_context d ▸ nodup_contextNames d.injections)

/-- A file of the context is found in the directory under its name, with its contents. No other
file overwrites it. -/
theorem get?_contextDirectory {d : Definition} {name contents : String}
    (mem : (name, contents) ∈ d.context) : d.contextDirectory.get? name = some contents :=
  (Table.find_eq_some_iff d.contextDirectory.ordered).mpr (d.contextDirectory_perm.mem_iff.mpr mem)

/-! ### Containerfiles -/

/-- The first word of a text, and what follows the blank behind it. -/
def firstWord (s : String) : String × String :=
  (String.ofList (s.toList.takeWhile (· ≠ ' ')),
    String.ofList ((s.toList.dropWhile (· ≠ ' ')).drop 1))

/-- The number that octal digits write. -/
def octal? (s : String) : Option Nat :=
  if s ≠ "" ∧ s.toList.all (fun c => (Text.digitValue? 8 c).isSome) then
    some (Nat.ofDigitChars 8 s.toList 0)
  else none

/-- The file that a line takes from the context, and the path it is copied to. Lines with other
instructions copy nothing. -/
def copy? (line : String) : Option (String × String) :=
  if (firstWord line).1 = "COPY" then some (firstWord (firstWord line).2) else none

/-- The permissions that a line sets, and the path they are set for. Only a command of this form
is read. -/
def chmod? (line : String) : Option (Nat × String) :=
  let command := firstWord (firstWord line).2
  if (firstWord line).1 = "RUN" ∧ command.1 = "chmod" then
    (octal? (firstWord command.2).1).map fun mode => (mode, (firstWord command.2).2)
  else none

/-- A file that is copied from the context: the name it is taken from, and the path it goes to. -/
structure Copied where
  source : String
  path : String
  /-- What the next line says of permissions. -/
  permissions : Option (Nat × String)
  deriving DecidableEq

/-- The files that are copied from the context, in order. Each comes with the permissions that the
very next line sets, if that line sets any. -/
def copied : List String → List Copied
  | [] => []
  | line :: lines =>
    match copy? line with
    | some (source, path) => ⟨source, path, lines.head?.bind chmod?⟩ :: copied lines
    | none => copied lines

/-- A word without a blank is the first of every text that begins with it and a blank. -/
theorem firstWord_append {word : String} (free : ' ' ∉ word.toList) (rest : String) :
    firstWord (word ++ " " ++ rest) = (word, rest) := by
  have inside : ∀ c ∈ word.toList, (c ≠ ' ' : Bool) = true := by
    intro c mem
    exact decide_eq_true fun same => free (same ▸ mem)
  have chars : (word ++ " " ++ rest).toList = word.toList ++ ' ' :: rest.toList := by simp
  rw [firstWord, chars, List.takeWhile_append_of_pos inside, List.dropWhile_append_of_pos inside]
  simp

/-- The digits of a number in base eight are digits of that base to the reader. -/
theorem isSome_of_mem_toDigits {n : Nat} {c : Char} (mem : c ∈ Nat.toDigits 8 n) :
    (Text.digitValue? 8 c).isSome = true := by
  have digit : ∀ k < 8, (Text.digitValue? 8 (Nat.digitChar k)).isSome = true := by decide
  -- A number is written as its eighth and one more digit.
  induction n using Nat.strongRecOn with
  | ind n ih =>
    rw [Nat.toDigits_eq_if (by decide)] at mem
    split at mem
    · next small =>
      rw [List.mem_singleton.mp mem]
      exact digit n small
    · next large =>
      rcases List.mem_append.mp mem with before | last
      · exact ih (n / 8) (by omega) before
      · rw [List.mem_singleton.mp last]
        exact digit (n % 8) (Nat.mod_lt n (by decide))

/-- Permissions that are written in octal are read as they are. -/
theorem octal?_octal (n : Nat) : octal? (Text.octal n) = some n := by
  have given : Text.octal n ≠ "" := by simp [Text.octal, Nat.toDigits_ne_nil]
  have digits : (Text.octal n).toList.all (fun c => (Text.digitValue? 8 c).isSome) = true := by
    rw [Text.octal, String.toList_ofList]
    exact List.all_eq_true.mpr fun c => isSome_of_mem_toDigits
  rw [octal?, if_pos ⟨given, digits⟩, Text.octal, String.toList_ofList,
    Nat.ofDigitChars_toDigits (by decide) (by decide)]

/-- The line of an instruction copies something just if its keyword says so. -/
theorem copy?_line (c : Directive) :
    copy? c.line = if c.keyword = .copy then some (firstWord c.argument) else none := by
  have name : c.keyword.name = "COPY" ↔ c.keyword = .copy := Keyword.name_inj (l := .copy)
  rw [copy?, Directive.line, firstWord_append c.keyword.not_mem_name.1]
  simp only [name]

/-- The line that sets permissions is read as the mode and the path it names. -/
theorem chmod?_line (mode : Nat) (path : String) :
    chmod? (Directive.line ⟨.run, "chmod " ++ Text.octal mode ++ " " ++ path⟩)
      = some (mode, path) := by
  have words : "chmod " ++ Text.octal mode ++ " " ++ path
      = "chmod" ++ " " ++ (Text.octal mode ++ " " ++ path) := by
    simp only [← String.append_assoc]
    rfl
  have free : ' ' ∉ (Text.octal mode).toList := by
    rw [Text.octal, String.toList_ofList]
    exact fun mem => absurd (isSome_of_mem_toDigits mem) (by decide)
  rw [chmod?, Directive.line, firstWord_append Keyword.run.not_mem_name.1, words,
    firstWord_append (by decide), firstWord_append free, octal?_octal]
  rfl

/-! ### What is copied -/

/-- Instructions of other kinds copy nothing. So only the steps for injected files have to be
read. -/
theorem copied_append {lines : List String} (other : ∀ line ∈ lines, copy? line = none)
    (rest : List String) : copied (lines ++ rest) = copied rest := by
  induction lines with
  | nil => rfl
  | cons line lines ih =>
    obtain ⟨here, later⟩ := List.forall_mem_cons.mp other
    rw [List.cons_append, copied, here]
    exact ih later

/-- An empty line at the end changes nothing. -/
theorem copied_append_blank (lines : List String) : copied (lines ++ [""]) = copied lines := by
  have blank : copy? "" = none ∧ chmod? "" = none := by decide
  induction lines with
  | nil => simp [copied, blank.1]
  | cons line lines ih =>
    -- What stands behind a line matters only if it is a line with a `chmod`.
    have next : (lines ++ [""]).head?.bind chmod? = lines.head?.bind chmod? := by
      cases lines with
      | nil => exact blank.2
      | cons => rfl
    rw [List.cons_append, copied, copied, next, ih]

/-- What the instructions for the file with this number are read as: its name in the context, its
path, and its permissions for that same path. -/
def copyOf (i : Nat) (file : InjectedFile) : Copied :=
  ⟨contextName i, file.path, some (file.mode, file.path)⟩

/-- The instructions for a file are one for its contents, and right behind it one for its
permissions. -/
theorem copied_injections (index : Nat) (files : List InjectedFile) (rest : List String) :
    copied ((injectionSteps index files).map BuildStep.line ++ rest)
      = (files.mapIdx fun i file => copyOf (index + i) file) ++ copied rest := by
  induction files generalizing index with
  | nil => rfl
  | cons file files ih =>
    -- Two lines for each file. The second one copies nothing itself.
    have copies := copy?_line ⟨.copy, contextName index ++ " " ++ file.path⟩
    rw [if_pos rfl, firstWord_append (blank_not_mem_contextName index)] at copies
    have permits := chmod?_line file.mode file.path
    have other := copy?_line ⟨.run, "chmod " ++ Text.octal file.mode ++ " " ++ file.path⟩
    rw [if_neg nofun] at other
    rw [injectionSteps, List.map_cons, List.map_cons, List.cons_append, List.cons_append,
      BuildStep.line, BuildStep.line, BuildStep.directive, BuildStep.directive,
      copied, copies, copied, other, ih, List.mapIdx_cons]
    simp [copyOf, permits, Nat.add_assoc, Nat.add_comm 1]

/-- The instructions before the files. -/
def opening (d : Definition) : List Directive :=
  ⟨.base, d.baseImage⟩
    :: d.labels.toList.map (fun row => ⟨.label, assignment row⟩)
    ++ d.env.toList.map (fun row => ⟨.env, assignment row⟩)
    ++ d.setup.map (⟨.run, ·⟩)

/-- The instructions behind the files. -/
def closing (d : Definition) : List Directive :=
  (mountPointSteps d.mountPoints).map BuildStep.directive
    ++ [⟨.workdir, d.workdir⟩,
        ⟨.command, "[" ++ (Text.joined ", " (d.entrypoint.map quoted) ++ "]")⟩]

/-- The instructions are what opens the rendering, the steps for the injected files, and what
closes it. -/
theorem directives_eq (d : Definition) :
    d.directives = d.opening
      ++ ((injectionSteps 0 d.injections).map BuildStep.directive ++ d.closing) := by
  simp [directives, stepDirectives, buildSteps, BuildStep.directive, opening, closing,
    Function.comp_def]

/-- Instructions of other keywords are not read as copying anything. -/
theorem copy?_eq_none {cs : List Directive} (other : ∀ c ∈ cs, c.keyword ≠ .copy) :
    ∀ line ∈ cs.map Directive.line, copy? line = none := by
  intro line mem
  obtain ⟨c, isOne, rfl⟩ := List.mem_map.mp mem
  rw [copy?_line, if_neg (other c isOne)]

/-- Nothing is copied before the injected files. -/
theorem keyword_of_mem_opening {d : Definition} : ∀ c ∈ d.opening, c.keyword ≠ .copy := by
  simp only [opening, List.cons_append, List.forall_mem_cons, List.forall_mem_append,
    List.forall_mem_map]
  exact ⟨nofun, ⟨fun _ _ => nofun, fun _ _ => nofun⟩, fun _ _ => nofun⟩

/-- Nothing is copied behind them. -/
theorem keyword_of_mem_closing {d : Definition} : ∀ c ∈ d.closing, c.keyword ≠ .copy := by
  have mountPoints : ∀ c ∈ (mountPointSteps d.mountPoints).map BuildStep.directive,
      c.keyword ≠ .copy := by
    unfold mountPointSteps
    split
    · exact nofun
    · exact List.forall_mem_singleton.mpr nofun
  simp only [closing, List.forall_mem_append, List.forall_mem_cons]
  exact ⟨mountPoints, nofun, nofun, nofun⟩

/-- The files are copied in the order of their numbers, each with its permissions. What stands
before and behind them copies nothing. -/
theorem copied_instructions (d : Definition) :
    copied d.instructions = d.injections.mapIdx copyOf := by
  have first : copied d.instructions
      = copied ((injectionSteps 0 d.injections).map BuildStep.line
        ++ d.closing.map Directive.line) := by
    rw [instructions_eq, directives_eq, List.map_append, List.map_append, List.map_map]
    exact copied_append (copy?_eq_none keyword_of_mem_opening) _
  have last : copied (d.closing.map Directive.line) = [] := by
    have rest := copied_append (copy?_eq_none (keyword_of_mem_closing (d := d))) []
    rwa [List.append_nil] at rest
  rw [first, copied_injections, last, List.append_nil]
  simp only [Nat.zero_add]

/-- Where every instruction is one line, the text tells what is copied. The text is cut at its
line feeds and read line by line. -/
theorem copied_split_render {d : Definition}
    (single : ∀ line ∈ d.instructions, '\n' ∉ line.toList) :
    copied (Text.split '\n' d.render) = copied d.instructions := by
  have lines : d.directives.map (·.line.toList) = d.instructions.map String.toList := by
    rw [instructions_eq, List.map_map]
    rfl
  have pieces : Text.split '\n' d.render = d.instructions ++ [""] := by
    rw [Text.split, toList_render, lines,
      splitAt_flatMap (List.forall_mem_map.mpr single), List.map_append, List.map_map]
    simp [Function.comp_def]
  rw [pieces, copied_append_blank]

end Definition

/-! ### What a build writes -/

/-- Only the context of the definition is asked to be written. All other questions are left open.
-/
def EngineQuestion.Writes (d : Definition) : EngineQuestion → Prop
  | .writeContext files => files = d.context
  | _ => True

namespace EngineGateway

variable (r : EngineGateway) (d : Definition)

/-- Building an image that is missing writes the context of its definition, and no other. -/
theorem meets_writes_buildMissing :
    (r.buildMissing d).Meets (fun _ _ => True) (EngineQuestion.Writes d) fun _ => True := by
  rw [buildMissing_eq]
  refine ⟨rfl, fun made _ => ?_⟩
  cases made with
  | ok dir => exact ⟨trivial, fun _ _ => trivial⟩
  | error reason => exact trivial

/-- Nor is another context written when the image is looked for first. -/
theorem meets_writes :
    (r.buildImage d).Meets (fun _ _ => True) (EngineQuestion.Writes d) fun _ => True := by
  refine ⟨trivial, fun lock _ => ⟨trivial, fun _ _ => ?_⟩⟩
  show (r.findOrBuild d).Meets _ _ _
  rw [findOrBuild_eq]
  refine ⟨trivial, fun result _ => ?_⟩
  unfold inspected
  split
  · exact trivial
  · split
    · exact trivial
    · exact meets_writes_buildMissing r d

end EngineGateway

namespace Definition

/-- **The build context matches the Containerfile.** A build writes no other context, and one that
does not find its image begins with it. When the files are written one after the other, what is
left is one for the Containerfile and one for every injected file, under names of their own. The
instructions of the Containerfile copy just the injected files, in order, each from the name that
its contents are written to, and the next instruction sets its permissions. Where every
instruction is one line, the text says the same. -/
theorem context_exact (d : Definition) :
    (∀ (r : EngineGateway) (log : Transcript EngineAnswer) (out : Except GatewayError ImageTag),
      Path (r.buildImage d) log (.pure out) →
        ∀ files made, ⟨.writeContext files, made⟩ ∈ log → files = d.context) ∧
    (∀ (r : EngineGateway) (log : Transcript EngineAnswer) (out : Except GatewayError ImageTag),
      Path (r.buildMissing d) log (.pure out) →
        ∃ made rest, log = ⟨.writeContext d.context, made⟩ :: rest) ∧
    d.contextDirectory.keys.Perm ("Containerfile" :: (copied d.instructions).map Copied.source) ∧
    ("Containerfile" :: (copied d.instructions).map Copied.source).Nodup ∧
    d.contextDirectory.rows.length = d.injections.length + 1 ∧
    d.contextDirectory.get? "Containerfile" = some d.render ∧
    (copied d.instructions).length = d.injections.length ∧
    (∀ (i : Nat) (file : InjectedFile), d.injections[i]? = some file →
      ∃ copy : Copied, (copied d.instructions)[i]? = some copy ∧
        d.contextDirectory.get? copy.source = some file.contents ∧
        copy.path = file.path ∧ copy.permissions = some (file.mode, file.path)) ∧
    ((∀ line ∈ d.instructions, '\n' ∉ line.toList) →
      copied (Text.split '\n' d.render) = copied d.instructions) := by
  -- What is copied is numbered by its place among the injected files.
  have sources : (copied d.instructions).map Copied.source
      = d.injections.mapIdx fun i _ => contextName i := by
    rw [copied_instructions]
    exact List.ext_getElem (by simp) (by simp [copyOf])
  have count : (copied d.instructions).length = d.injections.length := by
    rw [copied_instructions, List.length_mapIdx]
  refine ⟨?_, ?_, ?_, ?_, ?_, ?_, count, ?_, copied_split_render⟩
  · intro r log out path files made mem
    exact (EngineGateway.meets_writes r d).asks_of_path path (fun _ => trivial) mem
  · intro r log out path
    rw [EngineGateway.buildMissing_eq] at path
    obtain ⟨made, rest, log, -⟩ := path.of_ask_pure
    exact ⟨made, rest, log⟩
  · rw [sources, ← names_context]
    exact d.contextDirectory_perm.map Prod.fst
  · rw [sources]
    exact nodup_contextNames d.injections
  · rw [d.contextDirectory_perm.length_eq, ← List.length_map Prod.fst, names_context]
    simp
  · exact get?_contextDirectory List.mem_cons_self
  · intro i file given
    refine ⟨copyOf i file, ?_, ?_, rfl, rfl⟩
    · rw [copied_instructions, List.getElem?_mapIdx, given]
      rfl
    · refine get?_contextDirectory (List.mem_cons_of_mem _ ?_)
      obtain ⟨bound, rfl⟩ := List.getElem?_eq_some_iff.mp given
      rw [injectedContext_eq, List.mem_mapIdx]
      exact ⟨i, bound, by simp [copyOf]⟩

/-- A definition that puts two files into one place. The second one is copied over the first, but
both are in the context. -/
def overlaid : Definition :=
  ⟨"alpine-3.19-x86_64", "alpine:3.19", "linux/amd64", .empty, .empty, ["apk add sudo"],
    [⟨"/etc/motd", "first", 420⟩, ⟨"/etc/motd", "second", 493⟩], ["/artifacts"], "/", ["sh"]⟩

/-- Two files for one place are two files of the context. -/
theorem context_exact_of_same_path :
    ∃ first second : Copied, copied (Text.split '\n' overlaid.render) = [first, second] ∧
      first.path = second.path ∧ overlaid.contextDirectory.get? first.source = some "first" ∧
      overlaid.contextDirectory.get? second.source = some "second" := by
  obtain ⟨-, -, -, -, -, -, count, each, text⟩ := context_exact overlaid
  obtain ⟨first, isFirst, writtenFirst, pathFirst, -⟩ := each 0 _ rfl
  obtain ⟨second, isSecond, writtenSecond, pathSecond, -⟩ := each 1 _ rfl
  refine ⟨first, second, ?_, pathFirst.trans pathSecond.symm, writtenFirst, writtenSecond⟩
  rw [text (by decide +kernel)]
  -- There are two copies, and the two that are known are all.
  match copies : copied overlaid.instructions, count with
  | [_, _], _ =>
    rw [copies] at isFirst isSecond
    cases isFirst
    cases isSecond
    rfl

end Definition

end InstallMatrix
