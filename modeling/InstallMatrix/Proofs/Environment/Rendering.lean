import InstallMatrix.Environment.Definition
import InstallMatrix.Proofs.Text.Basic
import Mathlib.Data.List.Basic

/-!
# `InstallMatrix.Proofs.Environment.Rendering`: what a rendering tells of its definition

A rendering is read back in three layers. Its lines are the instructions, as no instruction
of a `Plain` definition has a line feed in it (`splitAt_render`). A line is the keyword of its
instruction and an argument, and the keyword ends at the first blank
(`directives_eq_of_render_eq`). What stands between quotes ends at the first quote that is not
escaped, whatever characters it has (`eq_of_quoted_append`), so a list of quoted texts can be
taken apart as well (`eq_of_joined_quoted`).

The image is set up by a list of steps (`buildSteps`): commands that are run, and files of the
build context that are copied to a place in the image. They are data of their own, and the
instructions are written from them (`BuildStep.directive`). A step can be read off its
instruction, because the name of a file of the context is one word (`eq_of_map_directive`).

`render_eq_iff` puts this together: two plain definitions are rendered alike just if they have
base image, labels, environment, working directory and entrypoint in common, and set up the
image by the same steps. Which of the steps are commands and which make mount points cannot be
told from the rendering, but where each injected file goes can (`paths_eq_of_buildSteps_eq`).
-/

set_option autoImplicit false

namespace InstallMatrix

namespace Definition

/-! ### Quoted texts -/

/-- The text up to the quote that closes it, its escapes resolved, and what follows. This is the
reader that goes with `quoted`; it shows that quoting loses nothing. -/
def unquoted : List Char → Option (List Char × List Char)
  | [] => none
  | '"' :: rest => some ([], rest)
  | '\\' :: c :: rest => (unquoted rest).map fun p => (c :: p.1, p.2)
  | c :: rest => (unquoted rest).map fun p => (c :: p.1, p.2)

/-- Reading a quoted text undoes its escapes, and stops at the quote that closes it. The induction
is on the characters; the two that are escaped are cases of their own. -/
theorem unquoted_escaped (s rest : List Char) :
    unquoted (escaped s ++ '"' :: rest) = some (s, rest) := by
  induction s with
  | nil => rfl
  | cons c s ih =>
    by_cases special : c = '\\' ∨ c = '"'
    · rw [escaped, if_pos special, List.cons_append, List.cons_append]
      simp [unquoted, ih]
    · have ordinary := not_or.mp special
      rw [escaped, if_neg special, List.cons_append, unquoted, ih]
      · rfl
      · exact ordinary.2
      · exact fun _ _ same => absurd same ordinary.1

/-- A quoted text is its escaped characters between two quotes. -/
theorem toList_quoted (s : String) : (quoted s).toList = '"' :: (escaped s.toList ++ ['"']) := by
  simp [quoted]

/-- A quoted text at the beginning tells where it ends, because a quote inside is escaped. -/
theorem eq_of_quoted_append {s t : String} {rest rest' : List Char}
    (eq : (quoted s).toList ++ rest = (quoted t).toList ++ rest') : s = t ∧ rest = rest' := by
  simp only [toList_quoted, List.cons_append, List.append_assoc, List.nil_append] at eq
  have read := congrArg unquoted (List.cons.inj eq).2
  rw [unquoted_escaped, unquoted_escaped, Option.some.injEq, Prod.mk.injEq] at read
  exact ⟨String.toList_inj.mp read.1, read.2⟩

/-- Quoting tells texts apart, since what is quoted can be read back. -/
theorem quoted_inj {s t : String} : quoted s = quoted t ↔ s = t := by
  refine ⟨fun eq => ?_, congrArg quoted⟩
  exact (eq_of_quoted_append (congrArg (·.toList ++ []) eq)).1

/-- Quoted texts behind a separator each can be told apart. The separator may occur inside the
quotes; it is the quotes that are counted on. -/
theorem eq_of_flatMap_quoted {sep : List Char} {xs ys : List String} (nonempty : sep ≠ [])
    (eq : (xs.map fun s => (quoted s).toList).flatMap (sep ++ ·)
      = (ys.map fun s => (quoted s).toList).flatMap (sep ++ ·)) : xs = ys := by
  induction xs generalizing ys with
  | nil =>
    cases ys with
    | nil => rfl
    | cons y ys => simp [nonempty] at eq
  | cons x xs ih =>
    cases ys with
    | nil => simp [nonempty] at eq
    | cons y ys =>
      simp only [List.map_cons, List.flatMap_cons, List.append_assoc] at eq
      obtain ⟨rfl, rest⟩ := eq_of_quoted_append (List.append_cancel_left eq)
      rw [ih rest]

/-- A list of quoted texts tells what the texts are. The first one has no separator before it, and
so it is a case of its own. -/
theorem eq_of_joined_quoted {xs ys : List String}
    (eq : Text.joined ", " (xs.map quoted) = Text.joined ", " (ys.map quoted)) : xs = ys := by
  have chars := congrArg String.toList eq
  simp only [Text.joined, String.toList_intercalate, List.map_map, Function.comp_def] at chars
  -- A list without words joins to nothing, and a quoted word is not nothing.
  cases xs with
  | nil =>
    cases ys with
    | nil => rfl
    | cons y ys =>
      rw [List.map_cons, Text.intercalate_cons_eq_flatMap, toList_quoted] at chars
      cases chars
  | cons x xs =>
    cases ys with
    | nil =>
      rw [List.map_cons, Text.intercalate_cons_eq_flatMap, toList_quoted] at chars
      cases chars
    | cons y ys =>
      rw [List.map_cons, List.map_cons, Text.intercalate_cons_eq_flatMap,
        Text.intercalate_cons_eq_flatMap] at chars
      obtain ⟨rfl, rest⟩ := eq_of_quoted_append chars
      rw [eq_of_flatMap_quoted (by simp) rest]

/-! ### Instructions -/

/-- The words an instruction may begin with. A rendering uses no others. -/
inductive Keyword
  | base
  | label
  | env
  | run
  | copy
  | workdir
  | command
  deriving DecidableEq

/-- A keyword as it is written. -/
def Keyword.name : Keyword → String
  | .base => "FROM"
  | .label => "LABEL"
  | .env => "ENV"
  | .run => "RUN"
  | .copy => "COPY"
  | .workdir => "WORKDIR"
  | .command => "CMD"

/-- Keywords are told apart by the way they are written. -/
theorem Keyword.name_inj {k l : Keyword} : k.name = l.name ↔ k = l := by
  cases k <;> cases l <;> decide

/-- A keyword is one word. -/
theorem Keyword.not_mem_name (k : Keyword) : ' ' ∉ k.name.toList ∧ '\n' ∉ k.name.toList := by
  cases k <;> decide

/-- An instruction: its keyword, and the text behind it. -/
structure Directive where
  keyword : Keyword
  argument : String

/-- The line of an instruction. One blank stands between the keyword and the argument. -/
def Directive.line (c : Directive) : String := c.keyword.name ++ " " ++ c.argument

/-- The argument that sets a row of a table. The key is written as it is, and the value is quoted.
-/
def assignment (row : String × String) : String := row.1 ++ "=" ++ quoted row.2

/-! ### Steps -/

/-- A step by which an image is set up. Steps are data, apart from the lines a renderer writes for
them; `instructions_eq` says that the renderer writes just these. -/
inductive BuildStep
  /-- A command is run in the image. -/
  | run (command : String)
  /-- A file of the build context is copied to a path in the image. -/
  | copy (source target : String)
  deriving DecidableEq

/-- The instruction that asks for a step. -/
def BuildStep.directive : BuildStep → Directive
  | .run command => ⟨.run, command⟩
  | .copy source target => ⟨.copy, source ++ " " ++ target⟩

/-- Each file is copied into the image, and right after that it is given its permissions.
`index` is the place of the first one. -/
def injectionSteps (index : Nat) : List InjectedFile → List BuildStep
  | [] => []
  | file :: rest =>
    .copy (contextName index) file.path
      :: .run ("chmod " ++ Text.octal file.mode ++ " " ++ file.path)
      :: injectionSteps (index + 1) rest

/-- One command makes all mount points, if there are any. They are made behind the injected files.
-/
def mountPointSteps (mountPoints : List String) : List BuildStep :=
  if mountPoints.isEmpty then [] else [.run ("mkdir -p " ++ Text.joined " " mountPoints)]

/-- The steps by which the image is set up, in order: the commands of the definition, the
injected files, and the mount points. -/
def buildSteps (d : Definition) : List BuildStep :=
  d.setup.map .run ++ injectionSteps 0 d.injections ++ mountPointSteps d.mountPoints

/-- The instructions of the steps. They stand in one piece, between the environment and the
working directory. -/
def stepDirectives (d : Definition) : List Directive := d.buildSteps.map BuildStep.directive

/-- The instructions of a definition, in order: where it begins, its labels, its environment, the
steps, and what is run in the end. -/
def directives (d : Definition) : List Directive :=
  ⟨.base, d.baseImage⟩
    :: d.labels.toList.map (fun row => ⟨.label, assignment row⟩)
    ++ d.env.toList.map (fun row => ⟨.env, assignment row⟩)
    ++ d.stepDirectives
    ++ [⟨.workdir, d.workdir⟩,
        ⟨.command, "[" ++ (Text.joined ", " (d.entrypoint.map quoted) ++ "]")⟩]

/-- The words behind a keyword go to the argument. -/
theorem line_append (k : Keyword) (start rest : String) :
    Directive.line ⟨k, start ++ rest⟩ = k.name ++ " " ++ start ++ rest := by
  simp [Directive.line, String.append_assoc]

/-- The line of a step. -/
def BuildStep.line (s : BuildStep) : String := s.directive.line

/-- The lines that the renderer writes for the injected files are those of their steps. -/
theorem injectionLines_eq (index : Nat) (files : List InjectedFile) :
    injectionLines index files = (injectionSteps index files).map BuildStep.line := by
  induction files generalizing index with
  | nil => rfl
  | cons file files ih =>
    rw [injectionLines, injectionSteps, ih, List.map_cons, List.map_cons]
    simp only [BuildStep.line, BuildStep.directive, String.append_assoc, line_append]
    rfl

/-- The lines that the renderer writes for the mount points are those of their steps. -/
theorem mountPointLines_eq (mountPoints : List String) :
    mountPointLines mountPoints = (mountPointSteps mountPoints).map BuildStep.line := by
  unfold mountPointLines mountPointSteps
  split
  · rfl
  · simp only [List.map_cons, List.map_nil, BuildStep.line, BuildStep.directive, line_append]
    rfl

/-- The lines that set the rows of a table are instructions, one for each row. -/
theorem assignments_eq (k : Keyword) (rows : List (String × String)) :
    assignments k.name rows =
      (rows.map fun row => Directive.mk k (assignment row)).map Directive.line := by
  rw [List.map_map]
  refine List.map_congr_left fun row _ => ?_
  simp [assignment, Directive.line, String.append_assoc]

/-- The lines of the steps stand between the environment and the working directory. What stands
around them is written out, so the place of the steps in the file can be seen. -/
theorem instructions_eq_append (d : Definition) :
    d.instructions = ("FROM " ++ d.baseImage) :: assignments Keyword.label.name d.labels.toList
      ++ assignments Keyword.env.name d.env.toList ++ d.buildSteps.map BuildStep.line
      ++ ["WORKDIR " ++ d.workdir,
        "CMD [" ++ (Text.joined ", " (d.entrypoint.map quoted) ++ "]")] := by
  have commands : d.setup.map ("RUN " ++ ·) = (d.setup.map BuildStep.run).map BuildStep.line := by
    rw [List.map_map]
    rfl
  unfold instructions buildSteps
  rw [injectionLines_eq, mountPointLines_eq, commands]
  simp [Keyword.name, List.append_assoc, String.append_assoc]

/-- The renderer writes the instructions of a definition, one per line. With this the rendering is
connected to instructions as data. -/
theorem instructions_eq (d : Definition) : d.instructions = d.directives.map Directive.line := by
  have steps : d.buildSteps.map BuildStep.line = d.stepDirectives.map Directive.line := by
    rw [stepDirectives, List.map_map]
    rfl
  rw [instructions_eq_append, assignments_eq, assignments_eq, steps]
  unfold directives
  simp only [List.map_append, List.map_cons, List.map_nil, line_append, String.append_assoc]
  rfl

/-! ### Lines -/

/-- No text that is rendered has a line feed, and no key an equals sign. Without this a text might
look like another instruction, or a key like a part of its value. -/
structure Plain (d : Definition) : Prop where
  baseImage : '\n' ∉ d.baseImage.toList
  labels : ∀ row ∈ d.labels.toList,
    '\n' ∉ row.1.toList ∧ '=' ∉ row.1.toList ∧ '\n' ∉ row.2.toList
  env : ∀ row ∈ d.env.toList, '\n' ∉ row.1.toList ∧ '=' ∉ row.1.toList ∧ '\n' ∉ row.2.toList
  setup : ∀ command ∈ d.setup, '\n' ∉ command.toList
  injections : ∀ file ∈ d.injections, '\n' ∉ file.path.toList
  mountPoints : ∀ path ∈ d.mountPoints, '\n' ∉ path.toList
  workdir : '\n' ∉ d.workdir.toList
  entrypoint : ∀ argument ∈ d.entrypoint, '\n' ∉ argument.toList

/-- Whether a definition is plain can be decided, field by field. -/
instance (d : Definition) : Decidable d.Plain :=
  decidable_of_iff
    ('\n' ∉ d.baseImage.toList ∧
      (∀ row ∈ d.labels.toList,
        '\n' ∉ row.1.toList ∧ '=' ∉ row.1.toList ∧ '\n' ∉ row.2.toList) ∧
      (∀ row ∈ d.env.toList, '\n' ∉ row.1.toList ∧ '=' ∉ row.1.toList ∧ '\n' ∉ row.2.toList) ∧
      (∀ command ∈ d.setup, '\n' ∉ command.toList) ∧
      (∀ file ∈ d.injections, '\n' ∉ file.path.toList) ∧
      (∀ path ∈ d.mountPoints, '\n' ∉ path.toList) ∧ '\n' ∉ d.workdir.toList ∧
      ∀ argument ∈ d.entrypoint, '\n' ∉ argument.toList)
    ⟨fun ⟨a, b, c, d, e, f, g, h⟩ => ⟨a, b, c, d, e, f, g, h⟩,
      fun ⟨a, b, c, d, e, f, g, h⟩ => ⟨a, b, c, d, e, f, g, h⟩⟩

/-- Escaping adds backslashes only, so every other character that is absent stays absent. -/
theorem not_mem_escaped {c : Char} {s : List Char} (ordinary : c ≠ '\\') (absent : c ∉ s) :
    c ∉ escaped s := by
  induction s with
  | nil => exact absent
  | cons x s ih =>
    obtain ⟨ne, rest⟩ := List.ne_and_not_mem_of_not_mem_cons absent
    unfold escaped
    split <;> simp [ordinary, ne, ih rest]

/-- Quoting brings no line feed into a text. -/
theorem not_mem_quoted {s : String} (absent : '\n' ∉ s.toList) : '\n' ∉ (quoted s).toList := by
  rw [toList_quoted]
  simp [not_mem_escaped (by decide) absent]

/-- Digits are no line feeds. -/
theorem not_mem_toDigits (base n : Nat) (positive : 0 < base) (small : base ≤ 10) :
    '\n' ∉ Nat.toDigits base n := by
  intro mem
  have digit := Nat.isDigit_of_mem_toDigits positive small mem
  revert digit
  decide

/-- The name of a file in the context has no line feed. -/
theorem not_mem_contextName (index : Nat) : '\n' ∉ (contextName index).toList := by
  have digits := not_mem_toDigits 10 index (by decide) (by decide)
  simp [contextName, digits]

/-- Joining pieces without a line feed brings none in, if the separator has none. -/
theorem not_mem_joined (sep : String) {pieces : List String} (clean : '\n' ∉ sep.toList)
    (absent : ∀ piece ∈ pieces, '\n' ∉ piece.toList) :
    '\n' ∉ (Text.joined sep pieces).toList := by
  rw [Text.joined, String.toList_intercalate]
  cases pieces with
  | nil => simp
  | cons piece pieces =>
    rw [List.map_cons, Text.intercalate_cons_eq_flatMap]
    simp only [List.mem_append, List.mem_flatMap, List.mem_map, not_or, not_exists, not_and]
    obtain ⟨here, later⟩ := List.forall_mem_cons.mp absent
    refine ⟨here, ?_⟩
    rintro _ ⟨other, mem, rfl⟩
    exact ⟨clean, later other mem⟩

/-- The steps for files whose paths have no line feed are one line each. -/
theorem not_mem_injections {files : List InjectedFile}
    (absent : ∀ file ∈ files, '\n' ∉ file.path.toList) (index : Nat) :
    ∀ s ∈ injectionSteps index files, '\n' ∉ s.directive.argument.toList := by
  induction files generalizing index with
  | nil => exact nofun
  | cons file files ih =>
    obtain ⟨here, later⟩ := List.forall_mem_cons.mp absent
    have mode : '\n' ∉ (Text.octal file.mode).toList := by
      rw [Text.octal, String.toList_ofList]
      exact not_mem_toDigits 8 file.mode (by decide) (by decide)
    refine List.forall_mem_cons.mpr ⟨?_, List.forall_mem_cons.mpr ⟨?_, ih later _⟩⟩
    · simp [BuildStep.directive, not_mem_contextName, here]
    · simp [BuildStep.directive, mode, here]

/-- The instructions that set rows without line feeds are one line each. -/
theorem not_mem_assignments {rows : List (String × String)} (k : Keyword)
    (absent : ∀ row ∈ rows, '\n' ∉ row.1.toList ∧ '=' ∉ row.1.toList ∧ '\n' ∉ row.2.toList) :
    ∀ c ∈ rows.map fun row => Directive.mk k (assignment row), '\n' ∉ c.argument.toList := by
  intro c mem
  obtain ⟨row, isRow, rfl⟩ := List.mem_map.mp mem
  obtain ⟨key, -, value⟩ := absent row isRow
  simp [assignment, key, not_mem_quoted value]

/-- Every instruction of a plain definition is one line. What is quoted has no line feed either,
since quoting adds none. -/
theorem Plain.not_mem_argument {d : Definition} (h : d.Plain) :
    ∀ c ∈ d.directives, '\n' ∉ c.argument.toList := by
  -- The steps are taken apart first, then the directives around them.
  have mountPoints : ∀ s ∈ mountPointSteps d.mountPoints, '\n' ∉ s.directive.argument.toList := by
    unfold mountPointSteps
    split
    · exact nofun
    · have paths := not_mem_joined " " (by decide) h.mountPoints
      exact List.forall_mem_singleton.mpr (by simp [BuildStep.directive, paths])
  have steps : ∀ s ∈ d.buildSteps, '\n' ∉ s.directive.argument.toList := by
    unfold buildSteps
    simp only [List.forall_mem_append, List.forall_mem_map]
    exact ⟨⟨h.setup, not_mem_injections h.injections 0⟩, mountPoints⟩
  have entrypoint : '\n' ∉ (Text.joined ", " (d.entrypoint.map quoted)).toList := by
    refine not_mem_joined ", " (by decide) fun piece mem => ?_
    obtain ⟨argument, isArgument, rfl⟩ := List.mem_map.mp mem
    exact not_mem_quoted (h.entrypoint argument isArgument)
  unfold directives stepDirectives
  simp only [List.cons_append, List.forall_mem_cons, List.forall_mem_append]
  refine ⟨h.baseImage, ⟨⟨?_, ?_⟩, List.forall_mem_map.mpr steps⟩, ?_⟩
  · exact not_mem_assignments .label h.labels
  · exact not_mem_assignments .env h.env
  · exact ⟨h.workdir, by simp [entrypoint], nofun⟩

/-- Texts with a line feed behind each are the pieces between the line feeds. -/
theorem splitAt_flatMap {lines : List (List Char)} (free : ∀ line ∈ lines, '\n' ∉ line) :
    Text.splitAt '\n' (lines.flatMap (· ++ ['\n'])) = lines ++ [[]] := by
  induction lines with
  | nil => rfl
  | cons line lines ih =>
    obtain ⟨here, later⟩ := List.forall_mem_cons.mp free
    rw [List.flatMap_cons, List.append_assoc, List.singleton_append,
      Text.splitAt_append_cons here, ih later, List.cons_append]

/-- A rendering is its instructions with a line feed behind each. -/
theorem toList_render (d : Definition) :
    d.render.toList = (d.directives.map (·.line.toList)).flatMap (· ++ ['\n']) := by
  rw [render, Text.joined, String.toList_intercalate, instructions_eq, List.flatMap_def]
  simp [Text.nil_intercalate, Function.comp_def]

/-- The pieces of a rendering between line feeds are the instructions. -/
theorem Plain.splitAt_render {d : Definition} (h : d.Plain) :
    Text.splitAt '\n' d.render.toList = d.directives.map (·.line.toList) ++ [[]] := by
  rw [toList_render]
  refine splitAt_flatMap fun line mem => ?_
  obtain ⟨c, isOne, rfl⟩ := List.mem_map.mp mem
  simp [Directive.line, c.keyword.not_mem_name.2, h.not_mem_argument c isOne]

/-- A line tells its keyword and its argument. A keyword is one word, so the first blank is the
one behind it. -/
theorem line_inj {c c' : Directive} : c.line = c'.line ↔ c = c' := by
  refine ⟨fun eq => ?_, congrArg _⟩
  obtain ⟨k, argument⟩ := c
  obtain ⟨k', argument'⟩ := c'
  have chars := congrArg String.toList eq
  simp only [Directive.line, String.toList_append, List.append_assoc] at chars
  obtain ⟨same, rest⟩ := Text.eq_of_append_cons_eq k.not_mem_name.1 k'.not_mem_name.1 chars
  rw [Directive.mk.injEq]
  exact ⟨Keyword.name_inj.mp (String.toList_inj.mp same), String.toList_inj.mp rest⟩

/-- The rendering of a plain definition tells its instructions. Between line feeds stand the
lines, and a line tells its keyword and its argument. -/
theorem directives_eq_of_render_eq {a b : Definition} (ha : a.Plain) (hb : b.Plain)
    (same : a.render = b.render) : a.directives = b.directives := by
  have pieces := congrArg (fun text => Text.splitAt '\n' text.toList) same
  simp only [ha.splitAt_render, hb.splitAt_render] at pieces
  refine List.map_injective_iff.mpr ?_ (List.append_cancel_right pieces)
  exact fun c c' eq => line_inj.mp (String.toList_inj.mp eq)

/-! ### Sections -/

/-- The arguments of all instructions with this keyword, in order. Keywords that occur once have
one. -/
def arguments (k : Keyword) (cs : List Directive) : List String :=
  cs.filterMap fun c => if c.keyword = k then some c.argument else none

/-- The arguments for a keyword begin with that of the first instruction, if the keyword is its
own. -/
theorem arguments_cons (k : Keyword) (c : Directive) (cs : List Directive) :
    arguments k (c :: cs) = (if c.keyword = k then [c.argument] else []) ++ arguments k cs := by
  unfold arguments
  split <;> simp_all

/-- The arguments of two lists of instructions are those of the first and then those of the
second. -/
theorem arguments_append (k : Keyword) (cs cs' : List Directive) :
    arguments k (cs ++ cs') = arguments k cs ++ arguments k cs' :=
  List.filterMap_append

/-- Instructions that share a keyword are all of a section or none of it. -/
theorem arguments_map {α : Type} (k l : Keyword) (xs : List α) (f : α → String) :
    arguments k (xs.map fun x => ⟨l, f x⟩) = if l = k then xs.map f else [] := by
  unfold arguments
  split <;> simp_all [List.filterMap_map]

/-- Is the instruction one by which the image is set up. -/
def Directive.isStep (c : Directive) : Bool := c.keyword = .run || c.keyword = .copy

/-- The instruction of a step is recognized as one. -/
theorem isStep_of_mem_stepDirectives (d : Definition) :
    ∀ c ∈ d.stepDirectives, c.isStep = true := by
  intro c mem
  obtain ⟨step, -, rfl⟩ := List.mem_map.mp mem
  cases step <;> rfl

/-- The steps are the instructions between the environment and the working directory. -/
theorem filter_isStep_directives (d : Definition) :
    d.directives.filter Directive.isStep = d.stepDirectives := by
  have steps := List.filter_eq_self.mpr d.isStep_of_mem_stepDirectives
  unfold directives
  simp [Directive.isStep, List.filter_map, Function.comp_def] at steps ⊢
  exact steps

/-- No other keyword is one of a step. -/
theorem arguments_stepDirectives {k : Keyword} (d : Definition) (other : k ≠ .run ∧ k ≠ .copy) :
    arguments k d.stepDirectives = [] := by
  refine List.filterMap_eq_nil_iff.mpr fun c mem => if_neg fun same => ?_
  have isStep := d.isStep_of_mem_stepDirectives c mem
  rw [Directive.isStep, same, Bool.or_eq_true, decide_eq_true_eq, decide_eq_true_eq] at isStep
  exact isStep.elim other.1 other.2

/-- What stands behind a keyword in the rendering. For a step this is read off the steps; for the
other keywords it is a field of the definition. -/
def texts (d : Definition) : Keyword → List String
  | .base => [d.baseImage]
  | .label => d.labels.toList.map assignment
  | .env => d.env.toList.map assignment
  | .workdir => [d.workdir]
  | .command => ["[" ++ (Text.joined ", " (d.entrypoint.map quoted) ++ "]")]
  | k => arguments k d.stepDirectives

/-- What stands behind a keyword in the instructions is what the definition says of it. -/
theorem arguments_directives (d : Definition) (k : Keyword) :
    arguments k d.directives = d.texts k := by
  have steps := d.arguments_stepDirectives (k := k)
  unfold directives
  simp only [arguments_append, arguments_cons, arguments_map]
  cases k <;> simp [texts, arguments] at steps ⊢ <;> assumption

/-- Rows whose keys have no equals sign can be read off what sets them. -/
theorem eq_of_map_assignment {rows rows' : List (String × String)}
    (free : ∀ row ∈ rows, '=' ∉ row.1.toList) (free' : ∀ row ∈ rows', '=' ∉ row.1.toList)
    (eq : rows.map assignment = rows'.map assignment) : rows = rows' := by
  induction rows generalizing rows' with
  | nil => exact (List.map_eq_nil_iff.mp eq.symm).symm
  | cons row rows ih =>
    cases rows' with
    | nil => cases eq
    | cons row' rows' =>
      obtain ⟨here, later⟩ := List.forall_mem_cons.mp free
      obtain ⟨here', later'⟩ := List.forall_mem_cons.mp free'
      obtain ⟨first, rest⟩ := List.cons.inj eq
      have chars := congrArg String.toList first
      simp only [assignment, String.toList_append, List.append_assoc] at chars
      -- The first equals sign ends the key, since no key has one.
      obtain ⟨key, value⟩ := Text.eq_of_append_cons_eq here here' chars
      have same : row = row' :=
        Prod.ext (String.toList_inj.mp key) (quoted_inj.mp (String.toList_inj.mp value))
      rw [same, ih later later' rest]

/-! ### Steps read back -/

/-- The name of a file of the build context is one word. -/
theorem blank_not_mem_contextName (i : Nat) : ' ' ∉ (contextName i).toList := by
  have digits : ' ' ∉ Nat.toDigits 10 i := fun mem =>
    absurd (Nat.isDigit_of_mem_toDigits (by decide) (by decide) mem) (by decide)
  simp [contextName, digits]

/-- What is copied goes by one word. Then the blank behind it tells where the target begins. -/
def BuildStep.OneWord : BuildStep → Prop
  | .run _ => True
  | .copy source _ => ' ' ∉ source.toList

/-- The instruction of a step tells the step. Running and copying have different keywords, and of
a copy the first word is the source. -/
theorem BuildStep.directive_inj {s s' : BuildStep} (one : s.OneWord) (one' : s'.OneWord)
    (eq : s.directive = s'.directive) : s = s' := by
  cases s with
  | run command =>
    cases s' with
    | run command' => rw [(Directive.mk.inj eq).2]
    | copy source' target' => cases (Directive.mk.inj eq).1
  | copy source target =>
    cases s' with
    | run command' => cases (Directive.mk.inj eq).1
    | copy source' target' =>
      -- The source of a copy is one word, so the first blank ends it.
      have chars := congrArg String.toList (Directive.mk.inj eq).2
      simp only [String.toList_append, List.append_assoc] at chars
      obtain ⟨same, rest⟩ := Text.eq_of_append_cons_eq one one' chars
      rw [String.toList_inj.mp same, String.toList_inj.mp rest]

/-- The file that is copied for an injection goes by one word. -/
theorem oneWord_of_mem_injections {files : List InjectedFile} (index : Nat) :
    ∀ s ∈ injectionSteps index files, s.OneWord := by
  induction files generalizing index with
  | nil => exact nofun
  | cons file files ih =>
    refine List.forall_mem_cons.mpr ⟨blank_not_mem_contextName index, ?_⟩
    exact List.forall_mem_cons.mpr ⟨trivial, ih _⟩

/-- So it is with all steps, for the other ones copy nothing. -/
theorem oneWord_of_mem_buildSteps (d : Definition) : ∀ s ∈ d.buildSteps, s.OneWord := by
  unfold buildSteps mountPointSteps
  simp only [List.forall_mem_append, List.forall_mem_map]
  refine ⟨⟨fun _ _ => trivial, oneWord_of_mem_injections 0⟩, ?_⟩
  split
  · exact nofun
  · exact List.forall_mem_singleton.mpr trivial

/-- The instructions of the steps tell the steps. The induction is on one list, and the other one
has the same length. -/
theorem eq_of_map_directive {xs ys : List BuildStep} (one : ∀ s ∈ xs, s.OneWord)
    (one' : ∀ s ∈ ys, s.OneWord)
    (eq : xs.map BuildStep.directive = ys.map BuildStep.directive) : xs = ys := by
  induction xs generalizing ys with
  | nil => exact (List.map_eq_nil_iff.mp eq.symm).symm
  | cons x xs ih =>
    cases ys with
    | nil => cases eq
    | cons y ys =>
      obtain ⟨here, later⟩ := List.forall_mem_cons.mp one
      obtain ⟨here', later'⟩ := List.forall_mem_cons.mp one'
      obtain ⟨first, rest⟩ := List.cons.inj eq
      rw [BuildStep.directive_inj here here' first, ih later later' rest]

/-- Plain definitions with one rendering set up their images by the same steps. -/
theorem buildSteps_eq_of_render_eq {a b : Definition} (ha : a.Plain) (hb : b.Plain)
    (same : a.render = b.render) : a.buildSteps = b.buildSteps := by
  refine eq_of_map_directive a.oneWord_of_mem_buildSteps b.oneWord_of_mem_buildSteps ?_
  show a.stepDirectives = b.stepDirectives
  rw [← filter_isStep_directives, ← filter_isStep_directives,
    directives_eq_of_render_eq ha hb same]

/-- Where a step copies a file to. -/
def BuildStep.target? : BuildStep → Option String
  | .run _ => none
  | .copy _ target => some target

/-- The targets of the steps for some files are the paths of these files. -/
theorem filterMap_target?_injections (index : Nat) (files : List InjectedFile) :
    (injectionSteps index files).filterMap BuildStep.target? = files.map InjectedFile.path := by
  induction files generalizing index with
  | nil => rfl
  | cons file files ih => exact congrArg (file.path :: ·) (ih (index + 1))

/-- The files that the steps copy are the injected ones. -/
theorem filterMap_target?_buildSteps (d : Definition) :
    d.buildSteps.filterMap BuildStep.target? = d.injections.map InjectedFile.path := by
  have commands : (d.setup.map BuildStep.run).filterMap BuildStep.target? = [] := by
    simp [List.filterMap_map, BuildStep.target?, Function.comp_def]
  have mountPoints : (mountPointSteps d.mountPoints).filterMap BuildStep.target? = [] := by
    unfold mountPointSteps
    split <;> rfl
  rw [buildSteps, List.filterMap_append, List.filterMap_append, commands, mountPoints,
    filterMap_target?_injections, List.nil_append, List.append_nil]

/-- The steps tell where each injected file goes. -/
theorem paths_eq_of_buildSteps_eq {a b : Definition} (same : a.buildSteps = b.buildSteps) :
    a.injections.map InjectedFile.path = b.injections.map InjectedFile.path := by
  rw [← filterMap_target?_buildSteps, ← filterMap_target?_buildSteps, same]

/-! ### Definitions that are rendered alike -/

/-- What is rendered of two definitions is the same. Of the injected files the steps show the
paths and the modes, and not the contents. -/
structure Alike (a b : Definition) : Prop where
  baseImage : a.baseImage = b.baseImage
  labels : a.labels = b.labels
  env : a.env = b.env
  /-- Commands, copied files and mount points, in one order. -/
  steps : a.buildSteps = b.buildSteps
  workdir : a.workdir = b.workdir
  entrypoint : a.entrypoint = b.entrypoint

/-- Plain definitions are rendered to the same text just if what is rendered of them is the
same. -/
theorem render_eq_iff {a b : Definition} (ha : a.Plain) (hb : b.Plain) :
    a.render = b.render ↔ Alike a b := by
  constructor
  · intro same
    have directives := directives_eq_of_render_eq ha hb same
    -- The directives of one keyword are read out of a rendering, in the order they stand in.
    have texts : ∀ k, a.texts k = b.texts k := fun k => by
      rw [← arguments_directives, ← arguments_directives, directives]
    have labels := eq_of_map_assignment (fun row mem => (ha.labels row mem).2.1)
      (fun row mem => (hb.labels row mem).2.1) (texts .label)
    have env := eq_of_map_assignment (fun row mem => (ha.env row mem).2.1)
      (fun row mem => (hb.env row mem).2.1) (texts .env)
    have command := List.singleton_inj.mp (texts .command)
    exact {
      baseImage := List.singleton_inj.mp (texts .base)
      labels := Table.eq_of_rows labels
      env := Table.eq_of_rows env
      steps := buildSteps_eq_of_render_eq ha hb same
      workdir := List.singleton_inj.mp (texts .workdir)
      entrypoint := eq_of_joined_quoted (by simpa using command) }
  · intro h
    rw [render, render, instructions_eq_append, instructions_eq_append, h.baseImage, h.labels,
      h.env, h.steps, h.workdir, h.entrypoint]

/-- A definition with quotes, commas and brackets in its values, set up by these commands and
with these mount points. -/
def echo (setup mountPoints : List String) : Definition where
  name := "alpine-3.19-x86_64"
  baseImage := "alpine:3.19"
  platform := "linux/amd64"
  labels := .ofList [("note", "a \"b\", \\")]
  env := .ofList [("LIST", "[\"x=y\"]"), ("EMPTY", "")]
  setup := setup
  injections := []
  mountPoints := mountPoints
  workdir := "/"
  entrypoint := ["echo", "a\", \"b", "]\\"]

/-- Mount points may as well be made by a command: the definitions differ, but nothing that is
rendered of them does. -/
theorem render_eq_iff_of_mount_points :
    echo ["mkdir -p /a /b"] [] ≠ echo [] ["/a", "/b"] ∧
      (echo ["mkdir -p /a /b"] []).render = (echo [] ["/a", "/b"]).render ∧
        Alike (echo ["mkdir -p /a /b"] []) (echo [] ["/a", "/b"]) := by
  have left : (echo ["mkdir -p /a /b"] []).Plain := by decide +kernel
  have right : (echo [] ["/a", "/b"]).Plain := by decide +kernel
  have same : (echo ["mkdir -p /a /b"] []).render = (echo [] ["/a", "/b"]).render := by
    decide +kernel
  exact ⟨by decide +kernel, same, (render_eq_iff left right).mp same⟩

end Definition

end InstallMatrix
