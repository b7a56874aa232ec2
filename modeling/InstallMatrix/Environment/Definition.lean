import InstallMatrix.Sha256
import InstallMatrix.Table
import InstallMatrix.Text.Basic

/-!
# `InstallMatrix.Environment.Definition`: the recipe of a container image

A `Definition` lists everything that goes into one environment image. `render`
writes it as a Containerfile; `imageTag` names the image by a hash over the
rendering, the platform and the injected files, so equal recipes share a tag.

Definitions: `ImageTag`, `InjectedFile`, `Definition`, `quoted`, `contextName`,
`Definition.render`, `Definition.fingerprint`, `Definition.digest`,
`Definition.imageTag`, `Definition.context`.
-/

set_option autoImplicit false

namespace InstallMatrix

/-- The tag of a built image. It is known from the definition before anything is built. -/
structure ImageTag where
  text : String
  deriving DecidableEq

/-- A file baked into an image. Its contents are copied from the build context, and its mode is
set right behind that. -/
structure InjectedFile where
  /-- Absolute path inside the image. -/
  path : String
  contents : String
  /-- Permission bits. -/
  mode : Nat
  deriving DecidableEq

/-- The recipe of one environment image. It is made from a release, an architecture and an
account, and nothing else of a cell enters it. -/
structure Definition where
  /-- Release and architecture, the last part of the tag's repository. -/
  name : String
  baseImage : String
  platform : String
  labels : Table String
  env : Table String
  /-- Shell commands run while the image is built. -/
  setup : List String
  injections : List InjectedFile
  /-- Directories created empty so that mounts have a target. -/
  mountPoints : List String
  workdir : String
  entrypoint : List String
  deriving DecidableEq

namespace Definition

/-- Backslashes and double quotes, each behind a backslash. All other characters stay, line feeds
too. -/
def escaped : List Char → List Char
  | [] => []
  | c :: s => if c = '\\' ∨ c = '"' then '\\' :: c :: escaped s else c :: escaped s

/-- A text between double quotes, its own quotes and backslashes escaped. Values of labels and
variables are written so, and the words of the entrypoint. -/
def quoted (s : String) : String :=
  "\"" ++ String.ofList (escaped s.toList) ++ "\""

/-- The file name of the injection with this index inside the build context. Names are numbered,
so two injections never share one. -/
def contextName (index : Nat) : String :=
  "inject-" ++ toString index

/-! ### Rendering -/

/-- The instruction lines that set the rows of a table, one line per row, in the order of the
keys. -/
def assignments (instruction : String) (rows : List (String × String)) : List String :=
  rows.map fun row => instruction ++ " " ++ row.1 ++ "=" ++ quoted row.2

/-- The instruction lines that copy files into the image, `index` being the
place of the first one. -/
def injectionLines (index : Nat) : List InjectedFile → List String
  | [] => []
  | file :: rest =>
    ("COPY " ++ contextName index ++ " " ++ file.path)
      :: ("RUN chmod " ++ Text.octal file.mode ++ " " ++ file.path)
      :: injectionLines (index + 1) rest

/-- The instruction line that creates the mount points. One command makes all of them, and without
any there is no line. -/
def mountPointLines (mountPoints : List String) : List String :=
  if mountPoints.isEmpty then [] else ["RUN mkdir -p " ++ Text.joined " " mountPoints]

/-- The instructions of a definition, in order. The files are injected behind the setup commands
and before the mount points are made. -/
def instructions (d : Definition) : List String :=
  ("FROM " ++ d.baseImage)
    :: assignments "LABEL" d.labels.toList
    ++ assignments "ENV" d.env.toList
    ++ d.setup.map ("RUN " ++ ·)
    ++ injectionLines 0 d.injections
    ++ mountPointLines d.mountPoints
    ++ ["WORKDIR " ++ d.workdir,
        "CMD [" ++ Text.joined ", " (d.entrypoint.map quoted) ++ "]"]

/-- The Containerfile: every instruction on a line of its own, the last one ended too. -/
def render (d : Definition) : String :=
  Text.joined "" (d.instructions.map (· ++ "\n"))

/-! ### Image tag -/

/-- The octets the digest is taken over: the rendering, the platform, and path
and contents of every injected file. -/
def fingerprint (d : Definition) : Text.Octets :=
  Text.Utf8.encode d.render ++ Text.Utf8.encode d.platform
    ++ d.injections.flatMap fun file =>
      Text.Utf8.encode file.path ++ Text.Utf8.encode file.contents

/-- The SHA-256 of the fingerprint in hexadecimal: sixty-four digits, of which the tag shows
twelve. -/
def digest (d : Definition) : String :=
  Sha256.hex (Sha256.digest d.fingerprint)

/-- The tag of the image: its name and the first twelve digits of the digest. Definitions with the
same name and digest share it. -/
def imageTag (d : Definition) : ImageTag :=
  ⟨"install-matrix/" ++ d.name ++ ":" ++ String.ofList (d.digest.toList.take 12)⟩

/-! ### Build context -/

/-- The files of the build context, the injections numbered from `index`. The numbering is the one
the copying instructions refer to. -/
def injectedContext (index : Nat) : List InjectedFile → List (String × String)
  | [] => []
  | file :: rest => (contextName index, file.contents) :: injectedContext (index + 1) rest

/-- The files an engine needs to build the image, by name. Everything else is in the
Containerfile. -/
def context (d : Definition) : List (String × String) :=
  ("Containerfile", d.render) :: injectedContext 0 d.injections

end Definition

end InstallMatrix
