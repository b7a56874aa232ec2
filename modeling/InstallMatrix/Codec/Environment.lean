import InstallMatrix.Data.Schema
import InstallMatrix.Gateway.Basic
import InstallMatrix.Install.Settings

/-!
# `InstallMatrix.Codec.Environment`: definitions, containers and settings as data

Writers `toData` and readers `ofData?` of image definitions, of the values that
pass through the gateway and of the settings of a run.
-/

set_option autoImplicit false

namespace InstallMatrix

open Schema

/-! ### Definitions -/

/-- A tag as its text. -/
def ImageTag.toData (t : ImageTag) : Data := .text t.text

/-- Reads a tag. -/
def ImageTag.ofData? : Reader ImageTag := fun how d => (Schema.text how d).map ImageTag.mk

namespace InjectedFile

/-- An injected file as its fields. -/
def toData (f : InjectedFile) : Data :=
  .record [("path", .text f.path), ("contents", .text f.contents), ("mode", .nat f.mode)]

/-- Reads an injected file. -/
def ofData? : Reader InjectedFile := fun how d => do
  let fs ← fieldsOf ["path", "contents", "mode"] how d
  return ⟨← fs.required "path" text, ← fs.required "contents" text, ← fs.required "mode" nat32⟩

end InjectedFile

namespace Definition

/-- A definition as its fields. -/
def toData (d : Definition) : Data :=
  .record
    [ ("name", .text d.name),
      ("base_image", .text d.baseImage),
      ("platform", .text d.platform),
      ("labels", ofTable .text d.labels),
      ("env", ofTable .text d.env),
      ("setup", .texts d.setup),
      ("injections", .list (d.injections.map InjectedFile.toData)),
      ("mount_points", .texts d.mountPoints),
      ("workdir", .text d.workdir),
      ("entrypoint", .texts d.entrypoint) ]

/-- Reads a definition. -/
def ofData? : Reader Definition := fun how d => do
  let fs ← fieldsOf
    ["name", "base_image", "platform", "labels", "env", "setup", "injections", "mount_points",
      "workdir", "entrypoint"] how d
  return {
    name := ← fs.required "name" text
    baseImage := ← fs.required "base_image" text
    platform := ← fs.required "platform" text
    labels := ← fs.required "labels" (table text)
    env := ← fs.required "env" (table text)
    setup := ← fs.required "setup" (list text)
    injections := ← fs.required "injections" (list InjectedFile.ofData?)
    mountPoints := ← fs.required "mount_points" (list text)
    workdir := ← fs.required "workdir" text
    entrypoint := ← fs.required "entrypoint" (list text) }

end Definition

/-! ### Gateway values -/

namespace Mount

/-- A mount as its fields. -/
def toData (m : Mount) : Data :=
  .record
    [("source", .text m.source), ("target", .text m.target), ("read_only", .bool m.readOnly)]

/-- Reads a mount. -/
def ofData? : Reader Mount := fun how d => do
  let fs ← fieldsOf ["source", "target", "read_only"] how d
  return ⟨← fs.required "source" text, ← fs.required "target" text,
    ← fs.required "read_only" bool⟩

end Mount

namespace Container

/-- A container as its fields. -/
def toData (c : Container) : Data :=
  .record
    [ ("id", .text c.id), ("name", .text c.name), ("image", c.image.toData),
      ("cell", .text c.cell) ]

/-- Reads a container. -/
def ofData? : Reader Container := fun how d => do
  let fs ← fieldsOf ["id", "name", "image", "cell"] how d
  return ⟨← fs.required "id" text, ← fs.required "name" text,
    ← fs.required "image" ImageTag.ofData?, ← fs.required "cell" text⟩

end Container

namespace CommandOutput

/-- A span of time in nanoseconds as whole seconds and the rest. -/
def durationToData (n : Nat) : Data :=
  .record [("secs", .nat (n / 1000000000)), ("nanos", .nat (n % 1000000000))]

/-- Reads a span of time. No other field may be there, and nanoseconds beyond a
second are carried over. -/
def durationOfData? : Reader Nat := fun how d => do
  let known ← match d with
    | .record fields => some (fields.all fun f => f.1 == "secs" || f.1 == "nanos")
    | _ => some true
  let fs ← fieldsOf ["secs", "nanos"] how d
  let secs ← fs.required "secs" nat64
  let nanos ← fs.required "nanos" nat32
  let total := secs * 1000000000 + nanos
  if known && total < Nat.pow 2 64 * 1000000000 then some total else none

/-- An output as its fields. -/
def toData (o : CommandOutput) : Data :=
  .record
    [ ("exit_code", .int o.exitCode), ("stdout", .text o.stdout), ("stderr", .text o.stderr),
      ("duration", durationToData o.duration) ]

/-- Reads an output. -/
def ofData? : Reader CommandOutput := fun how d => do
  let fs ← fieldsOf ["exit_code", "stdout", "stderr", "duration"] how d
  return ⟨← fs.required "exit_code" int64, ← fs.required "stdout" text,
    ← fs.required "stderr" text, ← fs.required "duration" durationOfData?⟩

end CommandOutput

/-! ### Settings -/

namespace Installer

/-- An installer as its fields. -/
def toData (i : Installer) : Data :=
  .record
    [ ("archive_name", ofOption .text i.archiveName),
      ("bundle_dir", .text i.bundleDir),
      ("installer", .text i.script),
      ("binary", .text i.binary),
      ("force_flag", .text i.forceFlag),
      ("no_confirm_flag", .text i.noConfirmFlag),
      ("root_env", ofTable .text i.rootEnv) ]

/-- Reads an installer; what is left out is as without configuration. -/
def ofData? : Reader Installer := fun how d => do
  let fs ← fieldsOf
    ["archive_name", "bundle_dir", "installer", "binary", "force_flag", "no_confirm_flag",
      "root_env"] how d
  return {
    -- Only the name of the archive has no default.
    archiveName := ← fs.optional "archive_name" text
    bundleDir := ← fs.defaulted "bundle_dir" text default.bundleDir
    script := ← fs.defaulted "installer" text default.script
    binary := ← fs.defaulted "binary" text default.binary
    forceFlag := ← fs.defaulted "force_flag" text default.forceFlag
    noConfirmFlag := ← fs.defaulted "no_confirm_flag" text default.noConfirmFlag
    rootEnv := ← fs.defaulted "root_env" (table text) default.rootEnv }

end Installer

namespace RunSettings

/-- Run settings as their fields. -/
def toData (s : RunSettings) : Data :=
  .record
    [ ("artifact_dir", .text s.artifactDir),
      ("max_parallel", .nat s.maxParallel),
      ("retain_containers", .bool s.retainContainers),
      ("test_user", .text s.testUser),
      ("installer", s.installer.toData) ]

/-- Reads run settings; what is left out is as without configuration. -/
def ofData? : Reader RunSettings := fun how d => do
  let fs ← fieldsOf
    ["artifact_dir", "max_parallel", "retain_containers", "test_user", "installer"] how d
  return {
    artifactDir := ← fs.defaulted "artifact_dir" text default.artifactDir
    maxParallel := ← fs.defaulted "max_parallel" nat64 default.maxParallel
    retainContainers := ← fs.defaulted "retain_containers" bool default.retainContainers
    testUser := ← fs.defaulted "test_user" text default.testUser
    installer := ← fs.defaulted "installer" Installer.ofData? default.installer }

end RunSettings

end InstallMatrix
