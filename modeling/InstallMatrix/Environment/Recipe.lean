import InstallMatrix.Catalog.Release
import InstallMatrix.Environment.Definition

/-!
# `InstallMatrix.Environment.Recipe`: from a release to its image

`recipe` turns a release into the definition of its test environment: the
packages the installer needs, an unprivileged account with sudo, and a script
that checks the installed binary. The commands depend only on the package
family, so a new release needs no more than a catalog entry.

Definitions: `PackageFamily.install`, `PackageFamily.createUser`,
`PackageFamily.grantSudo`, `verifyScript`, `recipe`.
-/

set_option autoImplicit false

namespace InstallMatrix

namespace PackageFamily

/-- The command that installs packages without asking. It cleans up behind itself to keep the
image small. -/
def install (f : PackageFamily) (packages : List String) : String :=
  let names := Text.joined " " packages
  match f with
  | .apt =>
    "apt-get update && DEBIAN_FRONTEND=noninteractive apt-get install -y --no-install-recommends "
      ++ names ++ " && rm -rf /var/lib/apt/lists/*"
  | .yum =>
    "if command -v dnf >/dev/null 2>&1; then dnf install -y --allowerasing " ++ names
      ++ " && dnf clean all; else yum install -y " ++ names ++ " && yum clean all; fi"
  | .apk => "apk add --no-cache " ++ names

/-- The command that creates an unprivileged account with a home directory. The families differ in
the program that does so, and in the shell the account gets. -/
def createUser (f : PackageFamily) (user : String) : String :=
  match f with
  | .apt | .yum => "useradd --create-home --shell /bin/bash " ++ user
  | .apk => "adduser -D -s /bin/sh " ++ user

/-- The commands that write a passwordless sudo rule. The rule has a file of its own, named after
the account. -/
def sudoRule (user : String) : String :=
  "mkdir -p /etc/sudoers.d && echo '" ++ user ++ " ALL=(ALL) NOPASSWD:ALL' > /etc/sudoers.d/"
    ++ user ++ " && chmod 0440 /etc/sudoers.d/" ++ user

/-- The command that lets an account use sudo without a password. It joins the group that the
family gives the right to, and is named in a rule besides. -/
def grantSudo (f : PackageFamily) (user : String) : String :=
  let join :=
    match f with
    | .apt => "usermod -aG sudo " ++ user
    | .yum => "usermod -aG wheel " ++ user
    | .apk => "addgroup " ++ user ++ " wheel"
  join ++ " && " ++ sudoRule user

end PackageFamily

namespace Environment

/-- The unprivileged account unless another is configured. Its name is also part of the image. -/
def defaultTestUser : String := "tester"

/-- Where the archive directory is mounted. Nothing can be written to it from inside. -/
def artifactMount : String := "/artifacts"

/-- Where the verification script is installed. The last step of a phase calls it by this path. -/
def verifyPath : String := "/usr/local/bin/install-matrix-verify"

/-- The verification script: the binary must be on the path and must print a
version. -/
def verifyScript : String :=
  Text.joined "" ((
  [
    "#!/bin/sh",
    "# usage: install-matrix-verify <binary>",
    "# Exit 1: binary not on PATH. Exit 2: --version failed. Exit 3: empty version.",
    "binary=\"$1\"",
    "",
    "resolved=$(command -v \"$binary\") || \x7b",
    "    echo \"$binary not found on PATH ($PATH)\" >&2",
    "    exit 1",
    "\x7d",
    "echo \"resolved: $resolved\"",
    "",
    "version=$(\"$binary\" --version 2>&1) || \x7b",
    "    echo \"$binary --version failed: $version\" >&2",
    "    exit 2",
    "\x7d",
    "if [ -z \"$version\" ]; then",
    "    echo \"$binary --version printed nothing\" >&2",
    "    exit 3",
    "fi",
    "echo \"version: $version\""
  ] : List String).map (· ++ "\n"))

/-- The commands that prepare an image: packages first, if there are any, then the account and its
rights. -/
def setup (r : Release) (user : String) : List String :=
  (if r.bootstrapPackages.isEmpty then [] else [r.packageFamily.install r.bootstrapPackages])
    ++ [r.packageFamily.createUser user, r.packageFamily.grantSudo user]

/-- The definition of a release's environment on one architecture. The C library and the identity
of a cell have no part in it. -/
def recipe (user : String) (r : Release) (a : Architecture) : Definition where
  name := Text.lower (r.slug ++ "-" ++ a.name)
  baseImage := r.baseImage
  platform := a.platform
  labels := .ofList
    [ ("install-matrix.distribution", r.name),
      ("install-matrix.version", r.version),
      ("install-matrix.architecture", a.name) ]
  env := .ofList [("INSTALL_MATRIX_USER", user)]
  setup := setup r user
  injections := [⟨verifyPath, verifyScript, 0o755⟩]
  mountPoints := [artifactMount]
  workdir := "/"
  -- The container does nothing by itself. Commands are run in it.
  entrypoint := ["tail", "-f", "/dev/null"]

end Environment

end InstallMatrix
