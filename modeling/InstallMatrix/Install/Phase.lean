import InstallMatrix.Archive.Directory
import InstallMatrix.Gateway.Basic
import InstallMatrix.Install.Settings

/-!
# `InstallMatrix.Install.Phase`: the commands of an install

A phase unpacks the archive, calls the installer and checks the installed binary,
all under one identity. Root is allowed to force the install and gets an
environment of its own; the unprivileged account only skips the questions.

Definitions: `account`, `archivePath`, `PhaseStep`, `phaseSteps`.
-/

set_option autoImplicit false

namespace InstallMatrix

/-- One command of a phase. The name is what reports and failure messages call it. -/
structure PhaseStep where
  name : String
  command : ShellCommand
  deriving DecidableEq

namespace Install

/-- The directory below the home that the archive is unpacked into. It is emptied first, so
nothing of an earlier run is found there. -/
def workDir : String := "install-matrix"

/-- The account of an identity and its home. The unprivileged account is configurable, and its
home follows from its name. -/
def account (i : Identity) (testUser : String) : String × String :=
  match i with
  | .root => ("root", "/root")
  | .user => (testUser, "/home/" ++ testUser)

/-- Where the container finds an archive: in the directory that is mounted from outside, under its
own file name. -/
def archivePath (fileName : String) : String :=
  Environment.artifactMount ++ "/" ++ fileName

/-- Empties the work directory and unpacks the archive into it. The path of the archive stands
between single quotes as it is. -/
def extractScript (fileName : String) : String :=
  "rm -rf \"$HOME/" ++ workDir ++ "\" && mkdir -p \"$HOME/" ++ workDir ++ "\" && cd \"$HOME/"
    ++ workDir ++ "\" && unzip -q -o '" ++ archivePath fileName ++ "'"

/-- The flags the installer is called with. Only the privileged install is forced. -/
def flags (i : Identity) (installer : Installer) : List String :=
  match i with
  | .root => [installer.forceFlag, installer.noConfirmFlag]
  | .user => [installer.noConfirmFlag]

/-- Calls the installer from the directory the archive unpacks to, which is found below the home.
-/
def installScript (i : Identity) (installer : Installer) : String :=
  "cd \"$HOME/" ++ workDir ++ "/" ++ installer.bundleDir ++ "\" && ./" ++ installer.script
    ++ " " ++ Text.joined " " (flags i installer)

/-- Checks the installed binary with the script that was baked into the image. -/
def verifyScript (installer : Installer) : String :=
  Environment.verifyPath ++ " " ++ installer.binary

/-- The environment an identity adds to the install command. The other commands of the phase do
not see it. -/
def installEnv (i : Identity) (installer : Installer) : List (String × String) :=
  match i with
  | .root => installer.rootEnv.toList
  | .user => []

/-- The steps of the phase of one identity, in order: unpack, install, verify. All run under the
same account and in its home, and only the second one takes the variables of the installer. -/
def phaseSteps (i : Identity) (fileName : String) (installer : Installer) (testUser : String) :
    List PhaseStep :=
  let (user, home) := account i testUser
  let command (script : String) := (ShellCommand.of script user home).withEnv "HOME" home
  let install :=
    (installEnv i installer).foldl (fun c row => c.withEnv row.1 row.2)
      (command (installScript i installer))
  [ ⟨"extract", command (extractScript fileName)⟩,
    ⟨"install", install⟩,
    ⟨"verify", command (verifyScript installer)⟩ ]

end Install

end InstallMatrix
