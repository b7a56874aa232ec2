import InstallMatrix.Environment.Recipe

/-!
# `InstallMatrix.Install.Settings`: how a run is set up

`Installer` says how the installer inside an archive is called and how its result
is checked; `RunSettings` says where the archives are, how many cells run at once
and what becomes of their containers. Both have the values used when nothing is
configured.
-/

set_option autoImplicit false

namespace InstallMatrix

/-- How the installer inside an archive is called and checked. It is the same for every cell of a
run. -/
structure Installer where
  /-- Only archives of this name are considered. -/
  archiveName : Option String
  /-- Directory the archive unpacks to. -/
  bundleDir : String
  /-- Installer script inside that directory. -/
  script : String
  /-- Binary expected on the path afterwards. -/
  binary : String
  forceFlag : String
  noConfirmFlag : String
  /-- Environment of the privileged install alone. -/
  rootEnv : Table String
  deriving DecidableEq

/-- The installer assumed without configuration. A configuration may replace each value by itself.
-/
def Installer.default : Installer where
  archiveName := none
  bundleDir := "q"
  script := "install.sh"
  binary := "q"
  forceFlag := "--force"
  noConfirmFlag := "--no-confirm"
  rootEnv := .ofList [("Q_INSTALL_ROOT", "true")]

/-- The settings of one run, put together from the configuration and the options of the command.
-/
structure RunSettings where
  /-- Directory that holds the archives. -/
  artifactDir : String
  /-- Cells allowed to run at once. -/
  maxParallel : Nat
  /-- Keep containers instead of removing them. -/
  retainContainers : Bool
  /-- Unprivileged account of the user phase. -/
  testUser : String
  installer : Installer
  deriving DecidableEq

namespace RunSettings

/-- The settings used without configuration. The directory is relative to where the program is
run. -/
def default : RunSettings where
  artifactDir := "dist"
  maxParallel := 2
  retainContainers := false
  testUser := Environment.defaultTestUser
  installer := .default

/-- How many cells may run at once: at least one. A semaphore has a limit to the permits it can
hand out, far beyond any number of cells; the limit is left out. -/
def permits (s : RunSettings) : Nat := max 1 s.maxParallel

end RunSettings

end InstallMatrix
