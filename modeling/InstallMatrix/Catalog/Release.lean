import InstallMatrix.Matrix.Axis

/-!
# `InstallMatrix.Catalog.Release`: one release of a distribution

A `Release` says which base image a distribution release has, which package
manager it uses and which architectures and C libraries it is tested with.
-/

set_option autoImplicit false

namespace InstallMatrix

/-- Package manager family of a distribution. It decides how packages are installed and accounts
made. -/
inductive PackageFamily
  | apt
  | yum
  | apk
  deriving DecidableEq

namespace PackageFamily

/-- Every family. -/
def all : List PackageFamily := [.apt, .yum, .apk]

/-- The name of a family. -/
def name : PackageFamily → String
  | .apt => "apt"
  | .yum => "yum"
  | .apk => "apk"

/-- The small-letter spellings of a family. Some are names of its programs. -/
def spellings : PackageFamily → List String
  | .apt => ["apt", "apt-get"]
  | .yum => ["yum", "dnf"]
  | .apk => ["apk"]

/-- The family a word spells, in any case of its ASCII letters. Any other word is an error that
repeats it. -/
def read (word : String) : Except Unrecognised PackageFamily :=
  match all.find? fun f => Text.lower word ∈ f.spellings with
  | some f => .ok f
  | none => .error (.packageFamily word)

end PackageFamily

/-- One distribution release under test. Name and version are what it is called by, the name in
any case of ASCII letters. -/
structure Release where
  name : String
  version : String
  architectures : List Architecture
  libcs : List Libc
  baseImage : String
  packageFamily : PackageFamily
  /-- Packages installed before anything else. -/
  bootstrapPackages : List String
  deriving DecidableEq

namespace Release

/-- Is the release tested with this pair. Architectures and libraries are listed apart, and every
pair of them is supported. -/
def supports (r : Release) (a : Architecture) (l : Libc) : Bool :=
  a ∈ r.architectures && l ∈ r.libcs

/-- The short name of a release, as messages and image names have it. -/
def slug (r : Release) : String := r.name ++ "-" ++ r.version

/-- Is this the release of the given name, up to the case of ASCII letters, and
version. -/
def isCalled (r : Release) (name version : String) : Bool :=
  Text.sameLetters r.name name && r.version == version

end Release

end InstallMatrix
