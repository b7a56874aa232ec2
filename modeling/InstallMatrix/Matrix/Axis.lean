import InstallMatrix.Text.Basic

/-!
# `InstallMatrix.Matrix.Axis`: the axes a matrix is spanned by

A test run is placed by the processor architecture, the C library and the
identity it runs under. Each axis is a small enumeration with the names that
archives, engines and reports use for its values, and a reader for the spellings
a person may type.

Definitions: `Architecture`, `Libc`, `Identity`, `IdentityChoice`, the readers
`Architecture.read`, `Libc.read`, `IdentityChoice.read`, and `Unrecognised`, the
reason a reader refuses a word.
-/

set_option autoImplicit false

namespace InstallMatrix

/-- A word that names no value of the kind asked for. -/
inductive Unrecognised
  | architecture (word : String)
  | libc (word : String)
  | identity (word : String)
  | packageFamily (word : String)
  deriving DecidableEq

/-- The wording shown for a word that is not understood. -/
def Unrecognised.message : Unrecognised → String
  | .architecture w => "unknown architecture '" ++ w ++ "' (expected x86_64 or aarch64)"
  | .libc w => "unknown libc variant '" ++ w ++ "' (expected glibc or musl)"
  | .identity w => "unknown identity '" ++ w ++ "' (expected root, user or both)"
  | .packageFamily w => "unknown package family '" ++ w ++ "' (expected apt, yum or apk)"

/-! ### Architecture -/

/-- Processor architecture of a run. -/
inductive Architecture
  | x86_64
  | aarch64
  deriving DecidableEq

namespace Architecture

/-- Both architectures, in matrix order. -/
def all : List Architecture := [.x86_64, .aarch64]

/-- The place of an architecture in matrix order. -/
def rank : Architecture → Nat
  | .x86_64 => 0
  | .aarch64 => 1

/-- The name used in archive file names and reports. -/
def name : Architecture → String
  | .x86_64 => "x86_64"
  | .aarch64 => "aarch64"

/-- The platform an engine is asked for. -/
def platform : Architecture → String
  | .x86_64 => "linux/amd64"
  | .aarch64 => "linux/arm64"

/-- The small-letter spellings of an architecture. -/
def spellings : Architecture → List String
  | .x86_64 => ["x86_64", "amd64", "x64"]
  | .aarch64 => ["aarch64", "arm64"]

/-- The architecture a word spells, in any case of its ASCII letters. -/
def read (word : String) : Except Unrecognised Architecture :=
  match all.find? fun a => Text.lower word ∈ a.spellings with
  | some a => .ok a
  | none => .error (.architecture word)

end Architecture

/-! ### C library -/

/-- The C library the tested binary links against. -/
inductive Libc
  | glibc
  | musl
  deriving DecidableEq

namespace Libc

/-- Both C libraries, in matrix order. -/
def all : List Libc := [.glibc, .musl]

/-- The place of a C library in matrix order. -/
def rank : Libc → Nat
  | .glibc => 0
  | .musl => 1

/-- The name used in filters and reports. -/
def name : Libc → String
  | .glibc => "glibc"
  | .musl => "musl"

/-- What stands between the architecture and `.zip` in an archive name. -/
def archiveSuffix : Libc → String
  | .glibc => "-linux"
  | .musl => "-linux-musl"

/-- The small-letter spellings of a C library. -/
def spellings : Libc → List String
  | .glibc => ["glibc", "gnu"]
  | .musl => ["musl"]

/-- The C library a word spells, in any case of its ASCII letters. -/
def read (word : String) : Except Unrecognised Libc :=
  match all.find? fun l => Text.lower word ∈ l.spellings with
  | some l => .ok l
  | none => .error (.libc word)

end Libc

/-! ### Identity -/

/-- The account the installer runs under. -/
inductive Identity
  | root
  | user
  deriving DecidableEq

namespace Identity

/-- Both identities, in matrix order. -/
def all : List Identity := [.root, .user]

/-- The place of an identity in matrix order. -/
def rank : Identity → Nat
  | .root => 0
  | .user => 1

/-- The name used in filters and reports. -/
def name : Identity → String
  | .root => "root"
  | .user => "user"

end Identity

/-- Which identities a run exercises. -/
inductive IdentityChoice
  | root
  | user
  | both
  deriving DecidableEq

namespace IdentityChoice

/-- Every choice. -/
def all : List IdentityChoice := [.root, .user, .both]

/-- The name of a choice. -/
def name : IdentityChoice → String
  | .root => "root"
  | .user => "user"
  | .both => "both"

/-- The chosen identities, root first. -/
def identities : IdentityChoice → List Identity
  | .root => [.root]
  | .user => [.user]
  | .both => [.root, .user]

/-- The small-letter spellings of a choice. -/
def spellings : IdentityChoice → List String
  | .root => ["root"]
  | .user => ["user"]
  | .both => ["both", "all"]

/-- The choice a word spells, in any case of its ASCII letters. -/
def read (word : String) : Except Unrecognised IdentityChoice :=
  match all.find? fun i => Text.lower word ∈ i.spellings with
  | some i => .ok i
  | none => .error (.identity word)

end IdentityChoice

end InstallMatrix
