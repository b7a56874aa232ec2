import InstallMatrix.Matrix.Axis

/-!
# `InstallMatrix.Matrix.Cell`: one place in the matrix

A `Cell` is one test run: a release of a distribution, an architecture, a C
library and an identity. `Cell.label` names it in container names and reports,
`Cell.order` is the order reports are written in.
-/

set_option autoImplicit false

namespace InstallMatrix

/-- One test run of the matrix. -/
structure Cell where
  distribution : String
  version : String
  architecture : Architecture
  libc : Libc
  identity : Identity
  deriving DecidableEq

namespace Cell

/-- The name of a cell: its five coordinates joined by hyphens. -/
def label (c : Cell) : String :=
  c.distribution ++ "-" ++ c.version ++ "-" ++ c.architecture.name ++ "-" ++ c.libc.name
    ++ "-" ++ c.identity.name

/-- Distribution and version as texts, then architecture, C library and identity
in matrix order. Texts are compared by code point, which is also the order of
their UTF-8 octets. -/
def order : Cell → Cell → Ordering :=
  compareLex (compareOn Cell.distribution)
    (compareLex (compareOn Cell.version)
      (compareLex (compareOn fun c => c.architecture.rank)
        (compareLex (compareOn fun c => c.libc.rank)
          (compareOn fun c => c.identity.rank))))

/-- Does `a` come before `b`, or stand at the same place. -/
def le (a b : Cell) : Bool :=
  (order a b).isLE

end Cell

end InstallMatrix
