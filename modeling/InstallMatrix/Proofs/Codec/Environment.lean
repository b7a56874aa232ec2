import InstallMatrix.Codec.Environment
import InstallMatrix.Proofs.Data.Schema

/-!
# `InstallMatrix.Proofs.Codec.Environment`: definitions are read back from their data

The data that is written for a definition is read as that definition again, field by field
(`Definition.carries`). Nothing is assumed of its texts. The permission bits of an injected
file are a number of 32 bits, so a definition has to fit (`Definition.Fits`). The recipe of
every release does, for it injects one file and the bits of that file are fixed.
-/

set_option autoImplicit false

namespace InstallMatrix

open Schema Fields

/-- A text is carried by the data that holds it. A tag is nothing but its text. -/
theorem ImageTag.carries (t : ImageTag) : Carries toData ofData? t := ⟨.text _, rfl⟩

/-- A number below the bound of 32 bits is written as a number and read back as it was. Every
such number is one of 64 bits as well, so JSON has room for it. -/
theorem Schema.carries_nat32 {n : Nat} (fits : n < Nat.pow 2 32) : Carries .nat nat32 n where
  plain := by
    have below : n < Nat.pow 2 64 := Nat.lt_trans fits (by decide)
    exact (carries_nat64 below).plain
  read := by
    have read : (Data.nat n).nat? = some n := rfl
    simp only [nat32, natBelow, read, Option.bind_eq_bind, Option.bind_some, fits, if_true]

/-- An injected file is read back with its path, its contents and its permission bits. -/
theorem InjectedFile.carries {f : InjectedFile} (fits : f.mode < Nat.pow 2 32) :
    Carries toData ofData? f := by
  have mode := carries_nat32 fits
  constructor
  · simp [toData, mode.plain]
  · simp [toData, ofData?, mode.read]

namespace Definition

/-- The permission bits of every injected file are a number of 32 bits. There is no such bound
on anything else that a definition holds. -/
def Fits (d : Definition) : Prop := ∀ f ∈ d.injections, f.mode < Nat.pow 2 32

/-- A definition is read back whole: names and texts as they were, labels and environment row
by row, and the injected files in their order. -/
theorem carries {d : Definition} (fits : d.Fits) : Carries toData ofData? d := by
  have texts (items : List String) := carries_list fun s (_ : s ∈ items) => carries_text s
  have labels := carries_table fun row (_ : row ∈ d.labels.rows) => carries_text row.2
  have env := carries_table fun row (_ : row ∈ d.env.rows) => carries_text row.2
  have injections := carries_list fun f mem => InjectedFile.carries (fits f mem)
  have setup := texts d.setup
  have mountPoints := texts d.mountPoints
  have entrypoint := texts d.entrypoint
  constructor
  · simp [toData, Data.texts, labels.plain, env.plain, injections.plain, setup.plain,
      mountPoints.plain, entrypoint.plain]
  · simp [toData, ofData?, Data.texts, labels.read, env.read, injections.read, setup.read,
      mountPoints.read, entrypoint.read]

/-- The definition of a release's environment fits, whatever the release and the account: the
one file it injects is the script that checks the installed binary. -/
theorem fits_recipe (user : String) (r : Release) (a : Architecture) :
    (Environment.recipe user r a).Fits := by
  intro f mem
  rw [List.mem_singleton.mp mem]
  decide

end Definition

end InstallMatrix
