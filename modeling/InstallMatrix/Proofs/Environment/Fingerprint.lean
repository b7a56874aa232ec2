import InstallMatrix.Proofs.Environment.Rendering
import InstallMatrix.Proofs.Text.Utf8

/-!
# `InstallMatrix.Proofs.Environment.Fingerprint`: what a digest tells of the injected files

The octets a digest is taken over end in the path and the contents of every injected file, one
behind the other with nothing in between. So they tell the injected text, but not where it is
cut into paths and contents: `shared_tag_of_moved_text` is a pair of definitions that differ in
their files and still share rendering, octets and tag.

`toldApart_of_render_eq` says how far the octets reach. Definitions that cut the text at the
same places inject the same files. For plain definitions the paths are known from the
rendering, and the last contents end where the text does, so the lengths of the other contents
decide; with one injected file there are no others. Beyond that, two definitions share a tag
only if their digests begin with the same digits by chance.
-/

set_option autoImplicit false

namespace InstallMatrix

/-! ### Octets and digits -/

/-- A hash has 32 octets. -/
theorem Sha256.length_digest (message : Text.Octets) : (Sha256.digest message).length = 32 := by
  simp [Sha256.digest, Sha256.State.toList, Sha256.bigEndian]

/-- Every octet is written with two hexadecimal digits. -/
theorem Sha256.length_hex (bytes : Text.Octets) : (Sha256.hex bytes).length = 2 * bytes.length := by
  simp [Sha256.hex, List.length_flatMap, Nat.mul_comm]

namespace Definition

variable {a b : Definition}

/-! ### The injected text -/

/-- The contents of the injected files. -/
def contents (d : Definition) : List String := d.injections.map InjectedFile.contents

/-- Path and contents of each file, one behind the other. Nothing stands between the pieces, so
where one ends and the next begins cannot be seen in the text. -/
def textOf : List InjectedFile → String
  | [] => ""
  | file :: rest => file.path ++ (file.contents ++ textOf rest)

/-- How many characters path and contents of each file have. With the cut, the text of the files
tells the files. -/
def cut (d : Definition) : List (Nat × Nat) :=
  d.injections.map fun file => (file.path.length, file.contents.length)

/-- The octets that are hashed of the injected files are those of their text. -/
theorem encode_textOf (files : List InjectedFile) : Text.Utf8.encode (textOf files) =
    files.flatMap fun file => Text.Utf8.encode file.path ++ Text.Utf8.encode file.contents := by
  induction files with
  | nil => rfl
  | cons file files ih =>
    rw [textOf, Text.Utf8.encode_append, Text.Utf8.encode_append, ih, List.flatMap_cons,
      List.append_assoc]

/-- Where rendering and platform agree, the octets tell the injected text, and no more. The
encoding tells texts apart, so this is about characters and not about octets. -/
theorem fingerprint_eq_iff (render : a.render = b.render) (platform : a.platform = b.platform) :
    a.fingerprint = b.fingerprint ↔ textOf a.injections = textOf b.injections := by
  unfold fingerprint
  rw [render, platform, ← encode_textOf, ← encode_textOf, List.append_cancel_left_eq,
    Text.Utf8.encode_inj]

/-- Texts of the same length at the beginning can be cut off. -/
theorem eq_of_append_eq {s s' t t' : String} (length : s.length = s'.length)
    (eq : s ++ t = s' ++ t') : s = s' ∧ t = t' := by
  have chars := congrArg String.toList eq
  rw [String.toList_append, String.toList_append] at chars
  obtain ⟨first, rest⟩ := List.append_inj chars length
  exact ⟨String.toList_inj.mp first, String.toList_inj.mp rest⟩

/-- Files are known from their text and the lengths of its pieces. The induction is on the files,
and each step cuts off one path and one contents. -/
theorem eq_of_cut_eq {files files' : List InjectedFile}
    (cut : (files.map fun file => (file.path.length, file.contents.length))
      = files'.map fun file => (file.path.length, file.contents.length))
    (text : textOf files = textOf files') :
    files.map InjectedFile.contents = files'.map InjectedFile.contents := by
  induction files generalizing files' with
  | nil =>
    cases files' with
    | nil => rfl
    | cons file' files' => cases cut
  | cons file files ih =>
    cases files' with
    | nil => cases cut
    | cons file' files' =>
      obtain ⟨sizes, cutRest⟩ := List.cons.inj cut
      -- Pieces of the same length at the same place are cut off one by one.
      rw [Prod.mk.injEq] at sizes
      obtain ⟨-, behindPath⟩ := eq_of_append_eq sizes.1 text
      obtain ⟨contents, rest⟩ := eq_of_append_eq sizes.2 behindPath
      rw [List.map_cons, List.map_cons, contents, ih cutRest rest]

/-- Files that go to known places are known from their text and the lengths of all contents
but the last. -/
theorem eq_of_paths_eq {files files' : List InjectedFile}
    (paths : files.map InjectedFile.path = files'.map InjectedFile.path)
    (lengths : (files.map InjectedFile.contents).dropLast.map String.length
      = (files'.map InjectedFile.contents).dropLast.map String.length)
    (text : textOf files = textOf files') :
    files.map InjectedFile.contents = files'.map InjectedFile.contents := by
  induction files generalizing files' with
  | nil => exact (congrArg _ (List.map_eq_nil_iff.mp paths.symm)).symm
  | cons file files ih =>
    cases files' with
    | nil => cases paths
    | cons file' files' =>
      obtain ⟨path, pathsRest⟩ := List.cons.inj paths
      obtain ⟨-, behindPath⟩ := eq_of_append_eq (congrArg String.length path) text
      -- The last contents take what is left of the text, all others have their length.
      cases files with
      | nil =>
        obtain rfl := List.map_eq_nil_iff.mp pathsRest.symm
        simpa [textOf] using behindPath
      | cons next files =>
        cases files' with
        | nil => cases pathsRest
        | cons next' files' =>
          simp only [List.map_cons, List.dropLast_cons_cons, List.cons.injEq] at lengths
          obtain ⟨contents, rest⟩ := eq_of_append_eq lengths.1 behindPath
          rw [List.map_cons, List.map_cons, contents]
          exact congrArg _ (ih pathsRest lengths.2 rest)

/-! ### Tags -/

/-- The digits of a tag for these octets. -/
def tagDigits (octets : Text.Octets) : List Char :=
  (Sha256.hex (Sha256.digest octets)).toList.take 12

/-- A tag is made of the name of the environment and the first digits of the hash. -/
theorem imageTag_eq (d : Definition) :
    d.imageTag = ⟨"install-matrix/" ++ d.name ++ ":" ++ String.ofList (tagDigits d.fingerprint)⟩ :=
  rfl

/-- A tag has twelve digits of the hash, whatever was hashed. -/
theorem length_tagDigits (octets : Text.Octets) : (tagDigits octets).length = 12 := by
  have digits : (Sha256.hex (Sha256.digest octets)).toList.length = 64 := by
    rw [String.length_toList, Sha256.length_hex, Sha256.length_digest]
  rw [tagDigits, List.length_take, digits]
  rfl

/-- A tag ends in its digits, and there are always equally many. So equal tags have equal digits,
whatever stands before. -/
theorem tagDigits_eq_of_imageTag_eq (same : a.imageTag = b.imageTag) :
    tagDigits a.fingerprint = tagDigits b.fingerprint := by
  rw [imageTag_eq, imageTag_eq, ImageTag.mk.injEq] at same
  have chars := congrArg String.toList same
  simp only [String.toList_append, String.toList_ofList] at chars
  refine (List.append_inj' chars ?_).2
  rw [length_tagDigits, length_tagDigits]

/-- Different octets whose tags have the same digits. A tag has only so many digits, so there are
such octets; nothing better can be said of tags than of the octets behind them. -/
def Collide (octets octets' : Text.Octets) : Prop :=
  octets ≠ octets' ∧ tagDigits octets = tagDigits octets'

/-! ### How far the octets reach -/

/-- What the octets of the digest and the tag tell of the injected files. -/
structure ToldApart (a b : Definition) : Prop where
  /-- The same octets are the same injected text. -/
  text : a.fingerprint = b.fingerprint ↔ textOf a.injections = textOf b.injections
  /-- They tell the files of definitions that cut the text at the same places. -/
  cut : a.fingerprint = b.fingerprint → a.cut = b.cut → a.contents = b.contents
  /-- Plain definitions are confused just if some contents but the last differ in length. -/
  plain : a.Plain → b.Plain → a.fingerprint = b.fingerprint →
    (a.contents = b.contents ↔
      a.contents.dropLast.map String.length = b.contents.dropLast.map String.length)
  /-- So those with one file at most are never confused. -/
  single : a.Plain → b.Plain → a.injections.length ≤ 1 → a.fingerprint = b.fingerprint →
    a.contents = b.contents
  /-- The tag tells the octets unless the digits collide. -/
  tag : a.imageTag = b.imageTag →
    a.fingerprint = b.fingerprint ∨ Collide a.fingerprint b.fingerprint

/-- Plain definitions with the same rendering inject their files to the same places. -/
theorem Plain.paths_eq (ha : a.Plain) (hb : b.Plain) (render : a.render = b.render) :
    a.injections.map InjectedFile.path = b.injections.map InjectedFile.path :=
  paths_eq_of_buildSteps_eq (buildSteps_eq_of_render_eq ha hb render)

/-- One file has no contents but the last. -/
theorem dropLast_contents_eq_nil {d : Definition} (one : d.injections.length ≤ 1) :
    d.contents.dropLast = [] := by
  have none : d.contents.dropLast.length = 0 := by
    rw [List.length_dropLast, contents, List.length_map]
    omega
  exact List.length_eq_zero_iff.mp none

/-- For definitions with the same rendering and platform, the octets of the digest and the tag
tell the injected files as far as `ToldApart` says. -/
theorem toldApart_of_render_eq (render : a.render = b.render)
    (platform : a.platform = b.platform) : ToldApart a b where
  text := fingerprint_eq_iff render platform
  cut octets cut := eq_of_cut_eq cut ((fingerprint_eq_iff render platform).mp octets)
  plain ha hb octets := by
    refine ⟨fun same => by rw [same], fun lengths => ?_⟩
    exact eq_of_paths_eq (ha.paths_eq hb render) lengths
      ((fingerprint_eq_iff render platform).mp octets)
  single ha hb one octets := by
    have paths := ha.paths_eq hb render
    -- The number of injected files shows in the rendering, as each is copied by an instruction.
    have one' : b.injections.length ≤ 1 := by
      have count := congrArg List.length paths
      rw [List.length_map, List.length_map] at count
      omega
    refine eq_of_paths_eq paths ?_ ((fingerprint_eq_iff render platform).mp octets)
    show a.contents.dropLast.map _ = b.contents.dropLast.map _
    rw [dropLast_contents_eq_nil one, dropLast_contents_eq_nil one']
  tag same := by
    by_cases octets : a.fingerprint = b.fingerprint
    · exact .inl octets
    · exact .inr ⟨octets, tagDigits_eq_of_imageTag_eq same⟩

/-- A definition that injects two files, the second one as the given path. -/
def pair (first second : String) : Definition where
  name := "alpine-3.19-x86_64"
  baseImage := "alpine:3.19"
  platform := "linux/amd64"
  labels := .empty
  env := .empty
  setup := []
  injections := [⟨"/etc/motd", first, 0o644⟩, ⟨"/etc/issue", second, 0o644⟩]
  mountPoints := []
  workdir := "/"
  entrypoint := ["sh"]

/-- Files of the same lengths are told apart: contents that differ do so in the octets. -/
theorem toldApart_of_same_lengths :
    (pair "a\n" "b\n").render = (pair "b\n" "a\n").render ∧
      (pair "a\n" "b\n").platform = (pair "b\n" "a\n").platform ∧
        (pair "a\n" "b\n").fingerprint ≠ (pair "b\n" "a\n").fingerprint := by
  have render : (pair "a\n" "b\n").render = (pair "b\n" "a\n").render := by decide +kernel
  have apart := toldApart_of_render_eq render rfl
  refine ⟨render, rfl, fun octets => ?_⟩
  exact absurd (apart.cut octets (by decide +kernel)) (by decide +kernel)

/-- A path that is text of the first file in one definition and of the second in the other.
Both have the same rendering and are hashed over the same octets, so they share a tag, and yet
neither file has the same contents. -/
theorem shared_tag_of_moved_text :
    ∃ a b : Definition, a.Plain ∧ b.Plain ∧ a.render = b.render ∧ a.platform = b.platform ∧
      a.fingerprint = b.fingerprint ∧ a.imageTag = b.imageTag ∧ a.contents ≠ b.contents := by
  have octets : (pair "/etc/issue" "").fingerprint = (pair "" "/etc/issue").fingerprint := by
    decide +kernel
  refine ⟨pair "/etc/issue" "", pair "" "/etc/issue", by decide +kernel, by decide +kernel,
    by decide +kernel, rfl, octets, ?_, by decide +kernel⟩
  rw [imageTag_eq, imageTag_eq, octets]
  rfl

end Definition

end InstallMatrix
