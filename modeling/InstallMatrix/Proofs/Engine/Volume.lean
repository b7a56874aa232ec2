import InstallMatrix.Run.Pipeline
import InstallMatrix.Proofs.Archive.Directory
import InstallMatrix.Proofs.Command.FileTree
import InstallMatrix.Proofs.Engine.Gateway
import InstallMatrix.Proofs.Text.Basic

/-!
# `InstallMatrix.Proofs.Engine.Volume`: the directory that a container is given

The container of a cell is started with the directory of its archive as a volume. An engine reads
a volume as fields with colons between: a source, a target and options. A source that begins at
the root is a directory of the host, and any other one is the name of a volume that the engine
keeps (`Volume.read`).

* `read_volume_sealed`: a sealed mount is read back just if its source has no colon.
* `volumes_starting`: the volumes a start asks for are those of its mounts.
* `provides_iff`: the directory of the archive is provided just if its path begins at the root and
  has no colon.

`volume_exact` says this of every finished start of a cell's container. The directory that is
configured unless another one is chosen is not provided (`default_directory_not_provided`).
-/

set_option autoImplicit false

namespace InstallMatrix

open Program (Path Transcript)
open FileTree (Place)

/-! ### Volumes as engines read them -/

/-- What an engine mounts. Which of the two it is depends on nothing but how the source is
written. -/
inductive Volume.Source
  /-- A directory of the host. -/
  | directory (path : String)
  /-- A volume that the engine keeps. -/
  | named (name : String)
  deriving DecidableEq

/-- What is mounted where, and how. This is the engine's reading of a volume, apart from how the
gateway writes it. -/
structure Volume where
  source : Volume.Source
  target : String
  options : List String
  deriving DecidableEq

namespace Volume

/-- A source that does not begin at the root is a name. The engine then provides a volume of its
own under that name, and not the directory. -/
def Source.read (text : String) : Source :=
  if InstallMatrix.Path.isAbsolute text then .directory text else .named text

/-- A volume as an engine reads it. Fewer than two fields name no source, and more than three are
refused. -/
def read (text : String) : Option Volume :=
  match Text.split ':' text with
  | [source, target] => some ⟨.read source, target, []⟩
  | [source, target, options] => some ⟨.read source, target, Text.split ',' options⟩
  | _ => none

/-- A volume of more than three parts is not understood. -/
theorem read_eq_none {text : String} (many : 3 < (Text.split ':' text).length) :
    read text = none := by
  match fields : Text.split ':' text, many with
  | _ :: _ :: _ :: _ :: _, _ => simp only [read, fields]

end Volume

namespace Mount

variable {source target : String}

/-- The parts of a volume that is mounted for reading are those of its source, the target and the
option. If the source has a colon there are more than three. -/
theorem split_volume_sealed (free : ':' ∉ target.toList) :
    Text.split ':' (Mount.sealed source target).volume
      = Text.split ':' source ++ [target, "ro"] := by
  have fields : (Mount.sealed source target).volume
      = source ++ (String.singleton ':' ++ (target ++ (String.singleton ':' ++ "ro"))) := by
    simp only [volume, Mount.sealed, if_true, String.append_assoc]
    rfl
  have last : Text.split ':' "ro" = ["ro"] := by decide
  rw [fields, Text.split_append_separator, Text.split_append_separator,
    Text.split_of_not_mem free, last]
  rfl

/-- A mount that the container cannot write to is read back if its source has no colon, and
otherwise not at all. -/
theorem read_volume_sealed (free : ':' ∉ target.toList) :
    Volume.read (Mount.sealed source target).volume =
      if ':' ∈ source.toList then none else some ⟨.read source, target, ["ro"]⟩ := by
  have single : Text.split ',' "ro" = ["ro"] := by decide
  split_ifs with colon
  · -- The source alone has two fields or more.
    have several := Text.two_le_length_split colon
    refine Volume.read_eq_none ?_
    rw [split_volume_sealed free, List.length_append]
    exact Nat.add_lt_add_right several 2
  · rw [Volume.read, split_volume_sealed free, Text.split_of_not_mem colon]
    simp only [List.cons_append, List.nil_append, single]

end Mount

/-! ### Volumes that are asked for -/

namespace Invocation

/-- The volumes among the words of a `run`. Every option but `--detach` has a value, and the first
word that is no option ends them. -/
def volumesFrom : List String → List String
  | option :: value :: words =>
    if option = "--detach" then volumesFrom (value :: words)
    else if !Text.startsWith option "--" then []
    else if option = "--volume" then value :: volumesFrom words
    else volumesFrom words
  | _ => []

/-- The volumes that a call asks for, by the option for volumes. The words are read as the
container program reads them. -/
def volumes (call : Invocation) : List String :=
  match call.arguments with
  | "run" :: words => volumesFrom words
  | _ => []

/-- An option that has a value and is another one asks for no volume. -/
theorem volumesFrom_option {option : String} (isOption : Text.startsWith option "--" = true)
    (hasValue : option ≠ "--detach") (other : option ≠ "--volume") (value : String)
    (words : List String) : volumesFrom (option :: value :: words) = volumesFrom words := by
  rw [volumesFrom, if_neg hasValue, isOption, if_neg (by decide), if_neg other]

/-- The option for a volume asks for the one it names. -/
theorem volumesFrom_volume (value : String) (words : List String) :
    volumesFrom ("--volume" :: value :: words) = value :: volumesFrom words :=
  rfl

/-- Options of one name. -/
theorem volumesFrom_options {α : Type} {option : String}
    (isOption : Text.startsWith option "--" = true) (hasValue : option ≠ "--detach")
    (other : option ≠ "--volume") (value : α → String) (xs : List α) (words : List String) :
    volumesFrom (xs.flatMap (fun x => [option, value x]) ++ words) = volumesFrom words := by
  induction xs with
  | nil => rfl
  | cons x xs ih =>
    rw [List.flatMap_cons, List.append_assoc, List.cons_append, List.singleton_append,
      volumesFrom_option isOption hasValue other, ih]

/-- The words for some mounts ask for their volumes, in order. -/
theorem volumesFrom_mounts (mounts : List Mount) (words : List String) :
    volumesFrom (mounts.flatMap (fun m => ["--volume", m.volume]) ++ words)
      = mounts.map Mount.volume ++ volumesFrom words := by
  induction mounts with
  | nil => rfl
  | cons m mounts ih =>
    rw [List.flatMap_cons, List.append_assoc, List.cons_append, List.singleton_append,
      volumesFrom_volume, ih]
    rfl

end Invocation

/-- The volumes that calls ask for. -/
def volumesAsked (log : Transcript EngineAnswer) : List String :=
  log.flatMap fun step =>
    match step.1 with
    | .invoke _ call => call.volumes
    | _ => []

namespace EngineGateway

variable {r : EngineGateway} {tracked : Tracked} {log : Transcript EngineAnswer}

/-- A start asks for its mounts. -/
theorem volumes_starting (name : String) (image : ImageTag) (options : StartOptions) :
    (r.starting name image options).volumes = options.mounts.map Mount.volume := by
  have last : Invocation.volumesFrom [image.text] = [] := rfl
  -- Neither the platform nor the labels name a volume.
  calc (r.starting name image options).volumes
      = Invocation.volumesFrom ((options.platform.toList.flatMap fun p => ["--platform", p])
          ++ ((options.labels.toList.flatMap fun l => ["--label", l.1 ++ "=" ++ l.2])
            ++ ((options.mounts.flatMap fun m => ["--volume", m.volume]) ++ [image.text]))) := by
        simp only [starting, startArguments, List.append_assoc]
        rfl
    _ = Invocation.volumesFrom
          ((options.mounts.flatMap fun m => ["--volume", m.volume]) ++ [image.text]) := by
        rw [Invocation.volumesFrom_options (by decide) (by decide) (by decide),
          Invocation.volumesFrom_options (by decide) (by decide) (by decide)]
    _ = options.mounts.map Mount.volume := by
        rw [Invocation.volumesFrom_mounts, last, List.append_nil]

/-- A removal asks for no volume. -/
theorem volumes_removal (target : String) : (r.removal target).volumes = [] :=
  rfl

/-- The volumes of a start are asked for once. A removal that follows asks for none. -/
theorem volumesAsked_of_path_startContainer {image : ImageTag} {options : StartOptions}
    {out : Except GatewayError Container × Tracked}
    (path : Path (r.startContainer tracked image options) log (.pure out)) :
    volumesAsked log = options.mounts.map Mount.volume := by
  obtain ⟨name, suffix, result, rest, rfl, ⟨_, -, rfl, -⟩ | ⟨-, -, -, removed, rfl⟩⟩ :=
    of_path_startContainer path
  · simp [volumesAsked, volumes_starting]
  · simp [volumesAsked, volumes_starting, volumes_removal]

end EngineGateway

/-! ### The directory of the archive -/

/-- The engine mounts the directory that the archive was found in, for reading only. It may work
elsewhere than the program, so the path of its source must lead there from any place. -/
def Provides (t : FileTree) (here : Place) (dir : String) (artifact : Artifact)
    (volume : String) : Prop :=
  ∃ place source, t.find here dir = .ok (place, .directory) ∧
    artifact.fileName ∈ (t.children place).map DirectoryEntry.name ∧
    Volume.read volume = some ⟨.directory source, Environment.artifactMount, ["ro"]⟩ ∧
    ∀ elsewhere, t.find elsewhere source = .ok (place, .directory)

/-- The volume that the container of a cell is given: the directory of its archive, for reading
only. -/
def artifactVolume (artifact : Artifact) : String :=
  (Mount.sealed (Path.parent artifact.path) Environment.artifactMount).volume

section

variable {t : FileTree} {here : Place} {dir : String} {entries : List DirectoryEntry}
  {name? : Option String} {a : Architecture} {l : Libc} {artifact : Artifact}

/-- The source is the artifact directory as it is written, up to its trail. A relative directory
is not made absolute before. -/
theorem read_artifactVolume (nonempty : dir ≠ "")
    (chosen : Directory.resolve ⟨dir, .ok entries⟩ name? a l = .ok artifact)
    (single : '/' ∉ artifact.fileName.toList) : Volume.read (artifactVolume artifact) =
      if ':' ∈ dir.toList then none
      else some ⟨.read (Path.trimmed dir), Environment.artifactMount, ["ro"]⟩ := by
  obtain ⟨e, -, rfl⟩ := Directory.resolve_eq_ok_iff.mp chosen
  rw [artifactVolume, Path.parent_join nonempty single, Mount.read_volume_sealed (by decide)]
  simp only [Path.mem_trimmed_iff nonempty (c := ':') (by decide) (by decide)]

/-- What is chosen is one of the entries, namely the only one that fits. -/
theorem fileName_mem (chosen : Directory.resolve ⟨dir, .ok entries⟩ name? a l = .ok artifact) :
    artifact.fileName ∈ entries.map DirectoryEntry.name := by
  obtain ⟨e, only, rfl⟩ := Directory.resolve_eq_ok_iff.mp chosen
  have fits : e ∈ Directory.fitting name? a l entries := only ▸ List.mem_singleton_self e
  exact List.mem_map_of_mem (List.mem_of_mem_filter fits)

/-- The directory of the archive is provided if its path says where it is, and can be told from
the fields behind it. -/
theorem provides_iff (listed : t.list here dir = .ok entries)
    (chosen : Directory.resolve ⟨dir, .ok entries⟩ name? a l = .ok artifact)
    (single : '/' ∉ artifact.fileName.toList) :
    Provides t here dir artifact (artifactVolume artifact) ↔
      Path.isAbsolute dir = true ∧ ':' ∉ dir.toList := by
  obtain ⟨place, found, rfl⟩ := FileTree.list_eq_ok_iff.mp listed
  have nonempty := FileTree.ne_empty_of_find found
  have begins := Path.isAbsolute_trimmed nonempty
  constructor
  · rintro ⟨_, source, -, -, isRead, -⟩
    -- A source without a leading separator is the name of a volume, not a directory.
    rw [read_artifactVolume nonempty chosen single] at isRead
    split_ifs at isRead with colon
    refine ⟨?_, colon⟩
    have host : Volume.Source.read (Path.trimmed dir) = .directory source := by
      injection isRead with same
      injection same
    rw [Volume.Source.read] at host
    split_ifs at host with absolute
    exact begins ▸ absolute
  · intro ⟨absolute, colon⟩
    refine ⟨place, Path.trimmed dir, found, fileName_mem chosen, ?_, ?_⟩
    · rw [read_artifactVolume nonempty chosen single, if_neg colon, Volume.Source.read,
        if_pos (begins.trans absolute)]
    · intro elsewhere
      rw [FileTree.find_of_absolute (begins.trans absolute) elsewhere]
      exact FileTree.find_trimmed found

/-- **The container of a cell is given the directory of its archive just if the path of that
directory begins at the root and has no colon.** However the start ends, one volume is asked for.
With a relative path the engine mounts a volume of that name instead, and with a colon in the path
it finds too many fields. -/
theorem volume_exact (listed : t.list here dir = .ok entries) (cell : Cell)
    (chosen : Directory.resolve ⟨dir, .ok entries⟩ name? cell.architecture cell.libc
      = .ok artifact)
    (single : '/' ∉ artifact.fileName.toList) :
    (∀ (r : EngineGateway) (tracked : Tracked) (image : ImageTag) (log : Transcript EngineAnswer)
        (out : Except GatewayError Container × Tracked),
      Path (r.serve tracked (.start image (Pipeline.startOptions cell artifact))) log (.pure out) →
        volumesAsked log = [artifactVolume artifact]) ∧
    (Provides t here dir artifact (artifactVolume artifact) ↔
      Path.isAbsolute dir = true ∧ ':' ∉ dir.toList) ∧
    (Path.isAbsolute dir = false → ':' ∉ dir.toList → Volume.read (artifactVolume artifact)
      = some ⟨.named (Path.trimmed dir), Environment.artifactMount, ["ro"]⟩) ∧
    (':' ∈ dir.toList → Volume.read (artifactVolume artifact) = none) := by
  obtain ⟨place, found, -⟩ := FileTree.list_eq_ok_iff.mp listed
  have nonempty := FileTree.ne_empty_of_find found
  have isRead := read_artifactVolume nonempty chosen single
  refine ⟨?_, provides_iff listed chosen single, ?_, ?_⟩
  · intro r tracked image log out path
    exact EngineGateway.volumesAsked_of_path_startContainer path
  · intro relative free
    rw [isRead, if_neg free, Volume.Source.read, Path.isAbsolute_trimmed nonempty, relative]
    rfl
  · intro colon
    rw [isRead, if_pos colon]

end

/-- A tree with one archive. -/
def oneArchive : FileTree := ⟨[(FileTree.namesOf "/work/dist/q-x86_64-linux.zip", .file [])]⟩

/-- A cell that the archive is for. -/
def archiveCell : Cell := ⟨"alpine", "3.19", .x86_64, .glibc, .root⟩

/-- The archive, found in its directory. -/
def archiveIn (dir : String) : Artifact :=
  ⟨Path.join dir "q-x86_64-linux.zip", "q-x86_64-linux.zip"⟩

/-- An absolute path is written without its trail, and leads to the directory all the same. -/
theorem volume_exact_of_absolute_path :
    (∀ (r : EngineGateway) (tracked : Tracked) (image : ImageTag) (log : Transcript EngineAnswer)
        (out : Except GatewayError Container × Tracked),
      Path (r.serve tracked (.start image (Pipeline.startOptions archiveCell
        (archiveIn "/work/./dist//./")))) log (.pure out) →
          volumesAsked log = ["/work/./dist:/artifacts:ro"]) ∧
      Provides oneArchive [] "/work/./dist//./" (archiveIn "/work/./dist//./")
        "/work/./dist:/artifacts:ro" := by
  have volume : artifactVolume (archiveIn "/work/./dist//./") = "/work/./dist:/artifacts:ro" := by
    decide +kernel
  obtain ⟨asked, provided, -⟩ := @volume_exact oneArchive [] "/work/./dist//./"
    [⟨"q-x86_64-linux.zip", false⟩] none (archiveIn "/work/./dist//./") (by decide +kernel)
    archiveCell (by decide +kernel) (by decide)
  rw [volume] at asked provided
  exact ⟨asked, provided.mpr (by decide)⟩

/-- The directory that is configured unless another one is chosen has a relative path. The archive
in it is found, and the engine mounts a volume of that name. -/
theorem default_directory_not_provided :
    oneArchive.list (FileTree.namesOf "/work") RunSettings.default.artifactDir
        = .ok [⟨"q-x86_64-linux.zip", false⟩] ∧
      Directory.resolve ⟨RunSettings.default.artifactDir, .ok [⟨"q-x86_64-linux.zip", false⟩]⟩ none
        archiveCell.architecture archiveCell.libc = .ok (archiveIn "dist") ∧
      (∀ (r : EngineGateway) (tracked : Tracked) (image : ImageTag) (log : Transcript EngineAnswer)
          (out : Except GatewayError Container × Tracked),
        Path (r.serve tracked (.start image (Pipeline.startOptions archiveCell (archiveIn "dist"))))
          log (.pure out) → volumesAsked log = ["dist:/artifacts:ro"]) ∧
      Volume.read "dist:/artifacts:ro" = some ⟨.named "dist", "/artifacts", ["ro"]⟩ ∧
      ¬ Provides oneArchive (FileTree.namesOf "/work") RunSettings.default.artifactDir
        (archiveIn "dist") "dist:/artifacts:ro" := by
  have volume : artifactVolume (archiveIn "dist") = "dist:/artifacts:ro" := by decide +kernel
  have isRead : Volume.read "dist:/artifacts:ro" = some ⟨.named "dist", "/artifacts", ["ro"]⟩ := by
    decide +kernel
  refine ⟨by decide +kernel, by decide +kernel, ?_, isRead, ?_⟩
  · intro r tracked image log out path
    rw [EngineGateway.volumesAsked_of_path_startContainer path, ← volume]
    rfl
  · -- The engine reads the name of a volume where a directory would have to stand.
    rintro ⟨place, source, -, -, provided, -⟩
    rw [isRead] at provided
    cases provided

end InstallMatrix
