import InstallMatrix.Command.Inspect
import InstallMatrix.Proofs.Codec.Environment

/-!
# `InstallMatrix.Proofs.Command.Inspect`: what is shown of a definition

Whoever asks for a definition gets it as JSON or as a page of text. `Shows` says what there is
to see in either form. The JSON is read as its reader would (`readShown`), and what is read
is the tag, the rendering and the definition itself. The page has the tag and the platform for
its title, and under it the rendering and then each injected file with its path, its permission
bits and its contents.

`shows_definitionShown` says that both forms show the definition they were made for. So two
definitions that are shown alike as JSON are the same definition with the same tag.
-/

set_option autoImplicit false

namespace InstallMatrix

open Schema Fields Terminal

variable {d : Definition}

namespace Definition

/-- What the JSON of a definition is taken to say: a tag, a rendering and a definition. -/
def readShown (text : String) : Option (ImageTag × String × Definition) := do
  let fs ← fieldsOf ["tag", "containerfile", "definition"] .strict (← Json.read text)
  return (← fs.required "tag" ImageTag.ofData?, ← fs.required "containerfile" Schema.text,
    ← fs.required "definition" Definition.ofData?)

/-- A title on a page: an empty line, and the title on a line of its own. -/
def title (colour : Bool) (text : String) : String :=
  "\n" ++ (painted colour [.bold, .underlined] text ++ "\n")

/-- A definition as a page of text. Tag and platform are its title, and below the rendering
every injected file has a title of its own, with its path and its permission bits. -/
def page (colour : Bool) (d : Definition) : String :=
  title colour (d.imageTag.text ++ " (" ++ d.platform ++ ")") ++ (d.render
    ++ Text.joined "" (d.injections.map fun f =>
      title colour (f.path ++ " (mode " ++ Text.octal f.mode ++ ")") ++ f.contents))

/-- `Shows colour d format text`: the text, printed in this format, shows the definition with
its tag. -/
def Shows (colour : Bool) (d : Definition) : OutputFormat → String → Prop
  | .json, text => readShown text = some (d.imageTag, d.render, d)
  | .table, text => text = d.page colour

end Definition

namespace Command

open Definition

/-- What two printouts have for one stream stands one behind the other. -/
theorem on_append (stream : Stream) (p q : Printout) :
    (p ++ q).on stream = p.on stream ++ q.on stream := by
  rw [Printout.on, List.filter_append, List.map_append, Text.joined_append]
  rfl

/-- A heading is printed as a title. -/
theorem on_results_heading (colour : Bool) (text : String) :
    (heading colour text).on .results = title colour text := by
  simp [heading, line, Printout.on, Text.joined, title]

/-- An injected file is printed below a heading of its own, as it is and without anything
behind it. -/
theorem on_results_fileShown (colour : Bool) (f : InjectedFile) :
    (fileShown colour f).on .results
      = title colour (f.path ++ " (mode " ++ Text.octal f.mode ++ ")") ++ f.contents := by
  rw [fileShown, on_append, on_results_heading]
  simp [Printout.on, Text.joined]

/-- The files are printed in the order in which they are injected. -/
theorem on_results_flatMap_fileShown (colour : Bool) (files : List InjectedFile) :
    Printout.on .results (files.flatMap (fileShown colour))
      = Text.joined "" (files.map fun f =>
        title colour (f.path ++ " (mode " ++ Text.octal f.mode ++ ")") ++ f.contents) := by
  induction files with
  | nil => rfl
  | cons f files ih =>
    rw [List.flatMap_cons, on_append, ih, on_results_fileShown, List.map_cons, Text.joined_cons]

/-- What is printed as JSON is read back as the tag, the rendering and the definition. -/
theorem readShown_json (fits : d.Fits) (colour : Bool) :
    readShown ((definitionShown colour .json d).on .results)
      = some (d.imageTag, d.render, d) := by
  have definition := Definition.carries fits
  have plain : Json.Plain (.record [("tag", .text d.imageTag.text),
      ("containerfile", .text d.render), ("definition", d.toData)]) := by
    simp [definition.plain]
  have printed : (definitionShown colour .json d).on .results = Json.pretty (.record
      [("tag", .text d.imageTag.text), ("containerfile", .text d.render),
        ("definition", d.toData)]) ++ "\n" := by
    simp [definitionShown, json, line, Printout.on, Text.joined]
  have tag := d.imageTag.carries.read
  simp only [ImageTag.toData] at tag
  rw [printed, readShown, Json.read_pretty_append plain (by decide)]
  simp [definition.read, tag]

/-- A page is printed as it is described, title by title. Nothing else goes to the results. -/
theorem on_results_table (colour : Bool) (d : Definition) :
    (definitionShown colour .table d).on .results = d.page colour := by
  have render : Printout.on .results [⟨.results, d.render⟩] = d.render := by
    simp [Printout.on, Text.joined]
  rw [definitionShown, on_append, on_append, on_results_heading, render,
    on_results_flatMap_fileShown, page, String.append_assoc]

/-- **What is shown of a definition shows it.** In either format, and with colours or without,
the printout has the tag and all there is to the definition. -/
theorem shows_definitionShown (fits : d.Fits) (colour : Bool) (format : OutputFormat) :
    d.Shows colour format ((definitionShown colour format d).on .results) := by
  cases format with
  | json => exact readShown_json fits colour
  | table => exact on_results_table colour d

end Command

end InstallMatrix
