import RpcBindings.Error
import RpcBindings.Template

/-!
# Links to Java files

## Main definitions

* `Link.expand` — the link for a path.
* `Link.check` — whether a template gives a link.
-/

namespace RpcBindings.Link

/-- The link that a template gives for the path of a Java file. -/
def expand (template path : String) : Except Error String :=
  match (Template.ofText? template).bind (Template.expand? [("path", .text path)]) with
  | some link => .ok (String.ofList link)
  | none => .error .template

/-- The path on which a template is tried. -/
def samplePath : String :=
  "src/main/java/Example.java"

/-- Refuses a template that gives no link. -/
def check (template : String) : Except Error Unit :=
  (expand template samplePath).map fun _ => ()

/-- The note with the link for a path, if there is a template. -/
def note? (template : Option String) (path : String) : Except Error (Option String) :=
  match template with
  | none => .ok none
  | some t => (expand t path).map fun link =>
    some ("*[generated from [Java source](" ++ link ++ ")]*")

end RpcBindings.Link
