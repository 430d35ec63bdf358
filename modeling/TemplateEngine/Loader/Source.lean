import TemplateEngine.Cache.Basic

/-!
# Sources of templates

A template is looked for among the templates in memory, below an ordered list of
directories, or in any other way that a user of the library provides. Among the
directories, the first one with a file of that name is used; a directory of that
name is passed over. Names that could leave the directories are never opened.
-/

namespace TemplateEngine

/-- The text of a template, and where it was found. -/
structure SourceText where
  path : Option String
  text : String
  modified : Option Timestamp

inductive Source where
  | memory
  | directories (roots : List String)
  /-- Any other way to find a text among the files and the registered templates. -/
  | custom (fetch : FileSystem → Bindings String → String → Except Error SourceText)

namespace SourceText

/-- The token of a text for a build. -/
def freshness (s : SourceText) (build : String) : Freshness where
  modified := s.modified
  digest := Digest.ofText s.text
  origin := s.path
  build := build

end SourceText

namespace Source

/-- Looks at one path: nothing there, a fault, or a text. -/
def openAt (files : FileSystem) (path : String) : Except FileFault (Option SourceText) :=
  match files.find path with
  | .error .notFound => .ok none
  | .error fault => .error fault
  | .ok (.directory _) => .ok none
  | .ok (.file content modified) =>
    match Text.ofUtf8? content with
    | some text => .ok (some ⟨some path, text, some modified⟩)
    | none => .error .notText

/-- Looks below each directory in turn; `none` if it is below none of them. -/
def search (files : FileSystem) (name : String) :
    List String → Except FileFault (Option SourceText)
  | [] => .ok none
  | root :: rest => do
    match ← openAt files (Path.join root name) with
    | some found => return some found
    | none => search files name rest

/-- Finds the text of a template. -/
def resolve (source : Source) (s : Storage) (name : String) : Except Error SourceText :=
  match source with
  | memory =>
    match s.templates.get? name with
    | some text => .ok ⟨none, text, none⟩
    | none => .error (.notFound name [])
  | directories roots =>
    if !Path.isConfined name then .error (.notFound name roots)
    else
      match search s.files name roots with
      | .ok (some found) => .ok found
      | .ok none => .error (.notFound name roots)
      | .error fault => .error (.file name fault)
  | custom fetch => fetch s.files s.templates name

end Source
end TemplateEngine
