import TemplateEngine.Loader.Basic
import TemplateEngine.Machine.Basic

/-!
# The engine

An engine is a loader together with the bounds on runs. It renders templates by
name and texts as they are; whatever they include is loaded through the same
loader. Output that was written before an error stays.
-/

namespace TemplateEngine

structure EngineOptions where
  /-- The name of the dialect. -/
  dialect : String := Dialect.name .tterse
  /-- The directories in which templates are looked for. -/
  loadPaths : List String := ["."]
  /-- The directory of a durable cache. -/
  cacheDir : Option String := none
  loader : LoaderOptions := {}
  compilation : CompileOptions := ⟨true⟩
  execution : ExecutionOptions := {}
deriving DecidableEq

structure Engine where
  loader : Loader
  execution : ExecutionOptions

/-- The result of rendering. -/
structure Rendering where
  output : String
  /-- Bytes of the output. -/
  written : Nat
  error : Option Error
  state : LoaderState

namespace Engine

/-- The name of a template that is given as a text. -/
def textName : String := "<string>"

/-- A durable cache is of use only where programs are checked before use. -/
def cacheFor (options : EngineOptions) : Cache :=
  match options.cacheDir, options.loader.strategy with
  | some dir, .freshnessChecked => .layered (.file dir)
  | _, _ => .memory

/-- An engine for templates of a source; the load paths are not looked at. -/
def withSource (options : EngineOptions) (source : Source) : Except Error Engine :=
  match Dialect.ofName? options.dialect with
  | none => .error (.unknownDialect options.dialect)
  | some dialect => .ok
    { loader :=
        { source := source
          cache := cacheFor options
          dialect := dialect
          compilation := options.compilation
          options := options.loader }
      execution := options.execution }

/-- An engine for templates in the load paths. -/
def create (options : EngineOptions) : Except Error Engine :=
  withSource options (.directories options.loadPaths)

def environment (e : Engine) (sink : Sink) : Environment LoaderState where
  options := e.execution
  source := some e.loader.load
  sink := sink

/-- The rendering of a run that has ended. -/
def rendering (o : Outcome LoaderState) : Rendering where
  output := o.output
  written := o.level.written
  error := o.error.map .runtime
  state := o.surroundings

/-- Runs what a load gave. -/
def runLoaded (fuel : Nat) (e : Engine) (vars : Vars) :
    Except Error Loaded × LoaderState → Option Rendering
  | (.error error, s) => some ⟨"", 0, some error, s⟩
  | (.ok loaded, s) =>
    ((Machine.start loaded vars s).run (e.environment .unlimited) fuel).map rendering

/-- Renders a template. -/
def render (fuel : Nat) (e : Engine) (name : String) (vars : Vars) (s : LoaderState) :
    Option Rendering :=
  e.runLoaded fuel vars (e.loader.load name s)

/-- Renders a text under a name. -/
def renderText (fuel : Nat) (e : Engine) (name text : String) (vars : Vars) (s : LoaderState) :
    Option Rendering :=
  e.runLoaded fuel vars (e.loader.loadText name text s)

end Engine
end TemplateEngine
