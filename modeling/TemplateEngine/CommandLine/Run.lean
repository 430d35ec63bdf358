import TemplateEngine.CommandLine.Arguments
import TemplateEngine.Engine
import TemplateEngine.Json.Read
import TemplateEngine.Report.Basic
import TemplateEngine.Text.Wrap

/-!
# Rendering from the command line

The variables come from a file and from single arguments, which take precedence
in their order. A template that fails leaves the output written before on the
standard output; a text is printed only as a whole.
-/

namespace TemplateEngine.CommandLine

/-- What is wrong before rendering starts. -/
inductive Fault where
  | invalidBinding (argument : String)
  | notObject (path : String)
  | file (fault : FileFault)
  | json (source : String) (fault : Json.Fault)
  | nothingToRender
  | engine (e : Error)

namespace Fault

def message : Fault → String
  | invalidBinding argument => "invalid --var '" ++ argument ++ "'"
  | notObject path => path ++ " must contain a JSON object"
  | file fault => fault.message
  | json source fault => fault.message source
  | nothingToRender => "nothing to render"
  | engine e => e.message

def help? : Fault → Option String
  | invalidBinding _ => some "use NAME=VALUE, e.g. --var 'items=[1, 2]' or --var name=Ann"
  | nothingToRender => some "pass a TEMPLATE name or -e SOURCE"
  | _ => none

def lineWidth : Nat := 78

def report (f : Fault) : String :=
  let help := f.help?.elim "" fun help => Text.wrap lineWidth "  help: " "        " help ++ "\n"
  "Error: " ++ Text.wrap lineWidth "  × " "  │ " f.message ++ "\n" ++ help ++ "\n"

end Fault

/-- The entries of the object in a file. -/
def varsOfFile (files : FileSystem) (path : String) : Except Fault Vars := do
  match files.read path with
  | .error fault => throw (.file fault)
  | .ok bytes =>
    match Text.ofUtf8? bytes with
    | none => throw (.file .notText)
    | some text =>
      match Json.read text with
      | .error fault => throw (.json text fault)
      | .ok (.map entries) => return entries
      | .ok _ => throw (.notObject path)

/-- A name and a value; what is no JSON is a string. -/
def bindingOf (argument : String) : Except Fault (String × Value) :=
  match splitEquals argument.toList with
  | (c :: name, some value) =>
    let text := String.ofList value
    let value := match Json.read text with
      | .ok v => v
      | .error _ => .str text
    .ok (String.ofList (c :: name), value)
  | _ => .error (.invalidBinding argument)

def varsOf (r : Request) (files : FileSystem) : Except Fault Vars := do
  let fromFile ← match r.bindingsFile with
    | some path => varsOfFile files path
    | none => pure []
  return fromFile.insertAll (← r.bindings.mapM bindingOf)

def engineOptions (r : Request) : EngineOptions where
  loadPaths := if r.directories.isEmpty then ["."] else r.directories
  cacheDir := r.cacheDir
  loader :=
    { strategy := r.strategy.getD .freshnessChecked
      dumpTree := r.switches.contains .dumpTree
      dumpProgram := r.switches.contains .dumpProgram }
  compilation := ⟨!r.switches.contains .noEscape⟩

/-- How a command ends. -/
structure Result where
  code : Nat
  output : String
  /-- What is reported on the standard error. -/
  report : String := ""
  /-- The latest event first. -/
  log : List LogEvent := []
  /-- Paths at which the run looked for a template in vain. -/
  missing : List String := []

def Result.misuse : Result where
  code := 2
  output := ""
  report := "usage: [-e SOURCE | TEMPLATE] [-I DIR] [--cache-dir DIR] [--cache none|memory|fresh]\n"
    ++ "       [--var NAME=VALUE] [--vars FILE] [--no-escape] [--dump-ast] [--dump-bytecode]\n"

mutual

/-- Where the template that an error is about was looked for. -/
def missingPaths : Error → List String
  | .notFound name places =>
    if Path.isConfined name then places.map (Path.join · name) else []
  | .runtime e => missingIncluded e
  | _ => []

def missingIncluded : RuntimeError → List String
  | .included _ source => missingPaths source
  | _ => []

end

def Result.help : Result where
  code := 0
  output := "\n".intercalate [
    "Render xslate templates",
    "",
    "Usage: xslate [OPTIONS] [TEMPLATE]",
    "",
    "Arguments:",
    "  [TEMPLATE]  Template to render, resolved against the include paths",
    "",
    "Options:",
    "  -e, --eval <SOURCE>     Render this template source instead of a file",
    "  -I, --include <DIR>     Directory to search for templates (repeatable; defaults to .)",
    "      --cache-dir <DIR>   Directory for the compiled template cache",
    "      --cache <CACHE>     How compiled templates are reused [default: fresh]"
      ++ " [possible values: none, memory, fresh]",
    "      --var <NAME=VALUE>  Set a variable; VALUE is parsed as JSON, or taken as a string",
    "      --vars <FILE.json>  Read variables from a JSON object file",
    "      --no-escape         Do not HTML-escape printed values",
    "      --dump-ast          Print the parsed syntax tree (for debugging)",
    "      --dump-bytecode     Print the compiled bytecode (for debugging)",
    "  -h, --help              Print help",
    ""]

/-- The result of a rendering, of which `kept` says whether its output counts if it fails. -/
def Result.ofRendering (coloured kept : Bool) (r : Rendering) : Result :=
  let log := r.state.storage.log
  match r.error with
  | none => { code := 0, output := r.output, log := log }
  | some e =>
    { code := 1, output := if kept then r.output else "", report := e.reportText coloured
      log := log, missing := missingPaths e }

def failure (f : Fault) : Result := { code := 1, output := "", report := f.report }

/-- Serves a request. -/
def serve (fuel : Nat) (coloured : Bool) (r : Request) (files : FileSystem) : Option Result :=
  match varsOf r files, Engine.create (engineOptions r) with
  | .error f, _ => some (failure f)
  | _, .error e => some (failure (.engine e))
  | .ok vars, .ok engine =>
    let s := LoaderState.start { Storage.empty with files := files }
    match r.text, r.template with
    | some text, _ =>
      (engine.renderText fuel Engine.textName text vars s).map (.ofRendering coloured false)
    | none, some name => (engine.render fuel name vars s).map (.ofRendering coloured true)
    | none, none => some (failure .nothingToRender)

/-- Runs a command line over some files. -/
def run (fuel : Nat) (coloured : Bool) (args : List String) (files : FileSystem) : Option Result :=
  match Command.ofArgs? args with
  | none => some .misuse
  | some .help => some .help
  | some (.render r) => serve fuel coloured r files

end TemplateEngine.CommandLine
