import TemplateEngine.CommandLine.Run

/-!
# The program

Reads the files that a command asks for until it runs with all of them, prints
what it gives, and ends with its code.
-/

namespace TemplateEngine.CommandLine

/-- Puts the file at a path into the file system, if there is one that can be found there. -/
def fetch (files : FileSystem) (path : String) : IO (Option FileSystem) := do
  try
    let content ← IO.FS.readBinFile path
    match files.install path content.data.toList ⟨0, 0⟩ with
    | .ok files => return if (files.read path).isOk then some files else none
    | .error _ => return none
  catch _ => return none

def fetchAll (files : FileSystem) : List String → IO (Option FileSystem)
  | [] => return none
  | path :: rest => do
    match ← fetch files path with
    | some files => return some ((← fetchAll files rest).getD files)
    | none => fetchAll files rest

partial def runWithFiles (args : List String) (files : FileSystem) : IO Result := do
  match run (2 ^ 62) true args files with
  | none => return .misuse
  | some result =>
    match ← fetchAll files result.missing with
    | some files => runWithFiles args files
    | none => return result

/-- Runs a command line and returns its exit code. -/
def execute (args : List String) : IO UInt32 := do
  let start ← match (Command.ofArgs? args).bind (·.bindingsFile) with
    | some path => fetch .empty path
    | none => pure none
  let result ← runWithFiles args (start.getD .empty)
  for event in result.log.reverse do
    IO.eprintln event.message
  IO.print result.output
  IO.eprint result.report
  return UInt32.ofNat result.code

end TemplateEngine.CommandLine

def main (args : List String) : IO UInt32 := TemplateEngine.CommandLine.execute args
