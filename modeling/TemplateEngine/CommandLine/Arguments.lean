import TemplateEngine.Loader.Basic

/-!
# Arguments of the command line

The arguments are switches, settings with a value, and words. A value stands
behind an equals sign, right behind a short name, or in the next argument, which
then must not look like an option. After two dashes all arguments are words. The
arguments behind a request for help do not count.
-/

namespace TemplateEngine.CommandLine

/-- An option without a value. -/
inductive Switch where
  | noEscape
  | dumpTree
  | dumpProgram
deriving DecidableEq

/-- An option with a value. -/
inductive Setting where
  /-- The text of a template. -/
  | text
  /-- A directory to look for templates in. -/
  | directory
  | cacheDir
  | strategy
  /-- A variable with its value. -/
  | binding
  /-- A file with values of variables. -/
  | bindings
deriving DecidableEq

def Switch.ofName? : String → Option Switch
  | "no-escape" => some noEscape
  | "dump-ast" => some dumpTree
  | "dump-bytecode" => some dumpProgram
  | _ => none

def Setting.ofName? : String → Option Setting
  | "eval" => some text
  | "include" => some directory
  | "cache-dir" => some cacheDir
  | "cache" => some strategy
  | "var" => some binding
  | "vars" => some bindings
  | _ => none

def Setting.ofLetter? : Char → Option Setting
  | 'e' => some text
  | 'I' => some directory
  | _ => none

inductive Argument where
  | help
  | word (s : String)
  | switch (s : Switch)
  | setting (s : Setting) (value : String)
deriving DecidableEq

/-- An argument by itself; the value of a setting may be in the next one. -/
inductive Shape where
  | help
  | word
  | switch (s : Switch)
  | setting (s : Setting) (value : Option String)
deriving DecidableEq

/-- Splits a text at the first equals sign. -/
def splitEquals (cs : List Char) : List Char × Option (List Char) :=
  match cs.dropWhile (· != '=') with
  | [] => (cs, none)
  | _ :: value => (cs.takeWhile (· != '='), some value)

/-- An option by its name, with the value that is attached to it. -/
def Shape.ofLong? (cs : List Char) : Option Shape :=
  let (name, value) := splitEquals cs
  let name := String.ofList name
  match Switch.ofName? name, value with
  | some s, none => some (switch s)
  | some _, some _ => none
  | none, value =>
    if name = "help" then if value.isNone then some help else none
    else (Setting.ofName? name).map fun s => setting s (value.map String.ofList)

/-- What an argument is; `none` for an option that does not exist. -/
def Shape.of? (arg : String) : Option Shape :=
  match arg.toList with
  | '-' :: '-' :: cs => ofLong? cs
  | '-' :: 'h' :: _ => some help
  | '-' :: letter :: cs =>
    (Setting.ofLetter? letter).map fun s => setting s <|
      match cs with
      | [] => none
      | '=' :: value => some (String.ofList value)
      | value => some (String.ofList value)
  | _ => some word

/-- Whether an argument cannot be the value of the one before it. -/
def isDashed (arg : String) : Bool :=
  match arg.toList with
  | '-' :: _ :: _ => true
  | _ => false

/-- The arguments in order; `none` if an option does not exist or lacks its value. -/
def arguments? : List String → Option (List Argument)
  | [] => some []
  | "--" :: rest => some (rest.map .word)
  | arg :: rest =>
    match Shape.of? arg with
    | none => none
    | some .help => some [.help]
    | some .word => (arguments? rest).map (.word arg :: ·)
    | some (.switch s) => (arguments? rest).map (.switch s :: ·)
    | some (.setting s (some value)) => (arguments? rest).map (.setting s value :: ·)
    | some (.setting s none) =>
      match rest with
      | [] => none
      | value :: rest =>
        if isDashed value then none else (arguments? rest).map (.setting s value :: ·)

/-- What is asked for. -/
structure Request where
  template : Option String := none
  text : Option String := none
  directories : List String := []
  cacheDir : Option String := none
  strategy : Option CacheStrategy := none
  bindings : List String := []
  bindingsFile : Option String := none
  switches : List Switch := []
deriving DecidableEq

namespace Request

def strategyOfName? : String → Option CacheStrategy
  | "none" => some .none
  | "memory" => some .memoryOnly
  | "fresh" => some .freshnessChecked
  | _ => none

/-- A value that is given for the first time. -/
def once {α : Type} (old : Option α) (value : α) : Option (Option α) :=
  if old.isSome then none else some (some value)

/-- Nothing is called by the empty text. -/
def nonempty (value : String) : Option String := if value = "" then none else some value

def set (r : Request) (s : Setting) (value : String) : Option Request := do
  match s with
  | .text => return { r with text := ← once r.text value }
  | .directory => return { r with directories := r.directories ++ [← nonempty value] }
  | .cacheDir => return { r with cacheDir := ← once r.cacheDir (← nonempty value) }
  | .strategy => return { r with strategy := ← once r.strategy (← strategyOfName? value) }
  | .binding => return { r with bindings := r.bindings ++ [value] }
  | .bindings => return { r with bindingsFile := ← once r.bindingsFile (← nonempty value) }

/-- Whether a template and a text, which exclude each other, are both given. -/
def isAmbiguous (r : Request) : Bool := r.template.isSome && r.text.isSome

end Request

/-- What a command line asks for. -/
inductive Command where
  | help
  | render (r : Request)
deriving DecidableEq

namespace Command

/-- Takes an argument. Only directories and variables can be given repeatedly. -/
def add : Command → Argument → Option Command
  | help, _ => some help
  | render _, .help => some help
  | render r, .word w => do return render { r with template := ← Request.once r.template w }
  | render r, .switch s =>
    if r.switches.contains s then none else some (render { r with switches := s :: r.switches })
  | render r, .setting s value => (r.set s value).map render

/-- The command of a command line; `none` if it is not a proper one. -/
def ofArgs? (args : List String) : Option Command := do
  match ← (← arguments? args).foldlM add (render {}) with
  | render r => if r.isAmbiguous then none else some (render r)
  | help => some help

/-- The file with values of variables. -/
def bindingsFile : Command → Option String
  | help => none
  | render r => r.bindingsFile

end Command
end TemplateEngine.CommandLine
