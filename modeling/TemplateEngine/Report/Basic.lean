import TemplateEngine.Error
import TemplateEngine.Report.Snippet

/-!
# Reports

An error written out for a reader: where a fault stands in a text, the report
shows the place; any other error comes with the chain of its causes. An error in
an included template is reported under a line that names the template.
-/

namespace TemplateEngine

namespace Snippet

/-- The snippet of a fault whose span counts bytes of the source. -/
def ofFault (title name source : String) (span : Span) (message : String) : Snippet :=
  let characters := fun offset => (takeBytes offset source.toList).length
  { title := title
    name := name
    source := source.toList
    start := characters span.start
    stop := max (characters span.stop) (characters span.start)
    message := message }

end Snippet

/-- What an error comes from, the nearest cause first. -/
def CacheError.causes : CacheError → List String
  | file _ fault => [fault.message]
  | unwritableTime => ["Serde Serialization Error"]

def RuntimeError.causes : RuntimeError → List String
  | output reason => [reason]
  | _ => []

def Error.causes : Error → List String
  | notFound _ _ | unknownDialect _ | parse _ | compile _ => []
  | cache e => e.message :: e.causes
  | runtime e => e.message :: e.causes
  | file _ fault => [fault.message]

/-- An error in a line, and each of its causes in a line of its own. -/
def Error.summary (e : Error) : List Row :=
  [Snippet.plain ("Error: " ++ e.message)] :: e.causes.map fun cause => [Snippet.plain ("  caused by: " ++ cause)]

mutual

def Error.report : Error → List Row
  | .parse e =>
    (Snippet.ofFault "syntax error" e.name e.source e.span e.fault.message).rows
  | .compile e =>
    (Snippet.ofFault "compile error" e.name e.source e.span e.fault.message).rows
  | .runtime e => e.report
  | .notFound name searched => (Error.notFound name searched).summary
  | .cache e => (Error.cache e).summary
  | .file name fault => (Error.file name fault).summary
  | .unknownDialect name => (Error.unknownDialect name).summary

def RuntimeError.report : RuntimeError → List Row
  | .included name source =>
    [Snippet.plain ("Error: in template included as '" ++ name ++ "':")] :: source.report
  | e => (Error.runtime e).summary

end

/-- The report on an error as a text. -/
def Error.reportText (coloured : Bool) (e : Error) : String :=
  String.join (e.report.map (Row.render coloured))

end TemplateEngine
