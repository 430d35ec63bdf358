/-!
# Dialects

The dialects in which templates can be written, by name. Names are looked up
without regard to the case of ASCII letters.
-/

namespace TemplateEngine

inductive Dialect where
  | tterse
deriving DecidableEq, Repr

namespace Dialect

def name : Dialect → String
  | tterse => "TTerse"

def all : List Dialect := [tterse]

def ofName? (name : String) : Option Dialect :=
  all.find? fun dialect => dialect.name.toLower == name.toLower

end Dialect
end TemplateEngine
