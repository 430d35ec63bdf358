import TemplateEngine.Text.CaseTable

/-!
# Upper and lower case

Strings are cased one character at a time by the default mappings. The one rule
that looks around is that of the capital sigma: it becomes a final sigma after
a cased character and before none, where characters that carry no case of their
own are skipped on both sides.
-/

namespace TemplateEngine.Text

def mapCode (runs : List CaseRun) (expansions : List (Nat × List Nat)) (c : Char) : List Char :=
  match expansions.find? fun entry => entry.1 == c.toNat with
  | some (_, codes) => codes.map Char.ofNat
  | none =>
    match runs.find? fun run => run.contains c.toNat with
    | some run => [Char.ofNat (run.map c.toNat)]
    | none => [c]

def upperChar (c : Char) : List Char :=
  if c.toNat < 128 then [c.toUpper] else mapCode upperRuns upperExpansions c

def lowerChar (c : Char) : List Char :=
  if c.toNat < 128 then [c.toLower] else mapCode lowerRuns lowerExpansions c

/-- Whether the first character that is not skipped is a cased one. -/
def meetsCased (cs : List Char) : Bool :=
  match cs.dropWhile caseIgnorableRanges.contains with
  | c :: _ => casedRanges.contains c
  | [] => false

/-- Lower case of the characters that follow `before`, which is in reverse. -/
def lowerAfter (before : List Char) : List Char → List Char
  | [] => []
  | c :: rest =>
    let here :=
      if c = 'Σ' then
        if meetsCased before && !meetsCased rest then ['ς'] else ['σ']
      else lowerChar c
    here ++ lowerAfter (c :: before) rest

def upper (s : String) : String := String.ofList (s.toList.flatMap upperChar)

def lower (s : String) : String := String.ofList (lowerAfter [] s.toList)

end TemplateEngine.Text
