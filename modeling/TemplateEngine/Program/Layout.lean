import TemplateEngine.Program.Basic

/-!
# Laying out a program

Operations that carry their operands become a program: read in order, each
constant, name or macro gets a place in its pool, a constant or name that has
one keeps it. So the pools hold no duplicates and are in the order of first use.
-/

namespace TemplateEngine

/-- An operation before it is laid out. -/
abbrev SourceOp := Op Literal String MacroDef

/-- The place of an element in a pool, and the pool with the element in it. -/
def place {α : Type} [DecidableEq α] (pool : List α) (x : α) : Nat × List α :=
  match pool.idxOf? x with
  | some i => (i, pool)
  | none => (pool.length, pool ++ [x])

theorem getElem?_place {α : Type} [DecidableEq α] (pool : List α) (x : α) :
    (place pool x).2[(place pool x).1]? = some x := by
  unfold place
  cases h : pool.idxOf? x with
  | none => simp
  | some i =>
    obtain ⟨lt, eq, _⟩ := List.findIdx?_eq_some_iff_getElem.mp h
    simp only [beq_iff_eq] at eq
    simp [List.getElem?_eq_getElem lt, eq]

structure Pools where
  constants : List Literal
  names : List String
  macros : List MacroDef

namespace Pools

def empty : Pools := ⟨[], [], []⟩

def placeConstant (p : Pools) (literal : Literal) : Nat × Pools :=
  let (i, constants) := place p.constants literal
  (i, { p with constants := constants })

def placeName (p : Pools) (name : String) : Nat × Pools :=
  let (i, names) := place p.names name
  (i, { p with names := names })

/-- Every definition of a macro gets a place of its own. -/
def placeMacro (p : Pools) (callee : MacroDef) : Nat × Pools :=
  (p.macros.length, { p with macros := p.macros ++ [callee] })

def layOut (p : Pools) : SourceOp → Instruction × Pools
  | .finish => (.finish, p)
  | .constLoad literal => let (i, p) := p.placeConstant literal; (.constLoad i, p)
  | .pop => (.pop, p)
  | .loadVar name => let (i, p) := p.placeName name; (.loadVar i, p)
  | .storeVar name => let (i, p) := p.placeName name; (.storeVar i, p)
  | .fieldName name => let (i, p) := p.placeName name; (.fieldName i, p)
  | .index => (.index, p)
  | .binOp op => (.binOp op, p)
  | .not => (.not, p)
  | .neg => (.neg, p)
  | .makeList n => (.makeList n, p)
  | .makeMap n => (.makeMap n, p)
  | .filter f => (.filter f, p)
  | .jump t => (.jump t, p)
  | .popJumpIfFalse t => (.popJumpIfFalse t, p)
  | .jumpIfFalseOrPop t => (.jumpIfFalseOrPop t, p)
  | .jumpIfTrueOrPop t => (.jumpIfTrueOrPop t, p)
  | .forStart => (.forStart, p)
  | .forIter name exit => let (i, p) := p.placeName name; (.forIter i exit, p)
  | .makeMacro callee => let (i, p) := p.placeMacro callee; (.makeMacro i, p)
  | .macroCall n => (.macroCall n, p)
  | .macroReturn => (.macroReturn, p)
  | .print mode => (.print mode, p)
  | .inclusion => (.inclusion, p)

def layOutAll (p : Pools) : List SourceOp → List Instruction × Pools
  | [] => ([], p)
  | op :: rest =>
    let (instruction, p) := p.layOut op
    let (instructions, p) := p.layOutAll rest
    (instruction :: instructions, p)

end Pools

/-- The program of a sequence of operations. -/
def Program.ofOps (name : String) (ops : List SourceOp) : Program :=
  let (instructions, pools) := Pools.empty.layOutAll ops
  { name := name
    constants := pools.constants.toArray
    names := pools.names.toArray
    macros := pools.macros.toArray
    instructions := instructions.toArray }

end TemplateEngine
