import TemplateEngine.Machine.Level
import TemplateEngine.Program.Layout

/-!
# Pieces of code in their program

The code of a part of a template stands somewhere in the code of the whole.
Laying out keeps every operation at its place, and fetching it from the program
gives back its operands; a macro comes with its number, which is the number of
macros defined before it.
-/

namespace TemplateEngine

/-- The piece `ops` stands at `start` in the code `full`. -/
def CodeAt (full : List SourceOp) (start : Nat) (ops : List SourceOp) : Prop :=
  ∃ before after, full = before ++ ops ++ after ∧ before.length = start

namespace CodeAt

variable {full a b rest : List SourceOp} {op : SourceOp} {start next : Nat}

theorem whole (full : List SourceOp) : CodeAt full 0 full := ⟨[], [], by simp, rfl⟩

theorem left (h : CodeAt full start (a ++ b)) : CodeAt full start a := by
  obtain ⟨before, after, rfl, rfl⟩ := h
  exact ⟨before, b ++ after, by simp, rfl⟩

theorem right (h : CodeAt full start (a ++ b)) (e : next = start + a.length) :
    CodeAt full next b := by
  obtain ⟨before, after, rfl, rfl⟩ := h
  exact ⟨before ++ a, after, by simp, by simp [e]⟩

theorem head (h : CodeAt full start (op :: rest)) : CodeAt full start [op] :=
  left (a := [op]) h

theorem tail (h : CodeAt full start (op :: rest)) (e : next = start + 1) : CodeAt full next rest :=
  right (a := [op]) h e

theorem of_getElem? (h : full[start]? = some op) : CodeAt full start [op] := by
  obtain ⟨lt, rfl⟩ := List.getElem?_eq_some_iff.mp h
  refine ⟨full.take start, full.drop (start + 1), ?_, List.length_take_of_le (Nat.le_of_lt lt)⟩
  rw [List.append_assoc, List.singleton_append, List.getElem_cons_drop, List.take_append_drop]

theorem getElem? (h : CodeAt full start (op :: rest)) : full[start]? = some op := by
  obtain ⟨before, after, rfl, rfl⟩ := h
  simp

end CodeAt

/-- The macro that an operation defines. -/
def Op.callee? {κ ν μ : Type} : Op κ ν μ → Option μ
  | .makeMacro callee => some callee
  | _ => none

/-- How many macros are defined in front of a place. -/
def macrosBefore (full : List SourceOp) (start : Nat) : Nat :=
  ((full.take start).filterMap Op.callee?).length

theorem CodeAt.macrosBefore_add {full ops : List SourceOp} {start : Nat}
    (h : CodeAt full start ops) :
    macrosBefore full (start + ops.length)
      = macrosBefore full start + (ops.filterMap Op.callee?).length := by
  obtain ⟨before, after, rfl, rfl⟩ := h
  have whole : (before ++ ops ++ after).take (before.length + ops.length) = before ++ ops := by
    rw [← List.length_append, List.take_left']
    rfl
  have front : (before ++ ops ++ after).take before.length = before := by
    rw [List.append_assoc, List.take_left']
    rfl
  simp only [macrosBefore, whole, front, List.filterMap_append, List.length_append]

/-- An operation as it is fetched; a macro has the number `n`. -/
def Op.resolved (n : Nat) : SourceOp → Program.Resolved
  | .finish => .finish
  | .constLoad literal => .constLoad literal
  | .pop => .pop
  | .loadVar name => .loadVar name
  | .storeVar name => .storeVar name
  | .fieldName name => .fieldName name
  | .index => .index
  | .binOp op => .binOp op
  | .not => .not
  | .neg => .neg
  | .makeList count => .makeList count
  | .makeMap count => .makeMap count
  | .filter f => .filter f
  | .jump target => .jump target
  | .popJumpIfFalse target => .popJumpIfFalse target
  | .jumpIfFalseOrPop target => .jumpIfFalseOrPop target
  | .jumpIfTrueOrPop target => .jumpIfTrueOrPop target
  | .forStart => .forStart
  | .forIter var exit => .forIter var exit
  | .makeMacro callee => .makeMacro (n, callee)
  | .macroCall count => .macroCall count
  | .macroReturn => .macroReturn
  | .print mode => .print mode
  | .inclusion => .inclusion

namespace Pools

/-- Every place of the pools `p` is the same place of `q`. -/
structure Extends (p q : Pools) : Prop where
  constants : p.constants <+: q.constants
  names : p.names <+: q.names
  macros : p.macros <+: q.macros

theorem Extends.refl (p : Pools) : p.Extends p :=
  ⟨List.prefix_refl _, List.prefix_refl _, List.prefix_refl _⟩

theorem Extends.trans {p q r : Pools} (h : p.Extends q) (h' : q.Extends r) : p.Extends r :=
  ⟨h.constants.trans h'.constants, h.names.trans h'.names, h.macros.trans h'.macros⟩

theorem prefix_place {α : Type} [DecidableEq α] (pool : List α) (x : α) :
    pool <+: (place pool x).2 := by
  unfold place
  cases pool.idxOf? x with
  | none => exact List.prefix_append _ _
  | some i => exact List.prefix_refl _

theorem extends_layOut (p : Pools) (op : SourceOp) : p.Extends (p.layOut op).2 := by
  have constant (literal : Literal) : p.Extends (p.placeConstant literal).2 :=
    { Extends.refl p with constants := prefix_place _ _ }
  have name (name : String) : p.Extends (p.placeName name).2 :=
    { Extends.refl p with names := prefix_place _ _ }
  cases op with
  | constLoad literal => exact constant literal
  | loadVar s => exact name s
  | storeVar s => exact name s
  | fieldName s => exact name s
  | forIter s exit => exact name s
  | makeMacro callee => exact { Extends.refl p with macros := List.prefix_append _ _ }
  | _ => exact Extends.refl p

theorem extends_layOutAll (p : Pools) (ops : List SourceOp) : p.Extends (p.layOutAll ops).2 := by
  induction ops generalizing p with
  | nil => exact Extends.refl p
  | cons op rest ih => exact (p.extends_layOut op).trans (ih _)

theorem layOutAll_append (p : Pools) (a b : List SourceOp) :
    p.layOutAll (a ++ b)
      = ((p.layOutAll a).1 ++ ((p.layOutAll a).2.layOutAll b).1,
          ((p.layOutAll a).2.layOutAll b).2) := by
  induction a generalizing p with
  | nil => simp [layOutAll]
  | cons op rest ih => simp [layOutAll, ih]

@[simp] theorem length_layOutAll (p : Pools) (ops : List SourceOp) :
    (p.layOutAll ops).1.length = ops.length := by
  induction ops generalizing p with
  | nil => rfl
  | cons op rest ih => simp [layOutAll, ih]

/-- Every instruction is some operation, laid out. -/
theorem exists_layOut {p : Pools} {ops : List SourceOp} {k : Nat} {i : Instruction}
    (h : (p.layOutAll ops).1[k]? = some i) : ∃ op q, ops[k]? = some op ∧ i = (layOut q op).1 := by
  induction ops generalizing p k with
  | nil => simp [layOutAll] at h
  | cons op rest ih =>
    cases k with
    | zero =>
      rw [layOutAll, List.getElem?_cons_zero] at h
      exact ⟨op, p, rfl, (Option.some.inj h).symm⟩
    | succ k => exact ih h

theorem macros_layOut (p : Pools) (op : SourceOp) :
    (p.layOut op).2.macros = p.macros ++ op.callee?.toList := by
  cases op <;> simp [layOut, Op.callee?, placeConstant, placeName, placeMacro]

theorem macros_layOutAll (p : Pools) (ops : List SourceOp) :
    (p.layOutAll ops).2.macros = p.macros ++ ops.filterMap Op.callee? := by
  induction ops generalizing p with
  | nil => simp [layOutAll]
  | cons op rest ih =>
    have step : (p.layOutAll (op :: rest)).2 = ((p.layOut op).2.layOutAll rest).2 := rfl
    rw [step, ih, macros_layOut, List.append_assoc, List.filterMap_cons]
    cases op.callee? <;> rfl

theorem getElem?_of_prefix {α : Type} {pool more : List α} {x : α} {n : Nat} (h : pool <+: more)
    (at_n : pool[n]? = some x) : more[n]? = some x := by
  obtain ⟨added, rfl⟩ := h
  rw [List.getElem?_append_left (List.getElem?_eq_some_iff.mp at_n).1, at_n]

/-- The program of some pools. -/
def program (p : Pools) (name : String) (instructions : List Instruction) : Program where
  name := name
  constants := p.constants.toArray
  names := p.names.toArray
  macros := p.macros.toArray
  instructions := instructions.toArray

theorem ofOps_eq (name : String) (ops : List SourceOp) :
    Program.ofOps name ops = (empty.layOutAll ops).2.program name (empty.layOutAll ops).1 := rfl

variable {p q : Pools} {name : String} {instructions : List Instruction}

/-- An instruction that was laid out is resolved to the operation that it came
from, whatever came into the pools after it. -/
theorem resolve_layOut (op : SourceOp) (h : (p.layOut op).2.Extends q) :
    (q.program name instructions).resolve (p.layOut op).1 = .ok (op.resolved p.macros.length) := by
  have constant (literal : Literal) (h : (p.placeConstant literal).2.Extends q) :
      (q.program name instructions).constant (p.placeConstant literal).1 = .ok literal := by
    have found := getElem?_of_prefix h.constants (getElem?_place p.constants literal)
    simp [Program.constant, program, placeConstant, found]
  have nameAt (s : String) (h : (p.placeName s).2.Extends q) :
      (q.program name instructions).nameAt (p.placeName s).1 = .ok s := by
    have found := getElem?_of_prefix h.names (getElem?_place p.names s)
    simp [Program.nameAt, program, placeName, found]
  cases op with
  | constLoad literal => exact congrArg (Except.map _) (constant literal h)
  | loadVar s => exact congrArg (Except.map _) (nameAt s h)
  | storeVar s => exact congrArg (Except.map _) (nameAt s h)
  | fieldName s => exact congrArg (Except.map _) (nameAt s h)
  | forIter s exit => exact congrArg (Except.map _) (nameAt s h)
  | makeMacro callee =>
    have found : q.macros[p.macros.length]? = some callee :=
      getElem?_of_prefix h.macros (by simp [layOut, placeMacro])
    simp [layOut, placeMacro, Program.resolve, Program.macroAt, program, found, Op.resolved, Except.map]
  | _ => rfl

end Pools

theorem Program.macros_ofOps (name : String) (ops : List SourceOp) :
    (Program.ofOps name ops).macros = (ops.filterMap Op.callee?).toArray := by
  rw [Pools.ofOps_eq, Pools.program, Pools.macros_layOutAll]
  rfl

/-- The instruction that an operation is laid out to behind others. -/
def Pools.instructionAfter (before : List SourceOp) (op : SourceOp) : Instruction :=
  ((empty.layOutAll before).2.layOut op).1

namespace Program

variable {full before after : List SourceOp} {op : SourceOp}

theorem getElem?_ofOps (name : String) (split : full = before ++ op :: after) :
    (ofOps name full).instructions[before.length]? = some (Pools.instructionAfter before op) := by
  rw [split, Pools.ofOps_eq, Pools.layOutAll_append]
  simp [Pools.program, Pools.layOutAll, Pools.instructionAfter]

theorem length_macros_layOutAll (split : full = before ++ op :: after) :
    (Pools.empty.layOutAll before).2.macros.length = macrosBefore full before.length := by
  rw [Pools.macros_layOutAll, macrosBefore, split, List.take_left' rfl]
  rfl

/-- The places that were given to the operands of an operation stay theirs. -/
theorem resolve_ofOps (name : String) (split : full = before ++ op :: after) :
    (ofOps name full).resolve (Pools.instructionAfter before op)
      = .ok (op.resolved (macrosBefore full before.length)) := by
  rw [← length_macros_layOutAll split, Pools.ofOps_eq, split, Pools.layOutAll_append]
  exact Pools.resolve_layOut op (Pools.extends_layOutAll _ after)

end Program

/-- The instruction at the place of an operation is that operation. -/
theorem Level.fetch_ofOps {full : List SourceOp} {name : String} {l : Level} {op : SourceOp}
    (program : l.loaded.program = .ofOps name full) (h : CodeAt full l.ip [op]) :
    l.fetch = .ok (op.resolved (macrosBefore full l.ip)) := by
  obtain ⟨before, after, split, len⟩ := h
  rw [List.append_assoc, List.singleton_append] at split
  have fetched := Program.getElem?_ofOps name split
  have resolved := Program.resolve_ofOps name split
  rw [len] at fetched resolved
  simp only [fetch, program, fetched, resolved]

/-- Whatever is fetched is an operation of the code. -/
theorem Level.exists_of_fetch {full : List SourceOp} {name : String} {l : Level}
    {r : Program.Resolved} (program : l.loaded.program = .ofOps name full) (h : l.fetch = .ok r) :
    ∃ op, full[l.ip]? = some op ∧ r = op.resolved (macrosBefore full l.ip) := by
  have found : ∃ i, (Program.ofOps name full).instructions[l.ip]? = some i := by
    rw [← program]
    cases at_ip : l.loaded.program.instructions[l.ip]? with
    | none => simp [fetch, at_ip] at h
    | some i => exact ⟨i, rfl⟩
  obtain ⟨i, at_ip⟩ := found
  rw [Pools.ofOps_eq, Pools.program, List.getElem?_toArray] at at_ip
  obtain ⟨op, -, known, -⟩ := Pools.exists_layOut at_ip
  have fetched := fetch_ofOps program (CodeAt.of_getElem? known)
  exact ⟨op, known, Except.ok.inj (h.symm.trans fetched)⟩

/-- A macro of a program is defined in its code. -/
theorem Program.exists_of_macroAt {full : List SourceOp} {name : String} {n : Nat}
    {callee : Nat × MacroDef} (h : (ofOps name full).macroAt n = .ok callee) :
    ∃ op ∈ full, op.callee? = some callee.2 := by
  unfold macroAt at h
  rw [macros_ofOps, List.getElem?_toArray] at h
  split at h
  case h_1 found known =>
    cases h
    exact List.mem_filterMap.mp (List.mem_of_getElem? known)
  case h_2 => cases h

end TemplateEngine
