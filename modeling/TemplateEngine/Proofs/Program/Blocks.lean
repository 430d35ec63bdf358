import TemplateEngine.Proofs.Program.Fenced

/-!
# Where `FOREACH` blocks stand

The code of a `FOREACH` block is a part of the code of its template, at the place that
it was made for. It is the only code that begins loops, so each place where a loop
begins is one of a block.
-/

namespace TemplateEngine

/-- A `FOREACH` block and where its code stands in the code of its template. -/
structure Template.ForeachBlock (t : Template) (options : CompileOptions) where
  var : String
  collection : Expr
  body : List Node
  start : Nat
  /-- The code of the collection. -/
  items : List SourceOp
  /-- The code of the block. -/
  code : List SourceOp
  evaluates : collection.code start = .ok items
  compiles : (Node.foreach var collection body).code options start = .ok code
  stands : ∃ ops, Node.codeList options 0 t.body = .ok ops ∧ CodeAt ops start code

namespace Template.ForeachBlock

variable {t : Template} {options : CompileOptions}

/-- Where the collection is evaluated and the loop begins. -/
def loopStart (block : t.ForeachBlock options) : Nat := block.start + block.items.length

/-- Where each round begins. -/
def head (block : t.ForeachBlock options) : Nat := block.loopStart + 1

/-- The place behind the block. -/
def exit (block : t.ForeachBlock options) : Nat := block.start + block.code.length

end Template.ForeachBlock

theorem CodeAt.append_right {full part : List SourceOp} {start : Nat} (h : CodeAt full start part)
    (more : List SourceOp) : CodeAt (full ++ more) start part := by
  obtain ⟨before, after, rfl, start⟩ := h
  exact ⟨before, after ++ more, by simp, start⟩

theorem CodeAt.append_left {full part : List SourceOp} {start : Nat} (h : CodeAt full start part)
    (front : List SourceOp) : CodeAt (front ++ full) (front.length + start) part := by
  obtain ⟨before, after, rfl, rfl⟩ := h
  exact ⟨front ++ before, after, by simp, by simp⟩

/-- At `i` in the code `ops` that is made for `start` the loop of a block begins. -/
inductive BeginsLoop (options : CompileOptions) (start : Nat) (ops : List SourceOp) (i : Nat) : Prop
  | intro {var collection body items code k} : collection.code (start + k) = .ok items →
      (Node.foreach var collection body).code options (start + k) = .ok code → CodeAt ops k code →
      i = k + items.length → BeginsLoop options start ops i

/-- Wherever a loop begins in the code, it is one of a block. -/
abbrev BlocksBegin (options : CompileOptions) (start : Nat) (ops : List SourceOp) : Prop :=
  ∀ i, ops[i]? = some .forStart → BeginsLoop options start ops i

section

variable {options : CompileOptions} {start next i : Nat} {a b rest : List SourceOp} {op : SourceOp}

theorem BeginsLoop.left (h : BeginsLoop options start a i) : BeginsLoop options start (a ++ b) i := by
  obtain ⟨evaluates, compiles, code_at, rfl⟩ := h
  exact .intro evaluates compiles (code_at.append_right b) rfl

theorem BeginsLoop.right (h : BeginsLoop options (start + a.length) b i) :
    BeginsLoop options start (a ++ b) (a.length + i) := by
  obtain ⟨evaluates, compiles, code_at, rfl⟩ := h
  rw [Nat.add_assoc] at evaluates compiles
  exact .intro evaluates compiles (code_at.append_left a) (Nat.add_assoc ..).symm

theorem BlocksBegin.append (h : BlocksBegin options start a) (h' : BlocksBegin options next b)
    (e : next = start + a.length) : BlocksBegin options start (a ++ b) := by
  intro i at_i
  subst e
  by_cases front : i < a.length
  · rw [List.getElem?_append_left front] at at_i
    exact (h i at_i).left
  · obtain ⟨j, rfl⟩ := Nat.exists_eq_add_of_le (Nat.le_of_not_lt front)
    rw [List.getElem?_append_right (Nat.le_add_right ..), Nat.add_sub_cancel_left] at at_i
    exact (h' j at_i).right

theorem blocksBegin_of_ne (h : ∀ op ∈ a, op ≠ .forStart) : BlocksBegin options start a := by
  intro i at_i
  exact absurd rfl (h _ (List.mem_of_getElem? at_i))

theorem blocksBegin_of_evaluates (h : ∀ op ∈ a, op.Evaluates) : BlocksBegin options start a := by
  apply blocksBegin_of_ne
  rintro op member rfl
  exact h _ member

theorem BlocksBegin.cons (h : BlocksBegin options next rest) (e : next = start + 1)
    (other : op ≠ .forStart) : BlocksBegin options start (op :: rest) := by
  have first : BlocksBegin options start [op] :=
    blocksBegin_of_ne (List.forall_mem_singleton.mpr other)
  exact first.append h e

theorem BlocksBegin.branch {cond inner others : List SourceOp} (hc : ∀ op ∈ cond, op.Evaluates)
    (hi : BlocksBegin options (start + cond.length + 1) inner)
    (ho : BlocksBegin options (start + cond.length + 1 + inner.length + 1) others) :
    BlocksBegin options start (branchCode start cond inner others) :=
  (blocksBegin_of_evaluates hc).append
    ((hi.append (ho.cons rfl (by simp)) rfl).cons rfl (by simp)) rfl

/-- A block begins its own loop, and those of its body. -/
theorem BlocksBegin.block {items : List SourceOp} (front : ∀ op ∈ items, op.Evaluates)
    (begins : BeginsLoop options start (items ++ .forStart :: rest) items.length)
    (rounds : BlocksBegin options (start + items.length + 1) rest) :
    BlocksBegin options start (items ++ .forStart :: rest) := by
  intro i at_i
  rcases Nat.lt_trichotomy i items.length with before | rfl | later
  · rw [List.getElem?_append_left before] at at_i
    exact (front _ (List.mem_of_getElem? at_i)).elim
  · exact begins
  · obtain ⟨j, rfl⟩ := Nat.exists_eq_add_of_lt later
    have split : items ++ .forStart :: rest = (items ++ [.forStart]) ++ rest := by simp
    have place : items.length + j + 1 = (items ++ [Op.forStart]).length + j := by
      simp only [List.length_append, List.length_singleton]
      omega
    rw [split, place] at at_i ⊢
    rw [List.getElem?_append_right (Nat.le_add_right ..), Nat.add_sub_cancel_left] at at_i
    apply BeginsLoop.right
    rw [List.length_append, List.length_singleton, ← Nat.add_assoc]
    exact rounds j at_i

namespace Node

mutual

theorem blocksBegin_of_code : ∀ (node : Node) {start : Nat} {ops : List SourceOp},
    node.code options start = .ok ops → BlocksBegin options start ops
  | .text s, start, ops, h => by
    cases h
    apply blocksBegin_of_ne
    split <;> simp
  | .print e, start, ops, h => by
    obtain ⟨value, h₁, h⟩ := bind_eq_ok.mp h
    cases h
    have value_code := exprCode_of_code e h₁
    exact (blocksBegin_of_evaluates value_code.evaluates).append (blocksBegin_of_ne (by simp)) rfl
  | .branch test body rest, start, ops, h => by
    obtain ⟨cond, h₁, h⟩ := bind_eq_ok.mp h
    obtain ⟨inner, h₂, h⟩ := bind_eq_ok.mp h
    obtain ⟨others, h₃, h⟩ := bind_eq_ok.mp h
    cases h
    rw [joinBranch, List.append_assoc, List.cons_append]
    exact .branch (exprCode_of_code test h₁).evaluates (blocksBegin_of_codeList body h₂)
      (blocksBegin_of_codeRest rest h₃)
  | .foreach var iterable body, start, ops, h => by
    have compiles := h
    obtain ⟨items, h₁, h⟩ := bind_eq_ok.mp h
    obtain ⟨inner, h₂, h⟩ := bind_eq_ok.mp h
    cases h
    have jump : BlocksBegin options (start + items.length + 1 + 1 + inner.length)
        [.jump (start + items.length + 1)] := blocksBegin_of_ne (by simp)
    rw [List.append_assoc] at compiles ⊢
    apply BlocksBegin.block (exprCode_of_code iterable h₁).evaluates
    · exact .intro (k := 0) h₁ compiles (.whole _) (Nat.zero_add _).symm
    · exact ((blocksBegin_of_codeList body h₂).append jump rfl).cons rfl (by simp)
  | .loop test body, start, ops, h => by
    obtain ⟨cond, h₁, h⟩ := bind_eq_ok.mp h
    obtain ⟨inner, h₂, h⟩ := bind_eq_ok.mp h
    cases h
    have jump : BlocksBegin options (start + cond.length + 1 + inner.length) [.jump start] :=
      blocksBegin_of_ne (by simp)
    rw [List.append_assoc]
    have test_code := exprCode_of_code test h₁
    exact (blocksBegin_of_evaluates test_code.evaluates).append
      (((blocksBegin_of_codeList body h₂).append jump rfl).cons rfl (by simp)) rfl
  | .assign name value, start, ops, h => by
    obtain ⟨inner, h₁, h⟩ := bind_eq_ok.mp h
    cases h
    have value_code := exprCode_of_code value h₁
    exact (blocksBegin_of_evaluates value_code.evaluates).append (blocksBegin_of_ne (by simp)) rfl
  | .define name params body, start, ops, h => by
    rw [code] at h
    split at h
    · cases h
    · obtain ⟨inner, h₁, h⟩ := bind_eq_ok.mp h
      cases h
      have back : BlocksBegin options (start + 3 + inner.length) [.macroReturn] :=
        blocksBegin_of_ne (by simp)
      have inside := (blocksBegin_of_codeList body h₁).append back rfl
      exact ((inside.cons rfl (by simp)).cons rfl (by simp)).cons rfl (by simp)
  | .inclusion template args, start, ops, h => by
    obtain ⟨name, h₁, h⟩ := bind_eq_ok.mp h
    obtain ⟨entries, h₂, h⟩ := bind_eq_ok.mp h
    cases h
    have name_code := exprCode_of_code template h₁
    have args_code := argsCode_of_code h₂
    exact ((blocksBegin_of_evaluates name_code.evaluates).append
      (blocksBegin_of_evaluates args_code.evaluates) rfl).append (blocksBegin_of_ne (by simp)) rfl

theorem blocksBegin_of_codeRest : ∀ (rest : Alternatives) {start : Nat} {ops : List SourceOp},
    codeRest options start rest = .ok ops → BlocksBegin options start ops
  | .done, start, ops, h => by
    cases h
    exact nofun
  | .otherwise body, start, ops, h => blocksBegin_of_codeList body h
  | .elsif test body rest, start, ops, h => by
    obtain ⟨cond, h₁, h⟩ := bind_eq_ok.mp h
    obtain ⟨inner, h₂, h⟩ := bind_eq_ok.mp h
    obtain ⟨others, h₃, h⟩ := bind_eq_ok.mp h
    cases h
    rw [joinBranch, List.append_assoc, List.cons_append]
    exact .branch (exprCode_of_code test h₁).evaluates (blocksBegin_of_codeList body h₂)
      (blocksBegin_of_codeRest rest h₃)

theorem blocksBegin_of_codeList : ∀ (body : List Node) {start : Nat} {ops : List SourceOp},
    codeList options start body = .ok ops → BlocksBegin options start ops
  | [], start, ops, h => by
    cases h
    exact nofun
  | node :: rest, start, ops, h => by
    obtain ⟨first, h₁, h⟩ := bind_eq_ok.mp h
    obtain ⟨others, h₂, h⟩ := bind_eq_ok.mp h
    cases h
    exact (blocksBegin_of_code node h₁).append (blocksBegin_of_codeList rest h₂) rfl

end

end Node

/-- Wherever a compiled program begins a loop, a block of its template does. -/
theorem Template.exists_block {t : Template} {source : String} {l : Level}
    (compiled : t.compile options source = .ok l.loaded.program) (fetched : l.fetch = .ok .forStart) :
    ∃ block : t.ForeachBlock options, block.loopStart = l.ip := by
  unfold compile at compiled
  split at compiled
  case h_2 => cases compiled
  case h_1 ops whole =>
    obtain ⟨op, at_ip, eq⟩ := Level.exists_of_fetch (Except.ok.inj compiled).symm fetched
    obtain rfl : op = .forStart := by
      cases op <;> cases eq
      rfl
    have inside : l.ip < ops.length := by
      by_contra behind
      rw [List.getElem?_append_right (Nat.le_of_not_lt behind)] at at_ip
      have last := List.mem_of_getElem? at_ip
      simp at last
    rw [List.getElem?_append_left inside] at at_ip
    obtain @⟨var, collection, body, items, code, k, evaluates, compiles, code_at, place⟩ :=
      Node.blocksBegin_of_codeList t.body whole l.ip at_ip
    rw [Nat.zero_add] at evaluates compiles
    exact ⟨⟨var, collection, body, k, items, code, evaluates, compiles, ops, whole, code_at⟩, place.symm⟩

end

end TemplateEngine
