import TemplateEngine.Proofs.Program.CodeAt
import TemplateEngine.Proofs.Program.Prints

/-!
# Where jumps land

No jump and no macro lands between a text and the operation that prints it as it
stands. This is shown from the end of code to its start: if the end is a seam, so
is the start and whatever the code jumps to.
-/

namespace TemplateEngine

/-- No text is printed as it stands at a place. -/
def Seam (full : List SourceOp) (place : Nat) : Prop := full[place]? ≠ some (.print .raw)

theorem Seam.cast {full : List SourceOp} {place place' : Nat} (h : Seam full place)
    (e : place' = place) : Seam full place' := by
  rwa [e]

/-- Jumps and macros of an operation land on seams. -/
structure Op.LandsOnSeams (full : List SourceOp) (op : SourceOp) : Prop where
  target : ∀ t, op.target? = some t → Seam full t
  entry : ∀ callee, op.callee? = some callee → Seam full callee.entry

/-- A piece of code starts on a seam and so does all that it jumps to. -/
structure Lands (full : List SourceOp) (start : Nat) (ops : List SourceOp) : Prop where
  start : Seam full start
  ops : ∀ op ∈ ops, op.LandsOnSeams full

section

variable {options : CompileOptions} {full ops others rest : List SourceOp} {start next : Nat}
  {op : SourceOp}

theorem CodeAt.seam (code : CodeAt full start (op :: rest)) (h : op ≠ .print .raw) :
    Seam full start := by
  intro printed
  rw [code.getElem?] at printed
  exact h (Option.some.inj printed)

theorem Lands.append (h : Lands full start ops) (h' : Lands full next others) :
    Lands full start (ops ++ others) :=
  ⟨h.start, List.forall_mem_append.mpr ⟨h.ops, h'.ops⟩⟩

theorem Lands.jump {target : Nat} (code : CodeAt full start (op :: rest)) (h : op ≠ .print .raw)
    (jumps : op.target? = some target) (none : op.callee? = none) (seam : Seam full target)
    (lands : ∀ op ∈ rest, op.LandsOnSeams full) : Lands full start (op :: rest) := by
  refine ⟨code.seam h, List.forall_mem_cons.mpr ⟨⟨?_, by simp [none]⟩, lands⟩⟩
  intro t at_t
  rw [jumps] at at_t
  cases at_t
  exact seam

theorem Lands.straight (code : CodeAt full start (op :: rest)) (h : op ≠ .print .raw)
    (no_target : op.target? = none) (no_callee : op.callee? = none)
    (lands : ∀ op ∈ rest, op.LandsOnSeams full) : Lands full start (op :: rest) :=
  ⟨code.seam h, List.forall_mem_cons.mpr ⟨⟨by simp [no_target], by simp [no_callee]⟩, lands⟩⟩

/-- Code without a jump of its own after a piece of code. -/
theorem Lands.before (code : CodeAt full start (ops ++ (op :: rest))) (h : op ≠ .print .raw)
    (no_target : op.target? = none) (no_callee : op.callee? = none)
    (lands : Seam full (start + ops.length) → Lands full start ops)
    (later : ∀ op ∈ rest, op.LandsOnSeams full) : Lands full start (ops ++ (op :: rest)) := by
  have last := Lands.straight (code.right rfl) h no_target no_callee later
  exact (lands last.start).append last

/-- Code with a jump after a piece of code. -/
theorem Lands.beforeJump {target : Nat} (code : CodeAt full start (ops ++ (op :: rest)))
    (h : op ≠ .print .raw) (jumps : op.target? = some target) (none : op.callee? = none)
    (seam : Seam full target) (lands : Seam full (start + ops.length) → Lands full start ops)
    (later : ∀ op ∈ rest, op.LandsOnSeams full) : Lands full start (ops ++ (op :: rest)) := by
  have last := Lands.jump (code.right rfl) h jumps none seam later
  exact (lands last.start).append last

/-- A jump over the second of two pieces of code to the end of both. -/
theorem Lands.skip {first second : List SourceOp}
    (code : CodeAt full start (first ++ op :: second)) (h : op ≠ .print .raw)
    (jumps : op.target? = some (start + first.length + 1 + second.length))
    (none : op.callee? = none) (seam : Seam full (start + (first ++ op :: second).length))
    (lands : Seam full (start + first.length) → Lands full start first)
    (lands' : Seam full (start + first.length + 1 + second.length) →
      Lands full (start + first.length + 1) second) :
    Lands full start (first ++ op :: second) := by
  have exit : Seam full (start + first.length + 1 + second.length) := seam.cast <| by
    rw [List.length_append, List.length_cons]
    omega
  exact .beforeJump code h jumps none exit lands (lands' exit).ops

mutual

theorem ExprCode.lands : ∀ {start e ops}, ExprCode start e ops → CodeAt full start ops →
    Seam full (start + ops.length) → Lands full start ops
  | _, _, _, .literal, code, _ => .straight code nofun rfl rfl nofun
  | _, _, _, .list each, code, _ => .before code nofun rfl rfl (each.lands code.left) nofun
  | _, _, _, .var, code, _ => .straight code nofun rfl rfl nofun
  | _, _, _, .attr inner, code, _ => .before code nofun rfl rfl (inner.lands code.left) nofun
  | _, _, _, .index first second, code, _ => by
    have back := Lands.before (code.right rfl) nofun rfl rfl (second.lands (code.right rfl).left) nofun
    exact (first.lands code.left back.start).append back
  | _, _, _, .call callee each, code, _ => by
    have back := Lands.before (code.right rfl) nofun rfl rfl (each.lands (code.right rfl).left) nofun
    exact (callee.lands code.left back.start).append back
  | _, _, _, .filter _ inner, code, _ => .before code nofun rfl rfl (inner.lands code.left) nofun
  | _, _, _, .neg inner, code, _ => .before code nofun rfl rfl (inner.lands code.left) nofun
  | _, _, _, .not inner, code, _ => .before code nofun rfl rfl (inner.lands code.left) nofun
  | _, _, _, .binary first second, code, _ => by
    have back := Lands.before (code.right rfl) nofun rfl rfl (second.lands (code.right rfl).left) nofun
    exact (first.lands code.left back.start).append back
  | _, _, _, .conj first second, code, seam =>
    .skip code nofun rfl rfl seam (first.lands code.left) (second.lands ((code.right rfl).tail rfl))
  | _, _, _, .disj first second, code, seam =>
    .skip code nofun rfl rfl seam (first.lands code.left) (second.lands ((code.right rfl).tail rfl))

theorem ExprListCode.lands : ∀ {start items ops}, ExprListCode start items ops →
    CodeAt full start ops → Seam full (start + ops.length) → Lands full start ops
  | _, _, _, .nil, _, seam => ⟨seam, nofun⟩
  | _, _, _, .cons first others, code, seam => by
    rw [List.length_append, ← Nat.add_assoc] at seam
    have back := others.lands (code.right rfl) seam
    exact (first.lands code.left back.start).append back

end

theorem ArgsCode.lands {start args ops} (h : ArgsCode start args ops) (code : CodeAt full start ops)
    (seam : Seam full (start + ops.length)) : Lands full start ops := by
  induction h with
  | nil => exact ⟨seam, nofun⟩
  | @cons start key e rest first others first_code _ ih =>
    have code' := code.tail rfl
    have exit : Seam full (start + 1 + first.length + others.length) := seam.cast <| by
      rw [List.length_cons, List.length_append]
      omega
    have back := ih (code'.right rfl) exit
    exact .straight code nofun rfl rfl ((first_code.lands code'.left back.start).append back).ops

/-- A branch jumps to the alternatives and to the end. -/
theorem lands_branch {cond inner : List SourceOp}
    (code : CodeAt full start (branchCode start cond inner others))
    (seam : Seam full (start + (branchCode start cond inner others).length))
    (hc : Seam full (start + cond.length) → Lands full start cond)
    (hi : Seam full (start + cond.length + 1 + inner.length) →
      Lands full (start + cond.length + 1) inner)
    (ho : Seam full (start + cond.length + 1 + inner.length + 1 + others.length) →
      Lands full (start + cond.length + 1 + inner.length + 1) others) :
    Lands full start (branchCode start cond inner others) := by
  have exit : Seam full (start + cond.length + 1 + inner.length + 1 + others.length) :=
    seam.cast <| by
      rw [branchCode, List.length_append, List.length_cons, List.length_append, List.length_cons]
      omega
  have behind := ho exit
  have body := Lands.beforeJump ((code.right rfl).tail rfl) nofun rfl rfl exit hi behind.ops
  exact .beforeJump code nofun rfl rfl behind.start hc body.ops

mutual

theorem NodeCode.lands (escapes : options.autoEscape = true) :
    ∀ {start node ops}, NodeCode options start node ops → CodeAt full start ops →
      Seam full (start + ops.length) → Lands full start ops
  | _, _, _, .noText, _, seam => ⟨seam, nofun⟩
  | _, _, _, .text _, code, _ =>
    .straight code nofun rfl rfl (List.forall_mem_singleton.mpr ⟨nofun, nofun⟩)
  | _, _, _, .print value, code, _ =>
    .before code (by simp [Node.printMode, escapes]) rfl rfl (value.lands code.left) nofun
  | _, _, _, .branch test body rest, code, seam =>
    lands_branch code seam (test.lands code.left)
      (body.lands escapes ((code.right rfl).tail rfl).left)
      (rest.lands escapes ((((code.right rfl).tail rfl).right rfl).tail rfl))
  | _, _, _, @NodeCode.foreach _ start _ _ _ ops inner items body, code, seam => by
    have exit : Seam full (start + ops.length + 2 + inner.length + 1) := seam.cast <| by
      simp only [List.length_append, List.length_cons, List.length_nil]
      omega
    have loop_at := (code.right rfl).tail rfl
    have body_at := loop_at.tail rfl
    have again := Lands.beforeJump body_at nofun rfl rfl (loop_at.seam nofun)
      (body.lands escapes body_at.left) nofun
    have loop := Lands.jump loop_at nofun rfl rfl exit again.ops
    exact .before code nofun rfl rfl (items.lands code.left) loop.ops
  | _, _, _, @NodeCode.loop _ start _ _ cond inner test body, code, seam => by
    have exit : Seam full (start + cond.length + 1 + inner.length + 1) := seam.cast <| by
      simp only [List.length_append, List.length_cons, List.length_nil]
      omega
    have body_at := (code.right rfl).tail rfl
    have tested := test.lands code.left ((code.right rfl).seam nofun)
    have again := Lands.beforeJump body_at nofun rfl rfl tested.start
      (body.lands escapes body_at.left) nofun
    exact .beforeJump code nofun rfl rfl exit (test.lands code.left) again.ops
  | _, _, _, .assign value, code, _ => .before code nofun rfl rfl (value.lands code.left) nofun
  | _, _, _, @NodeCode.define _ start name params _ inner body, code, seam => by
    have exit : Seam full (start + 3 + inner.length + 1) := seam.cast <| by
      simp only [List.length_append, List.length_cons, List.length_nil]
      omega
    have jump_at := (code.tail rfl).tail rfl
    have body_at := jump_at.tail rfl
    have inside := Lands.before body_at nofun rfl rfl (body.lands escapes body_at.left) nofun
    have skip := Lands.jump jump_at nofun rfl rfl exit inside.ops
    have store := Lands.straight (code.tail rfl) nofun rfl rfl skip.ops
    refine ⟨code.seam nofun, List.forall_mem_cons.mpr ⟨⟨nofun, ?_⟩, store.ops⟩⟩
    rintro _ ⟨⟩
    exact inside.start
  | _, _, _, .inclusion template args, code, _ => by
    have args_at := code.right rfl
    have back := Lands.before args_at nofun rfl rfl (args.lands args_at.left)
      (List.forall_mem_singleton.mpr ⟨nofun, nofun⟩)
    exact (template.lands code.left back.start).append back

theorem RestCode.lands (escapes : options.autoEscape = true) :
    ∀ {start rest ops}, RestCode options start rest ops → CodeAt full start ops →
      Seam full (start + ops.length) → Lands full start ops
  | _, _, _, .done, _, seam => ⟨seam, nofun⟩
  | _, _, _, .otherwise body, code, seam => body.lands escapes code seam
  | _, _, _, .elsif test body rest, code, seam =>
    lands_branch code seam (test.lands code.left) (body.lands escapes ((code.right rfl).tail rfl).left)
      (rest.lands escapes ((((code.right rfl).tail rfl).right rfl).tail rfl))

theorem BodyCode.lands (escapes : options.autoEscape = true) :
    ∀ {start body ops}, BodyCode options start body ops → CodeAt full start ops →
      Seam full (start + ops.length) → Lands full start ops
  | _, _, _, .nil, _, seam => ⟨seam, nofun⟩
  | _, _, _, .cons node rest, code, seam => by
    rw [List.length_append, ← Nat.add_assoc] at seam
    have back := rest.lands escapes (code.right rfl) seam
    exact (node.lands escapes code.left back.start).append back

end

end

/-- Code that prints only given texts as they stand, whatever way it takes. -/
structure Guarded (texts : String → Prop) (full : List SourceOp) : Prop where
  escaping : Escaping texts full
  lands : ∀ op ∈ full, op.LandsOnSeams full

/-- A template without a filter that marks texts as safe, compiled with escaping,
prints only its texts as they stand. -/
theorem Template.exists_guarded {options : CompileOptions} {source : String} {t : Template} {p : Program}
    (compiled : t.compile options source = .ok p) (escapes : options.autoEscape = true)
    (unmarked : ∀ name ∈ t.filters, name ∉ markingFilters) :
    ∃ full, p = .ofOps t.name full ∧ Guarded (· ∈ t.texts) full := by
  obtain ⟨ops, code, program⟩ := Template.code_of_compile compiled
  have whole := CodeAt.whole (ops ++ [Op.finish])
  have last : CodeAt (ops ++ [Op.finish]) (0 + ops.length) [.finish] := whole.right rfl
  have lands := code.lands escapes whole.left (last.seam nofun)
  refine ⟨_, program, ?_, (lands.append (.straight last nofun rfl rfl nofun)).ops⟩
  exact (code.escaping escapes unmarked fun _ member => member).append
    (.cons (by simp [Op.Escaping]) .nil)

end TemplateEngine
