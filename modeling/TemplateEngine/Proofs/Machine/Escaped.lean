import Mathlib.Data.Set.Defs
import TemplateEngine.Proofs.Machine.Execute
import TemplateEngine.Proofs.Program.Seams
import TemplateEngine.Proofs.Scope.Raws
import TemplateEngine.Proofs.Text.Composed

/-!
# Safe texts at a level

A level of a program that was compiled with escaping, from a template without a
filter that marks a text as safe. A property of texts that escaping gives and
joining keeps is kept by what the level does, if the texts of the template have
it: a text is printed as it stands only right behind the instruction that loads
it, and no jump, call or return leads in between.
-/

namespace TemplateEngine

/-- The program is compiled with escaping from one of some templates. -/
def EscapedFrom (templates : Set Template) (p : Program) : Prop :=
  ∃ t ∈ templates, ∃ source, t.compile ⟨true⟩ source = .ok p

/-- The loader gives only programs of some templates, compiled with escaping. -/
def Environment.Escapes {ω : Type} (templates : Set Template) (env : Environment ω) : Prop :=
  ∀ source, env.source = some source → ∀ name surroundings loaded,
    (source name surroundings).1 = .ok loaded → EscapedFrom templates loaded.program

/-- No template of the set uses a filter that marks a text as safe. -/
def Unmarked (templates : Set Template) : Prop :=
  ∀ t ∈ templates, ∀ name ∈ t.filters, name ∉ markingFilters

/-- The instruction prints a text as it stands. -/
def Program.PrintsAt (p : Program) (k : Nat) : Prop := p.instructions[k]? = some (.print .raw)

theorem Program.getElem?_of_printsAt {name : String} {full : List SourceOp} {k : Nat}
    (h : (ofOps name full).PrintsAt k) : full[k]? = some (.print .raw) := by
  rw [PrintsAt, Pools.ofOps_eq, Pools.program, List.getElem?_toArray] at h
  obtain ⟨op, q, known, laid⟩ := Pools.exists_layOut h
  cases op <;> cases laid
  exact known

/-- All safe texts at a level, and all that its macros have written, have some property. -/
structure Level.Within (P : String → Prop) (l : Level) : Prop where
  stack : ∀ value ∈ l.stack, value.Within P
  scope : l.scope.Within P
  captured : ∀ c ∈ l.calls, ∀ text ∈ c.captured, P text

/-- All safe texts of a machine, and all that it has written, have some property. -/
structure Machine.Within {ω : Type} (P : String → Prop) (m : Machine ω) : Prop where
  level : m.level.Within P
  outer : ∀ w ∈ m.outer, w.level.Within P
  accepted : ∀ text ∈ m.accepted, P text

/-- A level of a safe program: no macro returns to the middle of a text. -/
structure Level.Clean (templates : Set Template) (P : String → Prop) (l : Level) : Prop
    extends l.Within P where
  program : EscapedFrom templates l.loaded.program
  returns : ∀ c ∈ l.calls, ¬ l.loaded.program.PrintsAt c.returnTo

/-- Where a text is printed as it stands, one with the property is on the stack. -/
structure Level.Ready (templates : Set Template) (P : String → Prop) (l : Level) : Prop
    extends l.Clean templates P where
  text : l.loaded.program.PrintsAt l.ip → ∃ s stack, l.stack = .str s :: stack ∧ P s

/-- The level goes on behind its instruction, which is not within a text. -/
structure Level.Pending (templates : Set Template) (P : String → Prop) (l : Level) : Prop
    extends l.Clean templates P where
  next : ¬ l.loaded.program.PrintsAt (l.ip + 1)

/-- The property of texts is kept where safe texts are made. -/
structure SafeProperty (P : String → Prop) : Prop where
  escaped : ∀ u, P (Text.escapeHtml u)
  join : ∀ parts, (∀ part ∈ parts, P part) → P (String.join parts)

theorem safeProperty_composed (texts : String → Prop) : SafeProperty (Composed texts) :=
  ⟨Composed.of_escaped, fun _ => Composed.join⟩

/-- All texts of the templates of a program have the property. -/
def TextsHave (templates : Set Template) (P : String → Prop) (p : Program) : Prop :=
  ∀ t ∈ templates, ∀ source, t.compile ⟨true⟩ source = .ok p → ∀ s ∈ t.texts, P s

/-- What is asked for has the property, and the level may go on. -/
def Effect.Clean (templates : Set Template) (P : String → Prop) : Effect → Prop
  | .next level => level.Ready templates P
  | .write text level => P text ∧ level.Pending templates P
  | .enter _ args level => args.Within P ∧ level.Pending templates P
  | .finish _ | .fail _ _ => True

variable {templates : Set Template} {P : String → Prop} {options : ExecutionOptions} {l : Level}
  {op : Program.Resolved}

/-- What the code of a safe program says about an operation of it. -/
structure Level.SafeOp (P : String → Prop) (l : Level) (op : Program.Resolved) : Prop where
  unmarked : op ≠ .filter .raw
  printed : op = .print .raw → l.loaded.program.PrintsAt l.ip
  next : l.loaded.program.PrintsAt (l.ip + 1) → ∃ s, op = .constLoad (.str s) ∧ P s
  target : ∀ t, op.target? = some t → ¬ l.loaded.program.PrintsAt t
  entry : ∀ n callee, l.loaded.program.macroAt n = .ok callee →
    ¬ l.loaded.program.PrintsAt callee.2.entry

theorem Escaping.mono {texts more : String → Prop} {ops : List SourceOp}
    (le : ∀ s, texts s → more s) (h : Escaping texts ops) : Escaping more ops := by
  induction h with
  | nil => exact .nil
  | cons escaping _ ih => exact .cons escaping ih
  | text given _ ih => exact .text (le _ given) ih

theorem EscapedFrom.exists_guarded {p : Program} (h : EscapedFrom templates p)
    (unmarked : Unmarked templates) (given : TextsHave templates P p) :
    ∃ name full, p = .ofOps name full ∧ Guarded P full := by
  obtain ⟨t, member, source, compiled⟩ := h
  obtain ⟨full, eq, guarded⟩ := Template.exists_guarded compiled rfl (unmarked t member)
  have texts : ∀ s ∈ t.texts, P s := given t member source compiled
  exact ⟨t.name, full, eq, guarded.escaping.mono texts, guarded.lands⟩

theorem EscapedFrom.quiet_start {p : Program} (h : EscapedFrom templates p)
    (unmarked : Unmarked templates) : ¬ p.PrintsAt 0 := fun printed => by
  have given : TextsHave templates (fun _ => True) p := fun _ _ _ _ _ _ => trivial
  obtain ⟨name, full, rfl, guarded⟩ := h.exists_guarded unmarked given
  obtain ⟨j, s, same, -, -⟩ := guarded.escaping.exists_text (Program.getElem?_of_printsAt printed)
  cases same

theorem Program.eq_of_resolve {p : Program} {i : Instruction}
    (h : p.resolve i = .ok (.print .raw)) : i = .print .raw := by
  have not_mapped {α : Type} {x : Except OperandFault α} {f : α → Resolved}
      (other : ∀ a, f a ≠ .print .raw) : x.map f ≠ .ok (.print .raw) := by
    cases x with
    | error fault => exact nofun
    | ok a => exact fun same => other a (Except.ok.inj same)
  cases i with
  | print mode =>
    cases h
    rfl
  | constLoad _ | loadVar _ | storeVar _ | fieldName _ | forIter _ _ | makeMacro _ =>
    exact absurd h (not_mapped nofun)
  | _ => cases h

theorem Level.printsAt_of_fetch (h : l.fetch = .ok (.print .raw)) :
    l.loaded.program.PrintsAt l.ip := by
  unfold fetch at h
  split at h
  · cases h
  case h_2 i at_ip =>
    split at h
    · cases h
    case h_2 r resolved =>
      cases h
      rw [Program.PrintsAt, at_ip, Program.eq_of_resolve resolved]

theorem Level.safeOp_of_fetch (unmarked : Unmarked templates)
    (escaped : EscapedFrom templates l.loaded.program)
    (given : TextsHave templates P l.loaded.program) (fetched : l.fetch = .ok op) :
    l.SafeOp P op := by
  obtain ⟨name, full, program, guarded⟩ := escaped.exists_guarded unmarked given
  obtain ⟨op, known, rfl⟩ := Level.exists_of_fetch program fetched
  have member : op ∈ full := List.mem_of_getElem? known
  have seam {k : Nat} (h : Seam full k) : ¬ l.loaded.program.PrintsAt k := fun printed =>
    h (Program.getElem?_of_printsAt (program ▸ printed))
  refine ⟨fun marked => ?_, fun printed => ?_, fun printed => ?_, fun t target => ?_,
    fun n callee found => ?_⟩
  · cases op <;> cases marked
    exact guarded.escaping.not_marked member
  · rw [printed] at fetched
    exact Level.printsAt_of_fetch fetched
  · rw [program] at printed
    obtain ⟨j, s, same, loaded, have_it⟩ :=
      guarded.escaping.exists_text (Program.getElem?_of_printsAt printed)
    obtain rfl := Nat.succ.inj same
    rw [known] at loaded
    cases loaded
    exact ⟨s, rfl, have_it⟩
  · refine seam ((guarded.lands op member).target t ?_)
    cases op <;> exact target
  · rw [program] at found
    obtain ⟨op', member', defines⟩ := Program.exists_of_macroAt found
    exact seam ((guarded.lands op' member').entry _ defines)

theorem Level.SafeOp.quiet (h : l.SafeOp P op) (other : ∀ s, op ≠ .constLoad (.str s)) :
    ¬ l.loaded.program.PrintsAt (l.ip + 1) := fun printed => by
  obtain ⟨s, same, -⟩ := h.next printed
  exact other s same

theorem Level.Clean.ready (h : l.Clean templates P) (quiet : ¬ l.loaded.program.PrintsAt l.ip) :
    l.Ready templates P :=
  { h with text := fun printed => absurd printed quiet }

theorem Level.Within.all (h : l.Within P) : l.All (Value.IfRaw P) where
  stack value member := Value.within_iff_all.mp (h.stack value member)
  scope := Scope.within_iff_all.mp h.scope

/-- Safe texts are only made of texts that are escaped, and of what macros have written. -/
theorem Level.Clean.grants (clean : l.Clean templates P) (safe : SafeProperty P)
    (safe_op : l.SafeOp P op) : l.Grants (Value.IfRaw P) op where
  scalars _ := Value.ifRaw_of_isScalar
  filtered f operand s eq given got := by
    subst eq
    have unmarked : f ≠ .raw := fun same => safe_op.unmarked (congrArg Op.filter same)
    exact Value.ifRaw_raw.mpr (Value.raw_of_filter given safe.escaped unmarked got)
  returned c rest calling := by
    refine Value.ifRaw_raw.mpr (safe.join _ fun part member => ?_)
    exact clean.captured c (calling ▸ List.mem_cons_self ..) part (List.mem_reverse.mp member)
  made _ _ := nofun

/-- A level of the same program, at which the same macros return, with clean values. -/
theorem Level.Clean.follow {l' : Level} (clean : l.Clean templates P)
    (values : l'.All (Value.IfRaw P)) (loaded : l'.loaded = l.loaded)
    (captured : ∀ c ∈ l'.calls, ∀ text ∈ c.captured, P text)
    (returns : ∀ c ∈ l'.calls, ¬ l.loaded.program.PrintsAt c.returnTo) : l'.Clean templates P where
  stack value member := Value.within_iff_all.mpr (values.stack value member)
  scope := Scope.within_iff_all.mpr values.scope
  captured := captured
  program := loaded ▸ clean.program
  returns := loaded ▸ returns

/-- A clean level does clean things. -/
theorem Level.Ready.does (ready : l.Ready templates P) (safe : SafeProperty P)
    (safe_op : l.SafeOp P op) {effect : Effect} (does : l.Does options op effect) :
    effect.Clean templates P := by
  have clean := ready.toClean
  have values {l' : Level} (same : effect = .next l') : l'.All (Value.IfRaw P) := by
    subst same
    exact clean.all.next_of_grants (clean.grants safe safe_op) does
  cases does with
  | make operands taken makes =>
    refine { clean.follow (values rfl) rfl clean.captured clean.returns with text := fun printed => ?_ }
    obtain ⟨s, rfl, have_it⟩ := safe_op.next printed
    cases makes
    exact ⟨s, _, rfl, have_it⟩
  | drop | store | pass | startLoop | round =>
    exact (clean.follow (values rfl) rfl clean.captured clean.returns).ready (safe_op.quiet nofun)
  | jump | skip | endLoop =>
    exact (clean.follow (values rfl) rfl clean.captured clean.returns).ready (safe_op.target _ rfl)
  | decided _ which =>
    refine (clean.follow (values rfl) rfl clean.captured clean.returns).ready (safe_op.target _ ?_)
    rcases which with ⟨rfl, -⟩ | ⟨rfl, -⟩ <;> rfl
  | undecided target taken which =>
    refine (clean.follow (values rfl) rfl clean.captured clean.returns).ready (safe_op.quiet ?_)
    rcases which with ⟨rfl, -⟩ | ⟨rfl, -⟩ <;> exact nofun
  | @enterMacro count args ref stack callee scope taken _ _ found _ _ pushed =>
    refine (clean.follow (values rfl) rfl ?_ ?_).ready (safe_op.entry _ callee found)
    · exact List.forall_mem_cons.mpr ⟨nofun, clean.captured⟩
    · exact List.forall_mem_cons.mpr ⟨safe_op.quiet nofun, clean.returns⟩
  | @leaveMacro c calls calling =>
    obtain ⟨-, captured⟩ := List.forall_mem_cons.mp (calling ▸ clean.captured)
    obtain ⟨back, returns⟩ := List.forall_mem_cons.mp (calling ▸ clean.returns)
    exact (clean.follow (values rfl) rfl captured returns).ready back
  | @print mode value stack taken =>
    have rest := clean.all.stack_left [value] taken
    refine ⟨?_, { clean with
      stack := fun v member => Value.within_iff_all.mpr (rest v member)
      next := safe_op.quiet nofun }⟩
    cases mode with
    | html =>
      exact Value.output_of_all (clean.all.stack value (taken ▸ List.mem_cons_self ..)) safe.escaped
    | raw =>
      obtain ⟨s, others, same, have_it⟩ := ready.text (safe_op.printed rfl)
      rw [taken] at same
      cases same
      exact have_it
  | @inclusion args name stack taken =>
    have rest := clean.all.stack_left [args, name] taken
    refine ⟨clean.stack _ (taken ▸ List.mem_cons_self ..), { clean with
      stack := fun v member => Value.within_iff_all.mpr (rest v member)
      next := safe_op.quiet nofun }⟩
  | finish => trivial
  | fail => trivial

theorem Level.Pending.ready (h : l.Pending templates P) : l.advance.Ready templates P :=
  Level.Clean.ready { h with } h.next

theorem Level.Pending.capture? {text : String} {l' : Level} (h : l.Pending templates P)
    (given : P text) (taken : l.capture? text = some l') : l'.Pending templates P := by
  unfold Level.capture? at taken
  split at taken
  · cases taken
  case h_2 c calls calling =>
    cases taken
    have member : c ∈ l.calls := calling ▸ List.mem_cons_self ..
    have later {c' : Call} (h : c' ∈ calls) : c' ∈ l.calls := calling ▸ List.mem_cons_of_mem _ h
    exact { h with
      captured := List.forall_mem_cons.mpr
        ⟨List.forall_mem_cons.mpr ⟨given, h.captured c member⟩, fun c' h' => h.captured c' (later h')⟩
      returns := List.forall_mem_cons.mpr
        ⟨h.returns c member, fun c' h' => h.returns c' (later h')⟩ }

theorem Waiting.pending_capture? {text : String} {waiting waiting' : List Waiting}
    (h : ∀ w ∈ waiting, w.level.Pending templates P) (given : P text)
    (taken : capture? text waiting = some waiting') :
    ∀ w ∈ waiting', w.level.Pending templates P := by
  induction waiting generalizing waiting' with
  | nil => cases taken
  | cons w rest ih =>
    obtain ⟨first, later⟩ := List.forall_mem_cons.mp h
    rw [capture?] at taken
    split at taken
    case h_1 level here =>
      cases taken
      exact List.forall_mem_cons.mpr ⟨first.capture? given here, later⟩
    case h_2 =>
      obtain ⟨others, there, rfl⟩ := Option.map_eq_some_iff.mp taken
      exact List.forall_mem_cons.mpr ⟨{ first with }, ih later there⟩

end TemplateEngine
