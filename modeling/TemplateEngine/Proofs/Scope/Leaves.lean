import TemplateEngine.Proofs.Machine.Captures
import TemplateEngine.Proofs.Machine.Execute
import TemplateEngine.Proofs.Program.Checked
import TemplateEngine.Proofs.Scope.Frames
import TemplateEngine.Proofs.Value.Leaves

/-!
# The leaves of scopes and levels

The values of a scope are those of its variables and the items that its loops run
over. A scope only gives out and takes over values, so what holds of all leaves of
them is kept by everything that is done with scopes. At a level the stack is added.
-/

namespace TemplateEngine

/-- All leaves of the values in a frame have a property. -/
structure Frame.All (P : Value → Prop) (f : Frame) : Prop where
  vars : Bindings.All P f.vars
  iter : ∀ iter, f.iter = some iter → ∀ item ∈ iter.items, item.All P

/-- All leaves of the values in a scope have a property. -/
structure Scope.All (P : Value → Prop) (s : Scope) : Prop where
  inner : ∀ f ∈ s.inner, f.All P
  root : s.root.All P

/-- All leaves of the values at a level have a property. -/
structure Level.All (P : Value → Prop) (l : Level) : Prop where
  stack : ∀ value ∈ l.stack, value.All P
  scope : l.scope.All P

theorem Frame.all_empty (P : Value → Prop) (parent : Option Nat) :
    (⟨[], parent, none⟩ : Frame).All P :=
  ⟨nofun, nofun⟩

section

variable {P Q S : Value → Prop} (both : ∀ v, P v → Q v → S v)
include both

theorem Frame.All.of_both {f : Frame} (hp : f.All P) (hq : f.All Q) : f.All S where
  vars entry member := (hp.vars entry member).of_both (hq.vars entry member) both
  iter iter running item member :=
    (hp.iter iter running item member).of_both (hq.iter iter running item member) both

theorem Scope.All.of_both {s : Scope} (hp : s.All P) (hq : s.All Q) : s.All S where
  inner f member := (hp.inner f member).of_both both (hq.inner f member)
  root := hp.root.of_both both hq.root

theorem Level.All.of_both {l : Level} (hp : l.All P) (hq : l.All Q) : l.All S where
  stack value member := (hp.stack value member).of_both (hq.stack value member) both
  scope := hp.scope.of_both both hq.scope

end

theorem LoopIter.mem_of_advance? {iter after : LoopIter} {item : Value}
    (h : iter.advance? = some (item, after)) : item ∈ iter.items ∧ after.items = iter.items := by
  obtain ⟨found, known, same⟩ := Option.map_eq_some_iff.mp h
  cases same
  exact ⟨List.mem_of_getElem? known, rfl⟩

namespace Scope

variable {P : Value → Prop} {s s' : Scope}

theorem all_iff_each : s.All P ↔ s.Each fun _ => Frame.All P := by
  constructor
  · intro h i f found
    rcases List.mem_cons.mp (List.mem_of_getElem? found) with rfl | inside
    · exact h.root
    · exact h.inner f (List.mem_reverse.mp inside)
  · intro h
    have each (f : Frame) (member : f ∈ s.frames) : f.All P := by
      obtain ⟨i, found⟩ := List.getElem?_of_mem member
      exact h i f found
    refine ⟨fun f member => each f ?_, each s.root (List.mem_cons_self ..)⟩
    exact List.mem_cons_of_mem _ (List.mem_reverse.mpr member)

theorem all_ofVars {vars : Vars} (h : Bindings.All P vars) : (ofVars vars).All P :=
  all_iff_each.mpr (each_ofVars ⟨h, nofun⟩)

theorem All.frame? (h : s.All P) {index : Nat} {f : Frame} (found : s.frame? index = some f) :
    f.All P :=
  all_iff_each.mp h index f (frame?_eq_getElem? s index ▸ found)

theorem All.pathFrom (h : s.All P) (steps index : Nat) :
    ∀ f ∈ s.pathFrom steps index, f.All P := by
  induction steps generalizing index with
  | zero => exact List.forall_mem_nil _
  | succ steps ih =>
    rw [Scope.pathFrom]
    cases found : s.frame? index with
    | none => exact List.forall_mem_nil _
    | some f =>
      dsimp only
      cases f.parent with
      | none => exact List.forall_mem_singleton.mpr (h.frame? found)
      | some parent => exact List.forall_mem_cons.mpr ⟨h.frame? found, ih parent⟩

theorem All.lookup (h : s.All P) {name : String} {value : Value}
    (found : s.lookup name = some value) : value.All P := by
  obtain ⟨f, member, bound⟩ := List.exists_of_findSome?_eq_some found
  exact Value.all_get? (h.pathFrom _ _ f member).vars bound

theorem All.visible (h : s.All P) : Bindings.All P s.visible := by
  have frames := h.pathFrom s.depth s.current
  rw [Scope.visible, Scope.path]
  generalize s.pathFrom s.depth s.current = path at frames
  induction path with
  | nil => exact nofun
  | cons f rest ih =>
    obtain ⟨first, later⟩ := List.forall_mem_cons.mp frames
    exact (ih later).insertAll first.vars

theorem All.top (h : s.All P) : s.top.All P :=
  (all_iff_each.mp h).top

theorem All.setTop (h : s.All P) {f : Frame} (hf : f.All P) : (s.setTop f).All P :=
  all_iff_each.mpr ((all_iff_each.mp h).setTop hf)

theorem All.bind (h : s.All P) (name : String) {value : Value} (hv : value.All P) :
    (s.bind name value).All P :=
  h.setTop ⟨h.top.vars.insert name hv, h.top.iter⟩

theorem All.bindAll (h : s.All P) {args : List (String × Value)} (ha : Bindings.All P args) :
    (args.foldl (fun s arg => s.bind arg.1 arg.2) s).All P := by
  induction args generalizing s with
  | nil => exact h
  | cons arg rest ih =>
    obtain ⟨first, later⟩ := List.forall_mem_cons.mp ha
    exact ih (h.bind arg.1 first) later

theorem All.setIter (h : s.All P) {iter : LoopIter} (items : ∀ item ∈ iter.items, item.All P) :
    (s.setIter iter).All P :=
  h.setTop ⟨h.top.vars, fun _ same => by cases same; exact items⟩

theorem All.push (h : s.All P) (parent : Option Nat) :
    All P { s with inner := ⟨[], parent, none⟩ :: s.inner } :=
  all_iff_each.mpr ((all_iff_each.mp h).push (Frame.all_empty P parent))

theorem All.pushWithParent (h : s.All P) {parent : Nat} (pushed : s.pushWithParent parent = .ok s') :
    s'.All P := by
  unfold Scope.pushWithParent at pushed
  split at pushed <;> cases pushed
  exact h.push _

theorem All.truncate (h : s.All P) (depth : Nat) : (s.truncate depth).All P :=
  all_iff_each.mpr ((all_iff_each.mp h).truncate depth)

theorem All.pop (h : s.All P) (popped : s.pop = .ok s') : s'.All P :=
  all_iff_each.mpr ((all_iff_each.mp h).pop popped)

end Scope

namespace Level

variable {P : Value → Prop} {options : ExecutionOptions} {l l' : Level} {op : Program.Resolved}

/-- The property holds of scalars, of safe texts and of the macros that a program makes. -/
structure Admits (P : Value → Prop) (loaded : Loaded) : Prop where
  scalars : ∀ v, v.IsScalar → P v
  raws : ∀ s, P (.raw s)
  macros : ∀ index callee closure, loaded.program.macroAt index = .ok callee →
    P (.macroRef ⟨loaded.id, callee.1, callee.2.name, closure⟩)

/-- The property holds of scalars, of safe texts and of the macro that an operation makes. -/
structure AdmitsAt (P : Value → Prop) (l : Level) (op : Program.Resolved) : Prop where
  scalars : ∀ v, v.IsScalar → P v
  raws : ∀ s, P (.raw s)
  made : ∀ callee, op = .makeMacro callee →
    P (.macroRef ⟨l.loaded.id, callee.1, callee.2.name, l.scope.current⟩)

/-- The property holds of scalars, of the macro that an operation makes, and of what it makes
of texts: the safe text that a filter gives, and the one that is left of a macro. -/
structure Grants (P : Value → Prop) (l : Level) (op : Program.Resolved) : Prop where
  scalars : ∀ v, v.IsScalar → P v
  filtered : ∀ f operand s, op = .filter f → operand.All P → f.apply operand = .ok (.raw s) →
    P (.raw s)
  returned : ∀ c rest, l.calls = c :: rest → P (.raw (String.join c.captured.reverse))
  made : ∀ callee, op = .makeMacro callee →
    P (.macroRef ⟨l.loaded.id, callee.1, callee.2.name, l.scope.current⟩)

theorem AdmitsAt.grants (admits : AdmitsAt P l op) : Grants P l op where
  scalars := admits.scalars
  filtered _ _ s _ _ _ := admits.raws s
  returned _ _ _ := admits.raws _
  made := admits.made

theorem Admits.at (admits : Admits P l.loaded) (fetched : l.fetch = .ok op) : AdmitsAt P l op where
  scalars := admits.scalars
  raws := admits.raws
  made callee makes := by
    subst makes
    exact admits.macros _ callee _ (macroAt_of_fetch fetched)

theorem all_start {loaded : Loaded} {vars : Vars} (h : Bindings.All P vars) (depth : Nat) :
    (Level.start loaded vars depth).All P :=
  ⟨nofun, Scope.all_ofVars h⟩

theorem All.stack_left (h : l.All P) (taken : List Value) {stack : List Value}
    (eq : l.stack = taken ++ stack) : ∀ value ∈ stack, value.All P :=
  fun value member => h.stack value (eq ▸ List.mem_append_right taken member)

theorem All.stack_taken (h : l.All P) {taken stack : List Value}
    (eq : l.stack = taken ++ stack) : ∀ value ∈ taken, value.All P :=
  fun value member => h.stack value (eq ▸ List.mem_append_left stack member)

theorem All.left (h : l.All P) (taken : List Value) {stack : List Value}
    (eq : l.stack = taken ++ stack) : ({ l with stack := stack } : Level).All P :=
  ⟨h.stack_left taken eq, h.scope⟩

/-- Output that is added is no value at the level. -/
theorem All.of_blank (same : l'.blank = l.blank) (h : l.All P) : l'.All P := by
  have stack : l'.stack = l.stack := (congrArg Level.stack same :)
  have scope : l'.scope = l.scope := (congrArg Level.scope same :)
  exact ⟨stack ▸ h.stack, scope ▸ h.scope⟩

/-- The value that an operation makes has the property if its operands have. -/
theorem Makes.all {operands : List Value} {value : Value} (makes : l.Makes options op operands value)
    (grants : Grants P l op) (scope : l.scope.All P)
    (given : ∀ operand ∈ operands, operand.All P) : value.All P := by
  have scalar {v : Value} (h : v.IsScalar) : v.All P := Value.all_of_isScalar grants.scalars h
  cases makes with
  | constant literal => exact scalar (Value.isScalar_toValue literal)
  | bound found => exact scope.lookup found
  | unbound _ _ => exact scalar trivial
  | field got => exact (given _ (List.mem_cons_self ..)).field grants.scalars got
  | index got =>
    exact (given _ (List.mem_cons_of_mem _ (List.mem_cons_self ..))).index grants.scalars got
  | binary got => exact scalar (Value.isScalar_binary got)
  | not operand => exact scalar trivial
  | negate got => exact scalar (Value.isScalar_negate got)
  | list _ => exact Value.all_list.mpr fun item member => given item (List.mem_reverse.mp member)
  | map _ =>
    refine Value.all_map.mpr (Bindings.all_ofList (all_pairs ?_))
    intro item member
    exact given item (List.mem_reverse.mp member)
  | filter got =>
    rcases Value.isScalar_or_raw_of_filter got with plain | ⟨s, rfl⟩
    · exact scalar plain
    · exact Value.all_raw.mpr (grants.filtered _ _ s rfl (given _ (List.mem_cons_self ..)) got)
  | closure callee => exact Value.all_macroRef.mpr (grants.made callee rfl)

/-- What operations keep of the values at a level. -/
theorem All.next_of_grants (h : l.All P) (grants : Grants P l op)
    (does : l.Does options op (.next l')) : l'.All P := by
  cases does with
  | make operands taken makes =>
    have made := makes.all grants h.scope (h.stack_taken taken)
    exact ⟨List.forall_mem_cons.mpr ⟨made, h.stack_left operands taken⟩, h.scope⟩
  | drop taken => exact ⟨h.stack_left [_] taken, h.scope⟩
  | store taken =>
    refine ⟨h.stack_left [_] taken, h.scope.bind _ (h.stack _ ?_)⟩
    exact taken ▸ List.mem_cons_self ..
  | jump => exact ⟨h.stack, h.scope⟩
  | pass taken _ | skip taken _ => exact ⟨h.stack_left [_] taken, h.scope⟩
  | decided => exact ⟨h.stack, h.scope⟩
  | undecided _ taken _ => exact ⟨h.stack_left [_] taken, h.scope⟩
  | startLoop taken found =>
    have value := h.stack _ (taken ▸ List.mem_cons_self ..)
    exact ⟨h.stack_left [_] taken,
      (h.scope.push _).setIter (Value.all_loopItems grants.scalars value found)⟩
  | @round var exit iter item after running next =>
    have items := h.scope.top.iter iter running
    obtain ⟨known, same⟩ := LoopIter.mem_of_advance? next
    have bound := (h.scope.setIter (same ▸ items)).bind var (items item known)
    exact ⟨h.stack, bound.bind "loop" (all_loopInfo grants.scalars _ _)⟩
  | endLoop _ _ popped => exact ⟨h.stack, h.scope.pop popped⟩
  | @enterMacro count args ref stack callee scope taken _ _ _ _ _ pushed =>
    have given : Bindings.All P (callee.2.params.zip args.reverse) := by
      intro arg member
      exact h.stack_taken taken arg.2 (List.mem_reverse.mp (List.of_mem_zip member).2)
    exact ⟨h.stack_left (args ++ [_]) (by simpa using taken),
      (h.scope.pushWithParent pushed).bindAll given⟩
  | @leaveMacro c calls calling =>
    have text := Value.all_raw.mpr (grants.returned c calls calling)
    exact ⟨List.forall_mem_cons.mpr ⟨text, h.stack⟩, h.scope.truncate _⟩

theorem All.next (h : l.All P) (admits : AdmitsAt P l op) (does : l.Does options op (.next l')) :
    l'.All P :=
  h.next_of_grants admits.grants does

theorem All.includedVars {args : Value} {vars : Vars} (h : l.All P) (given : args.All P)
    (taken : Machine.includedVars l args = .ok vars) : Bindings.All P vars := by
  unfold Machine.includedVars at taken
  split at taken <;> cases taken
  · exact h.scope.visible.insertAll (Value.all_map.mp given)
  · exact h.scope.visible

/-- What holds of the values at a level holds of the variables of a template that it
includes. -/
theorem All.given {name : String} {args : Value} {vars : Vars} (h : l.All P)
    (does : l.Does options op (.enter name args l'))
    (taken : Machine.includedVars l' args = .ok vars) : Bindings.All P vars := by
  cases does with
  | inclusion eq =>
    have operand := h.stack args (eq ▸ List.mem_cons_self ..)
    exact (h.left [_, _] eq).includedVars operand taken

end Level
end TemplateEngine
