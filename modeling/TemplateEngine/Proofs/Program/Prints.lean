import TemplateEngine.Proofs.Program.Code

/-!
# What programs print as it stands

Of a template that is compiled with escaping and uses no filter that marks a text
as safe, only the texts outside of tags are printed as they stand. Each one is
put on the stack by the operation right before.
-/

namespace TemplateEngine

namespace Expr

mutual

/-- The names of the filters that an expression uses. -/
def filters : Expr → List String
  | literal _ | var _ => []
  | list items => filtersOfList items
  | attr object _ => filters object
  | index collection key => filters collection ++ filters key
  | call function args => filters function ++ filtersOfList args
  | filter operand name _ => name :: filters operand
  | unary _ operand => filters operand
  | binary _ left right => filters left ++ filters right
  | logic _ left right => filters left ++ filters right

def filtersOfList : List Expr → List String
  | [] => []
  | e :: rest => filters e ++ filtersOfList rest

end

def filtersOfArgs : List (String × Expr) → List String
  | [] => []
  | (_, e) :: rest => filters e ++ filtersOfArgs rest

end Expr

namespace Node

mutual

/-- The names of the filters that a node uses. -/
def filters : Node → List String
  | text _ => []
  | print e => e.filters
  | branch test body rest => test.filters ++ filtersOfList body ++ filtersOfRest rest
  | foreach _ iterable body => iterable.filters ++ filtersOfList body
  | loop test body => test.filters ++ filtersOfList body
  | assign _ value => value.filters
  | define _ _ body => filtersOfList body
  | inclusion template args => template.filters ++ Expr.filtersOfArgs args

def filtersOfRest : Alternatives → List String
  | .done => []
  | .otherwise body => filtersOfList body
  | .elsif test body rest => test.filters ++ filtersOfList body ++ filtersOfRest rest

def filtersOfList : List Node → List String
  | [] => []
  | node :: rest => filters node ++ filtersOfList rest

end

mutual

/-- The texts outside of tags in a node. -/
def texts : Node → List String
  | text s => [s]
  | branch _ body rest => textsOfList body ++ textsOfRest rest
  | foreach _ _ body | loop _ body | define _ _ body => textsOfList body
  | print _ | assign _ _ | inclusion _ _ => []

def textsOfRest : Alternatives → List String
  | .done => []
  | .otherwise body => textsOfList body
  | .elsif _ body rest => textsOfList body ++ textsOfRest rest

def textsOfList : List Node → List String
  | [] => []
  | node :: rest => texts node ++ textsOfList rest

end

end Node

namespace Template

/-- The names of the filters that a template uses. -/
def filters (t : Template) : List String := Node.filtersOfList t.body

/-- The texts outside of tags. -/
def texts (t : Template) : List String := Node.textsOfList t.body

end Template

/-- The names under which the filter is called that marks a text as safe. -/
def markingFilters : List String := ["raw", "mark_raw"]

theorem Filter.mem_markingFilters {name : String} (h : ofName? name = some .raw) :
    name ∈ markingFilters := by
  unfold ofName? at h
  split at h
  · simp [markingFilters]
  · simp [markingFilters]
  all_goals cases h

/-- The operation neither prints a text as it stands nor marks it as safe. -/
def Op.Escaping (op : SourceOp) : Prop := op ≠ .print .raw ∧ op ≠ .filter .raw

/-- Nothing is marked as safe, and what is printed as it stands are given texts,
each put on the stack right before. -/
inductive Escaping (texts : String → Prop) : List SourceOp → Prop
  | nil : Escaping texts []
  | cons {op rest} : op.Escaping → Escaping texts rest → Escaping texts (op :: rest)
  | text {s rest} : texts s → Escaping texts rest →
      Escaping texts (.constLoad (.str s) :: .print .raw :: rest)

namespace Escaping

variable {texts : String → Prop} {ops others : List SourceOp}

theorem append (h : Escaping texts ops) (h' : Escaping texts others) :
    Escaping texts (ops ++ others) := by
  induction h with
  | nil => exact h'
  | cons escaping _ ih => exact .cons escaping ih
  | text given _ ih => exact .text given ih

theorem of_forall (h : ∀ op ∈ ops, op.Escaping) : Escaping texts ops := by
  induction ops with
  | nil => exact .nil
  | cons op rest ih =>
    obtain ⟨first, later⟩ := List.forall_mem_cons.mp h
    exact .cons first (ih later)

/-- A text is put on the stack right before it is printed as it stands. -/
theorem exists_text (h : Escaping texts ops) {k : Nat} (printed : ops[k]? = some (.print .raw)) :
    ∃ j s, k = j + 1 ∧ ops[j]? = some (.constLoad (.str s)) ∧ texts s := by
  induction h generalizing k with
  | nil => simp at printed
  | cons escaping _ ih =>
    cases k with
    | zero =>
      simp only [List.getElem?_cons_zero, Option.some.injEq] at printed
      exact absurd printed escaping.1
    | succ k =>
      obtain ⟨j, s, rfl, loaded, given⟩ := ih printed
      exact ⟨j + 1, s, rfl, loaded, given⟩
  | @text s rest given _ ih =>
    match k, printed with
    | 0, printed => simp at printed
    | 1, _ => exact ⟨0, s, rfl, rfl, given⟩
    | k + 2, printed =>
      obtain ⟨j, s, rfl, loaded, given⟩ := ih printed
      exact ⟨j + 2, s, rfl, loaded, given⟩

theorem not_marked (h : Escaping texts ops) : .filter .raw ∉ ops := by
  induction h with
  | nil => exact List.not_mem_nil
  | cons escaping _ ih => exact List.not_mem_cons_of_ne_of_not_mem escaping.2.symm ih
  | text _ _ ih => simpa using ih

end Escaping

theorem forall_escaping_append {ops others : List SourceOp} (h : ∀ op ∈ ops, op.Escaping)
    (h' : ∀ op ∈ others, op.Escaping) : ∀ op ∈ ops ++ others, op.Escaping :=
  List.forall_mem_append.mpr ⟨h, h'⟩

mutual

theorem ExprCode.escaping : ∀ {start e ops}, ExprCode start e ops →
    (∀ name ∈ e.filters, name ∉ markingFilters) → ∀ op ∈ ops, op.Escaping
  | _, _, _, .literal, _ => by simp [Op.Escaping]
  | _, _, _, .list each, h => forall_escaping_append (each.escaping h) (by simp [Op.Escaping])
  | _, _, _, .var, _ => by simp [Op.Escaping]
  | _, _, _, .attr inner, h => forall_escaping_append (inner.escaping h) (by simp [Op.Escaping])
  | _, _, _, .index first second, h => by
    obtain ⟨hf, hs⟩ := List.forall_mem_append.mp h
    exact forall_escaping_append (first.escaping hf)
      (forall_escaping_append (second.escaping hs) (by simp [Op.Escaping]))
  | _, _, _, .call callee each, h => by
    obtain ⟨hc, he⟩ := List.forall_mem_append.mp h
    exact forall_escaping_append (callee.escaping hc)
      (forall_escaping_append (each.escaping he) (by simp [Op.Escaping]))
  | _, _, _, @ExprCode.filter _ _ _ _ f _ found inner, h => by
    obtain ⟨hn, ho⟩ := List.forall_mem_cons.mp h
    have unmarked : f ≠ .raw := by
      rintro rfl
      exact hn (Filter.mem_markingFilters found)
    exact forall_escaping_append (inner.escaping ho) (by simp [Op.Escaping, unmarked])
  | _, _, _, .neg inner, h => forall_escaping_append (inner.escaping h) (by simp [Op.Escaping])
  | _, _, _, .not inner, h => forall_escaping_append (inner.escaping h) (by simp [Op.Escaping])
  | _, _, _, .binary first second, h => by
    obtain ⟨hf, hs⟩ := List.forall_mem_append.mp h
    exact forall_escaping_append (first.escaping hf)
      (forall_escaping_append (second.escaping hs) (by simp [Op.Escaping]))
  | _, _, _, .conj first second, h => by
    obtain ⟨hf, hs⟩ := List.forall_mem_append.mp h
    refine forall_escaping_append (first.escaping hf) (List.forall_mem_cons.mpr ⟨?_, second.escaping hs⟩)
    simp [Op.Escaping]
  | _, _, _, .disj first second, h => by
    obtain ⟨hf, hs⟩ := List.forall_mem_append.mp h
    refine forall_escaping_append (first.escaping hf) (List.forall_mem_cons.mpr ⟨?_, second.escaping hs⟩)
    simp [Op.Escaping]

theorem ExprListCode.escaping : ∀ {start items ops}, ExprListCode start items ops →
    (∀ name ∈ Expr.filtersOfList items, name ∉ markingFilters) → ∀ op ∈ ops, op.Escaping
  | _, _, _, .nil, _ => nofun
  | _, _, _, .cons first others, h => by
    obtain ⟨hf, ho⟩ := List.forall_mem_append.mp h
    exact forall_escaping_append (first.escaping hf) (others.escaping ho)

end

theorem ArgsCode.escaping {start args ops} (code : ArgsCode start args ops)
    (h : ∀ name ∈ Expr.filtersOfArgs args, name ∉ markingFilters) : ∀ op ∈ ops, op.Escaping := by
  induction code with
  | nil => exact nofun
  | cons first _ ih =>
    obtain ⟨hf, ho⟩ := List.forall_mem_append.mp h
    refine List.forall_mem_cons.mpr ⟨?_, forall_escaping_append (first.escaping hf) (ih ho)⟩
    simp [Op.Escaping]

variable {options : CompileOptions} {texts : String → Prop}

theorem escaping_branch {start : Nat} {cond inner others : List SourceOp}
    (hc : ∀ op ∈ cond, op.Escaping) (hi : Escaping texts inner) (ho : Escaping texts others) :
    Escaping texts (branchCode start cond inner others) := by
  refine (Escaping.of_forall hc).append (.cons ?_ (hi.append (.cons ?_ ho))) <;> simp [Op.Escaping]

mutual

theorem NodeCode.escaping (escapes : options.autoEscape = true) :
    ∀ {start node ops}, NodeCode options start node ops →
      (∀ name ∈ node.filters, name ∉ markingFilters) → (∀ s ∈ node.texts, texts s) →
      Escaping texts ops
  | _, _, _, .noText, _, _ => .nil
  | _, _, _, .text _, _, given => .text (given _ (List.mem_singleton_self _)) .nil
  | _, _, _, .print value, h, _ =>
    .of_forall (forall_escaping_append (value.escaping h)
      (by simp [Op.Escaping, Node.printMode, escapes]))
  | _, _, _, .branch test body rest, h, given => by
    obtain ⟨h, hr⟩ := List.forall_mem_append.mp h
    obtain ⟨ht, hb⟩ := List.forall_mem_append.mp h
    obtain ⟨gb, gr⟩ := List.forall_mem_append.mp given
    exact escaping_branch (test.escaping ht) (body.escaping escapes hb gb)
      (rest.escaping escapes hr gr)
  | _, _, _, .foreach items body, h, given => by
    obtain ⟨hi, hb⟩ := List.forall_mem_append.mp h
    refine (Escaping.of_forall (items.escaping hi)).append (.cons ?_ (.cons ?_
      ((body.escaping escapes hb given).append (.cons ?_ .nil)))) <;> simp [Op.Escaping]
  | _, _, _, .loop test body, h, given => by
    obtain ⟨ht, hb⟩ := List.forall_mem_append.mp h
    refine (Escaping.of_forall (test.escaping ht)).append (.cons ?_
      ((body.escaping escapes hb given).append (.cons ?_ .nil))) <;> simp [Op.Escaping]
  | _, _, _, .assign value, h, _ =>
    .of_forall (forall_escaping_append (value.escaping h) (by simp [Op.Escaping]))
  | _, _, _, .define body, h, given => by
    refine .cons ?_ (.cons ?_ (.cons ?_
      ((body.escaping escapes h given).append (.cons ?_ .nil)))) <;> simp [Op.Escaping]
  | _, _, _, .inclusion template args, h, _ => by
    obtain ⟨ht, ha⟩ := List.forall_mem_append.mp h
    exact .of_forall (forall_escaping_append (template.escaping ht)
      (forall_escaping_append (args.escaping ha) (by simp [Op.Escaping])))

theorem RestCode.escaping (escapes : options.autoEscape = true) :
    ∀ {start rest ops}, RestCode options start rest ops →
      (∀ name ∈ Node.filtersOfRest rest, name ∉ markingFilters) →
      (∀ s ∈ Node.textsOfRest rest, texts s) → Escaping texts ops
  | _, _, _, .done, _, _ => .nil
  | _, _, _, .otherwise body, h, given => body.escaping escapes h given
  | _, _, _, .elsif test body rest, h, given => by
    obtain ⟨h, hr⟩ := List.forall_mem_append.mp h
    obtain ⟨ht, hb⟩ := List.forall_mem_append.mp h
    obtain ⟨gb, gr⟩ := List.forall_mem_append.mp given
    exact escaping_branch (test.escaping ht) (body.escaping escapes hb gb)
      (rest.escaping escapes hr gr)

theorem BodyCode.escaping (escapes : options.autoEscape = true) :
    ∀ {start body ops}, BodyCode options start body ops →
      (∀ name ∈ Node.filtersOfList body, name ∉ markingFilters) →
      (∀ s ∈ Node.textsOfList body, texts s) → Escaping texts ops
  | _, _, _, .nil, _, _ => .nil
  | _, _, _, .cons node rest, h, given => by
    obtain ⟨hn, hr⟩ := List.forall_mem_append.mp h
    obtain ⟨gn, gr⟩ := List.forall_mem_append.mp given
    exact (node.escaping escapes hn gn).append (rest.escaping escapes hr gr)

end

end TemplateEngine
