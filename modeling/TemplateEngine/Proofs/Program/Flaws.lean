import TemplateEngine.Program.Compile

/-!
# Flaws of templates

A template has a flaw where a filter has a name that no filter has, and where a parameter of
a macro repeats an earlier one. The compiler refuses exactly the templates with a flaw, and
what it reports is the first flaw that it comes to: it goes through all of the tree, also
through what no run gets to.
-/

namespace TemplateEngine

/-- What is wrong, and where. -/
abbrev Flaw := Span × CompileFault

/-- What a piece of code failed with. -/
def Code.flaw? : Code → Option Flaw
  | .ok _ => none
  | .error flaw => some flaw

/-- Of two computations in a row the first flaw counts. -/
theorem Code.flaw?_bind {x : Code} {f : List SourceOp → Code} {first later : List Flaw}
    (hx : Code.flaw? x = first.head?) (hf : ∀ ops, Code.flaw? (f ops) = later.head?) :
    Code.flaw? (x >>= f) = (first ++ later).head? := by
  cases x with
  | ok ops =>
    have none : first = [] := List.head?_eq_none_iff.mp hx.symm
    rw [none]
    exact hf ops
  | error flaw =>
    obtain ⟨rest, rfl⟩ := List.head?_eq_some_iff.mp hx.symm
    rfl

/-- What is made of a finished piece of code adds no flaw. -/
theorem Code.flaw?_map {x : Code} {g : List SourceOp → List SourceOp} {flaws : List Flaw}
    (hx : Code.flaw? x = flaws.head?) :
    Code.flaw? (x >>= fun ops => pure (g ops)) = flaws.head? := by
  rw [← List.append_nil flaws]
  exact Code.flaw?_bind hx fun _ => rfl

namespace Expr

/-- The parts of an expression. -/
def parts : Expr → List Expr
  | literal _ | var _ => []
  | list items => items
  | attr object _ => [object]
  | index collection key => [collection, key]
  | call function args => function :: args
  | filter operand _ _ | unary _ operand => [operand]
  | binary _ left right | logic _ left right => [left, right]

/-- The expression stands in another one, at any depth. -/
inductive Within : Expr → Expr → Prop
  | self {e : Expr} : Within e e
  | part {e part whole : Expr} : part ∈ whole.parts → Within e part → Within e whole

/-- The flaw of a filter itself. -/
def ownFlaws : Expr → List Flaw
  | filter _ name span =>
    if Filter.ofName? name = none then [(span, .unknownFilter name)] else []
  | _ => []

mutual

/-- The flaws of an expression, in the order in which the compiler comes to them. -/
def flaws : Expr → List Flaw
  | literal _ | var _ => []
  | list items => flawsOfItems items
  | attr object _ => flaws object
  | index collection key => flaws collection ++ flaws key
  | call function args => flaws function ++ flawsOfItems args
  | filter operand name span => ownFlaws (filter operand name span) ++ flaws operand
  | unary _ operand => flaws operand
  | binary _ left right | logic _ left right => flaws left ++ flaws right

def flawsOfItems : List Expr → List Flaw
  | [] => []
  | item :: rest => flaws item ++ flawsOfItems rest

end

mutual

/-- The code of an expression fails with its first flaw. -/
theorem flaw?_code : ∀ (e : Expr) (start : Nat), Code.flaw? (code start e) = e.flaws.head?
  | literal _, _ | var _, _ => rfl
  | list items, start => by
    rw [code, flaws]
    exact Code.flaw?_map (flaw?_codeList items start)
  | attr object _, start => by
    rw [code, flaws]
    exact Code.flaw?_map (flaw?_code object start)
  | index collection key, start => by
    rw [code, flaws]
    exact Code.flaw?_bind (flaw?_code collection start) fun _ => Code.flaw?_map (flaw?_code key _)
  | call function args, start => by
    rw [code, flaws]
    exact Code.flaw?_bind (flaw?_code function start) fun _ => Code.flaw?_map (flaw?_codeList args _)
  | filter operand name span, start => by
    rw [code, flaws, ownFlaws]
    split
    case h_1 unknown =>
      rw [if_pos unknown]
      rfl
    case h_2 f known =>
      rw [if_neg (by simp [known])]
      exact Code.flaw?_map (flaw?_code operand start)
  | unary .neg operand, start | unary .not operand, start => by
    rw [code, flaws]
    exact Code.flaw?_map (flaw?_code operand start)
  | binary _ left right, start | logic _ left right, start => by
    rw [code, flaws]
    exact Code.flaw?_bind (flaw?_code left start) fun _ => Code.flaw?_map (flaw?_code right _)

theorem flaw?_codeList : ∀ (items : List Expr) (start : Nat),
    Code.flaw? (codeList start items) = (flawsOfItems items).head?
  | [], _ => rfl
  | item :: rest, start => by
    rw [codeList, flawsOfItems]
    exact Code.flaw?_bind (flaw?_code item start) fun _ => Code.flaw?_map (flaw?_codeList rest _)

end

theorem flaw?_codeArgs (args : List (String × Expr)) (start : Nat) :
    Code.flaw? (codeArgs start args) = (flawsOfItems (args.map Prod.snd)).head? := by
  induction args generalizing start with
  | nil => rfl
  | cons arg rest ih =>
    rw [codeArgs, List.map_cons, flawsOfItems]
    exact Code.flaw?_bind (flaw?_code arg.2 _) fun _ => Code.flaw?_map (ih _)

variable {flaw : Flaw} {e inner part : Expr}

theorem mem_flawsOfItems {items : List Expr} :
    flaw ∈ flawsOfItems items ↔ ∃ item ∈ items, flaw ∈ item.flaws := by
  induction items with
  | nil => simp [flawsOfItems]
  | cons item rest ih => simp [flawsOfItems, ih]

theorem mem_flaws : flaw ∈ e.flaws ↔ flaw ∈ e.ownFlaws ∨ ∃ part ∈ e.parts, flaw ∈ part.flaws := by
  cases e <;> simp [flaws, ownFlaws, parts, mem_flawsOfItems]

theorem sizeOf_part (h : part ∈ e.parts) : sizeOf part < sizeOf e := by
  cases e with
  | literal | var => cases h
  | list items =>
    have : sizeOf part < sizeOf items := List.sizeOf_lt_of_mem h
    simp
    omega
  | call function args =>
    rcases List.mem_cons.mp h with rfl | h
    · simp
      omega
    · have := List.sizeOf_lt_of_mem h
      simp
      omega
  | attr | index | filter | unary | binary | logic =>
    simp only [parts, List.mem_cons, List.not_mem_nil, or_false] at h
    rcases h with rfl | rfl <;> simp <;> omega

/-- Every flaw of an expression is the flaw of a filter in it. -/
theorem exists_within_of_mem_flaws (e : Expr) (h : flaw ∈ e.flaws) :
    ∃ inner : Expr, inner.Within e ∧ flaw ∈ inner.ownFlaws := by
  rcases mem_flaws.mp h with own | ⟨part, member, h⟩
  · exact ⟨e, .self, own⟩
  · have := sizeOf_part member
    obtain ⟨inner, within, own⟩ := exists_within_of_mem_flaws part h
    exact ⟨inner, .part member within, own⟩
termination_by sizeOf e

theorem Within.mem_flaws (h : inner.Within e) (own : flaw ∈ inner.ownFlaws) : flaw ∈ e.flaws := by
  induction h with
  | self => exact Expr.mem_flaws.mpr (.inl own)
  | part member _ ih => exact Expr.mem_flaws.mpr (.inr ⟨_, member, ih⟩)

theorem mem_ownFlaws : flaw ∈ e.ownFlaws ↔ ∃ operand name, e = filter operand name flaw.1 ∧
    Filter.ofName? name = none ∧ flaw.2 = .unknownFilter name := by
  constructor
  · intro member
    cases e with
    | filter operand name span =>
      rw [ownFlaws] at member
      split at member
      case isFalse => cases member
      case isTrue unknown =>
        cases List.mem_singleton.mp member
        exact ⟨operand, name, rfl, unknown, rfl⟩
    | _ => cases member
  · rintro ⟨operand, name, rfl, unknown, same⟩
    rw [ownFlaws, if_pos unknown, List.mem_singleton]
    exact Prod.ext rfl same

end Expr

/-- The conditions of the alternatives of an `IF` block. -/
def Alternatives.tests : Alternatives → List Expr
  | .done | .otherwise _ => []
  | .elsif test _ rest => test :: rest.tests

/-- The nodes in the bodies of the alternatives of an `IF` block. -/
def Alternatives.nodes : Alternatives → List Node
  | .done => []
  | .otherwise body => body
  | .elsif _ body rest => body ++ rest.nodes

namespace Node

/-- The expressions that belong to a node itself. -/
def exprs : Node → List Expr
  | text _ | define _ _ _ => []
  | print e | foreach _ e _ | loop e _ | assign _ e => [e]
  | branch test _ rest => test :: rest.tests
  | inclusion template args => template :: args.map Prod.snd

/-- The nodes in the bodies of a node. -/
def nodes : Node → List Node
  | text _ | print _ | assign _ _ | inclusion _ _ => []
  | branch _ body rest => body ++ rest.nodes
  | foreach _ _ body | loop _ body | define _ _ body => body

/-- The node stands in another one, at any depth. -/
inductive Within : Node → Node → Prop
  | self {node : Node} : Within node node
  | inside {node part whole : Node} : part ∈ whole.nodes → Within node part → Within node whole

/-- The flaw of the parameters of a macro. -/
def ownFlaws : Node → List Flaw
  | define name params _ =>
    match repeatedParam? [] params with
    | some (param, span) => [(span, .duplicateParam name param)]
    | none => []
  | _ => []

mutual

/-- The flaws of a node, in the order in which the compiler comes to them. -/
def flaws : Node → List Flaw
  | text _ => []
  | print e => e.flaws
  | branch test body rest => test.flaws ++ (flawsOfBody body ++ flawsOfRest rest)
  | foreach _ iterable body => iterable.flaws ++ flawsOfBody body
  | loop test body => test.flaws ++ flawsOfBody body
  | assign _ value => value.flaws
  | define name params body => ownFlaws (define name params body) ++ flawsOfBody body
  | inclusion template args => template.flaws ++ Expr.flawsOfItems (args.map Prod.snd)

def flawsOfRest : Alternatives → List Flaw
  | .done => []
  | .otherwise body => flawsOfBody body
  | .elsif test body rest => test.flaws ++ (flawsOfBody body ++ flawsOfRest rest)

def flawsOfBody : List Node → List Flaw
  | [] => []
  | node :: rest => flaws node ++ flawsOfBody rest

end

variable (options : CompileOptions)

mutual

/-- The code of a node fails with its first flaw. -/
theorem flaw?_code : ∀ (node : Node) (start : Nat),
    Code.flaw? (code options start node) = node.flaws.head?
  | text _, _ => by
    rw [code]
    rfl
  | print e, start => by
    rw [code, flaws]
    exact Code.flaw?_map (e.flaw?_code start)
  | branch test body rest, start => by
    rw [code, flaws]
    exact Code.flaw?_bind (test.flaw?_code start) fun _ =>
      Code.flaw?_bind (flaw?_codeList body _) fun _ => Code.flaw?_map (flaw?_codeRest rest _)
  | foreach _ iterable body, start => by
    rw [code, flaws]
    exact Code.flaw?_bind (iterable.flaw?_code start) fun _ => Code.flaw?_map (flaw?_codeList body _)
  | loop test body, start => by
    rw [code, flaws]
    exact Code.flaw?_bind (test.flaw?_code start) fun _ => Code.flaw?_map (flaw?_codeList body _)
  | assign _ value, start => by
    rw [code, flaws]
    exact Code.flaw?_map (value.flaw?_code start)
  | define name params body, start => by
    rw [code, flaws, ownFlaws]
    cases repeatedParam? [] params with
    | some repeated => rfl
    | none => exact Code.flaw?_map (flaw?_codeList body _)
  | inclusion template args, start => by
    rw [code, flaws]
    exact Code.flaw?_bind (template.flaw?_code start) fun _ =>
      Code.flaw?_map (Expr.flaw?_codeArgs args _)

theorem flaw?_codeRest : ∀ (rest : Alternatives) (start : Nat),
    Code.flaw? (codeRest options start rest) = (flawsOfRest rest).head?
  | .done, _ => by
    rw [codeRest]
    rfl
  | .otherwise body, start => by
    rw [codeRest, flawsOfRest]
    exact flaw?_codeList body start
  | .elsif test body rest, start => by
    rw [codeRest, flawsOfRest]
    exact Code.flaw?_bind (test.flaw?_code start) fun _ =>
      Code.flaw?_bind (flaw?_codeList body _) fun _ => Code.flaw?_map (flaw?_codeRest rest _)

theorem flaw?_codeList : ∀ (body : List Node) (start : Nat),
    Code.flaw? (codeList options start body) = (flawsOfBody body).head?
  | [], _ => by
    rw [codeList]
    rfl
  | node :: rest, start => by
    rw [codeList, flawsOfBody]
    exact Code.flaw?_bind (flaw?_code node start) fun _ => Code.flaw?_map (flaw?_codeList rest _)

end

variable {flaw : Flaw} {node inner : Node}

theorem mem_flawsOfBody {body : List Node} :
    flaw ∈ flawsOfBody body ↔ ∃ node ∈ body, flaw ∈ node.flaws := by
  induction body with
  | nil => simp [flawsOfBody]
  | cons node rest ih => simp [flawsOfBody, ih]

theorem mem_flawsOfRest (rest : Alternatives) : flaw ∈ flawsOfRest rest ↔
    (∃ e ∈ rest.tests, flaw ∈ e.flaws) ∨ ∃ node ∈ rest.nodes, flaw ∈ node.flaws := by
  cases rest with
  | done => simp [flawsOfRest, Alternatives.tests, Alternatives.nodes]
  | otherwise body =>
    simp [flawsOfRest, Alternatives.tests, Alternatives.nodes, mem_flawsOfBody]
  | elsif test body rest =>
    simp only [flawsOfRest, Alternatives.tests, Alternatives.nodes, List.mem_append, List.mem_cons,
      mem_flawsOfBody, mem_flawsOfRest rest, or_and_right, exists_or, exists_eq_left, or_assoc,
      or_left_comm]

theorem mem_flaws : flaw ∈ node.flaws ↔
    (∃ e ∈ node.exprs, flaw ∈ e.flaws) ∨ flaw ∈ node.ownFlaws ∨
      ∃ inner ∈ node.nodes, flaw ∈ inner.flaws := by
  cases node with
  | text | print | assign => simp [flaws, exprs, nodes, ownFlaws]
  | foreach | loop | define => simp [flaws, exprs, nodes, ownFlaws, mem_flawsOfBody]
  | inclusion => simp [flaws, exprs, nodes, ownFlaws, Expr.mem_flawsOfItems]
  | branch test body rest =>
    simp only [flaws, exprs, nodes, ownFlaws, List.mem_append, List.mem_cons, mem_flawsOfBody,
      mem_flawsOfRest, or_and_right, exists_or, exists_eq_left, List.not_mem_nil, false_or, or_assoc,
      or_left_comm]

theorem sizeOf_mem_alternatives : ∀ rest : Alternatives, inner ∈ rest.nodes →
    sizeOf inner < sizeOf rest
  | .otherwise body, h => by
    have : sizeOf inner < sizeOf body := List.sizeOf_lt_of_mem h
    simp
    omega
  | .elsif test body rest, h => by
    rcases List.mem_append.mp h with h | h
    · have := List.sizeOf_lt_of_mem h
      simp
      omega
    · have := sizeOf_mem_alternatives rest h
      simp
      omega

theorem sizeOf_mem_nodes (h : inner ∈ node.nodes) : sizeOf inner < sizeOf node := by
  cases node with
  | text | print | assign | inclusion => cases h
  | branch test body rest =>
    rcases List.mem_append.mp h with h | h
    · have := List.sizeOf_lt_of_mem h
      simp
      omega
    · have := sizeOf_mem_alternatives rest h
      simp
      omega
  | foreach _ _ body | loop _ body | define _ _ body =>
    have : sizeOf inner < sizeOf body := List.sizeOf_lt_of_mem h
    simp
    omega

/-- Every flaw of a node is a flaw of the parameters or of an expression of a node in it. -/
theorem exists_within_of_mem_flaws (node : Node) (h : flaw ∈ node.flaws) :
    ∃ inner : Node, inner.Within node ∧
      ((∃ e ∈ inner.exprs, flaw ∈ e.flaws) ∨ flaw ∈ inner.ownFlaws) := by
  rcases mem_flaws.mp h with h | h | ⟨part, member, h⟩
  · exact ⟨node, .self, .inl h⟩
  · exact ⟨node, .self, .inr h⟩
  · have := sizeOf_mem_nodes member
    obtain ⟨inner, within, own⟩ := exists_within_of_mem_flaws part h
    exact ⟨inner, .inside member within, own⟩
termination_by sizeOf node

theorem Within.mem_flaws (h : inner.Within node)
    (own : (∃ e ∈ inner.exprs, flaw ∈ e.flaws) ∨ flaw ∈ inner.ownFlaws) : flaw ∈ node.flaws := by
  induction h with
  | self => exact Node.mem_flaws.mpr (own.imp_right .inl)
  | inside member _ ih => exact Node.mem_flaws.mpr (.inr (.inr ⟨_, member, ih⟩))

/-- A parameter is reported iff it repeats a parameter before it, or one that was seen already,
and none before it does. -/
theorem repeatedParam?_eq_some {seen : List String} {params : List (String × Span)}
    {param : String} {span : Span} :
    repeatedParam? seen params = some (param, span) ↔
      ∃ before after, params = before ++ (param, span) :: after ∧
        (param ∈ seen ∨ param ∈ before.map Prod.fst) ∧ (before.map Prod.fst).Nodup ∧
        ∀ name ∈ before.map Prod.fst, name ∉ seen := by
  induction params generalizing seen with
  | nil => simp [repeatedParam?]
  | cons entry rest ih =>
    obtain ⟨name, place⟩ := entry
    rw [repeatedParam?]
    split
    case isTrue again =>
      constructor
      · intro found
        cases found
        exact ⟨[], rest, rfl, .inl again, List.nodup_nil, nofun⟩
      · rintro ⟨before, after, eq, known, distinct, new⟩
        cases before with
        | nil =>
          cases eq
          rfl
        | cons first before =>
          cases eq
          exact absurd again (new name (by simp))
    case isFalse fresh =>
      rw [ih]
      constructor
      · rintro ⟨before, after, rfl, known, distinct, new⟩
        refine ⟨(name, place) :: before, after, rfl, ?_, ?_, ?_⟩
        · simpa [or_assoc, or_left_comm] using known
        · refine List.nodup_cons.mpr ⟨fun member => ?_, distinct⟩
          exact new name member List.mem_cons_self
        · refine List.forall_mem_cons.mpr ⟨fresh, fun other member known => ?_⟩
          exact new other member (List.mem_cons_of_mem _ known)
      · rintro ⟨before, after, eq, known, distinct, new⟩
        cases before with
        | nil =>
          cases eq
          exact absurd (known.resolve_right nofun) fresh
        | cons first before =>
          cases eq
          obtain ⟨other, distinct⟩ := List.nodup_cons.mp distinct
          refine ⟨before, after, rfl, ?_, distinct, fun later member known => ?_⟩
          · simpa [or_assoc, or_left_comm] using known
          · rcases List.mem_cons.mp known with rfl | known
            · exact other member
            · exact new later (List.mem_cons_of_mem _ member) known

theorem mem_ownFlaws {flaw : Flaw} {node : Node} : flaw ∈ node.ownFlaws ↔
    ∃ name before after param body, node = define name (before ++ (param, flaw.1) :: after) body ∧
      param ∈ before.map Prod.fst ∧ (before.map Prod.fst).Nodup ∧
      flaw.2 = .duplicateParam name param := by
  obtain ⟨span, fault⟩ := flaw
  constructor
  · intro member
    cases node with
    | define name params body =>
      rw [ownFlaws] at member
      split at member
      case h_2 => cases member
      case h_1 param place repeated =>
        cases List.mem_singleton.mp member
        obtain ⟨before, after, rfl, known, distinct, -⟩ := repeatedParam?_eq_some.mp repeated
        exact ⟨name, before, after, param, body, rfl, known.resolve_left List.not_mem_nil, distinct, rfl⟩
    | _ => cases member
  · rintro ⟨name, before, after, param, body, rfl, known, distinct, rfl⟩
    have repeated : repeatedParam? [] (before ++ (param, span) :: after) = some (param, span) :=
      repeatedParam?_eq_some.mpr
        ⟨before, after, rfl, .inr known, distinct, fun _ _ => List.not_mem_nil⟩
    simp [ownFlaws, repeated]

end Node

namespace Template

/-- What is wrong with a template and where: the filters without a meaning and, for each macro
with a repeated parameter, the first parameter that repeats an earlier one. They may stand at any
depth, whether or not a run gets there. -/
inductive HasFlaw (t : Template) : Span → CompileFault → Prop
  | unknownFilter {root node : Node} {e operand : Expr} {name : String} {span : Span} :
      root ∈ t.body → node.Within root → e ∈ node.exprs →
      (Expr.filter operand name span).Within e → Filter.ofName? name = none →
      HasFlaw t span (.unknownFilter name)
  | repeatedParam {root : Node} {name param : String} {span : Span} {body : List Node}
      {before after : List (String × Span)} :
      root ∈ t.body → (Node.define name (before ++ (param, span) :: after) body).Within root →
      param ∈ before.map Prod.fst → (before.map Prod.fst).Nodup →
      HasFlaw t span (.duplicateParam name param)

variable {t : Template} {options : CompileOptions} {source : String}

theorem hasFlaw_iff {span : Span} {fault : CompileFault} :
    t.HasFlaw span fault ↔ (span, fault) ∈ Node.flawsOfBody t.body := by
  rw [Node.mem_flawsOfBody]
  constructor
  · intro flawed
    cases flawed with
    | unknownFilter root node e within unknown =>
      refine ⟨_, root, node.mem_flaws (.inl ⟨_, e, within.mem_flaws ?_⟩)⟩
      exact Expr.mem_ownFlaws.mpr ⟨_, _, rfl, unknown, rfl⟩
    | repeatedParam root node known distinct =>
      refine ⟨_, root, node.mem_flaws (.inr ?_)⟩
      exact Node.mem_ownFlaws.mpr ⟨_, _, _, _, _, rfl, known, distinct, rfl⟩
  · rintro ⟨root, member, flawed⟩
    obtain ⟨node, within, ⟨e, inside, flawed⟩ | own⟩ := root.exists_within_of_mem_flaws flawed
    · obtain ⟨inner, deep, own⟩ := e.exists_within_of_mem_flaws flawed
      obtain ⟨operand, name, rfl, unknown, same⟩ := Expr.mem_ownFlaws.mp own
      cases same
      exact .unknownFilter member within inside deep unknown
    · obtain ⟨name, before, after, param, body, rfl, known, distinct, same⟩ :=
        Node.mem_ownFlaws.mp own
      cases same
      exact .repeatedParam member within known distinct

/-- The error of a template is its first flaw in the order of the compiler. -/
theorem compile_eq_error_iff {e : CompileError} : t.compile options source = .error e ↔
    (Node.flawsOfBody t.body).head? = some (e.span, e.fault) ∧ e.name = t.name ∧
      e.source = source := by
  have flaw := Node.flaw?_codeList options t.body 0
  unfold compile
  cases compiled : Node.codeList options 0 t.body with
  | ok ops =>
    rw [compiled] at flaw
    rw [← flaw]
    exact ⟨nofun, nofun⟩
  | error found =>
    rw [compiled] at flaw
    rw [← flaw]
    obtain ⟨name, source', span, fault⟩ := e
    simp [Code.flaw?, eq_comm, Prod.ext_iff, and_assoc, and_comm, and_left_comm]

/-- A template is refused iff it has a flaw, and what is reported is one of its flaws, in the
template and the text that was compiled. -/
theorem compile_fails_iff (options : CompileOptions) (source : String) (t : Template) :
    ((∃ e, t.compile options source = .error e) ↔ ∃ span fault, t.HasFlaw span fault) ∧
      ∀ e, t.compile options source = .error e →
        e.name = t.name ∧ e.source = source ∧ t.HasFlaw e.span e.fault := by
  refine ⟨⟨?_, ?_⟩, fun e failed => ?_⟩
  · rintro ⟨e, failed⟩
    obtain ⟨first, -⟩ := compile_eq_error_iff.mp failed
    exact ⟨e.span, e.fault, hasFlaw_iff.mpr (List.mem_of_head? first)⟩
  · rintro ⟨span, fault, flawed⟩
    have first := List.head?_eq_some_head (List.ne_nil_of_mem (hasFlaw_iff.mp flawed))
    exact ⟨⟨t.name, source, _, _⟩, compile_eq_error_iff.mpr ⟨first, rfl, rfl⟩⟩
  · obtain ⟨first, name, text⟩ := compile_eq_error_iff.mp failed
    exact ⟨name, text, hasFlaw_iff.mpr (List.mem_of_head? first)⟩

end Template

namespace Unreached

/-- A filter that there is not, in an argument of an inclusion in a macro of a branch that no run
takes; `b` and `b | uc` are fine. -/
def source : String :=
  "[% IF 0 %][% MACRO m(a, b) BLOCK %][% INCLUDE 'p' WITH k = [b | uc | shout] %][% END %][% END %]"

def inner : Node :=
  .inclusion (.literal (.str "p"))
    [("k", .list [.filter (.filter (.var "b") "uc" ⟨62, 66⟩) "shout" ⟨67, 74⟩])]

def page : Template :=
  ⟨"page", [.branch (.literal (.int 0)) [.define "m" [("a", ⟨21, 22⟩), ("b", ⟨24, 25⟩)] [inner]] .done]⟩

/-- The page is refused for that filter. -/
theorem compile_fails_unreached : (∃ span fault, page.HasFlaw span fault) ∧
    page.HasFlaw ⟨67, 74⟩ (.unknownFilter "shout") := by
  have failed : page.compile ⟨true⟩ source
      = .error ⟨"page", source, ⟨67, 74⟩, .unknownFilter "shout"⟩ := rfl
  obtain ⟨refusal, reported⟩ := Template.compile_fails_iff ⟨true⟩ source page
  exact ⟨refusal.mp ⟨_, failed⟩, (reported _ failed).2.2⟩

end Unreached
end TemplateEngine
