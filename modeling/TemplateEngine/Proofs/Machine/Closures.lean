import TemplateEngine.Proofs.Machine.Defects
import TemplateEngine.Proofs.Machine.Discipline
import TemplateEngine.Proofs.Machine.Origins

/-!
# Calls find the frame in which their macro was made

Values get from one level to another only when a template is included. So, where no
template of a program runs, there is no macro of it, and a program that is entered is
given none. All macros of its own that it calls were then made since, at the same level,
where they are enclosed in the frames that they are closed over.
-/

namespace TemplateEngine

theorem Value.IsForeign.closedBelow {own : Loaded} {value : Value} (h : value.IsForeign {own}) :
    value.ClosedBelow own.id 0 := by
  cases value with
  | macroRef ref => exact fun same => absurd same (h own rfl)
  | _ => trivial

theorem Value.IsForeign.mono {programs programs' : Set Loaded} {value : Value}
    (h : value.IsForeign programs) (fewer : programs' ⊆ programs) : value.IsForeign programs' := by
  cases value with
  | macroRef ref => exact fun loaded member => h loaded (fewer member)
  | _ => trivial

namespace Level

/-- The level runs no program of the identity and has no macro of one. -/
structure FreeOf (id : Nat) (l : Level) : Prop where
  other : l.loaded.id ≠ id
  none : l.All (Value.ClosedBelow id 0)

/-- Steps that make no macro of the identity bring none about. -/
theorem freeOf_law (options : ExecutionOptions) (id : Nat) :
    LevelLaw options (fun _ => True) (FreeOf id) (FreeOf id) where
  next := by
    intro l op l' h fetched does _
    have same : l'.loaded.id ≠ id :=
      (Machine.loaded_law options fun loaded => loaded.id ≠ id).next h.other fetched does trivial
    refine ⟨same, h.none.next ⟨?_, fun _ => trivial, ?_⟩ does⟩
    · exact fun _ scalar => Value.closedBelow_of_isScalar scalar
    · exact fun _ _ own => absurd own h.other
  write := by
    rintro l op text l' ⟨other, none⟩ - does
    cases does with
    | print taken => exact ⟨other, none.left [_] taken⟩
  enter := by
    rintro l op name args l' ⟨other, none⟩ - does
    cases does with
    | inclusion taken => exact ⟨other, none.left [_, _] taken⟩
  resume h := ⟨h.other, h.none.stack, h.none.scope⟩
  blank := by
    intro l l' same h
    have loaded : l'.loaded = l.loaded := (congrArg Level.loaded same :)
    exact ⟨loaded ▸ h.other, h.none.of_blank same⟩

/-- Unless a program of the identity runs at it or around it, each of the levels, given
innermost first, is free of macros of the identity. -/
def Confined (id : Nat) : List Level → Prop
  | [] => True
  | l :: around => ((∀ l' ∈ l :: around, l'.loaded.id ≠ id) → l.FreeOf id) ∧ Confined id around

namespace Confined

variable {id : Nat} {l l' : Level} {around levels levels' : List Level}

theorem replace (h : Confined id (l :: around)) (same : l'.loaded = l.loaded)
    (keeps : l.FreeOf id → l'.FreeOf id) : Confined id (l' :: around) := by
  refine ⟨fun others => keeps (h.1 ?_), h.2⟩
  rw [List.forall_mem_cons, same] at others
  exact List.forall_mem_cons.mpr others

/-- Output that is added makes no difference. -/
theorem of_blank (h : Confined id levels) (same : levels'.map blank = levels.map blank) :
    Confined id levels' := by
  induction levels generalizing levels' with
  | nil =>
    obtain rfl := List.map_eq_nil_iff.mp same
    trivial
  | cons l around ih =>
    obtain ⟨l', around', rfl, first, rest⟩ := List.map_eq_cons_iff.mp same
    refine ⟨fun others => ?_, ih h.2 rest⟩
    refine (freeOf_law {} id).blank first (h.1 fun l₁ member => ?_)
    have image : l₁.blank ∈ (l' :: around').map blank := same ▸ List.mem_map_of_mem member
    obtain ⟨l₂, member', eq⟩ := List.mem_map.mp image
    have loaded : l₂.loaded = l₁.loaded := (congrArg Level.loaded eq :)
    exact loaded ▸ others l₂ member'

end Confined
end Level

namespace Machine

variable {ω : Type} {env : Environment ω} {m m' m₁ t first marked_first : Machine ω} {id k n : Nat}

/-- A program is given none of its own macros by levels that do not run it. -/
theorem Starts.exists_given (starts : m.Starts env m') (confined : Level.Confined id m.levels)
    (others : ∀ w ∈ m'.outer, w.level.loaded.id ≠ id) :
    ∃ found given depth, m'.level = .start found given depth ∧
      Bindings.All (Value.ClosedBelow id 0) given := by
  obtain ⟨fetched, does, -, taken, -, begins, outer⟩ := starts
  rw [outer, List.forall_mem_cons] at others
  have same := (loaded_law env.options (· = m.level.loaded)).enter rfl fetched does
  have free : m.level.FreeOf id := by
    refine confined.1 (List.forall_mem_cons.mpr ⟨same ▸ others.1, ?_⟩)
    exact List.forall_mem_map.mpr others.2
  exact ⟨_, _, _, begins, free.none.given does taken⟩

theorem confined_step (h : Level.Confined id m.levels) (next : m.step env = .inl m') :
    Level.Confined id m'.levels := by
  have law := Level.freeOf_law env.options id
  have loaded := loaded_law env.options (· = m.level.loaded)
  have entered (starts : m.Starts env m') (others : ∀ l ∈ m'.levels, l.loaded.id ≠ id) :
      m'.level.FreeOf id := by
    obtain ⟨here, around⟩ := List.forall_mem_cons.mp others
    obtain ⟨found, given, depth, begins, free⟩ :=
      starts.exists_given h fun w member => around _ (List.mem_map_of_mem member)
    refine ⟨here, ?_⟩
    rw [begins]
    exact Level.all_start free depth
  obtain ⟨op, effect, fetched, does, goes⟩ := exists_of_step next
  cases goes with
  | next level =>
    exact h.replace (loaded.next rfl fetched does trivial) fun free =>
      law.next free fetched does trivial
  | @write _ level m₁ written =>
    have popped : Level.Confined id (level :: m.outer.map Waiting.level) :=
      h.replace (loaded.write rfl fetched does) fun free => law.write free fetched does
    have same := sameButOutput_of_write written
    have wrote : Level.Confined id m₁.levels := by
      refine popped.of_blank (congrArg₂ List.cons same.level ?_)
      have outer := congrArg (List.map Waiting.level) same.outer
      simp only [List.map_map] at outer ⊢
      exact outer
    exact wrote.replace rfl law.resume
  | @enter _ _ level _ _ _ _ source _ _ taken found =>
    have popped : Level.Confined id (level :: m.outer.map Waiting.level) :=
      h.replace (loaded.enter rfl fetched does) fun free => law.enter free fetched does
    exact ⟨entered (.intro fetched does source taken found rfl rfl), popped⟩
  | leave outer =>
    have around : Level.Confined id (m.outer.map Waiting.level) := h.2
    rw [show m.outer = _ from outer] at around
    exact around.replace rfl law.resume

/-- Wherever a run gets to, macros of a program that it was not given are only at levels
of that program and inside of them. -/
theorem confined_of_reaches {loaded : Loaded} {vars : Vars} {surroundings : ω}
    (foreign : Bindings.All (Value.ClosedBelow id 0) vars)
    (reaches : (start loaded vars surroundings).Reaches env n m) : Level.Confined id m.levels := by
  apply reaches.preserves confined_step
  exact ⟨fun others => ⟨others _ (List.mem_cons_self ..), Level.all_start foreign 0⟩, trivial⟩

/-- No program of the identity is entered while one is running. -/
def EntersOnce (env : Environment ω) (first : Machine ω) (id : Nat) : Prop :=
  ∀ n m, first.Reaches env n m → m.level.loaded.id = id → ∀ w ∈ m.outer, w.level.loaded.id ≠ id

/-- A program that is not included at all is entered once. -/
theorem entersOnce_of_source {loaded : Loaded} {vars : Vars} {surroundings : ω}
    (given : ∀ source, env.source = some source → ∀ name s found s',
      source name s = (.ok found, s') → found.id ≠ id) :
    EntersOnce env (start loaded vars surroundings) id := by
  intro n m reaches own w member
  obtain ⟨j, m₀, -, executes, here, origin⟩ := exists_entry rfl reaches
  have same := executes.loaded here
  rcases origin with rfl | ⟨j₁, m₁, -, -, -, known, -, found, begins, -⟩
  · exact absurd member (List.eq_nil_of_length_eq_zero here ▸ List.not_mem_nil)
  · rw [same, begins] at own
    exact absurd own (given _ known _ _ _ _ found)

/-- A program that does not include anything is entered once at a time. -/
theorem entersOnce_of_leaf (root : first.outer = [])
    (leaf : ∀ n m, first.Reaches env n m → m.level.loaded.id = id → m.level.fetch ≠ .ok .inclusion) :
    EntersOnce env first id := by
  intro n m reaches _
  have both : (∃ j, first.Reaches env j m) ∧ ∀ w ∈ m.outer, w.level.loaded.id ≠ id := by
    apply reaches.preserves _ ⟨⟨0, .refl first⟩, root ▸ nofun⟩
    rintro m₁ m₂ ⟨⟨j, here⟩, others⟩ next
    refine ⟨⟨j + 1, here.trans (.single next)⟩, ?_⟩
    have law := loaded_law env.options fun loaded => loaded.id ≠ id
    obtain ⟨op, effect, fetched, does, goes⟩ := exists_of_step next
    cases goes with
    | next => exact others
    | write written => exact (sameButOutput_of_write written).all_waiting law.blank others
    | enter =>
      have other : m₁.level.loaded.id ≠ id := by
        intro own
        cases does
        exact leaf j m₁ here own fetched
      exact List.forall_mem_cons.mpr ⟨law.enter other fetched does, others⟩
    | leave outer =>
      rw [show m₁.outer = _ from outer] at others
      exact (List.forall_mem_cons.mp others).2
  exact both.2

/-- A level of a compiled program that is entered only once at a time is tracked. -/
theorem exists_tracked {loaded : Loaded} {vars : Vars} {surroundings : ω}
    (compiled : m.level.loaded.program.IsCompiled)
    (foreign : Bindings.All (Value.ClosedBelow m.level.loaded.id 0) vars)
    (once : EntersOnce env (start loaded vars surroundings) m.level.loaded.id)
    (reaches : (start loaded vars surroundings).Reaches env n m) :
    ∃ name full t, Tracked env (start loaded vars surroundings)
      (startMarked loaded vars surroundings) m.level.loaded.id m.outer.length name full m t := by
  obtain ⟨j, m₀, early, executes, here, origin⟩ := exists_entry rfl reaches
  have same := executes.loaded here
  -- Either it is the first level, or an inclusion has started it. No level from there
  -- outwards runs the program, so none of them has a macro of it to give.
  have begins : ∃ given depth, m₀.level = .start m₀.level.loaded given depth ∧
      Bindings.All (Value.ClosedBelow m.level.loaded.id 0) given := by
    rcases origin with rfl | ⟨j₁, m₁, before, starts⟩
    · exact ⟨vars, 0, rfl, foreign⟩
    · have others := once j m₀ early (congrArg Loaded.id same).symm
      obtain ⟨found, given, depth, begins, free⟩ :=
        starts.exists_given (confined_of_reaches foreign before) others
      exact ⟨given, depth, by rw [begins]; rfl, free⟩
  obtain ⟨given, depth, begins, free⟩ := begins
  obtain ⟨page, options, source, program⟩ := compiled
  obtain ⟨full, laid, coded⟩ := page.wellCoded_of_compile program
  obtain ⟨t, tracked⟩ := executes.tracked early begins (same ▸ laid) coded free
  exact ⟨page.name, full, t, here ▸ tracked⟩

/-- A macro of its own that a tracked level has on its stack carries the mark of the step
that made it. -/
theorem Tracked.exists_madeAt {name : String} {full : List SourceOp} {place : Nat} {ref : MacroRef}
    (h : Tracked env first marked_first id k name full m t) (here : m.outer.length = k)
    (found : m.level.stack[place]? = some (.macroRef ref)) (own : ref.program = id) :
    ∃ j m₁, t.level.stack[place]? = some (.macroRef { ref with program := Mark.of id j }) ∧
      first.Reaches env j m₁ ∧ MadeAt env k ref m₁ m := by
  have alike := rel_getElem? h.marked.alike.level.stack place
  rw [found] at alike
  generalize shown : t.level.stack[place]? = callee at alike
  cases alike with
  | some alike =>
    cases alike with
    | plain plain => exact plain.elim
    | @macroRef _ mark _ _ _ linked =>
      have size := h.marked.alike.outer.length_eq.symm.trans here
      have born := (h.born.of_depth size).stack _ (List.mem_of_getElem? shown)
      obtain ⟨m₁, reaches, made⟩ := Value.all_macroRef.mp born (linked.trans own)
      subst own
      refine ⟨Mark.step mark, m₁, ?_, reaches, made⟩
      rw [← linked, Mark.of_identity_step]

/-- What holds of the calls of macros in the machine `m` that is the `n`-th one of a run.
None fails because a frame is gone. A macro of its own program that is called has, in the
marked run, the mark of the step that made it, and the frame that was the innermost one
then is there and has been there ever since. -/
structure KeepsClosures (env : Environment ω) (first marked_first : Machine ω) (n : Nat)
    (m : Machine ω) : Prop where
  live : ∀ ip, ¬ m.FailsWith env (.type ip .scopeEnded)
  made : ∃ t, afterMarked env marked_first n = some t ∧ m.Alike Mark.Of t ∧
    ∀ count ref, m.level.fetch = .ok (.macroCall count) →
      m.level.stack[count]? = some (.macroRef ref) → ref.program = m.level.loaded.id →
      (m.level.scope.frame? ref.closure).isSome ∧
      ∃ k m₁, t.level.stack[count]? = some (.macroRef { ref with program := Mark.of ref.program k }) ∧
        first.Reaches env k m₁ ∧ MadeAt env m.outer.length ref m₁ m ∧
        m₁.level.scope.shape <+: m.level.scope.shape

theorem Tracked.keepsClosures {name : String} {full : List SourceOp}
    (h : Tracked env first marked_first m.level.loaded.id m.outer.length name full m t) :
    KeepsClosures env first marked_first m.steps m := by
  have alive {place : Nat} {ref : MacroRef} (found : m.level.stack[place]? = some (.macroRef ref))
      (own : ref.program = m.level.loaded.id) : ref.closure < m.level.scope.depth := by
    obtain ⟨k, m₁, -, -, made⟩ := h.exists_madeAt rfl found own
    exact made.frame.last.follows.of_depth rfl
  refine ⟨?_, t, h.after, h.marked.alike, ?_⟩
  · intro ip fails
    obtain ⟨count, ref, -, found, own, gone⟩ := fails.stale
    exact absurd (alive found own) (Nat.not_lt_of_le gone)
  · intro count ref _ found own
    obtain ⟨k, m₁, mark, early, made⟩ := h.exists_madeAt rfl found own
    refine ⟨?_, k, m₁, own ▸ mark, early, made, made.frames rfl⟩
    simpa [Scope.frame?_eq_getElem?] using alive found own

/-- In a run on variables without macros of a compiled program, and in which the program
is entered only once at a time, all calls of its macros find the frame in which the macro
was made. If this is so for all programs that run, no call fails because a frame is gone. -/
theorem closures_sound (env : Environment ω) (loaded : Loaded) (vars : Vars) (surroundings : ω) :
    (∀ own : Loaded, own.program.IsCompiled → Bindings.All (Value.IsForeign {own}) vars →
      EntersOnce env (start loaded vars surroundings) own.id →
      ∀ n m, (start loaded vars surroundings).Reaches env n m → m.level.loaded = own →
        KeepsClosures env (start loaded vars surroundings)
          (startMarked loaded vars surroundings) n m) ∧
    ((∀ found ∈ programs env (start loaded vars surroundings), found.program.IsCompiled ∧
        EntersOnce env (start loaded vars surroundings) found.id) →
      Bindings.All (Value.IsForeign (programs env (start loaded vars surroundings))) vars →
      ∀ n m, (start loaded vars surroundings).Reaches env n m →
        ∀ ip, ¬ m.FailsWith env (.type ip .scopeEnded)) := by
  have keeps (own : Loaded) (compiled : own.program.IsCompiled)
      (foreign : Bindings.All (Value.IsForeign {own}) vars)
      (once : EntersOnce env (start loaded vars surroundings) own.id) (n : Nat) (m : Machine ω)
      (reaches : (start loaded vars surroundings).Reaches env n m) (runs : m.level.loaded = own) :
      KeepsClosures env (start loaded vars surroundings) (startMarked loaded vars surroundings)
        n m := by
    subst runs
    have given : Bindings.All (Value.ClosedBelow m.level.loaded.id 0) vars :=
      fun entry member leaf among => (foreign entry member leaf among).closedBelow
    obtain ⟨name, full, t, tracked⟩ := exists_tracked compiled given once reaches
    have steps : m.steps = n := by simpa [start] using reaches.steps
    exact steps ▸ tracked.keepsClosures
  refine ⟨keeps, ?_⟩
  intro all foreign n m reaches
  have member : m.level.loaded ∈ programs env (start loaded vars surroundings) :=
    ⟨n, m, reaches, rfl⟩
  obtain ⟨compiled, once⟩ := all _ member
  have given : Bindings.All (Value.IsForeign {m.level.loaded}) vars := by
    intro entry known leaf among
    exact (foreign entry known leaf among).mono (Set.singleton_subset_iff.mpr member)
  exact (keeps _ compiled given once n m reaches rfl).live

end Machine

namespace Rounds

open Table (foot footProgram environment)

/-- A page that makes the same macro in each round of a loop, every time in another frame
of the same number. -/
def page : Template where
  name := "page"
  body := [
    .foreach "x" (.list [.literal (.int 1), .literal (.int 2)]) [
      .foreach "y" (.list [.var "x"]) [
        .define "show" [] [.print (.var "y")],
        .print (.call (.var "show") [])]],
    .inclusion (.literal (.str "foot")) []]

def pageProgram : Loaded where
  id := 0
  program := {
    name := "page"
    constants := #[.int 1, .int 2, .str "foot"]
    names := #["x", "y", "show"]
    macros := #[⟨"show", [], 12⟩]
    instructions := #[.constLoad 0, .constLoad 1, .makeList 2, .forStart, .forIter 0 20,
      .loadVar 0, .makeList 1, .forStart, .forIter 1 19, .makeMacro 0, .storeVar 2, .jump 15,
      .loadVar 1, .print .html, .macroReturn, .loadVar 2, .macroCall 0, .print .html, .jump 8,
      .jump 4, .constLoad 2, .makeMap 0, .inclusion, .finish] }

def first : Machine Unit := .start pageProgram [] ()

/-- Both rounds call the same value. The marks tell which step made it for which of them. -/
example :
    [13, 30].map (fun n =>
      (Machine.afterMarked environment (.startMarked pageProgram [] ()) n).bind fun t =>
        match t.level.stack with
        | .macroRef ref :: _ => some (ref.program, ref.closure)
        | _ => none) = [some (Mark.of 0 9, 2), some (Mark.of 0 26, 2)] := by
  decide +kernel

theorem fetch_foot {l : Level} (same : l.loaded = footProgram) : l.fetch ≠ .ok .inclusion := by
  obtain ⟨loaded, ip, _, _, _, _, _⟩ := l
  subst same
  match ip with
  | 0 | 1 | 2 => exact nofun
  | ip + 3 => exact nofun

theorem closures_sound_page :
    (Machine.run environment 50 first).map (fun o => (o.output, o.error.isNone)) =
        some ("12.", true) ∧
      (∀ n m, first.Reaches environment n m → m.level.loaded = pageProgram →
        Machine.KeepsClosures environment first (.startMarked pageProgram [] ()) n m) ∧
      ∀ n m, first.Reaches environment n m →
        ∀ ip, ¬ m.FailsWith environment (.type ip .scopeEnded) := by
  have given : ∀ source, environment.source = some source → ∀ name s found s',
      source name s = (.ok found, s') → found = footProgram := by
    rintro _ ⟨⟩ name s found s' ⟨⟩
    rfl
  have two : ∀ found ∈ Machine.programs environment first,
      found = pageProgram ∨ found = footProgram := by
    refine Machine.programs_have (.inl rfl) ?_
    exact fun source known name s found s' loads => .inr (given source known name s found s' loads)
  have compiled : pageProgram.program.IsCompiled := ⟨page, ⟨true⟩, "", rfl⟩
  have once : Machine.EntersOnce environment first pageProgram.id := by
    refine Machine.entersOnce_of_source fun source known name s found s' loads => ?_
    rw [given source known name s found s' loads]
    decide
  have leaf : Machine.EntersOnce environment first footProgram.id := by
    refine Machine.entersOnce_of_leaf rfl fun n m reaches own => ?_
    rcases two _ ⟨n, m, reaches, rfl⟩ with same | same
    · rw [same] at own
      cases own
    · exact fetch_foot same
  have sound := Machine.closures_sound environment pageProgram [] ()
  refine ⟨by decide +kernel, sound.1 pageProgram compiled nofun once, sound.2 ?_ nofun⟩
  intro found member
  rcases two found member with rfl | rfl
  · exact ⟨compiled, once⟩
  · exact ⟨⟨foot, ⟨true⟩, "", rfl⟩, leaf⟩

end Rounds
end TemplateEngine
