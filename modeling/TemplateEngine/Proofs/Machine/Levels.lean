import TemplateEngine.Proofs.Machine.Captures
import TemplateEngine.Proofs.Machine.Execute
import TemplateEngine.Proofs.Machine.Reaches

/-!
# What levels keep

A level runs, waits for a text to be written or for an included template to end,
and runs on. What holds of running and of waiting levels and is kept by the steps of
a level, whatever it has written, is a law of levels. If it also holds of all that
start, it holds of all levels of a machine; and in any case it holds of one level
for as long as that level is there.
-/

namespace TemplateEngine

/-- Steps within a region lead from levels as they are before to running and waiting ones. -/
structure LevelPasses (options : ExecutionOptions) (region before running waiting : Level → Prop) :
    Prop where
  next : ∀ {l op l'}, before l → l.fetch = .ok op → l.Does options op (.next l') → region l' →
    running l'
  write : ∀ {l op text l'}, before l → l.fetch = .ok op → l.Does options op (.write text l') →
    waiting l'
  enter : ∀ {l op name args l'}, before l → l.fetch = .ok op →
    l.Does options op (.enter name args l') → waiting l'
  resume : ∀ {l}, waiting l → running l.advance
  blank : ∀ {l l'}, l'.blank = l.blank → waiting l → waiting l'

/-- Steps within a region lead from running levels to running and waiting ones. -/
abbrev LevelLaw (options : ExecutionOptions) (region running waiting : Level → Prop) : Prop :=
  LevelPasses options region running running waiting

namespace Machine

variable {ω : Type}

/-- All levels of the machine are such levels. -/
structure Everywhere (running waiting : Level → Prop) (m : Machine ω) : Prop where
  level : running m.level
  outer : ∀ w ∈ m.outer, waiting w.level

/-- The level with `k` levels around it is such a level. -/
inductive Follows (k : Nat) (running waiting : Level → Prop) (m : Machine ω) : Prop
  | running : m.outer.length = k → running m.level → Follows k running waiting m
  | waiting {inner w around} : m.outer = inner ++ w :: around → around.length = k →
      waiting w.level → Follows k running waiting m

/-- The step from `m` to `m'` starts an included template. -/
inductive Starts (env : Environment ω) (m m' : Machine ω) : Prop
  | intro {op name args l source vars loaded surroundings} : m.level.fetch = .ok op →
      m.level.Does env.options op (.enter name args l) → env.source = some source →
      includedVars l args = .ok vars → source name m.surroundings = (.ok loaded, surroundings) →
      m'.level = .start loaded vars (l.depth + 1) → m'.outer = ⟨name, l⟩ :: m.outer → Starts env m m'

/-- Steps through machines that all have a property. -/
inductive Through (env : Environment ω) (P : Machine ω → Prop) : Machine ω → Machine ω → Prop
  | refl {m} : P m → Through env P m m
  | step {m m' m''} : P m → m.step env = .inl m' → Through env P m' m'' → Through env P m m''

/-- Steps during which the level that runs in `m` is there. -/
abbrev Executes (env : Environment ω) (m m' : Machine ω) : Prop :=
  m.Through env (fun m' => m.outer.length ≤ m'.outer.length) m'

variable {env : Environment ω} {m m' m'' : Machine ω} {P : Machine ω → Prop}
  {region before running waiting running' waiting' : Level → Prop} {k : Nat}

theorem Through.last (h : m.Through env P m') : P m' := by
  induction h with
  | refl last => exact last
  | step _ _ _ ih => exact ih

theorem Through.reaches (h : m.Through env P m') : ∃ n, m.Reaches env n m' := by
  induction h with
  | refl => exact ⟨0, .refl _⟩
  | step _ first _ ih =>
    obtain ⟨n, later⟩ := ih
    exact ⟨n + 1, .step first later⟩

theorem Reaches.through {n : Nat} (h : m.Reaches env n m') (all : ∀ m, P m) :
    m.Through env P m' := by
  induction h with
  | refl => exact .refl (all _)
  | step first _ ih => exact .step (all _) first ih

theorem Through.snoc (h : m.Through env P m') (next : m'.step env = .inl m'')
    (after : P m'') : m.Through env P m'' := by
  induction h with
  | refl here => exact .step here next (.refl after)
  | step here first _ ih => exact .step here first (ih next)

/-- What each step keeps, given what holds after it, holds at the end. -/
theorem Through.preserves {Q : Machine ω → Prop} (h : m.Through env P m')
    (keeps : ∀ {m m'}, Q m → m.step env = .inl m' → P m' → Q m') (hm : Q m) : Q m' := by
  induction h with
  | refl => exact hm
  | step _ first later ih =>
    refine ih (keeps hm first ?_)
    cases later with
    | refl here => exact here
    | step here _ _ => exact here

/-- A property of waiting levels also holds of them when output is added. -/
theorem SameButOutput.all_waiting (same : m.SameButOutput m')
    (blank : ∀ {l l' : Level}, l'.blank = l.blank → waiting l → waiting l')
    (h : ∀ w ∈ m.outer, waiting w.level) : ∀ w ∈ m'.outer, waiting w.level := by
  intro w member
  have image : w.blank ∈ m.outer.map Waiting.blank := by
    rw [← same.outer]
    exact List.mem_map_of_mem member
  obtain ⟨w₀, known, eq⟩ := List.mem_map.mp image
  exact blank (congrArg Waiting.level eq).symm (h w₀ known)

theorem SameButOutput.split (same : m.SameButOutput m') {inner around : List Waiting} {w : Waiting}
    (outer : m.outer = inner ++ w :: around) :
    ∃ inner' w' around', m'.outer = inner' ++ w' :: around' ∧ around'.length = around.length ∧
      w'.level.blank = w.level.blank := by
  have image := same.outer
  rw [outer, List.map_append, List.map_cons] at image
  obtain ⟨inner', rest, eq, -, rest_eq⟩ := List.map_eq_append_iff.mp image
  obtain ⟨w', around', rfl, head, tail⟩ := List.map_eq_cons_iff.mp rest_eq
  refine ⟨inner', w', around', eq, ?_, congrArg Waiting.level head⟩
  simpa using congrArg List.length tail

/-- A step keeps a law of all levels if the template that it starts does. -/
theorem Everywhere.step (h : m.Everywhere running waiting)
    (law : LevelLaw env.options (fun _ => True) running waiting)
    (starts : m.Starts env m' → running m'.level) (first : m.step env = .inl m') :
    m'.Everywhere running waiting := by
  obtain ⟨op, effect, fetched, does, goes⟩ := exists_of_step first
  cases goes with
  | next level => exact ⟨law.next h.level fetched does trivial, h.outer⟩
  | write written =>
    have same := sameButOutput_of_write written
    exact ⟨law.resume (law.blank same.level (law.write h.level fetched does)),
      same.all_waiting law.blank h.outer⟩
  | enter source _ _ taken found =>
    refine ⟨starts (.intro fetched does source taken found rfl rfl), ?_⟩
    exact List.forall_mem_cons.mpr ⟨law.enter h.level fetched does, h.outer⟩
  | @leave level w rest outer =>
    obtain ⟨first, later⟩ := List.forall_mem_cons.mp (outer ▸ h.outer)
    exact ⟨law.resume first, later⟩

/-- A step keeps a law of one level unless it leaves the level or the region. -/
theorem Follows.step (h : m.Follows k before waiting)
    (law : LevelPasses env.options region before running waiting) (first : m.step env = .inl m')
    (there : k ≤ m'.outer.length) (stays : m'.outer.length = k → region m'.level) :
    m'.Follows k running waiting := by
  obtain ⟨op, effect, fetched, does, goes⟩ := exists_of_step first
  cases h with
  | running depth runs =>
    cases goes with
    | next level => exact .running depth (law.next runs fetched does (stays depth))
    | write written =>
      have same := sameButOutput_of_write written
      refine .running ?_ (law.resume (law.blank same.level (law.write runs fetched does)))
      have size := congrArg List.length same.outer
      simp only [List.length_map] at size
      exact size.trans depth
    | enter source _ _ _ _ => exact .waiting (List.nil_append _).symm depth (law.enter runs fetched does)
    | @leave level w rest outer =>
      have size : m.outer.length = rest.length + 1 := congrArg List.length outer
      exact absurd there (by simp only; omega)
  | @waiting inner w around outer depth waits =>
    cases goes with
    | next level => exact .waiting outer depth waits
    | write written =>
      have same := sameButOutput_of_write written
      obtain ⟨inner', w', around', eq, size, blank⟩ := same.split outer
      exact .waiting eq (size.trans depth) (law.blank blank waits)
    | @enter name _ level _ _ _ _ _ _ _ _ _ =>
      refine @Follows.waiting _ _ _ _ _ (⟨name, level⟩ :: inner) _ _ ?_ depth waits
      exact congrArg _ outer
    | @leave level w' rest eq =>
      have eq : m.outer = w' :: rest := eq
      rw [outer] at eq
      cases inner with
      | nil =>
        obtain ⟨rfl, rfl⟩ := List.cons.inj eq
        exact .running depth (law.resume waits)
      | cons w₁ inner =>
        obtain ⟨rfl, rfl⟩ := List.cons.inj eq
        exact .waiting rfl depth waits

theorem Performs.steps {effect : Effect} {progress : Progress ω}
    (goes : m.Performs env effect progress) :
    progress.elim Machine.steps Outcome.steps = m.steps := by
  cases goes with
  | write written => exact (sameButOutput_of_write written).steps
  | next | refused | enter | notFound | blocked | leave | finish | fail => rfl

theorem steps_of_step (first : m.step env = .inl m') : m'.steps = m.steps + 1 := by
  obtain ⟨op, effect, -, -, goes⟩ := exists_of_step first
  exact goes.steps

theorem Reaches.steps {n : Nat} (h : m.Reaches env n m') : m'.steps = m.steps + n := by
  induction h with
  | refl => rfl
  | step first _ ih => rw [ih, steps_of_step first, Nat.add_right_comm, Nat.add_assoc]

/-- What all levels keep holds in every machine that is reached. -/
theorem Everywhere.reaches {n : Nat} (h : m.Everywhere running waiting)
    (law : LevelLaw env.options (fun _ => True) running waiting)
    (starts : ∀ {k m₁ m₂}, m.Reaches env k m₁ → m₁.Everywhere running waiting →
      m₁.step env = .inl m₂ → m₁.Starts env m₂ → running m₂.level)
    (reaches : m.Reaches env n m') : m'.Everywhere running waiting := by
  have both : (∃ k, m.Reaches env k m') ∧ m'.Everywhere running waiting := by
    apply reaches.preserves _ ⟨⟨0, .refl m⟩, h⟩
    rintro m₁ m₂ ⟨⟨k, here⟩, holds⟩ first
    exact ⟨⟨k + 1, here.trans (.single first)⟩,
      holds.step law (starts here holds first) first⟩
  exact both.2

theorem Follows.imp (h : m.Follows k running waiting) (runs : ∀ l, running l → running' l)
    (waits : ∀ l, waiting l → waiting' l) : m.Follows k running' waiting' := by
  cases h with
  | running depth here => exact .running depth (runs _ here)
  | waiting outer depth there => exact .waiting outer depth (waits _ there)

/-- What one level keeps holds as long as it is there. -/
theorem Executes.follows (h : m.Executes env m')
    (law : LevelLaw env.options (fun _ => True) running waiting) (runs : running m.level) :
    m'.Follows m.outer.length running waiting := by
  apply h.preserves _ (.running rfl runs)
  intro m₁ m₂ holds first there
  exact holds.step law first there fun _ => trivial

end Machine
end TemplateEngine
