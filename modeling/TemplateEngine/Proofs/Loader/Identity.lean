import TemplateEngine.Proofs.Loader.Current
import TemplateEngine.Proofs.Machine.Lockstep

/-!
# Identities of loaded programs

A load gives a program an identity that is new, or that of the entry which the cache
has in memory for the name. So an identity is never given to two templates, and what
is linked by the loads of a loader without a cache and those of one with a cache stays
coherent.
-/

namespace TemplateEngine

/-- Entries in memory have identities that were given out, each to one name. -/
structure Storage.Numbered (s : Storage) : Prop where
  below : ∀ name entry, s.memory.get? name = some entry → entry.loaded.id < s.nextId
  distinct : ∀ name name' entry entry', s.memory.get? name = some entry →
    s.memory.get? name' = some entry' → entry.loaded.id = entry'.loaded.id → name = name'

variable {l : Loader} {dirs : Set String} {name : String} {s s' : Storage}

/-- What a lookup puts into memory is the program that it read, under its new identity. -/
theorem Cache.LookedUp.remembered {result : Except CacheError (Option CacheEntry)}
    (looked : Cache.LookedUp dirs name s result s') {n : String} {entry : CacheEntry}
    (kept : s'.memory.get? n = some entry) :
    s.memory.get? n = some entry ∨ n = name ∧ entry.loaded.id = s.nextId ∧ s.nextId < s'.nextId := by
  rcases looked.memory n entry kept with old | ⟨rfl, found, from_file⟩
  · exact .inl old
  · obtain ⟨dir, known, bytes, stored, opened, read, same⟩ := from_file
    have named : entry.name = name := by
      rw [same]
      exact CacheFile.name_of_found read
    have fresh : entry.loaded.id = s.nextId := by rw [same]
    rcases looked.found entry found with old | ⟨-, more⟩
    · rw [named]
      exact .inl old
    · exact .inr ⟨named, fresh, more⟩

namespace Loader.Loads

variable {result : Except Error Loaded}

theorem nextId_le (h : l.Loads dirs name s result s') : s.nextId ≤ s'.nextId := by
  cases h with
  | failed _ looked => exact looked.nextId
  | hit _ _ looked => exact looked.nextId
  | fresh _ _ looked stored =>
    rw [stored.nextId]
    exact Nat.le_succ_of_le looked.nextId

/-- What a load puts into memory belongs to its name and has a new identity. -/
theorem remembered (h : l.Loads dirs name s result s') {n : String} {entry : CacheEntry}
    (kept : s'.memory.get? n = some entry) :
    s.memory.get? n = some entry ∨
      n = name ∧ s.nextId ≤ entry.loaded.id ∧ entry.loaded.id < s'.nextId := by
  cases h with
  | failed _ looked | hit _ _ looked =>
    rcases looked.remembered kept with old | ⟨same, fresh, more⟩
    · exact .inl old
    · exact .inr ⟨same, Nat.le_of_eq fresh.symm, fresh ▸ more⟩
  | @fresh source p _ s₁ _ _ _ looked stored =>
    have next : s'.nextId = s₁.nextId + 1 := stored.nextId
    have le := looked.nextId
    rcases stored.memory n entry kept with old | ⟨rfl, rfl⟩
    · rcases looked.remembered old with old | ⟨same, fresh, more⟩
      · exact .inl old
      · refine .inr ⟨same, Nat.le_of_eq fresh.symm, ?_⟩
        omega
    · refine .inr ⟨rfl, le, ?_⟩
      dsimp only
      omega

theorem numbered (h : l.Loads dirs name s result s') (numbered : s.Numbered) : s'.Numbered := by
  have le := h.nextId_le
  constructor
  · intro n entry kept
    rcases h.remembered kept with old | ⟨-, -, lt⟩
    · exact Nat.lt_of_lt_of_le (numbered.below n entry old) le
    · exact lt
  · intro n n' entry entry' kept kept' same
    rcases h.remembered kept with old | ⟨here, new, -⟩
    · rcases h.remembered kept' with old' | ⟨-, new', -⟩
      · exact numbered.distinct n n' entry entry' old old' same
      · have lt := numbered.below n entry old
        omega
    · rcases h.remembered kept' with old' | ⟨here', -, -⟩
      · have lt := numbered.below n' entry' old'
        omega
      · rw [here, here']

/-- The identity of a program that was loaded. -/
theorem identity {loaded : Loaded} (h : l.Loads dirs name s (.ok loaded) s') :
    (l.options.strategy ≠ .none ∧ ∃ entry, s.memory.get? name = some entry ∧
      entry.loaded.id = loaded.id) ∨
    s.nextId ≤ loaded.id ∧ loaded.id < s'.nextId := by
  generalize eq : (Except.ok loaded : Except Error Loaded) = result at h
  cases h with
  | failed _ _ => cases eq
  | @hit entry _ used _ looked =>
    cases eq
    rcases looked.found entry rfl with kept | ⟨⟨_, _, _, _, _, _, same⟩, more⟩
    · exact .inl ⟨used, entry, kept, rfl⟩
    · have fresh : entry.loaded.id = s.nextId := by rw [same]
      exact .inr ⟨Nat.le_of_eq fresh.symm, fresh ▸ more⟩
  | fresh _ _ looked stored =>
    cases eq
    refine .inr ⟨looked.nextId, ?_⟩
    rw [stored.nextId]
    exact Nat.lt_succ_self _

end Loader.Loads

/-- The links of two runs fit what their storages may give out next; the cache is that
of the second one. -/
structure Links.Sound (K : Links) (s s' : Storage) : Prop where
  coherent : K.Coherent
  below : ∀ {i j owner}, K i j owner → i < s.nextId ∧ j < s'.nextId
  cached : ∀ {i j owner name entry}, K i j owner → s'.memory.get? name = some entry →
    entry.loaded.id = j → owner = some name

/-- A load of each run keeps the links sound, if the first one goes without a cache. -/
theorem Links.Sound.add {K : Links} {l₁ l₂ : Loader} {s₁ s₂ s₁' s₂' : Storage} {loaded₁ loaded₂ : Loaded}
    (sound : K.Sound s₁ s₂) (strategy : l₁.options.strategy = .none) (numbered : s₂.Numbered)
    (h₁ : l₁.Loads dirs name s₁ (.ok loaded₁) s₁') (h₂ : l₂.Loads dirs name s₂ (.ok loaded₂) s₂') :
    (K.add loaded₁.id loaded₂.id name).Sound s₁' s₂' := by
  have le₁ := h₁.nextId_le
  have le₂ := h₂.nextId_le
  have fresh : s₁.nextId ≤ loaded₁.id ∧ loaded₁.id < s₁'.nextId := by
    rcases h₁.identity with ⟨used, -⟩ | fresh
    · exact absurd strategy used
    · exact fresh
  have given : loaded₂.id < s₂'.nextId := by
    rcases h₂.identity with ⟨-, entry, kept, same⟩ | ⟨-, lt⟩
    · have lt := numbered.below name entry kept
      omega
    · exact lt
  -- an old link to the identity just given is one of the same template
  have owner : ∀ {i owner}, K i loaded₂.id owner → owner = some name := by
    intro i owner linked
    rcases h₂.identity with ⟨-, entry, kept, same⟩ | ⟨new, -⟩
    · exact sound.cached linked kept same
    · have lt := (sound.below linked).2
      omega
  refine ⟨⟨?_, ?_, ?_⟩, ?_, ?_⟩
  · rintro i j j' o o' (linked | ⟨rfl, rfl, rfl⟩) (linked' | ⟨same, rfl, rfl⟩)
    · exact sound.coherent.functional linked linked'
    · have lt := (sound.below linked).1
      omega
    · have lt := (sound.below linked').1
      omega
    · rfl
  · rintro i i' j o o' (linked | ⟨rfl, rfl, rfl⟩) (linked' | ⟨rfl, same, rfl⟩)
    · exact sound.coherent.owned linked linked'
    · subst same
      exact owner linked
    · exact (owner linked').symm
    · rfl
  · rintro i j (linked | ⟨-, -, same⟩)
    · exact sound.coherent.foreign linked
    · cases same
  · rintro i j o (linked | ⟨rfl, rfl, rfl⟩)
    · have lt := sound.below linked
      omega
    · exact ⟨fresh.2, given⟩
  · rintro i j o n entry linked kept rfl
    rcases h₂.remembered kept with old | ⟨rfl, new, -⟩
    · rcases linked with linked | ⟨-, same, rfl⟩
      · exact sound.cached linked old rfl
      · rcases h₂.identity with ⟨-, entry', kept', same'⟩ | ⟨new, -⟩
        · rw [numbered.distinct name n entry' entry kept' old (same'.trans same.symm)]
        · have lt := numbered.below n entry old
          omega
    · rcases linked with linked | ⟨-, -, rfl⟩
      · have lt := (sound.below linked).2
        omega
      · rfl

end TemplateEngine
