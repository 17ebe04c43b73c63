import DualMode.Clause.Basic

/-! Published attributes, one for each cache and entity. What is published stays. -/

namespace DualMode

variable {υ : Type}

structure Views (υ : Type) where
  entries : List ((CacheId × EntityId) × Attribute υ) := []

namespace Views

def get? (v : Views υ) (cache : CacheId) (entity : EntityId) : Option (Attribute υ) :=
  (v.entries.find? (·.1 == (cache, entity))).map (·.2)

/-- Publishes the attribute unless another was published first; gives the published one. -/
def publish (v : Views υ) (cache : CacheId) (entity : EntityId) (a : Attribute υ) :
    Attribute υ × Views υ :=
  match v.get? cache entity with
  | some first => (first, v)
  | none => (a, ⟨v.entries ++ [((cache, entity), a)]⟩)

def size (v : Views υ) (cache : CacheId) : Nat := v.entries.countP (·.1.1 == cache)

@[simp] theorem get?_empty (cache : CacheId) (entity : EntityId) :
    get? (⟨[]⟩ : Views υ) cache entity = none := rfl

@[simp] theorem publish_of_some {v : Views υ} {cache : CacheId} {entity : EntityId}
    {first : Attribute υ} (h : v.get? cache entity = some first) (a : Attribute υ) :
    v.publish cache entity a = (first, v) := by
  simp [publish, h]

theorem publish_of_none {v : Views υ} {cache : CacheId} {entity : EntityId}
    (h : v.get? cache entity = none) (a : Attribute υ) :
    v.publish cache entity a = (a, ⟨v.entries ++ [((cache, entity), a)]⟩) := by
  simp [publish, h]

theorem mem_of_get? {v : Views υ} {cache : CacheId} {entity : EntityId} {a : Attribute υ}
    (found : v.get? cache entity = some a) : ((cache, entity), a) ∈ v.entries := by
  obtain ⟨entry, first, rfl⟩ := Option.map_eq_some_iff.mp found
  have own : entry.1 = (cache, entity) := by simpa using List.find?_some first
  rw [← own]
  exact List.mem_of_find?_eq_some first

theorem get?_publish (v : Views υ) (cache : CacheId) (entity : EntityId) (a : Attribute υ) :
    (v.publish cache entity a).2.get? cache entity = some (v.publish cache entity a).1 := by
  cases h : v.get? cache entity with
  | some first => simp [h]
  | none =>
    rw [publish_of_none h]
    have absent : v.entries.find? (·.1 == (cache, entity)) = none := by
      simpa [get?] using h
    simp [get?, absent]

/-- What is found after publishing was found before, or is what was published. -/
theorem get?_of_publish {v : Views υ} {cache other : CacheId} {entity aside : EntityId}
    {a b : Attribute υ} (found : (v.publish cache entity a).2.get? other aside = some b) :
    v.get? other aside = some b ∨ (cache = other ∧ entity = aside ∧ a = b) := by
  cases h : v.get? cache entity with
  | some first =>
    rw [publish_of_some h] at found
    exact .inl found
  | none =>
    rw [publish_of_none h] at found
    simp only [get?, List.find?_append, List.find?_singleton, Option.map_or] at found
    cases before : v.get? other aside with
    | some c =>
      have kept : (v.entries.find? (·.1 == (other, aside))).map (·.2) = some c := before
      rw [kept, Option.some_or] at found
      exact .inl found
    | none =>
      have kept : (v.entries.find? (·.1 == (other, aside))).map (·.2) = none := before
      rw [kept, Option.none_or] at found
      by_cases same : (cache, entity) = (other, aside)
      · simp only [same, beq_self_eq_true, if_true, Option.map_some, Option.some.injEq] at found
        exact .inr ⟨congrArg Prod.fst same, congrArg Prod.snd same, found⟩
      · simp [same] at found

theorem get?_publish_of_some {v : Views υ} {other : CacheId} {aside : EntityId} {b : Attribute υ}
    (kept : v.get? other aside = some b) (cache : CacheId) (entity : EntityId) (a : Attribute υ) :
    (v.publish cache entity a).2.get? other aside = some b := by
  cases h : v.get? cache entity with
  | some first =>
    rw [publish_of_some h]
    exact kept
  | none =>
    obtain ⟨entry, found, rfl⟩ := Option.map_eq_some_iff.mp kept
    rw [publish_of_none h]
    simp [get?, found]

def entities (v : Views υ) (cache : CacheId) : List EntityId :=
  (v.entries.filter (·.1.1 == cache)).map (·.1.2)

theorem size_eq_length (v : Views υ) (cache : CacheId) :
    v.size cache = (v.entities cache).length := by
  rw [size, entities, List.length_map, List.countP_eq_length_filter]

theorem mem_entities_iff {v : Views υ} {cache : CacheId} {entity : EntityId} :
    entity ∈ v.entities cache ↔ ∃ a, v.get? cache entity = some a := by
  constructor
  · intro known
    obtain ⟨⟨⟨c, e⟩, a⟩, kept, rfl⟩ := List.mem_map.mp known
    obtain ⟨present, own⟩ := List.mem_filter.mp kept
    obtain rfl : c = cache := by simpa using own
    have found : (v.entries.find? (·.1 == (c, e))).isSome :=
      List.find?_isSome.mpr ⟨_, present, by simp⟩
    exact Option.isSome_iff_exists.mp (by simpa [get?] using found)
  · rintro ⟨a, found⟩
    refine List.mem_map.mpr ⟨((cache, entity), a), ?_, rfl⟩
    exact List.mem_filter.mpr ⟨mem_of_get? found, by simp⟩

theorem nodup_entities_publish {v : Views υ} {other : CacheId} (distinct : (v.entities other).Nodup)
    (cache : CacheId) (entity : EntityId) (a : Attribute υ) :
    ((v.publish cache entity a).2.entities other).Nodup := by
  cases h : v.get? cache entity with
  | some first =>
    rw [publish_of_some h]
    exact distinct
  | none =>
    rw [publish_of_none h, entities, List.filter_append, List.map_append]
    by_cases own : cache = other
    · subst own
      have unknown : entity ∉ v.entities cache := by
        intro known
        obtain ⟨b, found⟩ := mem_entities_iff.mp known
        rw [h] at found
        cases found
      refine List.nodup_append.mpr ⟨distinct, by simp, ?_⟩
      rintro e known f added rfl
      obtain rfl : e = entity := by simpa using added
      exact unknown known
    · simpa [own, entities] using distinct

end Views
end DualMode
