import Mathlib.Data.List.Induction
import Mathlib.Data.List.Nodup

/-! Lists of entries under keys. An entry whose key is there already takes the place of the old one,
and any other entry comes to the end. So each key stands where it was given first, with the value
that it was given last. -/

namespace DualMode
namespace Keyed

variable {κ ν : Type} [DecidableEq κ] {entries given : List (κ × ν)} {next : κ × ν} {k : κ}

def keys (entries : List (κ × ν)) : List κ := entries.map (·.1)

def put (entries : List (κ × ν)) (next : κ × ν) : List (κ × ν) :=
  if entries.any (·.1 == next.1) then entries.map fun x => if x.1 == next.1 then next else x
  else entries ++ [next]

def putAll (entries given : List (κ × ν)) : List (κ × ν) := given.foldl put entries

theorem any_key_iff : (entries.any fun x => x.1 == k) = true ↔ k ∈ keys entries := by
  simp [keys]

theorem keys_put_of_mem (known : next.1 ∈ keys entries) :
    keys (put entries next) = keys entries := by
  unfold put keys
  rw [if_pos (any_key_iff.mpr known), List.map_map]
  refine List.map_congr_left fun x _ => ?_
  by_cases same : x.1 = next.1
  · simp [same]
  · simp [same]

theorem keys_put_of_not_mem (unknown : next.1 ∉ keys entries) :
    keys (put entries next) = keys entries ++ [next.1] := by
  unfold put keys
  rw [if_neg (unknown ∘ any_key_iff.mp), List.map_append, List.map_singleton]

theorem nodup_put (distinct : (keys entries).Nodup) (next : κ × ν) :
    (keys (put entries next)).Nodup := by
  by_cases known : next.1 ∈ keys entries
  · rw [keys_put_of_mem known]
    exact distinct
  · rw [keys_put_of_not_mem known, ← List.concat_eq_append]
    exact List.Nodup.concat known distinct

theorem mem_keys_put : k ∈ keys (put entries next) ↔ k ∈ keys entries ∨ k = next.1 := by
  by_cases known : next.1 ∈ keys entries
  · rw [keys_put_of_mem known]
    refine ⟨.inl, ?_⟩
    rintro (there | rfl)
    · exact there
    · exact known
  · rw [keys_put_of_not_mem known, List.mem_append, List.mem_singleton]

theorem nodup_putAll (distinct : (keys entries).Nodup) (given : List (κ × ν)) :
    (keys (putAll entries given)).Nodup := by
  induction given generalizing entries with
  | nil => exact distinct
  | cons first rest ih => exact ih (nodup_put distinct first)

theorem mem_keys_putAll : k ∈ keys (putAll entries given) ↔ k ∈ keys entries ∨ k ∈ keys given := by
  induction given generalizing entries with
  | nil => simp [putAll, keys]
  | cons first rest ih =>
    have step : putAll entries (first :: rest) = putAll (put entries first) rest := rfl
    have split : keys (first :: rest) = first.1 :: keys rest := rfl
    rw [step, ih, mem_keys_put, split, List.mem_cons, or_assoc]

theorem lookup_cons (k : κ) (x : κ × ν) (rest : List (κ × ν)) :
    (x :: rest).lookup k = if k = x.1 then some x.2 else rest.lookup k := by
  obtain ⟨l, value⟩ := x
  rw [List.lookup_cons]
  by_cases found : k = l
  · simp [found]
  · simp [found, beq_false_of_ne found]

theorem lookup_eq_none_iff : entries.lookup k = none ↔ k ∉ keys entries := by
  rw [List.lookup_eq_none_iff]
  simp only [keys, List.mem_map, bne_iff_ne, ne_eq, not_exists, not_and]
  exact forall₂_congr fun x _ => not_congr eq_comm

/-- A key that is there already takes the new value, and no other key does. -/
theorem lookup_replaced (k : κ) (entries : List (κ × ν)) (next : κ × ν) :
    (entries.map fun x => if x.1 == next.1 then next else x).lookup k =
      if k = next.1 then (entries.lookup k).map fun _ => next.2 else entries.lookup k := by
  induction entries with
  | nil => simp
  | cons x rest ih =>
    rw [List.map_cons, lookup_cons, lookup_cons, ih]
    by_cases replaced : x.1 = next.1
    · by_cases same : k = next.1
      · simp [replaced, same]
      · simp [replaced, same]
    · by_cases found : k = x.1
      · simp [replaced, found]
      · simp [replaced, found]

theorem lookup_put (k : κ) (entries : List (κ × ν)) (next : κ × ν) :
    (put entries next).lookup k = if k = next.1 then some next.2 else entries.lookup k := by
  unfold put
  by_cases known : next.1 ∈ keys entries
  · rw [if_pos (any_key_iff.mpr known), lookup_replaced]
    by_cases same : k = next.1
    · have there : entries.lookup next.1 ≠ none := fun absent => lookup_eq_none_iff.mp absent known
      obtain ⟨value, held⟩ := Option.ne_none_iff_exists'.mp there
      rw [if_pos same, if_pos same, same, held, Option.map_some]
    · rw [if_neg same, if_neg same]
  · rw [if_neg (known ∘ any_key_iff.mp), List.lookup_append, lookup_cons]
    by_cases same : k = next.1
    · rw [if_pos same, if_pos same, same, lookup_eq_none_iff.mpr known, Option.none_or]
    · rw [if_neg same, if_neg same, List.lookup_nil, Option.or_none]

theorem putAll_concat (entries given : List (κ × ν)) (next : κ × ν) :
    putAll entries (given ++ [next]) = put (putAll entries given) next := List.foldl_concat ..

/-- The keys come in the order in which they were first given. -/
theorem keys_putAll (given : List (κ × ν)) : keys (putAll [] given) = (keys given).eraseDups := by
  induction given using List.reverseRecOn with
  | nil => rfl
  | append_singleton given next ih =>
    have concat : keys (given ++ [next]) = keys given ++ [next.1] := by simp [keys]
    rw [putAll_concat, concat, List.eraseDups_append, ← ih]
    by_cases known : next.1 ∈ keys given
    · have absent : [next.1].removeAll (keys given) = [] := by simp [List.removeAll, known]
      rw [absent, keys_put_of_mem (by rw [ih]; simpa using known)]
      simp
    · have alone : [next.1].removeAll (keys given) = [next.1] := by simp [List.removeAll, known]
      rw [alone, keys_put_of_not_mem (by rw [ih]; simpa using known)]
      rfl

/-- Each key has the value that it was given last. -/
theorem lookup_putAll (given : List (κ × ν)) (k : κ) :
    (putAll [] given).lookup k = given.reverse.lookup k := by
  induction given using List.reverseRecOn with
  | nil => rfl
  | append_singleton given next ih =>
    rw [putAll_concat, lookup_put, ih, List.reverse_concat, lookup_cons]

theorem map_find?_eq_lookup (entries : List (κ × ν)) (k : κ) :
    (entries.find? (·.1 == k)).map (·.2) = entries.lookup k := by
  induction entries with
  | nil => rfl
  | cons x rest ih =>
    rw [lookup_cons, List.find?_cons]
    by_cases same : x.1 = k
    · simp [same]
    · rw [beq_false_of_ne same, if_neg (Ne.symm same)]
      exact ih

theorem mem_iff_lookup (distinct : (keys entries).Nodup) {value : ν} :
    (k, value) ∈ entries ↔ entries.lookup k = some value := by
  induction entries with
  | nil => simp
  | cons x rest ih =>
    obtain ⟨fresh, later⟩ := List.nodup_cons.mp distinct
    rw [List.mem_cons, ih later, lookup_cons]
    by_cases same : k = x.1
    · subst same
      have gone : rest.lookup x.1 = none := lookup_eq_none_iff.mpr fresh
      simp [gone, Prod.ext_iff, eq_comm]
    · simp [same, Prod.ext_iff]

end Keyed
end DualMode
