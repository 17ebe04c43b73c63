import DualMode.Proofs.Keyed
import DualMode.Settings.Tree

/-! Layers of settings that are merged one after the other. Of all that is set for a name, the last
counts, and a section of one layer does not hide what another layer says about its other names. -/

namespace DualMode
namespace Tree

variable {root value : Tree} {name key : String}

/-- Where each step gives something or leaves the view alone, the last thing given is seen. -/
theorem foldl_last_given {σ α β : Type} {step : σ → α → σ} {given : α → Option β} {as : List α}
    (view : σ → Option β) (each : ∀ s, ∀ a ∈ as, view (step s a) = (given a).or (view s)) (s : σ) :
    view (as.foldl step s) = (as.reverse.findSome? given).or (view s) := by
  induction as generalizing s with
  | nil => rfl
  | cons a rest ih =>
    have first := each s a List.mem_cons_self
    have later := ih (fun s b there => each s b (List.mem_cons_of_mem a there)) (step s a)
    -- what the first step gives is asked for after all that comes later
    rw [List.foldl_cons, later, first, List.reverse_cons, List.findSome?_append, Option.or_assoc]
    simp

/-! Names of one table. -/

def IsTable (t : Tree) : Prop := ∃ o es, t = table o es

theorem isTable_put (root : Tree) (key : String) (t : Tree) : (root.put key t).IsTable :=
  ⟨_, _, rfl⟩

theorem get?_put (root : Tree) (key name : String) (t : Tree) :
    (root.put key t).get? name = if name = key then some t else root.get? name :=
  Keyed.lookup_put name root.entries (key, t)

theorem set_plain (plain : ¬value.IsTable) (name : String) (root : Tree) :
    root.set name value = root.put (Text.lower name) value := by
  cases value with
  | table o es => exact absurd ⟨o, es, rfl⟩ plain
  | unit o => rw [set]
  | bool o b => rw [set]
  | int o i => rw [set]
  | float o x => rw [set]
  | text o s => rw [set]
  | list o items => rw [set]

theorem set_eq_put (name : String) (root value : Tree) :
    ∃ t, root.set name value = root.put (Text.lower name) t := by
  by_cases plain : value.IsTable
  · obtain ⟨o, es, rfl⟩ := plain
    exact ⟨_, by rw [set]⟩
  · exact ⟨value, set_plain plain name root⟩

theorem setEntries_eq_foldl (fields : List (String × Tree)) (root : Tree) :
    root.setEntries fields = fields.foldl (fun t f => t.set f.1 f.2) root := by
  induction fields generalizing root with
  | nil => rw [setEntries, List.foldl_nil]
  | cons f rest ih => rw [setEntries, List.foldl_cons, ih]

theorem isTable_setEntries (there : root.IsTable) (fields : List (String × Tree)) :
    (root.setEntries fields).IsTable := by
  induction fields generalizing root with
  | nil =>
    rw [setEntries]
    exact there
  | cons f rest ih =>
    obtain ⟨t, put⟩ := set_eq_put f.1 root f.2
    rw [setEntries]
    exact ih (put ▸ isTable_put ..)

/-- The field of a table under a name, in whatever letter case; the last one if there are more. -/
def field? (t : Tree) (key : String) : Option Tree :=
  t.entries.reverse.findSome? fun f => if Text.lower f.1 = key then some f.2 else none

/-- The fields of a table are set one by one, and all other names keep what they hold. -/
theorem get?_setEntries {o : Origin} {fields : List (String × Tree)}
    (plain : ∀ f ∈ fields, ¬f.2.IsTable) (root : Tree) (key : String) :
    (root.setEntries fields).get? key = ((table o fields).field? key).or (root.get? key) := by
  rw [setEntries_eq_foldl]
  refine foldl_last_given (·.get? key) (fun t f there => ?_) root
  rw [set_plain (plain f there), get?_put]
  by_cases same : Text.lower f.1 = key
  · rw [if_pos same, if_pos same.symm, Option.some_or]
  · rw [if_neg same, if_neg (Ne.symm same), Option.none_or]

/-! Paths into a section. -/

def within? (root : Tree) (name key : String) : Option Tree := (root.get? name).bind (·.get? key)

theorem within?_put (root : Tree) (name : String) (t : Tree) (key : String) :
    (root.put name t).within? name key = t.get? key := by
  rw [within?, get?_put, if_pos rfl, Option.bind_some]

theorem get?_getD {blank : Tree} (bare : blank.entries = []) :
    ((root.get? name).getD blank).get? key = root.within? name key := by
  unfold within?
  cases root.get? name with
  | none => rw [Option.getD_none, get?, bare, List.lookup_nil, Option.bind_none]
  | some t => rfl

/-- What stands where a section belongs is one. -/
def Sectioned (root : Tree) (name : String) : Prop := ∀ t, root.get? name = some t → t.IsTable

theorem sectioned_empty (name : String) : empty.Sectioned name := fun _ there => nomatch there

theorem setAt_eq_put (root : Tree) (p : Path) (value : Tree) :
    ∃ t, root.setAt p value = root.put (Text.lower p.first) t := by
  obtain ⟨first, rest⟩ := p
  cases rest with
  | nil =>
    obtain ⟨t, put⟩ := set_eq_put first root value
    exact ⟨t, by rw [setAt, setAlong, put]⟩
  | cons next rest => exact ⟨_, by rw [setAt, setAlong]⟩

def given? (name : String) (p : Path) (value : Tree) (key : String) : Option Tree :=
  if Text.lower p.first = name then
    match p.rest with
    | [] => value.field? key
    | .key k :: _ => if Text.lower k = key then some value else none
    | .place _ :: _ => none
  else none

/-- Entries of a layer that set plain values in a section, or nothing there. -/
inductive Sets (name : String) (p : Path) : Tree → Prop
  | elsewhere {value : Tree} (apart : Text.lower p.first ≠ name) : Sets name p value
  | whole {o : Origin} {fields : List (String × Tree)} (same : Text.lower p.first = name)
    (last : p.rest = []) (plain : ∀ f ∈ fields, ¬f.2.IsTable) : Sets name p (table o fields)
  | one {value : Tree} {k : String} (same : Text.lower p.first = name) (last : p.rest = [.key k])
    (plain : ¬value.IsTable) : Sets name p value

variable {p : Path} {layer : List (String × Tree)}

theorem Sets.within?_setAt (sets : Sets name p value) (root : Tree) (key : String) :
    (root.setAt p value).within? name key =
      (given? name p value key).or (root.within? name key) := by
  cases sets with
  | elsewhere apart =>
    obtain ⟨t, put⟩ := setAt_eq_put root p value
    rw [within?, put, get?_put, if_neg (Ne.symm apart), given?, if_neg apart, Option.none_or]
    rfl
  | whole same last plain =>
    -- the fields are set in what stands there, so that the others stay
    rw [setAt, last, setAlong, set, same, within?_put, get?_setEntries plain, get?_getD rfl, given?,
      if_pos same, last]
  | @one _ k same last plain =>
    rw [setAt, last, setAlong, same, within?_put, setAlong, set_plain plain, get?_put,
      get?_getD rfl, given?, if_pos same, last]
    by_cases found : Text.lower k = key
    · simp [found]
    · simp [found, Ne.symm found]

theorem Sets.sectioned_setAt (sets : Sets name p value) (before : root.Sectioned name) :
    (root.setAt p value).Sectioned name := by
  intro t there
  cases sets with
  | elsewhere apart =>
    obtain ⟨u, put⟩ := setAt_eq_put root p value
    rw [put, get?_put, if_neg (Ne.symm apart)] at there
    exact before t there
  | whole same last plain =>
    rw [setAt, last, setAlong, set, get?_put, same, if_pos rfl] at there
    obtain rfl := Option.some.inj there
    refine isTable_setEntries ?_ _
    cases held : root.get? name with
    | none => exact ⟨_, _, rfl⟩
    | some t => exact before t held
  | one same last plain =>
    rw [setAt, last, setAlong, get?_put, same, if_pos rfl, setAlong, set_plain plain] at there
    obtain rfl := Option.some.inj there
    exact isTable_put ..

/-- In what a section holds after a layer, the last entry that says something counts. -/
theorem within?_merge (each : ∀ e ∈ layer, Sets name (.ofName e.1) e.2) (root : Tree)
    (key : String) :
    (root.merge layer).within? name key =
      (layer.reverse.findSome? fun e => given? name (.ofName e.1) e.2 key).or
        (root.within? name key) :=
  foldl_last_given (·.within? name key)
    (fun t e there => (each e there).within?_setAt t key) root

theorem sectioned_merge (each : ∀ e ∈ layer, Sets name (.ofName e.1) e.2)
    (before : root.Sectioned name) : (root.merge layer).Sectioned name := by
  induction layer generalizing root with
  | nil => exact before
  | cons e rest ih =>
    refine ih (fun f there => each f (List.mem_cons_of_mem e there)) ?_
    exact (each e List.mem_cons_self).sectioned_setAt before

end Tree
end DualMode
