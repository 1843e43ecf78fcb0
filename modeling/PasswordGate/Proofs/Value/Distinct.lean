import PasswordGate.Value
/-!
# Distinct names — tables in which no name stands twice

In such a table a name is looked up by finding its entry (`lookup_eq_some_iff_mem`), so the order of the entries does not
matter.  `Value.Distinct` says so of all tables inside a value.
-/
namespace PasswordGate
namespace Value

variable {α : Type} {entries other : List (String × α)} {name : String} {value : α}

theorem lookup_eq_none_iff_forall : entries.lookup name = none ↔ ∀ value, (name, value) ∉ entries := by
  rw [List.lookup_eq_none_iff]
  constructor
  · intro h value hentry
    simpa using h _ hentry
  · intro h entry hentry
    rw [bne_iff_ne]
    rintro rfl
    exact h entry.2 hentry

/-- **Where no name stands twice, looking a name up is finding its entry.** -/
theorem lookup_eq_some_iff_mem (hdistinct : (entries.map (·.1)).Nodup) :
    entries.lookup name = some value ↔ (name, value) ∈ entries := by
  rw [List.lookup_eq_some_iff]
  constructor
  · rintro ⟨before, after, rfl, -⟩
    exact List.mem_append_right before List.mem_cons_self
  · intro hentry
    obtain ⟨before, after, rfl⟩ := List.append_of_mem hentry
    refine ⟨before, after, rfl, fun earlier hearlier => ?_⟩
    rw [List.map_append, List.nodup_append] at hdistinct
    rw [bne_iff_ne]
    exact (hdistinct.2.2 earlier.1 (List.mem_map_of_mem hearlier) name (by simp)).symm

theorem lookup_perm (hdistinct : (entries.map (·.1)).Nodup) (h : entries.Perm other) :
    entries.lookup name = other.lookup name := by
  have hother : (other.map (·.1)).Nodup := (h.map (·.1)).nodup_iff.1 hdistinct
  apply Option.ext
  intro value
  rw [lookup_eq_some_iff_mem hdistinct, lookup_eq_some_iff_mem hother, h.mem_iff]

/-- **No name stands twice** in a table, nor in any table or list inside it. -/
inductive Distinct : Value → Prop
  | dict {entries : List (String × Value)} (hdistinct : (entries.map (·.1)).Nodup)
      (hinner : ∀ entry ∈ entries, Distinct entry.2) : Distinct (.dict entries)
  | list {items : List Value} (hitems : ∀ item ∈ items, Distinct item) : Distinct (.list items)
  | plain {value : Value} (hdict : ∀ entries, value ≠ .dict entries) (hlist : ∀ items, value ≠ .list items) :
      Distinct value

namespace Distinct

variable {entries : List (String × Value)} {value : Value}

theorem nodup (h : Distinct (.dict entries)) : (entries.map (·.1)).Nodup := by
  cases h with
  | dict hdistinct _ => exact hdistinct
  | plain hdict _ => exact absurd rfl (hdict entries)

theorem inner (h : Distinct (.dict entries)) {entry : String × Value} (hentry : entry ∈ entries) : Distinct entry.2 := by
  cases h with
  | dict _ hinner => exact hinner entry hentry
  | plain hdict _ => exact absurd rfl (hdict entries)

theorem item {items : List Value} (h : Distinct (.list items)) {item : Value} (hitem : item ∈ items) : Distinct item := by
  cases h with
  | list hitems => exact hitems item hitem
  | plain _ hlist => exact absurd rfl (hlist items)

theorem of_lookup (h : Distinct (.dict entries)) (hvalue : entries.lookup name = some value) : Distinct value :=
  h.inner ((lookup_eq_some_iff_mem h.nodup).1 hvalue)

theorem nil : Distinct (.dict []) := .dict List.nodup_nil (by simp)

end Distinct
end Value
end PasswordGate
