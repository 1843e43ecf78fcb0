import PasswordGate.Proofs.Value.Distinct
import PasswordGate.Toml.Document
/-!
# Distinct names — no table of a document has a name twice

A table changes in three ways: a new entry comes behind the others, a value is replaced where it stands, or a table inside
it changes.  All three keep names distinct (`Keeps`), and so does every statement of a document; what a document is read as
has distinct names throughout (`distinct_read`).
-/
namespace PasswordGate
namespace Toml

variable {entries : Entries} {name : String} {found : Value} {path : Path} {change : Entries → Option Entries}

/-- **What a reader gives has a property**, if it gives anything. -/
def Gives {α : Type} (P : α → Prop) (result : Except Failure α) : Prop := ∀ a, result = .ok a → P a

namespace Gives

variable {α β : Type} {P : α → Prop} {Q : β → Prop}

theorem ok {a : α} (h : P a) : Gives P (.ok a) := by
  rintro _ ⟨⟩
  exact h

theorem error {e : Failure} : Gives P (.error e) := by
  rintro _ ⟨⟩

theorem bind {result : Except Failure β} {next : β → Except Failure α} (hresult : Gives Q result)
    (hnext : ∀ b, Q b → Gives P (next b)) : Gives P (result >>= next) := by
  cases result with
  | error e => exact error
  | ok b => exact hnext b (hresult b rfl)

/-- A step whose own result does not matter. -/
theorem after {result : Except Failure β} {next : β → Except Failure α} (hnext : ∀ b, Gives P (next b)) :
    Gives P (result >>= next) := by
  cases result with
  | error e => exact error
  | ok b => exact hnext b

theorem of_some {result : Option α} (h : ∀ a, result = some a → P a) : Gives P (required result) := by
  cases result with
  | none => exact error
  | some a => exact ok (h a rfl)

end Gives

/-! ## Changing a table -/

/-- **A change that keeps names distinct.** -/
def Keeps (change : Entries → Option Entries) : Prop :=
  ∀ before after, change before = some after → Value.Distinct (.dict before) → Value.Distinct (.dict after)

theorem distinct_append (h : Value.Distinct (.dict entries)) (hname : entries.lookup name = none)
    (hfound : Value.Distinct found) : Value.Distinct (.dict (entries ++ [(name, found)])) := by
  have habsent : ∀ earlier ∈ entries.map (·.1), earlier ≠ name := by
    rintro _ hearlier rfl
    obtain ⟨entry, hentry, rfl⟩ := List.mem_map.1 hearlier
    exact Value.lookup_eq_none_iff_forall.1 hname entry.2 hentry
  refine .dict ?_ ?_
  · rw [List.map_append, List.nodup_append]
    exact ⟨h.nodup, by simp, by simpa using habsent⟩
  · intro entry hentry
    rcases List.mem_append.1 hentry with hentry | hentry
    · exact h.inner hentry
    · rw [List.mem_singleton.1 hentry]
      exact hfound

theorem map_fst_replaceAt : (replaceAt entries name found).map (·.1) = entries.map (·.1) := by
  rw [replaceAt, List.map_map]
  refine List.map_congr_left fun entry _ => ?_
  simp only [Function.comp_apply]
  split <;> simp_all

theorem distinct_replaceAt (h : Value.Distinct (.dict entries)) (hfound : Value.Distinct found) :
    Value.Distinct (.dict (replaceAt entries name found)) := by
  refine .dict ?_ fun entry hentry => ?_
  · rw [map_fst_replaceAt]
    exact h.nodup
  obtain ⟨earlier, hearlier, rfl⟩ := List.mem_map.1 hentry
  split
  · exact hfound
  · exact h.inner hearlier

theorem keeps_addEntry (hfound : Value.Distinct found) : Keeps (addEntry name found) := by
  intro before after hafter h
  unfold addEntry at hafter
  split at hafter
  · rename_i hname
    cases hafter
    exact distinct_append h hname hfound
  · cases hafter

/-- A list of tables whose last is another table. -/
theorem distinct_concat {items : List Value} (h : ∀ item ∈ items, Value.Distinct item) {inner : Entries}
    (hinner : Value.Distinct (.dict inner)) : Value.Distinct (.list (items ++ [.dict inner])) := by
  refine .list fun item hitem => ?_
  rcases List.mem_append.1 hitem with hitem | hitem
  · exact h item hitem
  · rw [List.mem_singleton.1 hitem]
    exact hinner

theorem keeps_addTable : Keeps (addTable name) := by
  intro before after hafter h
  unfold addTable at hafter
  split at hafter <;> rename_i hname
  · cases hafter
    have hnew : ∀ item ∈ [Value.dict []], item.Distinct := by simpa using Value.Distinct.nil
    exact distinct_append h hname (.list hnew)
  · cases hafter
    exact distinct_replaceAt h (distinct_concat (fun _ => (h.of_lookup hname).item) .nil)
  · cases hafter

/-- **What is done to the table at a path keeps names distinct**, if it does so to that table. -/
theorem keeps_modify (throughLists : Bool) (hchange : Keeps change) :
    ∀ path : Path, Keeps (modify throughLists path change)
  | [] => hchange
  | name :: path => by
    intro before after hafter h
    have hrest := keeps_modify throughLists hchange path
    unfold modify at hafter
    split at hafter
    · rename_i hname
      obtain ⟨inner, hinner, rfl⟩ := Option.map_eq_some_iff.1 hafter
      exact distinct_append h hname (hrest _ _ hinner .nil)
    · rename_i hname
      obtain ⟨inner, hinner, rfl⟩ := Option.map_eq_some_iff.1 hafter
      exact distinct_replaceAt h (hrest _ _ hinner (h.of_lookup hname))
    · rename_i items hname
      have hitems : ∀ item ∈ items, item.Distinct := fun _ => (h.of_lookup hname).item
      split at hafter
      · rename_i hlast
        obtain ⟨inner, hinner, rfl⟩ := Option.map_eq_some_iff.1 hafter
        have hinner := hrest _ _ hinner (hitems _ (List.mem_of_getLast? hlast))
        exact distinct_replaceAt h (distinct_concat (fun item hitem => hitems item (List.dropLast_subset _ hitem)) hinner)
      · cases hafter
    · cases hafter

/-- A table in which the table at a path was changed, if it could be. -/
theorem distinct_modify {throughLists : Bool} (hchange : Keeps change) (h : Value.Distinct (.dict entries)) :
    Gives (fun after => Value.Distinct (.dict after)) (required (modify throughLists path change entries)) :=
  .of_some fun after hafter => keeps_modify throughLists hchange path entries after hafter h

/-! ## Scalars -/

theorem distinct_textValue {reading : Except Failure (Reading (List Char))} :
    Gives (fun r => r.1.Distinct) (textValue reading) := by
  unfold textValue
  cases reading with
  | error e => exact .error
  | ok r => exact .ok (.plain nofun nofun)

theorem distinct_moment {text : List Char} {reading : Except Failure (Reading Value)} (h : moment? text = some reading) :
    Gives (fun r => r.1.Distinct) reading := by
  unfold moment? at h
  split at h
  · cases h
    split
    · exact .ok (.plain nofun nofun)
    · exact .error
  · obtain ⟨rest, -, rfl⟩ := Option.map_eq_some_iff.1 h
    exact .ok (.plain nofun nofun)

theorem distinct_decimal {text : List Char} {reading : Except Failure (Reading Value)} (h : decimal? text = some reading) :
    Gives (fun r => r.1.Distinct) reading := by
  unfold decimal? at h
  obtain ⟨⟨whole, rest⟩, -, h⟩ := Option.bind_eq_some_iff.1 h
  dsimp only at h
  split at h
  · split at h
    · cases h
      exact .error
    · cases h
      exact .ok (.plain nofun nofun)
  · cases h
    exact .ok (.plain nofun nofun)
  · cases h
    exact .ok (.plain nofun nofun)

theorem distinct_number (text : List Char) : Gives (fun r => r.1.Distinct) (number text) := by
  unfold number
  split
  · exact .ok (.plain nofun nofun)
  · split
    · rename_i hdecimal
      exact distinct_decimal hdecimal
    · split
      · rename_i hspecial
        unfold special? at hspecial
        dsimp only at hspecial
        split at hspecial <;> cases hspecial <;> exact .ok (.plain nofun nofun)
      · exact .error

/-! ## Values

The four readers call each other with less fuel, on which the induction is; the entries that `members` has read so far
are distinct already.
-/

mutual

theorem distinct_value : ∀ (fuel : Nat) (text : List Char), Gives (fun r => r.1.Distinct) (value fuel text)
  | 0, _ => .error
  | fuel + 1, text => by
    unfold value
    split
    · exact distinct_textValue
    · exact distinct_textValue
    · exact distinct_textValue
    · exact distinct_textValue
    · exact .ok (.plain nofun nofun)
    · exact .ok (.plain nofun nofun)
    · refine .after fun text => ?_
      split
      · exact .ok (.list (by simp))
      · exact .bind (distinct_items fuel _) fun r hr => .ok (.list hr)
    · split
      · exact .ok .nil
      · exact .bind (distinct_members fuel _ _ _ .nil) fun r hr => .ok hr
    · split
      · rename_i hmoment
        exact distinct_moment hmoment
      · exact distinct_number _

theorem distinct_items : ∀ (fuel : Nat) (text : List Char),
    Gives (fun r => ∀ item ∈ r.1, item.Distinct) (items fuel text)
  | 0, _ => .error
  | fuel + 1, text => by
    unfold items
    refine .bind (distinct_value fuel text) fun first hfirst => .after fun rest => ?_
    have hlone : ∀ item ∈ [first.1], item.Distinct := by simpa using hfirst
    split
    · exact .ok hlone
    · refine .after fun rest => ?_
      split
      · exact .ok hlone
      · exact .bind (distinct_items fuel _) fun others hothers => .ok (List.forall_mem_cons.2 ⟨hfirst, hothers⟩)
    · exact .error

theorem distinct_members : ∀ (fuel : Nat) (entries : Entries) (marks : Marks) (text : List Char),
    Value.Distinct (.dict entries) → Gives (fun r => Value.Distinct (.dict r.1)) (members fuel entries marks text)
  | 0, _, _, _, _ => .error
  | fuel + 1, entries, marks, text, h => by
    unfold members
    refine .bind (distinct_pair fuel text) fun found hfound => ?_
    dsimp only
    split
    · exact .error
    · refine .bind (distinct_modify (keeps_addEntry hfound) h) fun after hafter => ?_
      split
      · exact .ok hafter
      · exact distinct_members fuel _ _ _ hafter
      · exact .error

theorem distinct_pair : ∀ (fuel : Nat) (text : List Char), Gives (fun r => r.2.1.Distinct) (pair fuel text)
  | 0, _ => .error
  | fuel + 1, text => by
    unfold pair
    refine .after fun path => ?_
    dsimp only
    split
    · exact .bind (distinct_value fuel _) fun found hfound => .ok hfound
    · exact .error

end

/-! ## Statements -/

namespace Draft

variable {d : Draft}

theorem distinct_assign (h : Value.Distinct (.dict d.entries)) (hfound : found.Distinct) :
    Gives (fun d => Value.Distinct (.dict d.entries)) (d.assign path found) := by
  unfold assign
  dsimp only
  split
  · exact .error
  · split
    · exact .error
    · exact .bind (distinct_modify (keeps_addEntry hfound) h) fun after hafter => .ok hafter

theorem distinct_openTable (h : Value.Distinct (.dict d.entries)) :
    Gives (fun d => Value.Distinct (.dict d.entries)) (d.openTable path) := by
  have hkeeps : Keeps some := fun before after hafter h => Option.some.inj hafter ▸ h
  unfold openTable
  dsimp only
  split
  · exact .error
  · exact .bind (distinct_modify hkeeps h) fun after hafter => .ok hafter

theorem distinct_openListTable (h : Value.Distinct (.dict d.entries)) :
    Gives (fun d => Value.Distinct (.dict d.entries)) (d.openListTable path) := by
  unfold openListTable
  dsimp only
  split
  · exact .error
  · exact .bind (distinct_modify keeps_addTable h) fun after hafter => .ok hafter

end Draft

variable {d : Draft} {text : List Char}

theorem distinct_header (h : Value.Distinct (.dict d.entries)) :
    Gives (fun r => Value.Distinct (.dict r.1.entries)) (header d text) := by
  unfold header
  split
  · refine .after fun path => .bind (Draft.distinct_openListTable h) fun d hd => ?_
    split
    · exact .ok hd
    · exact .error
  · refine .after fun path => .bind (Draft.distinct_openTable h) fun d hd => ?_
    split
    · exact .ok hd
    · exact .error

/-- **A statement keeps names distinct.** -/
theorem distinct_statement (h : Value.Distinct (.dict d.entries)) :
    Gives (fun r => Value.Distinct (.dict r.1.entries)) (statement d text) := by
  unfold statement
  split
  · exact .ok h
  · split
    · exact distinct_header h
    · split
      · exact .bind (distinct_pair _ _) fun found hfound => .bind (Draft.distinct_assign h hfound) fun d hd => .ok hd
      · split
        · exact .ok h
        · exact .error

/-- All statements do, one after the other. -/
theorem distinct_statements : ∀ (fuel : Nat) (d : Draft) (text : List Char), Value.Distinct (.dict d.entries) →
    Gives (fun d => Value.Distinct (.dict d.entries)) (statements fuel d text)
  | 0, _, _, h => .ok h
  | fuel + 1, d, text, h => by
    unfold statements
    refine .bind (distinct_statement h) fun r hr => .after fun rest => ?_
    split
    · exact .ok hr
    · exact distinct_statements fuel _ _ hr
    · exact .error

/-- **In a document no name stands twice**, in whatever table of it. -/
theorem distinct_read (text : String) : Gives (fun entries => Value.Distinct (.dict entries)) (read text) := by
  unfold read
  exact .bind (distinct_statements _ {} _ .nil) fun d hd => .ok hd

end Toml
end PasswordGate
