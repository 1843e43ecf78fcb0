import PasswordGate.Value.Hash
/-!
# Hash laws — which values have a hash, and which refuse it

`Value.Hashed` and `Value.Refuses` say it of a value by its form; a tuple refuses as the first of its items does that has no
hash.  What is computed is what they say (`hashFault?_eq_none_iff`, `hashFault?_eq_refused_iff`).
-/
namespace PasswordGate
namespace Value

/-- **A value with a hash.** -/
inductive Hashed : Value → Prop
  | null : Hashed .null
  | bool (b : Bool) : Hashed (.bool b)
  | int (n : Int) : Hashed (.int n)
  | float (x : Double) : Hashed (.float x)
  | text (s : String) : Hashed (.text s)
  | octets (data : Bytes) : Hashed (.octets data)
  | view (data : Bytes) : Hashed (.view false data)
  | status (s : Status) : Hashed (.status s)
  | path (written : String) : Hashed (.path written)
  | moment (written : String) : Hashed (.moment written)
  | tuple {items : List Value} (hitems : ∀ item ∈ items, Hashed item) : Hashed (.tuple items)

/-- **A value that refuses its hash**: a view that can be written through or has wide items, or a tuple in which one stands
behind nothing but items with a hash. -/
inductive Refuses : Value → HashRefusal → Prop
  | writable (data : Bytes) : Refuses (.view true data) .writable
  | writableWords (data : Bytes) : Refuses (.wordView true data) .writable
  | wideItems (data : Bytes) : Refuses (.wordView false data) .wideItems
  | tuple {before after : List Value} {item : Value} {cause : HashRefusal} (hbefore : ∀ earlier ∈ before, Hashed earlier)
      (hitem : Refuses item cause) : Refuses (.tuple (before ++ item :: after)) cause

theorem firstFault?_eq (items : List Value) : firstFault? items = items.findSome? hashFault? := by
  induction items with
  | nil => rfl
  | cons item rest ih =>
    rw [firstFault?, ih, List.findSome?_cons]
    cases hashFault? item <;> rfl

mutual

theorem hashFault?_eq_none_iff : ∀ value : Value, value.hashFault? = none ↔ value.Hashed
  | .null => iff_of_true rfl .null
  | .bool b => iff_of_true rfl (.bool b)
  | .int n => iff_of_true rfl (.int n)
  | .float x => iff_of_true rfl (.float x)
  | .text s => iff_of_true rfl (.text s)
  | .octets data => iff_of_true rfl (.octets data)
  | .view false data => iff_of_true rfl (.view data)
  | .status s => iff_of_true rfl (.status s)
  | .path written => iff_of_true rfl (.path written)
  | .moment written => iff_of_true rfl (.moment written)
  | .storage _ | .buffer _ | .list _ | .dict _ | .view true _ | .wordView true _ | .wordView false _ =>
    iff_of_false nofun nofun
  | .tuple items => by
    rw [hashFault?, firstFault?_eq_none_iff items]
    exact ⟨.tuple, fun h => by cases h with | tuple hitems => exact hitems⟩

theorem firstFault?_eq_none_iff : ∀ items : List Value, firstFault? items = none ↔ ∀ item ∈ items, item.Hashed
  | [] => iff_of_true rfl nofun
  | item :: rest => by
    rw [firstFault?, Option.or_eq_none_iff, hashFault?_eq_none_iff item, firstFault?_eq_none_iff rest, List.forall_mem_cons]

end

mutual

/-- **A refusal that is found is one.** -/
theorem refuses_of_hashFault? {cause : HashRefusal} : ∀ value : Value, value.hashFault? = some (.refused cause) →
    value.Refuses cause
  | .view true data, h => by
    cases h
    exact .writable data
  | .wordView true data, h => by
    cases h
    exact .writableWords data
  | .wordView false data, h => by
    cases h
    exact .wideItems data
  | .tuple items, h => by
    obtain ⟨before, item, after, rfl, hbefore, hitem⟩ := exists_of_firstFault? items h
    exact .tuple hbefore hitem

theorem exists_of_firstFault? {cause : HashRefusal} : ∀ items : List Value, firstFault? items = some (.refused cause) →
    ∃ before item after, items = before ++ item :: after ∧ (∀ earlier ∈ before, earlier.Hashed) ∧ item.Refuses cause
  | item :: rest, h => by
    rw [firstFault?, Option.or_eq_some_iff] at h
    rcases h with hitem | ⟨hnone, hrest⟩
    · exact ⟨[], item, rest, rfl, nofun, refuses_of_hashFault? item hitem⟩
    · obtain ⟨before, found, after, rfl, hbefore, hfound⟩ := exists_of_firstFault? rest hrest
      exact ⟨item :: before, found, after, rfl,
        List.forall_mem_cons.2 ⟨(hashFault?_eq_none_iff item).1 hnone, hbefore⟩, hfound⟩

end

/-- **Refusals are found as they are.** -/
theorem hashFault?_eq_refused_iff {value : Value} {cause : HashRefusal} :
    value.hashFault? = some (.refused cause) ↔ value.Refuses cause := by
  refine ⟨refuses_of_hashFault? value, fun h => ?_⟩
  induction h with
  | writable _ | writableWords _ | wideItems _ => rfl
  | @tuple before after item cause hbefore _ ih =>
    have hnone := (firstFault?_eq_none_iff before).2 hbefore
    rw [hashFault?, firstFault?_eq, List.findSome?_append, ← firstFault?_eq, hnone, Option.none_or, List.findSome?_cons, ih]

end Value
end PasswordGate
