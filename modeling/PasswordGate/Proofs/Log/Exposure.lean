import PasswordGate.Log.Record
import PasswordGate.Proofs.Text.Escape
/-!
# Exposure — which binary contents a log line gives away

Two values are `Alike` when they differ only in what octets, storage and owned buffers in them hold.  A value's literal
spells out the contents of octets and storage at every depth (`Value.spelled`), but an extra is written as its literal
only if it is not binary itself (`Value.exposed`).  So the lines of two records whose extras are alike are equal exactly
when what is spelled out inside the containers among them is equal (`line_eq_iff`).
-/
namespace PasswordGate
namespace Value

mutual

/-- **Values that differ only in binary contents**, and not in how long these are. -/
inductive Alike : Value → Value → Prop
  | same (v : Value) : Alike v v
  | octets {data other : Bytes} (h : data.length = other.length) : Alike (.octets data) (.octets other)
  | storage {data other : Bytes} (h : data.length = other.length) : Alike (.storage data) (.storage other)
  | buffer {data other : Bytes} (h : data.length = other.length) : Alike (.buffer data) (.buffer other)
  | tuple {items others : List Value} (h : AlikeItems items others) : Alike (.tuple items) (.tuple others)
  | list {items others : List Value} (h : AlikeItems items others) : Alike (.list items) (.list others)
  | dict {entries others : List (String × Value)} (h : AlikeEntries entries others) :
      Alike (.dict entries) (.dict others)

inductive AlikeItems : List Value → List Value → Prop
  | nil : AlikeItems [] []
  | cons {v w : Value} {items others : List Value} (first : Alike v w) (rest : AlikeItems items others) :
      AlikeItems (v :: items) (w :: others)

inductive AlikeEntries : List (String × Value) → List (String × Value) → Prop
  | nil : AlikeEntries [] []
  | cons {v w : Value} {entries others : List (String × Value)} (key : String) (first : Alike v w)
      (rest : AlikeEntries entries others) : AlikeEntries ((key, v) :: entries) ((key, w) :: others)

end

mutual

/-- **The contents that a value's literal spells out**: those of octets and storage, in the order they stand. -/
def spelled : Value → List Bytes
  | octets data | storage data => [data]
  | tuple items | list items => spelledItems items
  | dict entries => spelledEntries entries
  | _ => []

def spelledItems : List Value → List Bytes
  | [] => []
  | item :: rest => spelled item ++ spelledItems rest

def spelledEntries : List (String × Value) → List Bytes
  | [] => []
  | (_, value) :: rest => spelled value ++ spelledEntries rest

end

/-- **The contents that an extra gives away**: a binary extra none, any other those its literal spells out. -/
def exposed : Value → List Bytes
  | octets _ | storage _ => []
  | value => value.spelled

/-! ## Literals -/

mutual

theorem Alike.length_spelled {v w : Value} : Alike v w → v.spelled.length = w.spelled.length
  | .same _ => rfl
  | .octets _ => rfl
  | .storage _ => rfl
  | .buffer _ => rfl
  | .tuple h => h.length_spelled
  | .list h => h.length_spelled
  | .dict h => h.length_spelled

theorem AlikeItems.length_spelled {items others : List Value} : AlikeItems items others →
    (spelledItems items).length = (spelledItems others).length
  | .nil => rfl
  | .cons first rest => by
    rw [spelledItems, spelledItems, List.length_append, List.length_append, first.length_spelled, rest.length_spelled]

theorem AlikeEntries.length_spelled {entries others : List (String × Value)} : AlikeEntries entries others →
    (spelledEntries entries).length = (spelledEntries others).length
  | .nil => rfl
  | .cons _ first rest => by
    rw [spelledEntries, spelledEntries, List.length_append, List.length_append, first.length_spelled, rest.length_spelled]

end

/-- **The first part of a row tells its own**, and the rest what the rest tells. -/
theorem intercalate_append_iff {separator part part' x y : List Char} {row row' : List (List Char)}
    {told told' others others' : List Bytes} (hlength : told.length = told'.length) (hrow : row ≠ []) (hrow' : row' ≠ [])
    (hpart : ∀ {x y : List Char}, part ++ x = part' ++ y ↔ told = told' ∧ x = y)
    (hrest : separator.intercalate row ++ x = separator.intercalate row' ++ y ↔ others = others' ∧ x = y) :
    separator.intercalate (part :: row) ++ x = separator.intercalate (part' :: row') ++ y ↔
      told ++ others = told' ++ others' ∧ x = y := by
  have htold : told ++ others = told' ++ others' ↔ told = told' ∧ others = others' :=
    ⟨fun h => List.append_inj h hlength, by rintro ⟨rfl, rfl⟩; rfl⟩
  rw [List.intercalate_cons_of_ne_nil hrow, List.intercalate_cons_of_ne_nil hrow', List.append_assoc, List.append_assoc,
    List.append_assoc, List.append_assoc, hpart, List.append_cancel_left_eq, hrest, htold, and_assoc]

mutual

/-- **Literals of alike values are told apart exactly by what they spell out**, whatever follows them. -/
theorem Alike.literal_append_iff {v w : Value} : Alike v w → ∀ {x y : List Char},
    (v.literal.toList ++ x = w.literal.toList ++ y ↔ v.spelled = w.spelled ∧ x = y)
  | .same v, x, y => by simp
  | .octets _, x, y => by simp [literal, spelled]
  | .storage _, x, y => by simp [literal, spelled]
  | .buffer h, x, y => by simp [literal, spelled, h]
  | .tuple .nil, x, y => by simp [literal, spelled]
  | .tuple (.cons first .nil), x, y => by simp [literal, spelled, spelledItems, first.literal_append_iff]
  | .tuple (.cons first (.cons second rest)), x, y => by
    have h := AlikeItems.literal_append_iff (.cons first (.cons second rest)) (x := ')' :: x) (y := ')' :: y)
    simpa [literal, spelled] using h
  | .list h, x, y => by simp [literal, spelled, h.literal_append_iff]
  | .dict h, x, y => by simp [literal, spelled, h.literal_append_iff]

theorem AlikeItems.literal_append_iff {items others : List Value} : AlikeItems items others → ∀ {x y : List Char},
    ([',', ' '].intercalate ((literals items).map String.toList) ++ x =
        [',', ' '].intercalate ((literals others).map String.toList) ++ y ↔
      spelledItems items = spelledItems others ∧ x = y)
  | .nil, x, y => by simp [literals]
  | .cons first .nil, x, y => by simp [literals, spelledItems, first.literal_append_iff]
  | .cons first (.cons second rest), x, y =>
    intercalate_append_iff first.length_spelled (by simp [literals]) (by simp [literals]) first.literal_append_iff
      (AlikeItems.literal_append_iff (.cons second rest))

theorem AlikeEntries.literal_append_iff {entries others : List (String × Value)} : AlikeEntries entries others →
    ∀ {x y : List Char}, ([',', ' '].intercalate ((entryLiterals entries).map String.toList) ++ x =
        [',', ' '].intercalate ((entryLiterals others).map String.toList) ++ y ↔
      spelledEntries entries = spelledEntries others ∧ x = y)
  | .nil, x, y => by simp [entryLiterals]
  | .cons key first .nil, x, y => by simp [entryLiterals, spelledEntries, first.literal_append_iff]
  | .cons key first (.cons next second rest), x, y =>
    intercalate_append_iff first.length_spelled (by simp [entryLiterals]) (by simp [entryLiterals])
      (by simp [first.literal_append_iff]) (AlikeEntries.literal_append_iff (.cons next second rest))

end

/-! ## Extras -/

/-- **An extra shows exactly what it gives away**, whatever follows it. -/
theorem Alike.redacted_append_iff {v w : Value} (h : Alike v w) {x y : List Char} :
    (Json.redacted v).render.toList ++ x = (Json.redacted w).render.toList ++ y ↔ v.exposed = w.exposed ∧ x = y := by
  -- A container is written as its literal between quotes, which may be compared with nothing behind it.
  have hliteral : v.literal = w.literal ↔ v.spelled = w.spelled := by
    simpa [String.toList_inj] using h.literal_append_iff (x := []) (y := [])
  cases h with
  | same v => simp
  | octets h => simp [Json.redacted, Json.byLength, exposed, h]
  | storage h => simp [Json.redacted, Json.byLength, exposed, h]
  | buffer h => simp [Json.redacted, Json.byLength, exposed, spelled, h]
  | tuple h => exact Json.quote_append_iff.trans (and_congr_left' hliteral)
  | list h => exact Json.quote_append_iff.trans (and_congr_left' hliteral)
  | dict h => exact Json.quote_append_iff.trans (and_congr_left' hliteral)

theorem Alike.length_exposed {v w : Value} (h : Alike v w) : v.exposed.length = w.exposed.length := by
  cases h with
  | same v => rfl
  | octets h => rfl
  | storage h => rfl
  | buffer h => rfl
  | tuple h => exact h.length_spelled
  | list h => exact h.length_spelled
  | dict h => exact h.length_spelled

theorem AlikeEntries.redacted_append_iff {entries others : List (String × Value)} : AlikeEntries entries others →
    ∀ {x y : List Char},
    ([','].intercalate ((Json.renderMembers (entries.map fun e => (e.1, Json.redacted e.2))).map String.toList) ++ x =
        [','].intercalate ((Json.renderMembers (others.map fun e => (e.1, Json.redacted e.2))).map String.toList) ++ y ↔
      entries.flatMap (·.2.exposed) = others.flatMap (·.2.exposed) ∧ x = y)
  | .nil, x, y => by simp [Json.renderMembers]
  | .cons key first .nil, x, y => by simp [Json.renderMembers, first.redacted_append_iff]
  | .cons key first (.cons next second rest), x, y =>
    intercalate_append_iff first.length_exposed (by simp [Json.renderMembers]) (by simp [Json.renderMembers])
      (by simp [first.redacted_append_iff]) (AlikeEntries.redacted_append_iff (.cons next second rest))

theorem AlikeEntries.filter (p : String → Bool) {entries others : List (String × Value)} : AlikeEntries entries others →
    AlikeEntries (entries.filter (p ·.1)) (others.filter (p ·.1))
  | .nil => .nil
  | .cons key first rest => by
    cases hp : p key with
    | false => simpa [hp] using rest.filter p
    | true => simpa [hp] using .cons key first (rest.filter p)

end Value

theorem Json.renderMembers_append : ∀ members others : List (String × Json),
    renderMembers (members ++ others) = renderMembers members ++ renderMembers others
  | [], _ => rfl
  | (key, value) :: rest, others => by
    rw [List.cons_append, renderMembers, renderMembers, renderMembers_append rest, List.cons_append]

namespace Record

/-- **Records that differ only in binary contents of their extras.** -/
structure Alike (r r' : Record) : Prop where
  others : r' = { r with extras := r'.extras }
  extras : Value.AlikeEntries r.extras r'.extras

/-- **The contents that a record's line gives away.** -/
def exposed (r : Record) : List Bytes := r.visibleExtras.flatMap (·.2.exposed)

theorem Alike.visibleExtras {r r' : Record} (h : r.Alike r') : Value.AlikeEntries r.visibleExtras r'.visibleExtras :=
  h.extras.filter fun key => key.toList.head? != some '_'

/-- The members that extras add to a line. -/
def extraMembers (extras : List (String × Value)) : List (String × Json) :=
  if extras.isEmpty then [] else [("extra", .object (extras.map fun e => (e.1, Json.redacted e.2)))]

/-- What stands in a line before the extras and behind them; the extras have no part in it. -/
def surroundings (r : Record) (stamp : String) :
    Except RecordError (List (String × Json) × List (String × Json)) := do
  let logger ← match r.logger with
    | .text name => pure (relativeName name)
    | _ => throw .loggerNotText
  let message ← match r.text with
    | .ok text => pure text
    | .error e => throw (.template e)
  let exception ← match r.raised with
    | .nothing => pure []
    | .exception title text => pure [("exception", Json.text (exceptionText title text))]
    | .foreign => throw .notAnException
  match Json.ofValue? r.level with
  | none => throw .levelNotJson
  | some level =>
    return ([("ts", .text stamp), ("level", level), ("logger", .text logger), ("message", .text message)], exception)

theorem members_eq (r : Record) (stamp : String) : r.members stamp =
    (r.surroundings stamp).map fun (before, after) => before ++ extraMembers r.visibleExtras ++ after := by
  unfold members surroundings extraMembers
  cases r.logger with
  | text name =>
    cases r.text with
    | error e => rfl
    | ok message =>
      cases r.raised with
      | foreign => rfl
      | nothing =>
        cases Json.ofValue? r.level with
        | none => rfl
        | some level => simp [Except.map, pure, Except.pure, bind, Except.bind]
      | exception title text =>
        cases Json.ofValue? r.level with
        | none => rfl
        | some level => simp [Except.map, pure, Except.pure, bind, Except.bind]
  | _ => rfl

/-- What stands around one part of a row does not depend on that part. -/
theorem exists_intercalate_eq (separator : List Char) (after : List (List Char)) : ∀ before : List (List Char),
    ∃ front back, ∀ part, separator.intercalate (before ++ part :: after) = front ++ (part ++ back)
  | [] => by
    cases after with
    | nil => exact ⟨[], [], fun part => by simp⟩
    | cons next rest =>
      exact ⟨[], separator ++ separator.intercalate (next :: rest), fun part => by simp [List.intercalate_cons_cons]⟩
  | first :: before => by
    obtain ⟨front, back, h⟩ := exists_intercalate_eq separator after before
    refine ⟨first ++ separator ++ front, back, fun part => ?_⟩
    rw [List.cons_append, List.intercalate_cons_of_ne_nil (by simp), h, List.append_assoc (first ++ separator)]

/-- A member stands in an object's text as it is, with the same text around it whatever its value is. -/
theorem exists_render_eq (before after : List (String × Json)) (key : String) : ∃ front back : List Char, ∀ value : Json,
    (Json.object (before ++ [(key, value)] ++ after)).render.toList = front ++ (value.render.toList ++ back) := by
  obtain ⟨front, back, hmember⟩ := exists_intercalate_eq [','] ((Json.renderMembers after).map String.toList)
    ((Json.renderMembers before).map String.toList)
  refine ⟨'{' :: front ++ (Json.quote key ++ ":").toList, back ++ ['}'], fun value => ?_⟩
  simp [Json.render, Json.renderMembers, Json.renderMembers_append, hmember]

/-- **Lines around alike extras are equal exactly when the extras give away the same.** -/
theorem render_eq_iff {entries others : List (String × Value)} (h : Value.AlikeEntries entries others)
    (before after : List (String × Json)) : (Json.object (before ++ extraMembers entries ++ after)).render =
        (Json.object (before ++ extraMembers others ++ after)).render ↔
      entries.flatMap (·.2.exposed) = others.flatMap (·.2.exposed) := by
  obtain ⟨front, back, hrender⟩ := exists_render_eq before after "extra"
  have hobject : (Json.object (entries.map fun e => (e.1, Json.redacted e.2))).render =
      (Json.object (others.map fun e => (e.1, Json.redacted e.2))).render ↔
        entries.flatMap (·.2.exposed) = others.flatMap (·.2.exposed) := by
    have hmembers := h.redacted_append_iff (x := []) (y := [])
    rw [← String.toList_inj]
    simpa [Json.render] using hmembers
  cases h with
  | nil => simp
  | cons key first rest =>
    rw [← hobject, ← String.toList_inj]
    unfold extraMembers
    rw [if_neg (by simp), if_neg (by simp), hrender, hrender, List.append_cancel_left_eq, List.append_cancel_right_eq,
      String.toList_inj]

/-- **When a line gives nothing away.**  Two records that differ only in binary contents of their extras, at any depth,
become the same line, or fail alike, exactly when what the line gives away is the same: the contents of the octets and
the storage inside tuples, lists and dictionaries.  Binary extras themselves and owned buffers never show. -/
theorem line_eq_iff {r r' : Record} (h : r.Alike r') :
    r.line = r'.line ↔ ∀ line, r.line = .ok line → r.exposed = r'.exposed := by
  have hstamp : r'.stamp = r.stamp := by rw [h.others]; rfl
  have hsurroundings (stamp : String) : r'.surroundings stamp = r.surroundings stamp := by rw [h.others]; rfl
  unfold line
  rw [hstamp]
  cases r.stamp with
  | error e => simp
  | ok stamp =>
    show r.lineAt stamp = r'.lineAt stamp ↔ ∀ line, r.lineAt stamp = .ok line → r.exposed = r'.exposed
    unfold lineAt
    rw [members_eq, members_eq, hsurroundings]
    cases r.surroundings stamp with
    | error e => simp [Except.map, bind, Except.bind]
    | ok around =>
      have hrender : _ ↔ r.exposed = r'.exposed := render_eq_iff h.visibleExtras around.1 around.2
      simpa [Except.map, bind, Except.bind, pure, Except.pure] using hrender

theorem line_eq_of_buffers :
    ({ logger := .text "app", level := .text "INFO", message := .text "m"
       extras := [("token", .octets [1, 2]), ("seen", .list [.dict [("k", .buffer [3])]])] } : Record).line =
    ({ logger := .text "app", level := .text "INFO", message := .text "m"
       extras := [("token", .octets [8, 9]), ("seen", .list [.dict [("k", .buffer [4])]])] } : Record).line :=
  (line_eq_iff ⟨rfl, .cons _ (.octets (by decide))
    (.cons _ (.list (.cons (.dict (.cons _ (.buffer (by decide)) .nil)) .nil)) .nil)⟩).2 fun _ _ => rfl

/-- A list of octets shows what they are. -/
theorem line_exposes_list : ∃ r r' : Record, r.Alike r' ∧ r.line ≠ r'.line :=
  ⟨{ logger := .text "app", level := .text "INFO", message := .text "m", extras := [("k", .list [.octets [97]])] },
    { logger := .text "app", level := .text "INFO", message := .text "m", extras := [("k", .list [.octets [98]])] },
    ⟨rfl, .cons "k" (.list (.cons (.octets rfl) .nil)) .nil⟩,
    fun h => absurd (congrArg Except.toOption h) (by decide +kernel)⟩

end Record
end PasswordGate
