import PasswordGate.Log.Record
/-!
# Veil — what owned buffers hold has no part in a log line

`Value.veiled` blots out what every owned buffer in a value holds, at any depth, and leaves its length; so two values
differ in the contents of owned buffers alone exactly when they are equal once veiled.  Nothing that a line is made with
looks behind the veil: not the literals, not the filling of a template, whose supply of arguments is veiled from step to
step, and not the extras.  So a veiled record has the line of the record itself (`line_veiled`).
-/
namespace PasswordGate

namespace Value

mutual

/-- **A value with the contents of its owned buffers blotted out**: of each of them its length is left. -/
def veiled : Value → Value
  | buffer content => buffer (Bytes.zeros content.length)
  | tuple items => tuple (veiledItems items)
  | list items => list (veiledItems items)
  | dict entries => dict (veiledEntries entries)
  | value => value

def veiledItems : List Value → List Value
  | [] => []
  | item :: rest => veiled item :: veiledItems rest

def veiledEntries : List (String × Value) → List (String × Value)
  | [] => []
  | (key, value) :: rest => (key, veiled value) :: veiledEntries rest

end

/-! ## What can be seen of a value -/

theorem isEmpty_veiledItems (items : List Value) : (veiledItems items).isEmpty = items.isEmpty := by
  cases items <;> rfl

theorem isEmpty_veiledEntries (entries : List (String × Value)) : (veiledEntries entries).isEmpty = entries.isEmpty := by
  cases entries <;> rfl

theorem lookup_veiledEntries (key : String) : ∀ entries : List (String × Value),
    (veiledEntries entries).lookup key = (entries.lookup key).map veiled
  | [] => rfl
  | (other, value) :: rest => by
    rw [veiledEntries, List.lookup_cons, List.lookup_cons]
    cases key == other with
    | true => rfl
    | false => exact lookup_veiledEntries key rest

mutual

/-- **A literal shows of an owned buffer its length alone.** -/
theorem literal_veiled : ∀ v : Value, v.veiled.literal = v.literal
  | null | bool _ | int _ | float _ | text _ | octets _ | storage _ | view _ _ | wordView _ _ | status _ | path _
  | moment _ => rfl
  | buffer content => by
    have hlength : (Bytes.zeros content.length).length = content.length := Bytes.length_zeros content.length
    simp [veiled, literal, hlength]
  | tuple [] => rfl
  | tuple [item] => by
    have hitem := literal_veiled item
    simp [veiled, veiledItems, literal, hitem]
  | tuple (first :: second :: rest) => by
    have hitems := literals_veiledItems (first :: second :: rest)
    simp only [veiledItems] at hitems
    simp [veiled, veiledItems, literal, hitems]
  | list items => by simp [veiled, literal, literals_veiledItems items]
  | dict entries => by simp [veiled, literal, entryLiterals_veiledEntries entries]

theorem literals_veiledItems : ∀ items : List Value, literals (veiledItems items) = literals items
  | [] => rfl
  | item :: rest => by
    have hitem := literal_veiled item
    have hrest := literals_veiledItems rest
    rw [veiledItems, literals, literals, hitem, hrest]

theorem entryLiterals_veiledEntries : ∀ entries : List (String × Value),
    entryLiterals (veiledEntries entries) = entryLiterals entries
  | [] => rfl
  | (key, value) :: rest => by
    have hvalue := literal_veiled value
    have hrest := entryLiterals_veiledEntries rest
    rw [veiledEntries, entryLiterals, entryLiterals, hvalue, hrest]

end

theorem inWords_veiled (v : Value) : v.veiled.inWords = v.inWords := by
  have hliteral := literal_veiled v
  cases v with
  | buffer content => exact hliteral
  | tuple items => exact hliteral
  | list items => exact hliteral
  | dict entries => exact hliteral
  | _ => rfl

theorem integer?_veiled (v : Value) : v.veiled.integer? = v.integer? := by cases v <;> rfl

theorem isPresent_veiled (v : Value) : v.veiled.isPresent = v.isPresent := by
  cases v with
  | buffer content => cases content <;> rfl
  | tuple items => exact congrArg (!·) (isEmpty_veiledItems items)
  | list items => exact congrArg (!·) (isEmpty_veiledItems items)
  | dict entries => exact congrArg (!·) (isEmpty_veiledEntries entries)
  | _ => rfl

/-- **An extra is written without what its owned buffers hold.** -/
theorem redacted_veiled (v : Value) : Json.redacted v.veiled = Json.redacted v := by
  have hwords := inWords_veiled v
  cases v with
  | buffer content =>
    have hlength : (Bytes.zeros content.length).length = content.length := Bytes.length_zeros content.length
    simp [veiled, Json.redacted, Json.byLength, hlength]
  | tuple items => exact congrArg Json.text hwords
  | list items => exact congrArg Json.text hwords
  | dict entries => exact congrArg Json.text hwords
  | _ => rfl

end Value

/-! ## Filling a template -/

namespace Template

open Value (veiled veiledItems veiledEntries)

/-- The arguments that are left, veiled. -/
def Supply.veiled : Supply → Supply
  | row rest => row (veiledItems rest)
  | single value => single value.veiled
  | spent => spent

theorem Supply.ofValue_veiled (v : Value) : ofValue v.veiled = (ofValue v).veiled := by cases v <;> rfl

theorem Supply.next_veiled (s : Supply) :
    s.veiled.next = s.next.map fun (value, rest) => (value.veiled, rest.veiled) := by
  cases s with
  | row items => cases items <;> rfl
  | single value => rfl
  | spent => rfl

theorem Supply.leftOver_veiled (s : Supply) : s.veiled.leftOver = s.leftOver := by
  cases s with
  | row items => exact congrArg (!·) (Value.isEmpty_veiledItems items)
  | single value => rfl
  | spent => rfl

theorem isMapping_veiled (v : Value) : isMapping v.veiled = isMapping v := by cases v <;> rfl

theorem underKey_veiled (arguments : Value) (key : String) :
    underKey arguments.veiled key = (underKey arguments key).map Value.veiled := by
  cases arguments with
  | dict entries =>
    have hlookup := Value.lookup_veiledEntries key entries
    simp only [Value.veiled, underKey, hlookup]
    cases entries.lookup key <;> rfl
  | _ => rfl

theorem wholeNumber_veiled (conversion : Char) (v : Value) : wholeNumber conversion v.veiled = wholeNumber conversion v := by
  cases v <;> rfl

theorem realNumber_veiled (conversion : Char) (v : Value) : realNumber conversion v.veiled = realNumber conversion v := by
  cases v <;> rfl

theorem character_veiled (v : Value) : character v.veiled = character v := by cases v <;> rfl

/-- **No conversion shows more of a value than its veiled form.** -/
theorem convert_veiled (flags : Flags) (width : Nat) (precision : Option Nat) (conversion : Char) (v : Value) :
    convert flags width precision conversion v.veiled = convert flags width precision conversion v := by
  have htextual : textual conversion v.veiled = textual conversion v := by
    simp only [textual, Value.inWords_veiled, Value.literal_veiled]
  simp only [convert, htextual, wholeNumber_veiled, realNumber_veiled, character_veiled]

/-- Steps whose results are veiled may be taken one after the other: what follows one of them sees no more than the veiled
result. -/
theorem bind_veiled {α β γ δ : Type} {x : Except Error α} {veil : α → β} {veilNext : γ → δ} {next : α → Except Error γ}
    {next' : β → Except Error δ} (h : ∀ a, next' (veil a) = (next a).map veilNext) :
    (x.map veil >>= next') = (x >>= next).map veilNext := by
  cases x with
  | error e => rfl
  | ok a => exact h a

theorem measure_veiled (bound : Int) (m : Measure) (s : Supply) :
    measure bound m s.veiled = (measure bound m s).map fun (n, rest) => (n, rest.veiled) := by
  cases m with
  | absent => rfl
  | written n =>
    simp only [measure]
    split <;> rfl
  | argument =>
    unfold measure
    rw [Supply.next_veiled]
    apply bind_veiled
    intro ⟨value, rest⟩
    dsimp only
    rw [Value.integer?_veiled]
    cases value.integer? with
    | none => rfl
    | some n =>
      dsimp only
      split <;> rfl

theorem keyed_veiled (arguments : Value) (key : Key) (s : Supply) :
    keyed arguments.veiled key s.veiled = (keyed arguments key s).map Supply.veiled := by
  cases key with
  | absent => rfl
  | named name =>
    simp only [keyed, isMapping_veiled, underKey_veiled]
    split
    · cases underKey arguments name <;> rfl
    · rfl
  | unclosed =>
    simp only [keyed, isMapping_veiled]
    split <;> rfl

/-- **A place is filled alike**, and leaves alike what is left. -/
theorem fill_veiled (arguments : Value) (place : Place) (s : Supply) :
    fill arguments.veiled place s.veiled = (fill arguments place s).map fun (text, rest) => (text, rest.veiled) := by
  unfold fill
  rw [keyed_veiled]
  apply bind_veiled
  intro s₁
  rw [measure_veiled]
  apply bind_veiled
  intro ⟨width, s₂⟩
  dsimp only
  rw [measure_veiled]
  apply bind_veiled
  intro ⟨precision, s₃⟩
  dsimp only
  cases place.conversion with
  | none => rfl
  | some conversion =>
    dsimp only
    rw [Supply.next_veiled]
    apply bind_veiled
    intro ⟨value, s₄⟩
    dsimp only
    rw [convert_veiled, isMapping_veiled, Supply.leftOver_veiled]
    -- What is converted is the same text; only the check of what is left over comes after it.
    generalize convert _ _ _ conversion value = converted
    cases converted with
    | error e => rfl
    | ok text =>
      simp only [bind, Except.bind]
      split <;> rfl

theorem fillAll_veiled (arguments : Value) : ∀ (row : List Piece) (s : Supply),
    fillAll arguments.veiled row s.veiled = fillAll arguments row s
  | [], s => by simp only [fillAll, Supply.leftOver_veiled, isMapping_veiled]
  | .text chars :: rest, s => by
    have hrest := fillAll_veiled arguments rest s
    simp only [fillAll, hrest]
  | .place place :: rest, s => by
    have hrest := fun s => fillAll_veiled arguments rest s
    simp only [fillAll, fill_veiled]
    cases fill arguments place s with
    | error e => rfl
    | ok filled => simp only [Except.map, bind, Except.bind, hrest]

/-- **A template is filled alike** with veiled arguments, or fails alike. -/
theorem render_veiled (template : String) (arguments : Value) :
    render template arguments.veiled = render template arguments := by
  unfold render
  rw [Supply.ofValue_veiled, fillAll_veiled]

end Template

/-! ## Lines -/

namespace Record

/-- **A record with the contents of owned buffers blotted out** in its message, its arguments and its extras. -/
def veiled (r : Record) : Record :=
  { r with message := r.message.veiled, arguments := r.arguments.veiled, extras := Value.veiledEntries r.extras }

theorem text_veiled (r : Record) : r.veiled.text = r.text := by
  simp only [text, veiled, Value.isPresent_veiled, Value.inWords_veiled, Template.render_veiled]

/-- The extras that a line shows, as it shows them. -/
theorem shown_veiledEntries : ∀ extras : List (String × Value),
    ((Value.veiledEntries extras).filter fun entry => entry.1.toList.head? != some '_').map
        (fun entry => (entry.1, Json.redacted entry.2)) =
      (extras.filter fun entry => entry.1.toList.head? != some '_').map fun entry => (entry.1, Json.redacted entry.2)
  | [] => rfl
  | (key, value) :: rest => by
    have hrest := shown_veiledEntries rest
    have hvalue := Value.redacted_veiled value
    rw [Value.veiledEntries, List.filter_cons, List.filter_cons]
    by_cases hkey : (key.toList.head? != some '_') = true
    · rw [if_pos hkey, if_pos hkey, List.map_cons, List.map_cons, hrest, hvalue]
    · rw [if_neg hkey, if_neg hkey, hrest]

theorem members_veiled (r : Record) (stamp : String) : r.veiled.members stamp = r.members stamp := by
  have hextras : r.veiled.visibleExtras.map (fun entry => (entry.1, Json.redacted entry.2)) =
      r.visibleExtras.map fun entry => (entry.1, Json.redacted entry.2) := shown_veiledEntries r.extras
  unfold members
  rw [text_veiled, hextras]
  rfl

/-- **A veiled record has the line of the record itself**, or fails as it does. -/
theorem line_veiled (r : Record) : r.veiled.line = r.line := by
  have hstamp : r.veiled.stamp = r.stamp := rfl
  have hline : r.veiled.lineAt = r.lineAt := by
    funext stamp
    unfold lineAt
    rw [members_veiled]
  unfold line
  rw [hstamp, hline]

/-- **What owned buffers hold never shows in a log.**  Two records that differ only in the contents of owned buffers of the
same lengths, as the message or at any depth of the arguments or the extras, become the same line, or fail with the same
error, whatever the message's template asks for. -/
theorem line_eq_of_veiled_eq {r r' : Record} (h : r.veiled = r'.veiled) : r.line = r'.line := by
  have hline := line_veiled r
  have hline' := line_veiled r'
  rw [← hline, ← hline', h]

theorem line_eq_of_veiled_nested :
    ({ logger := .text "keyguard.device", level := .text "INFO", message := .text "%(who)r opened %(what).20s"
       arguments := .dict [("who", .list [.buffer [1, 2], .tuple [.buffer [3]]]), ("what", .buffer [4])]
       extras := [("token", .buffer [5, 6]), ("seen", .dict [("k", .buffer [7])])] } : Record).line =
    ({ logger := .text "keyguard.device", level := .text "INFO", message := .text "%(who)r opened %(what).20s"
       arguments := .dict [("who", .list [.buffer [8, 8], .tuple [.buffer [8]]]), ("what", .buffer [8])]
       extras := [("token", .buffer [8, 8]), ("seen", .dict [("k", .buffer [8])])] } : Record).line :=
  line_eq_of_veiled_eq rfl

end Record
end PasswordGate
