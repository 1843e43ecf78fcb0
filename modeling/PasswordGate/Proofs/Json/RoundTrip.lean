import PasswordGate.Proofs.Json.Numbers
/-!
# JSON round trip — the text of a value is one value of the grammar, on one line

`Json.render` writes a text that `Json.read?` takes (`read?_render`): what comes back has the same members and items in the
same order, the same strings, integers and words; a finite double comes back as the double of its digits, which has 64
bits as well, and one that is not finite as null.  The text holds no control character at all (`clear_render`), so it is one line.

Both are inductions over the value, with a case for each of its forms; items and members go along in the rows in which
they stand.
-/
namespace PasswordGate
namespace Json

mutual

/-- All doubles in a value are doubles of 64 bits. -/
def Genuine : Json → Prop
  | .float x => x.Genuine
  | .array items => GenuineItems items
  | .object members => GenuineMembers members
  | _ => True

def GenuineItems : List Json → Prop
  | [] => True
  | item :: rest => Genuine item ∧ GenuineItems rest

def GenuineMembers : List (String × Json) → Prop
  | [] => True
  | (_, value) :: rest => Genuine value ∧ GenuineMembers rest

end

/-- What the text of a double says: a number if it is finite. -/
def recoveredFloat (x : Double) : Json :=
  match JsonReader.number? (floatStyle.text x).toList with
  | some (value, _) => value
  | none => .null

mutual

/-- **What the text of a value says**: the value itself, but for the doubles in it. -/
def recovered : Json → Json
  | .float x => recoveredFloat x
  | .array items => .array (recoveredItems items)
  | .object members => .object (recoveredMembers members)
  | other => other

def recoveredItems : List Json → List Json
  | [] => []
  | item :: rest => recovered item :: recoveredItems rest

def recoveredMembers : List (String × Json) → List (String × Json)
  | [] => []
  | (key, value) :: rest => (key, recovered value) :: recoveredMembers rest

end

/-- The numeral that is written for a finite double is what its text says. -/
theorem exists_numeral_recovered {negative : Bool} {mantissa : Nat} {exponent : Int}
    (h : (Double.finite negative mantissa exponent).Genuine) : ∃ n : JsonReader.Numeral, n.Valid ∧
    n.text = (floatStyle.text (.finite negative mantissa exponent)).toList ∧
    recoveredFloat (.finite negative mantissa exponent) = n.value ∧ ∃ y : Double, y.Genuine ∧ n.value = .float y := by
  obtain ⟨n, hvalid, htext, hvalue⟩ := JsonReader.exists_numeral_float h
  have hnumber : JsonReader.number? (n.text ++ []) = some (n.value, []) := JsonReader.number?_text hvalid nofun
  rw [List.append_nil] at hnumber
  exact ⟨n, hvalid, htext, by rw [recoveredFloat, ← htext, hnumber], hvalue⟩

theorem recoveredFloat_finite {negative : Bool} {mantissa : Nat} {exponent : Int}
    (h : (Double.finite negative mantissa exponent).Genuine) :
    ∃ y : Double, y.Genuine ∧ recoveredFloat (.finite negative mantissa exponent) = .float y := by
  obtain ⟨n, -, -, hrecovered, y, hy, hvalue⟩ := exists_numeral_recovered h
  exact ⟨y, hy, hrecovered.trans hvalue⟩

/-- The text of a row of items, without brackets. -/
def itemsText (items : List Json) : List Char := [','].intercalate ((renderItems items).map String.toList)

/-- The text of a row of members, without braces. -/
def membersText (members : List (String × Json)) : List Char := [','].intercalate ((renderMembers members).map String.toList)

theorem toList_render_array (items : List Json) : (render (.array items)).toList = '[' :: (itemsText items ++ [']']) := by
  simp [render, itemsText]

theorem toList_render_object (members : List (String × Json)) :
    (render (.object members)).toList = '{' :: (membersText members ++ ['}']) := by
  simp [render, membersText]

theorem itemsText_cons_cons (item next : Json) (rest : List Json) :
    itemsText (item :: next :: rest) = (render item).toList ++ ',' :: itemsText (next :: rest) := by
  simp [itemsText, renderItems, List.intercalate_cons_cons]

theorem itemsText_singleton (item : Json) : itemsText [item] = (render item).toList := by simp [itemsText, renderItems]

theorem toList_quote (s : String) : (quote s).toList = '"' :: (s.toList.flatMap inside ++ ['"']) := by
  rw [quote, String.toList_ofList]
  rfl

/-- A member as it is written. -/
def memberText (key : String) (value : Json) : List Char := (quote key).toList ++ ':' :: (render value).toList

theorem membersText_cons_cons (key : String) (value : Json) (next : String × Json) (rest : List (String × Json)) :
    membersText ((key, value) :: next :: rest) = memberText key value ++ ',' :: membersText (next :: rest) := by
  simp [membersText, memberText, renderMembers, List.intercalate_cons_cons]

theorem memberText_append (key : String) (value : Json) (rest : List Char) : memberText key value ++ rest =
    '"' :: (key.toList.flatMap inside ++ '"' :: ':' :: ((render value).toList ++ rest)) := by
  simp [memberText, toList_quote]

theorem length_memberText (key : String) (value : Json) :
    (render value).toList.length + 3 ≤ (memberText key value).length := by
  simp only [memberText, toList_quote, List.length_cons, List.length_append]
  omega

theorem membersText_singleton (key : String) (value : Json) : membersText [(key, value)] = memberText key value := by
  simp [membersText, memberText, renderMembers]

theorem exists_membersText (key : String) (value : Json) (others : List (String × Json)) :
    ∃ text, membersText ((key, value) :: others) = '"' :: text := by
  cases others with
  | nil => exact ⟨_, (membersText_singleton key value).trans (by rw [memberText, toList_quote]; rfl)⟩
  | cons next others => exact ⟨_, (membersText_cons_cons key value next others).trans (by rw [memberText, toList_quote]; rfl)⟩

end Json

namespace JsonReader

open Json

/-! ## Reading one value -/

/-- What follows an item or a member carries on no number. -/
theorem ends_cons {c : Char} (h : c = ',' ∨ c = ']' ∨ c = '}') (rest : List Char) : Ends (c :: rest) := by
  intro d hd
  obtain rfl := Option.some.inj hd
  rcases h with rfl | rfl | rfl <;> decide

theorem value?_string (fuel : Nat) (text : List Char) :
    value? (fuel + 1) ('"' :: text) = (string? text).map fun (s, rest) => (.text s, rest) := rfl

theorem value?_number (fuel : Nat) {c : Char} (h : c = '-' ∨ c.isDigit) (text : List Char) :
    value? (fuel + 1) (c :: text) = number? (c :: text) := by
  have hother : ∀ d : Char, d.isDigit = false → d ≠ '-' → c ≠ d := fun d hdigit hminus =>
    h.elim (fun hc => hc ▸ hminus.symm) fun hc => ne_of_isDigit hc hdigit
  have hskip : skip (c :: text) = c :: text := by
    refine List.dropWhile_cons_of_neg ?_
    simp [hother ' ' rfl (by decide), hother '\t' rfl (by decide), hother '\n' rfl (by decide), hother '\r' rfl (by decide)]
  rw [value?, hskip]
  dsimp only
  rw [if_neg (hother _ rfl (by decide)), if_neg (hother _ rfl (by decide)), if_neg (hother _ rfl (by decide)), if_pos h]

/-- **A numeral is read as a value.** -/
theorem value?_numeral {n : Numeral} (h : n.Valid) {fuel : Nat} (hfuel : fuel ≠ 0) {rest : List Char} (hrest : Ends rest) :
    value? fuel (n.text ++ rest) = some (n.value, rest) := by
  obtain ⟨fuel, rfl⟩ := Nat.exists_eq_succ_of_ne_zero hfuel
  rw [← number?_text h hrest]
  obtain ⟨first, others, hwhole⟩ := List.exists_cons_of_ne_nil h.whole_ne
  have hfirst := h.whole first (hwhole ▸ List.mem_cons_self)
  unfold Numeral.text
  rw [hwhole]
  cases n.negative with
  | true => exact value?_number fuel (.inl rfl) _
  | false => exact value?_number fuel (.inr hfirst) _

theorem value?_float {x : Double} (h : x.Genuine) {fuel : Nat} (hfuel : fuel ≠ 0) {rest : List Char} (hrest : Ends rest) :
    value? fuel ((floatStyle.text x).toList ++ rest) = some (recoveredFloat x, rest) := by
  cases x with
  | finite negative mantissa exponent =>
    obtain ⟨n, hvalid, htext, hrecovered, -⟩ := exists_numeral_recovered h
    rw [hrecovered, ← htext]
    exact value?_numeral hvalid hfuel hrest
  | infinite negative =>
    obtain ⟨fuel, rfl⟩ := Nat.exists_eq_succ_of_ne_zero hfuel
    cases negative <;> rfl
  | nan =>
    obtain ⟨fuel, rfl⟩ := Nat.exists_eq_succ_of_ne_zero hfuel
    rfl

/-- A character that a value can start with: no white space, and no bracket that closes. -/
def Opens (c : Char) : Prop := c ≠ ' ' ∧ c ≠ '\t' ∧ c ≠ '\n' ∧ c ≠ '\r' ∧ c ≠ ']'

instance : DecidablePred Opens := fun c =>
  inferInstanceAs (Decidable (c ≠ ' ' ∧ c ≠ '\t' ∧ c ≠ '\n' ∧ c ≠ '\r' ∧ c ≠ ']'))

theorem skip_of_opens {c : Char} (h : Opens c) (rest : List Char) : skip (c :: rest) = c :: rest := by
  obtain ⟨hspace, htab, hline, hreturn, -⟩ := h
  refine List.dropWhile_cons_of_neg ?_
  simp [hspace, htab, hline, hreturn]

theorem opens_numeral {n : Numeral} (h : n.Valid) : ∃ c rest, n.text = c :: rest ∧ Opens c := by
  obtain ⟨first, others, hwhole⟩ := List.exists_cons_of_ne_nil h.whole_ne
  have hfirst := h.whole first (hwhole ▸ List.mem_cons_self)
  unfold Numeral.text
  rw [hwhole]
  cases n.negative with
  | true => exact ⟨'-', _, rfl, by decide⟩
  | false => exact ⟨first, _, rfl, ne_of_isDigit hfirst rfl, ne_of_isDigit hfirst rfl, ne_of_isDigit hfirst rfl,
      ne_of_isDigit hfirst rfl, ne_of_isDigit hfirst rfl⟩

theorem opens_render {j : Json} (h : j.Genuine) : ∃ c rest, (render j).toList = c :: rest ∧ Opens c := by
  cases j with
  | null => exact ⟨'n', _, rfl, by decide⟩
  | bool b =>
    cases b with
    | true => exact ⟨'t', _, rfl, by decide⟩
    | false => exact ⟨'f', _, rfl, by decide⟩
  | int i =>
    obtain ⟨n, hvalid, htext, -⟩ := exists_numeral_int i
    obtain ⟨c, rest, hcons, hopens⟩ := opens_numeral hvalid
    exact ⟨c, rest, htext.symm.trans hcons, hopens⟩
  | float x =>
    cases x with
    | finite negative mantissa exponent =>
      obtain ⟨n, hvalid, htext, -⟩ := exists_numeral_float h
      obtain ⟨c, rest, hcons, hopens⟩ := opens_numeral hvalid
      exact ⟨c, rest, htext.symm.trans hcons, hopens⟩
    | infinite negative => cases negative <;> exact ⟨'n', _, rfl, by decide⟩
    | nan => exact ⟨'n', _, rfl, by decide⟩
  | text s => exact ⟨'"', _, toList_quote s, by decide⟩
  | array items => exact ⟨'[', _, toList_render_array items, by decide⟩
  | object members => exact ⟨'{', _, toList_render_object members, by decide⟩

theorem value?_array {fuel : Nat} {c : Char} (h : Opens c) (text : List Char) :
    value? (fuel + 1) ('[' :: c :: text) = (items? fuel (c :: text)).map fun (items, rest) => (.array items, rest) := by
  show (if (skip (c :: text)).head? = some ']' then _ else _) = _
  rw [skip_of_opens h]
  exact if_neg fun he => h.2.2.2.2 (Option.some.inj he)

theorem opens_items {item : Json} (others : List Json) (h : item.Genuine) :
    ∃ c rest, itemsText (item :: others) = c :: rest ∧ Opens c := by
  obtain ⟨c, rest, hcons, hopens⟩ := opens_render h
  cases others with
  | nil => exact ⟨c, rest, (itemsText_singleton item).trans hcons, hopens⟩
  | cons next others =>
    rw [itemsText_cons_cons, hcons]
    exact ⟨c, _, rfl, hopens⟩

theorem value?_object (fuel : Nat) (text : List Char) :
    value? (fuel + 1) ('{' :: '"' :: text) =
      (members? fuel ('"' :: text)).map fun (members, rest) => (.object members, rest) := rfl

theorem items?_of_last {fuel : Nat} {text rest : List Char} {item : Json}
    (h : value? fuel text = some (item, ']' :: rest)) : items? (fuel + 1) text = some ([item], rest) := by
  rw [items?, h]
  rfl

theorem items?_of_comma {fuel : Nat} {text next rest : List Char} {item : Json} {others : List Json}
    (h : value? fuel text = some (item, ',' :: next)) (hothers : items? fuel next = some (others, rest)) :
    items? (fuel + 1) text = some (item :: others, rest) := by
  rw [items?, h]
  show (items? fuel next).bind _ = _
  rw [hothers]
  rfl

theorem members?_of_last {fuel : Nat} {text rest : List Char} {key : String} {value : Json}
    (h : value? fuel text = some (value, '}' :: rest)) :
    members? (fuel + 1) ('"' :: (key.toList.flatMap inside ++ '"' :: ':' :: text)) = some ([(key, value)], rest) := by
  show (string? (key.toList.flatMap inside ++ '"' :: ':' :: text)).bind _ = _
  rw [string?_quote]
  show (value? fuel text).bind _ = _
  rw [h]
  rfl

theorem members?_of_comma {fuel : Nat} {text next rest : List Char} {key : String} {value : Json}
    {others : List (String × Json)} (h : value? fuel text = some (value, ',' :: next))
    (hothers : members? fuel next = some (others, rest)) :
    members? (fuel + 1) ('"' :: (key.toList.flatMap inside ++ '"' :: ':' :: text)) = some ((key, value) :: others, rest) := by
  show (string? (key.toList.flatMap inside ++ '"' :: ':' :: text)).bind _ = _
  rw [string?_quote]
  show (value? fuel text).bind _ = _
  rw [h]
  show (members? fuel next).bind _ = _
  rw [hothers]
  rfl

mutual

/-- **The text of a value is read as what it says**, whatever follows that carries on no number. -/
theorem value?_render : ∀ j : Json, j.Genuine → ∀ (fuel : Nat) (rest : List Char), (render j).toList.length ≤ fuel →
    Ends rest → value? fuel ((render j).toList ++ rest) = some (j.recovered, rest)
  | .null, _ => by
    intro fuel rest hfuel _
    obtain ⟨fuel, rfl⟩ := Nat.exists_eq_succ_of_ne_zero (Nat.ne_of_gt (Nat.lt_of_lt_of_le (by decide) hfuel))
    rfl
  | .bool b, _ => by
    intro fuel rest hfuel _
    have hpos : 0 < (render (.bool b)).toList.length := by cases b <;> decide
    obtain ⟨fuel, rfl⟩ := Nat.exists_eq_succ_of_ne_zero (Nat.ne_of_gt (Nat.lt_of_lt_of_le hpos hfuel))
    cases b <;> rfl
  | .int i, _ => by
    intro fuel rest hfuel hrest
    obtain ⟨n, hvalid, htext, hvalue⟩ := exists_numeral_int i
    obtain ⟨c, others, hcons, -⟩ := opens_numeral hvalid
    have hlength : (render (.int i)).toList.length = others.length + 1 :=
      congrArg List.length (htext.symm.trans hcons)
    have hread := value?_numeral hvalid (show fuel ≠ 0 by omega) hrest
    rw [htext, hvalue] at hread
    exact hread
  | .float x, h => by
    intro fuel rest hfuel hrest
    obtain ⟨c, others, hcons, -⟩ := opens_render h
    rw [hcons, List.length_cons] at hfuel
    exact value?_float h (by omega) hrest
  | .text s, _ => by
    intro fuel rest hfuel _
    have hquote : (render (.text s)).toList = '"' :: (s.toList.flatMap inside ++ ['"']) := toList_quote s
    rw [hquote] at hfuel ⊢
    rw [List.length_cons] at hfuel
    obtain ⟨fuel, rfl⟩ : ∃ more, fuel = more + 1 := ⟨fuel - 1, by omega⟩
    rw [List.cons_append, List.append_assoc, List.singleton_append, value?_string, string?_quote]
    rfl
  | .array items, h => by
    intro fuel rest hfuel _
    rw [toList_render_array] at hfuel ⊢
    rw [List.length_cons, List.length_append, List.length_singleton] at hfuel
    obtain ⟨fuel, rfl⟩ : ∃ more, fuel = more + 1 := ⟨fuel - 1, by omega⟩
    rw [List.cons_append, List.append_assoc, List.singleton_append]
    cases items with
    | nil => rfl
    | cons item others =>
      obtain ⟨c, text, hcons, hopens⟩ := opens_items others h.1
      have hitems := items?_render (item :: others) nofun h fuel rest (by omega)
      rw [hcons] at hitems ⊢
      rw [List.cons_append, value?_array hopens, ← List.cons_append, hitems]
      rfl
  | .object members, h => by
    intro fuel rest hfuel _
    rw [toList_render_object] at hfuel ⊢
    rw [List.length_cons, List.length_append, List.length_singleton] at hfuel
    obtain ⟨fuel, rfl⟩ : ∃ more, fuel = more + 1 := ⟨fuel - 1, by omega⟩
    rw [List.cons_append, List.append_assoc, List.singleton_append]
    cases members with
    | nil => rfl
    | cons member others =>
      obtain ⟨text, hcons⟩ := exists_membersText member.1 member.2 others
      have hmembers := members?_render (member :: others) nofun h fuel rest (by omega)
      rw [hcons] at hmembers ⊢
      rw [List.cons_append, value?_object, ← List.cons_append, hmembers]
      rfl

theorem items?_render : ∀ items : List Json, items ≠ [] → GenuineItems items → ∀ (fuel : Nat) (rest : List Char),
    (itemsText items).length < fuel → items? fuel (itemsText items ++ ']' :: rest) = some (recoveredItems items, rest)
  | [], hne, _ => absurd rfl hne
  | item :: others, _, h => by
    intro fuel rest hfuel
    obtain ⟨fuel, rfl⟩ : ∃ more, fuel = more + 1 := ⟨fuel - 1, by omega⟩
    cases others with
    | nil =>
      rw [itemsText_singleton] at hfuel ⊢
      exact items?_of_last (value?_render item h.1 fuel _ (by omega) (ends_cons (.inr (.inl rfl)) rest))
    | cons next others =>
      rw [itemsText_cons_cons] at hfuel ⊢
      rw [List.length_append, List.length_cons] at hfuel
      rw [List.append_assoc, List.cons_append]
      exact items?_of_comma (value?_render item h.1 fuel _ (by omega) (ends_cons (.inl rfl) _))
        (items?_render (next :: others) nofun h.2 fuel rest (by omega))

theorem members?_render : ∀ members : List (String × Json), members ≠ [] → GenuineMembers members →
    ∀ (fuel : Nat) (rest : List Char), (membersText members).length < fuel →
    members? fuel (membersText members ++ '}' :: rest) = some (recoveredMembers members, rest)
  | [], hne, _ => absurd rfl hne
  | (key, value) :: others, _, h => by
    intro fuel rest hfuel
    have hlength := length_memberText key value
    obtain ⟨fuel, rfl⟩ : ∃ more, fuel = more + 1 := ⟨fuel - 1, by omega⟩
    cases others with
    | nil =>
      rw [membersText_singleton] at hfuel ⊢
      rw [memberText_append]
      exact members?_of_last (value?_render value h.1 fuel _ (by omega) (ends_cons (.inr (.inr rfl)) rest))
    | cons next others =>
      rw [membersText_cons_cons] at hfuel ⊢
      rw [List.length_append, List.length_cons] at hfuel
      rw [List.append_assoc, List.cons_append, memberText_append]
      exact members?_of_comma (value?_render value h.1 fuel _ (by omega) (ends_cons (.inl rfl) _))
        (members?_render (next :: others) nofun h.2 fuel rest (by omega))

end

/-! ## No controls -/

/-- No character of a text is a control below U+0020. -/
def Clear (text : List Char) : Prop := ∀ c ∈ text, 32 ≤ c.toNat

theorem clear_of_all {text : List Char} (h : text.all (32 ≤ ·.toNat) = true) : Clear text := fun c hc =>
  of_decide_eq_true (List.all_eq_true.1 h c hc)

theorem Clear.append {text rest : List Char} (h : Clear text) (hrest : Clear rest) : Clear (text ++ rest) := fun c hc =>
  (List.mem_append.1 hc).elim (h c) (hrest c)

theorem Clear.cons {c : Char} {rest : List Char} (h : 32 ≤ c.toNat) (hrest : Clear rest) : Clear (c :: rest) :=
  List.forall_mem_cons.2 ⟨h, hrest⟩

theorem clear_of_isDigit {digits : List Char} (h : ∀ c ∈ digits, c.isDigit) : Clear digits := fun c hc => by
  have hdigit := h c hc
  rw [Char.isDigit, Bool.and_eq_true, decide_eq_true_eq] at hdigit
  exact Nat.le_trans (by decide) (UInt32.le_iff_toNat_le.1 hdigit.1)

/-- **What is written for a character inside a string holds no control**, whatever the character is. -/
theorem clear_inside (c : Char) : Clear (inside c) := by
  unfold inside
  split
  · exact clear_of_all rfl
  split
  · exact clear_of_all rfl
  split
  · exact clear_of_all rfl
  split
  · exact clear_of_all rfl
  split
  · exact clear_of_all rfl
  split
  · exact clear_of_all rfl
  split
  · exact clear_of_all rfl
  split
  · refine .cons (by decide) (.cons (by decide) fun d hd => ?_)
    obtain ⟨place, -, rfl⟩ := List.mem_map.1 hd
    have hdigit : ∀ n < 16, 32 ≤ (Hex.digit n).toNat := by decide
    exact hdigit _ (Nat.mod_lt _ (by decide))
  · rename_i hcontrol
    exact .cons (Nat.le_of_not_lt hcontrol) nofun

theorem clear_quote (s : String) : Clear (quote s).toList := by
  rw [toList_quote]
  refine .cons (by decide) (.append (fun d hd => ?_) (clear_of_all rfl))
  obtain ⟨c, -, hc⟩ := List.mem_flatMap.1 hd
  exact clear_inside c d hc

theorem clear_numeral {n : Numeral} (h : n.Valid) : Clear n.text := by
  unfold Numeral.text
  refine .append ?_ (.append (clear_of_isDigit h.whole) (.append ?_ ?_))
  · split <;> exact clear_of_all rfl
  · split
    · exact nofun
    · exact .cons (by decide) (clear_of_isDigit h.fraction)
  · cases hexponent : n.exponent with
    | none => exact nofun
    | some part =>
      have hdigits := clear_of_isDigit (h.exponent part hexponent).2
      refine .cons (by decide) ?_
      split
      · exact .cons (by decide) hdigits
      · exact hdigits

theorem clear_int (i : Int) : Clear (toString i).toList := by
  obtain ⟨n, hvalid, htext, -⟩ := exists_numeral_int i
  exact htext ▸ clear_numeral hvalid

theorem clear_float {x : Double} (h : x.Genuine) : Clear (floatStyle.text x).toList := by
  cases x with
  | finite negative mantissa exponent =>
    obtain ⟨n, hvalid, htext, -⟩ := exists_numeral_float h
    exact htext ▸ clear_numeral hvalid
  | infinite negative => cases negative <;> exact clear_of_all rfl
  | nan => exact clear_of_all rfl

mutual

/-- **The text of a value holds no control.** -/
theorem clear_render : ∀ j : Json, j.Genuine → Clear (render j).toList
  | .null, _ => clear_of_all rfl
  | .bool true, _ => clear_of_all rfl
  | .bool false, _ => clear_of_all rfl
  | .int i, _ => clear_int i
  | .float _, h => clear_float h
  | .text s, _ => clear_quote s
  | .array items, h => by
    rw [toList_render_array]
    exact .cons (by decide) (.append (clear_itemsText items h) (clear_of_all rfl))
  | .object members, h => by
    rw [toList_render_object]
    exact .cons (by decide) (.append (clear_membersText members h) (clear_of_all rfl))

theorem clear_itemsText : ∀ items : List Json, GenuineItems items → Clear (itemsText items)
  | [], _ => nofun
  | item :: others, h => by
    have hitem := clear_render item h.1
    cases others with
    | nil => exact itemsText_singleton item ▸ hitem
    | cons next others =>
      rw [itemsText_cons_cons]
      exact .append hitem (.cons (by decide) (clear_itemsText (next :: others) h.2))

theorem clear_membersText : ∀ members : List (String × Json), GenuineMembers members → Clear (membersText members)
  | [], _ => nofun
  | (key, value) :: others, h => by
    have hmember : Clear (memberText key value) :=
      .append (clear_quote key) (.cons (by decide) (clear_render value h.1))
    cases others with
    | nil => exact membersText_singleton key value ▸ hmember
    | cons next others =>
      rw [membersText_cons_cons]
      exact .append hmember (.cons (by decide) (clear_membersText (next :: others) h.2))

end

end JsonReader

namespace Json

/-- **Every value comes back from its text**, but for the doubles in it, and the text is one line. -/
theorem read?_render {j : Json} (h : j.Genuine) : read? (render j) = some j.recovered := by
  have hvalue := JsonReader.value?_render j h (render j).toList.length [] (Nat.le_refl _) nofun
  rw [List.append_nil] at hvalue
  rw [read?, hvalue]
  rfl

end Json
end PasswordGate
