import PasswordGate.Json.Text
import PasswordGate.Number.Reading
import PasswordGate.Proofs.Text.Escape
/-!
# Reader — JSON text read by its grammar

`Json.read?` takes exactly the texts of the JSON grammar: white space between tokens, strings without raw controls whose
escapes may be pairs of surrogates, numbers without leading zeros, and nothing behind the value.  It knows nothing of how
text is written here.  An integral number is read as an integer, one with a fraction or an exponent as the double nearest
to it; the members of an object stay in the order in which they stand.

What is written for a string or a number is read back by the reader's own parts for them, whatever text follows
(`string?_quote`, `number?_text`).
-/
namespace PasswordGate
namespace JsonReader

/-- White space between tokens is passed over. -/
def skip (text : List Char) : List Char := text.dropWhile fun c => c = ' ' || c = '\t' || c = '\n' || c = '\r'

/-! ## Strings -/

/-- Four hexadecimal digits, as the number that they spell. -/
def unit? : List Char → Option (Nat × List Char)
  | a :: b :: c :: d :: rest => do
    let first ← Hex.nibble? a
    let second ← Hex.nibble? b
    let third ← Hex.nibble? c
    let fourth ← Hex.nibble? d
    return (16 * (16 * (16 * first + second) + third) + fourth, rest)
  | _ => none

/-- The character of a number; the first of two surrogates has to be followed by the second one. -/
def character? (high : Nat) (rest : List Char) : Option (Char × List Char) :=
  if high < 0xD800 ∨ 0xDFFF < high then some (Char.ofNat high, rest)
  else if 0xDBFF < high then none
  else
    match rest with
    | '\\' :: 'u' :: rest => do
      let (low, rest) ← unit? rest
      if 0xDC00 ≤ low ∧ low ≤ 0xDFFF then
        return (Char.ofNat (0x10000 + 0x400 * (high - 0xD800) + (low - 0xDC00)), rest)
      else none
    | _ => none

/-- What stands behind a backslash. -/
def escaped? : List Char → Option (Char × List Char)
  | '"' :: rest => some ('"', rest)
  | '\\' :: rest => some ('\\', rest)
  | '/' :: rest => some ('/', rest)
  | 'b' :: rest => some ('\x08', rest)
  | 'f' :: rest => some ('\x0c', rest)
  | 'n' :: rest => some ('\n', rest)
  | 'r' :: rest => some ('\r', rest)
  | 't' :: rest => some ('\t', rest)
  | 'u' :: rest => (unit? rest).bind fun (high, rest) => character? high rest
  | _ => none

/-- **One character of a string**; a control has to be escaped. -/
def plain? : List Char → Option (Char × List Char)
  | [] => none
  | c :: rest => if c = '\\' then escaped? rest else if c.toNat < 32 then none else some (c, rest)

/-- The characters up to the closing quote, at most so many. -/
def characters? : Nat → List Char → Option (List Char × List Char)
  | 0, _ => none
  | fuel + 1, text =>
    if text.head? = some '"' then some ([], text.tail)
    else do
      let (c, rest) ← plain? text
      let (others, rest) ← characters? fuel rest
      return (c :: others, rest)

/-- **A string behind its opening quote.** -/
def string? (text : List Char) : Option (String × List Char) :=
  (characters? text.length text).map fun (found, rest) => (String.ofList found, rest)

theorem unit?_hexDigits {n : Nat} (h : n < 65536) (rest : List Char) :
    unit? (Quoted.hexDigits 4 n ++ rest) = some (n, rest) := by
  have hdigit := fun k => Hex.nibble?_digit (n / k % 16) (Nat.mod_lt _ (by decide))
  simp only [Quoted.hexDigits_succ, show Quoted.hexDigits 0 n = [] from rfl, List.cons_append, List.nil_append, unit?, hdigit,
    bind, Option.bind, pure, Option.some.injEq, Prod.mk.injEq, and_true]
  omega

/-- **A character is read back** from what is written for it inside a string. -/
theorem plain?_inside (c : Char) (rest : List Char) : plain? (Json.inside c ++ rest) = some (c, rest) := by
  unfold Json.inside
  split
  · subst c
    rfl
  split
  · subst c
    rfl
  rename_i hbackslash
  split
  · subst c
    rfl
  split
  · subst c
    rfl
  split
  · subst c
    rfl
  split
  · subst c
    rfl
  split
  · subst c
    rfl
  split
  · rename_i hcontrol
    show ((unit? (Quoted.hexDigits 4 c.toNat ++ rest)).bind fun (high, rest) => character? high rest) = _
    rw [unit?_hexDigits (Nat.lt_trans hcontrol (by decide))]
    have hplain : character? c.toNat rest = some (Char.ofNat c.toNat, rest) :=
      if_pos (.inl (Nat.lt_trans hcontrol (by decide)))
    rw [Char.ofNat_toNat] at hplain
    exact hplain
  · rename_i hcontrol
    show plain? (c :: rest) = _
    rw [plain?, if_neg hbackslash, if_neg hcontrol]

/-- What is written for a character is there, and it is not a quote that stands alone. -/
theorem head?_inside (c : Char) : ∃ first others, Json.inside c = first :: others ∧ first ≠ '"' := by
  obtain ⟨first, others, hinside, hfirst⟩ := Escape.exists_cons Escape.read_jsonInside c
  refine ⟨first, others, hinside, ?_⟩
  rintro rfl
  rcases hfirst with hfirst | rfl
  · cases hfirst
  · cases hinside

theorem characters?_flatMap (rest : List Char) : ∀ (s : List Char) {fuel : Nat},
    (s.flatMap Json.inside ++ '"' :: rest).length ≤ fuel →
    characters? fuel (s.flatMap Json.inside ++ '"' :: rest) = some (s, rest)
  | [], fuel + 1, _ => rfl
  | c :: s, fuel, h => by
    obtain ⟨first, others, hinside, hquote⟩ := head?_inside c
    rw [List.flatMap_cons, List.append_assoc, List.length_append, hinside, List.length_cons] at h
    obtain ⟨fuel, rfl⟩ : ∃ more, fuel = more + 1 := ⟨fuel - 1, by omega⟩
    have hothers : characters? fuel (s.flatMap Json.inside ++ '"' :: rest) = some (s, rest) :=
      characters?_flatMap rest s (by omega)
    have hhead : (Json.inside c ++ (s.flatMap Json.inside ++ '"' :: rest)).head? ≠ some '"' := by
      rw [hinside]
      exact fun he => hquote (Option.some.inj he)
    rw [List.flatMap_cons, List.append_assoc, characters?, if_neg hhead, plain?_inside]
    simp only [hothers, bind, Option.bind]
    rfl

/-- **A string is read back**, whatever follows its closing quote. -/
theorem string?_quote (s : String) (rest : List Char) :
    string? (s.toList.flatMap Json.inside ++ '"' :: rest) = some (s, rest) := by
  rw [string?, characters?_flatMap rest s.toList (Nat.le_refl _)]
  exact congrArg (fun found => some (found, rest)) String.ofList_toList

/-! ## Numbers -/

/-- A number: its sign, the digits before the point, those behind it, and the sign and the digits of its exponent. -/
structure Numeral where
  negative : Bool
  whole : List Char
  fraction : List Char
  exponent : Option (Bool × List Char)

/-- The digits behind a point, if there is a point. -/
def fraction? : List Char → Option (List Char × List Char)
  | '.' :: rest =>
    if (rest.takeWhile Char.isDigit).isEmpty then none
    else some (rest.takeWhile Char.isDigit, rest.dropWhile Char.isDigit)
  | rest => some ([], rest)

/-- The sign and the digits of an exponent, if there is one. -/
def exponent? : List Char → Option (Option (Bool × List Char) × List Char)
  | [] => some (none, [])
  | c :: rest =>
    if c = 'e' ∨ c = 'E' then
      let (negative, rest) := Double.splitSign rest
      if (rest.takeWhile Char.isDigit).isEmpty then none
      else some (some (negative, rest.takeWhile Char.isDigit), rest.dropWhile Char.isDigit)
    else some (none, c :: rest)

namespace Numeral

def signed (negative : Bool) (digits : List Char) : Int :=
  if negative then -(naturalOfDigits digits : Int) else naturalOfDigits digits

/-- **What a number stands for.** -/
def value (n : Numeral) : Json :=
  match n.fraction, n.exponent with
  | [], none => .int (signed n.negative n.whole)
  | fraction, exponent =>
    .float (Double.ofDecimal n.negative (naturalOfDigits (n.whole ++ fraction))
      ((exponent.elim 0 fun (negative, digits) => signed negative digits) - fraction.length))

end Numeral

/-- A number behind its sign. -/
def unsigned? (negative : Bool) (body : List Char) : Option (Numeral × List Char) :=
  let whole := body.takeWhile Char.isDigit
  if whole.isEmpty ∨ (whole.head? = some '0' ∧ whole ≠ ['0']) then none
  else do
    let (fraction, rest) ← fraction? (body.dropWhile Char.isDigit)
    let (exponent, rest) ← exponent? rest
    return ({ negative := negative, whole := whole, fraction := fraction, exponent := exponent }, rest)

def number? (text : List Char) : Option (Json × List Char) :=
  (if text.head? = some '-' then unsigned? true text.tail else unsigned? false text).map fun (n, rest) => (n.value, rest)

/-! A number that keeps to the grammar is read back from its text, unless the text behind it carries it on. -/

namespace Numeral

def exponentText : Option (Bool × List Char) → List Char
  | none => []
  | some (negative, digits) => 'e' :: if negative then '-' :: digits else digits

/-- The text of a number, with no more signs than it needs. -/
def text (n : Numeral) : List Char :=
  (if n.negative then ['-'] else []) ++ (n.whole ++
    ((if n.fraction.isEmpty then [] else '.' :: n.fraction) ++ exponentText n.exponent))

/-- **A number that keeps to the grammar**: digits where digits belong, and no zero in front of others. -/
structure Valid (n : Numeral) : Prop where
  whole_ne : n.whole ≠ []
  whole : ∀ c ∈ n.whole, c.isDigit
  lead : n.whole.head? = some '0' → n.whole = ['0']
  fraction : ∀ c ∈ n.fraction, c.isDigit
  exponent : ∀ part ∈ n.exponent, part.2 ≠ [] ∧ ∀ c ∈ part.2, c.isDigit

end Numeral

/-- A text that carries on no number. -/
def Ends (rest : List Char) : Prop := ∀ c ∈ rest.head?, ¬ c.isDigit ∧ c ≠ '.' ∧ c ≠ 'e' ∧ c ≠ 'E'

theorem takeWhile_isDigit_append {digits rest : List Char} (hdigits : ∀ c ∈ digits, c.isDigit)
    (hrest : ∀ c ∈ rest.head?, ¬ c.isDigit) : (digits ++ rest).takeWhile Char.isDigit = digits := by
  rw [List.takeWhile_append_of_pos hdigits]
  cases rest with
  | nil => exact List.append_nil digits
  | cons c rest => rw [List.takeWhile_cons_of_neg (hrest c rfl), List.append_nil]

theorem dropWhile_isDigit_append {digits rest : List Char} (hdigits : ∀ c ∈ digits, c.isDigit)
    (hrest : ∀ c ∈ rest.head?, ¬ c.isDigit) : (digits ++ rest).dropWhile Char.isDigit = rest := by
  rw [List.dropWhile_append_of_pos hdigits]
  cases rest with
  | nil => rfl
  | cons c rest => rw [List.dropWhile_cons_of_neg (hrest c rfl)]

theorem ne_of_isDigit {c d : Char} (hc : c.isDigit) (hd : d.isDigit = false) : c ≠ d := by
  rintro rfl
  rw [hd] at hc
  cases hc

theorem exponent?_text {part : Option (Bool × List Char)} (hpart : ∀ found ∈ part, found.2 ≠ [] ∧ ∀ c ∈ found.2, c.isDigit)
    {rest : List Char} (hrest : Ends rest) :
    exponent? (Numeral.exponentText part ++ rest) = some (part, rest) := by
  cases part with
  | none =>
    cases rest with
    | nil => rfl
    | cons c rest =>
      obtain ⟨-, -, hlower, hupper⟩ := hrest c rfl
      exact if_neg fun he => he.elim hlower hupper
  | some found =>
    obtain ⟨negative, digits⟩ := found
    obtain ⟨hne, hdigits⟩ := hpart _ rfl
    have hsign : Double.splitSign ((if negative then '-' :: digits else digits) ++ rest) = (negative, digits ++ rest) := by
      cases negative with
      | true => rfl
      | false =>
        obtain ⟨first, others, rfl⟩ := List.exists_cons_of_ne_nil hne
        have hfirst := hdigits first List.mem_cons_self
        show Double.splitSign (first :: (others ++ rest)) = _
        unfold Double.splitSign
        split
        · rename_i heq
          exact absurd (List.cons.inj heq).1 (ne_of_isDigit hfirst rfl)
        · rename_i heq
          exact absurd (List.cons.inj heq).1 (ne_of_isDigit hfirst rfl)
        · rfl
    have hhead : ∀ c ∈ rest.head?, ¬ c.isDigit := fun c hc => (hrest c hc).1
    show exponent? ('e' :: ((if negative then '-' :: digits else digits) ++ rest)) = _
    simp only [exponent?, true_or, if_true, hsign, takeWhile_isDigit_append hdigits hhead,
      dropWhile_isDigit_append hdigits hhead]
    rw [if_neg (by simpa using hne)]

theorem fraction?_text {digits rest : List Char} (hdigits : ∀ c ∈ digits, c.isDigit)
    (hhead : ∀ c ∈ rest.head?, ¬ c.isDigit ∧ c ≠ '.') :
    fraction? ((if digits.isEmpty then [] else '.' :: digits) ++ rest) = some (digits, rest) := by
  cases digits with
  | nil =>
    show fraction? rest = _
    unfold fraction?
    split
    · exact absurd rfl (hhead '.' rfl).2
    · rfl
  | cons first others =>
    have hrest : ∀ c ∈ rest.head?, ¬ c.isDigit := fun c hc => (hhead c hc).1
    show fraction? ('.' :: ((first :: others) ++ rest)) = _
    rw [fraction?, takeWhile_isDigit_append hdigits hrest,
      dropWhile_isDigit_append hdigits hrest]
    rfl

theorem unsigned?_text {n : Numeral} (h : n.Valid) {rest : List Char} (hrest : Ends rest) :
    unsigned? n.negative (n.whole ++ ((if n.fraction.isEmpty then [] else '.' :: n.fraction) ++
      (Numeral.exponentText n.exponent ++ rest))) = some (n, rest) := by
  have hexponent := exponent?_text h.exponent hrest
  generalize htail : Numeral.exponentText n.exponent ++ rest = tail at hexponent ⊢
  have htailHead : ∀ c ∈ tail.head?, ¬ c.isDigit ∧ c ≠ '.' := by
    subst htail
    cases n.exponent with
    | none => exact fun c hc => ⟨(hrest c hc).1, (hrest c hc).2.1⟩
    | some part =>
      rintro c hc
      obtain rfl : 'e' = c := Option.some.inj hc
      decide
  have hfraction := fraction?_text h.fraction htailHead
  generalize hafter : (if n.fraction.isEmpty then [] else '.' :: n.fraction) ++ tail = after at hfraction ⊢
  have hafterHead : ∀ c ∈ after.head?, ¬ c.isDigit := by
    subst hafter
    cases n.fraction with
    | nil => exact fun c hc => (htailHead c hc).1
    | cons d digits =>
      rintro c hc
      obtain rfl : '.' = c := Option.some.inj hc
      decide
  simp only [unsigned?, takeWhile_isDigit_append h.whole hafterHead, dropWhile_isDigit_append h.whole hafterHead, hfraction,
    hexponent, bind, Option.bind, pure]
  refine if_neg ?_
  rintro (hempty | ⟨hzero, hlong⟩)
  · exact h.whole_ne (List.isEmpty_iff.1 hempty)
  · exact hlong (h.lead hzero)

/-- **A number is read back**, whatever follows that carries on no number. -/
theorem number?_text {n : Numeral} (h : n.Valid) {rest : List Char} (hrest : Ends rest) :
    number? (n.text ++ rest) = some (n.value, rest) := by
  have hunsigned := unsigned?_text h hrest
  rw [Numeral.text, List.append_assoc, List.append_assoc, List.append_assoc, number?]
  cases hsign : n.negative with
  | true =>
    rw [hsign] at hunsigned
    exact congrArg (Option.map _) hunsigned
  | false =>
    rw [hsign] at hunsigned
    obtain ⟨first, others, hwhole⟩ := List.exists_cons_of_ne_nil h.whole_ne
    have hfirst := h.whole first (hwhole ▸ List.mem_cons_self)
    refine (congrArg (Option.map _) (if_neg fun he => ?_)).trans (congrArg (Option.map _) hunsigned)
    rw [hwhole] at he
    exact ne_of_isDigit hfirst rfl (Option.some.inj he)

/-! ## Values -/

def word? : List Char → Option (Json × List Char)
  | 'n' :: 'u' :: 'l' :: 'l' :: rest => some (.null, rest)
  | 't' :: 'r' :: 'u' :: 'e' :: rest => some (.bool true, rest)
  | 'f' :: 'a' :: 'l' :: 's' :: 'e' :: rest => some (.bool false, rest)
  | _ => none

mutual

/-- **A value, and what follows it**; every nesting and every comma uses up one of so many. -/
def value? : Nat → List Char → Option (Json × List Char)
  | 0, _ => none
  | fuel + 1, text =>
    match skip text with
    | [] => none
    | c :: rest =>
      if c = '"' then (string? rest).map fun (s, rest) => (.text s, rest)
      else if c = '[' then
        if (skip rest).head? = some ']' then some (.array [], (skip rest).tail)
        else (items? fuel rest).map fun (items, rest) => (.array items, rest)
      else if c = '\x7b' then
        if (skip rest).head? = some '\x7d' then some (.object [], (skip rest).tail)
        else (members? fuel rest).map fun (members, rest) => (.object members, rest)
      else if c = '-' ∨ c.isDigit then number? (c :: rest)
      else word? (c :: rest)

/-- The items of an array up to its closing bracket. -/
def items? : Nat → List Char → Option (List Json × List Char)
  | 0, _ => none
  | fuel + 1, text => do
    let (item, rest) ← value? fuel text
    match skip rest with
    | ']' :: rest => return ([item], rest)
    | ',' :: rest => do
      let (others, rest) ← items? fuel rest
      return (item :: others, rest)
    | _ => none

/-- The members of an object up to its closing brace. -/
def members? : Nat → List Char → Option (List (String × Json) × List Char)
  | 0, _ => none
  | fuel + 1, text =>
    match skip text with
    | '"' :: rest => do
      let (key, rest) ← string? rest
      match skip rest with
      | ':' :: rest => do
        let (value, rest) ← value? fuel rest
        match skip rest with
        | '\x7d' :: rest => return ([(key, value)], rest)
        | ',' :: rest => do
          let (others, rest) ← members? fuel rest
          return ((key, value) :: others, rest)
        | _ => none
      | _ => none
    | _ => none

end

end JsonReader

/-- **The value that a text says**, if the text is one of the grammar. -/
def Json.read? (text : String) : Option Json :=
  (JsonReader.value? text.toList.length text.toList).bind fun (value, rest) =>
    if (JsonReader.skip rest).isEmpty then some value else none

end PasswordGate
