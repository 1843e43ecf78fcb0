import PasswordGate.Proofs.Json.Reader
import PasswordGate.Proofs.Number.Shortest
/-!
# Numbers in JSON — what is written for a number keeps to the grammar

An integer is written as its digits, a finite double positionally or with an exponent; both are numerals of the grammar,
so the reader takes them back: the integer as itself, the double as a double of 64 bits (`exists_numeral_int`,
`exists_numeral_float`).
-/
namespace PasswordGate
namespace JsonReader

/-! ## Digits -/

theorem isDigit_of_mem_toDigits {n : Nat} {c : Char} (h : c ∈ Nat.toDigits 10 n) : c.isDigit :=
  Nat.isDigit_of_mem_toDigits (by decide) (by decide) h

/-- **The digits of a number start with a zero only for zero.** -/
theorem head?_toDigits (n : Nat) (h : (Nat.toDigits 10 n).head? = some '0') : n = 0 := by
  induction n using Nat.strongRecOn with
  | _ n ih =>
    rw [Nat.toDigits_eq_if (by decide)] at h
    split at h
    · rename_i hlt
      have hdigit : ∀ d < 10, Nat.digitChar d = '0' → d = 0 := by decide
      exact hdigit n hlt (Option.some.inj h)
    · obtain ⟨first, others, hcons⟩ := List.exists_cons_of_ne_nil (Nat.toDigits_ne_nil (n := n / 10) (b := 10))
      have hzero := ih (n / 10) (by omega) (by rwa [hcons] at h ⊢)
      omega

theorem naturalOfDigits_toDigits (n : Nat) : naturalOfDigits (Nat.toDigits 10 n) = n :=
  Nat.ofDigitChars_toDigits (by decide) (by decide)

theorem toList_toString_nat (n : Nat) : (toString n).toList = Nat.toDigits 10 n := Nat.toList_repr

/-- **A number ends where its digits do**, in front of anything that is no digit. -/
theorem digits_append_inj {m n : Nat} {rest other : List Char} (hrest : ∀ c ∈ rest.head?, ¬ c.isDigit)
    (hother : ∀ c ∈ other.head?, ¬ c.isDigit) (h : (toString m).toList ++ rest = (toString n).toList ++ other) :
    m = n ∧ rest = other := by
  rw [toList_toString_nat, toList_toString_nat] at h
  have hdigits := congrArg (List.takeWhile Char.isDigit) h
  rw [takeWhile_isDigit_append (fun _ => isDigit_of_mem_toDigits) hrest,
    takeWhile_isDigit_append (fun _ => isDigit_of_mem_toDigits) hother] at hdigits
  constructor
  · rw [← naturalOfDigits_toDigits m, hdigits, naturalOfDigits_toDigits]
  · rw [hdigits] at h
    exact List.append_cancel_left h

/-! ## Integers -/

/-- **An integer is written as a numeral that stands for it.** -/
theorem exists_numeral_int (i : Int) :
    ∃ n : Numeral, n.Valid ∧ n.text = (toString i).toList ∧ n.value = .int i := by
  have hvalid : ∀ (negative : Bool) (m : Nat), Numeral.Valid ⟨negative, Nat.toDigits 10 m, [], none⟩ := fun negative m => {
    whole_ne := Nat.toDigits_ne_nil
    whole := fun c hc => isDigit_of_mem_toDigits hc
    lead := fun h => by
      obtain rfl := head?_toDigits m h
      rfl
    fraction := nofun
    exponent := nofun }
  cases i with
  | ofNat m =>
    refine ⟨⟨false, Nat.toDigits 10 m, [], none⟩, hvalid _ _, ?_, ?_⟩
    · exact (List.append_nil _).trans (toList_toString_nat m).symm
    · exact congrArg (fun found : Nat => Json.int found) (naturalOfDigits_toDigits m)
  | negSucc m =>
    refine ⟨⟨true, Nat.toDigits 10 (m + 1), [], none⟩, hvalid _ _, ?_, ?_⟩
    · show '-' :: (Nat.toDigits 10 (m + 1) ++ []) = ("-" ++ toString (m + 1)).toList
      rw [String.toList_append, toList_toString_nat, List.append_nil]
      rfl
    · exact congrArg (fun found : Nat => Json.int (-found)) (naturalOfDigits_toDigits (m + 1))

/-! ## Doubles -/

variable {digits : Nat}

/-- **A number with a fraction or an exponent is read as a double**, and one of 64 bits. -/
theorem exists_value_eq_float {n : Numeral} (h : n.fraction ≠ [] ∨ n.exponent ≠ none) :
    ∃ y : Double, y.Genuine ∧ n.value = .float y := by
  unfold Numeral.value
  split
  · rename_i hfraction hexponent
    exact absurd h (by simp [hfraction, hexponent])
  · exact ⟨_, Double.genuine_ofDecimal _ _ _, rfl⟩

/-- The digits of a numeral's whole part, when they are those of a number that is not zero. -/
theorem lead_of_pos (hpos : 0 < digits) {row : List Char} (h : row.head? = (Nat.toDigits 10 digits).head?) :
    row.head? = some '0' → row = ['0'] := fun hzero =>
  absurd (head?_toDigits digits (h ▸ hzero)) (Nat.ne_of_gt hpos)

theorem toList_padLeft (width : Nat) (text : String) :
    (FloatStyle.padLeft width text).toList = List.replicate (width - text.toList.length) '0' ++ text.toList := by
  rw [FloatStyle.padLeft, String.toList_append, String.toList_ofList, String.length_toList]

theorem toList_positional_of_nonneg {exponent : Int} (h : 0 ≤ exponent) :
    (FloatStyle.positional (toString digits) exponent).toList =
      Nat.toDigits 10 digits ++ List.replicate exponent.toNat '0' ++ ['.', '0'] := by
  rw [FloatStyle.positional, if_pos h, String.toList_append, String.toList_append, String.toList_ofList,
    toList_toString_nat]
  rfl

/-- The digits with zeros in front of them, as many as there have to be for a digit in front of the point. -/
def padded (digits places : Nat) : List Char :=
  List.replicate (places + 1 - (Nat.toDigits 10 digits).length) '0' ++ Nat.toDigits 10 digits

theorem toList_positional_of_neg (digits : Nat) {exponent : Int} (h : ¬ 0 ≤ exponent) :
    (FloatStyle.positional (toString digits) exponent).toList =
      (padded digits (-exponent).toNat).take ((padded digits (-exponent).toNat).length - (-exponent).toNat) ++
        '.' :: (padded digits (-exponent).toNat).drop ((padded digits (-exponent).toNat).length - (-exponent).toNat) := by
  have hpadded : (FloatStyle.padLeft ((-exponent).toNat + 1) (toString digits)).toList = padded digits (-exponent).toNat := by
    rw [toList_padLeft, toList_toString_nat, padded]
  rw [FloatStyle.positional, if_neg h]
  dsimp only
  rw [← String.length_toList, hpadded, String.toList_append, String.toList_append, String.toList_ofList,
    String.toList_ofList, List.append_assoc, String.toList_ofList]
  rfl

theorem isDigit_of_mem_replicate {count : Nat} {c : Char} (h : c ∈ List.replicate count '0') : c.isDigit := by
  obtain rfl := List.eq_of_mem_replicate h
  rfl

theorem isDigit_of_mem_padded {places : Nat} {c : Char} (h : c ∈ padded digits places) : c.isDigit :=
  (List.mem_append.1 h).elim isDigit_of_mem_replicate isDigit_of_mem_toDigits

theorem length_padded (digits places : Nat) :
    (padded digits places).length = max (places + 1) (Nat.toDigits 10 digits).length := by
  rw [padded, List.length_append, List.length_replicate]
  omega

/-- **In front of the point there is a zero alone**, or the first of the digits. -/
theorem lead_padded (hpos : 0 < digits) (places : Nat) :
    ((padded digits places).take ((padded digits places).length - places)).head? = some '0' →
      (padded digits places).take ((padded digits places).length - places) = ['0'] := by
  have hlength := length_padded digits places
  by_cases hshort : (Nat.toDigits 10 digits).length < places + 1
  · obtain ⟨count, hcount⟩ : ∃ count, places + 1 - (Nat.toDigits 10 digits).length = count + 1 :=
      ⟨places - (Nat.toDigits 10 digits).length, by omega⟩
    rw [show (padded digits places).length - places = 1 by omega, padded, hcount]
    exact fun _ => rfl
  · refine lead_of_pos hpos ?_
    rw [List.head?_take, if_neg (by omega), padded, Nat.sub_eq_zero_of_le (Nat.le_of_not_lt hshort)]
    rfl

/-- **A positional text is a numeral.** -/
theorem exists_numeral_positional (negative : Bool) (hpos : 0 < digits) (exponent : Int) : ∃ n : Numeral, n.Valid ∧
    n.text = (if negative then ['-'] else []) ++ (FloatStyle.positional (toString digits) exponent).toList ∧
    ∃ y : Double, y.Genuine ∧ n.value = .float y := by
  by_cases hsign : 0 ≤ exponent
  · refine ⟨⟨negative, Nat.toDigits 10 digits ++ List.replicate exponent.toNat '0', ['0'], none⟩, {
        whole_ne := List.append_ne_nil_of_left_ne_nil Nat.toDigits_ne_nil _
        whole := fun c hc => (List.mem_append.1 hc).elim isDigit_of_mem_toDigits isDigit_of_mem_replicate
        lead := ?_
        fraction := fun c hc => @isDigit_of_mem_replicate 1 c hc
        exponent := nofun }, ?_, exists_value_eq_float (.inl nofun)⟩
    · obtain ⟨first, others, hcons⟩ := List.exists_cons_of_ne_nil (Nat.toDigits_ne_nil (n := digits) (b := 10))
      exact lead_of_pos hpos (by rw [hcons]; rfl)
    · rw [toList_positional_of_nonneg hsign, List.append_assoc]
      simp [Numeral.text, Numeral.exponentText]
  · have hlength := length_padded digits (-exponent).toNat
    have htext := toList_positional_of_neg digits hsign
    have hlead := lead_padded hpos (-exponent).toNat
    generalize hrow : padded digits (-exponent).toNat = row at hlength htext hlead
    have hall : ∀ c ∈ row, c.isDigit := fun c hc => isDigit_of_mem_padded (hrow ▸ hc)
    have hfraction : row.drop (row.length - (-exponent).toNat) ≠ [] := by
      rw [Ne, List.drop_eq_nil_iff]
      omega
    refine ⟨⟨negative, row.take (row.length - (-exponent).toNat), row.drop (row.length - (-exponent).toNat), none⟩, {
        whole_ne := ?_
        whole := fun c hc => hall c (List.mem_of_mem_take hc)
        lead := hlead
        fraction := fun c hc => hall c (List.mem_of_mem_drop hc)
        exponent := fun part hpart => absurd hpart (Option.not_mem_none part) }, ?_, exists_value_eq_float (.inl hfraction)⟩
    · rw [Ne, List.take_eq_nil_iff, ← List.length_eq_zero_iff]
      omega
    · have hpoint : (row.drop (row.length - (-exponent).toNat)).isEmpty = false := by simpa using hfraction
      rw [htext, Numeral.text, hpoint]
      simp [Numeral.exponentText]

/-- **A text with an exponent is a numeral**, with one digit in front of the point. -/
theorem exists_numeral_exponential (negative : Bool) (hpos : 0 < digits) (lead : Int) : ∃ n : Numeral, n.Valid ∧
    n.text = (if negative then ['-'] else []) ++ (Json.floatStyle.exponential (toString digits) lead).toList ∧
    ∃ y : Double, y.Genuine ∧ n.value = .float y := by
  have hdigits : ∀ (m : Nat), ∀ c ∈ Nat.toDigits 10 m, c.isDigit := fun m c hc => isDigit_of_mem_toDigits hc
  obtain ⟨first, others, hcons⟩ := List.exists_cons_of_ne_nil (Nat.toDigits_ne_nil (n := digits) (b := 10))
  have hfirst := hdigits digits first (hcons ▸ List.mem_cons_self)
  refine ⟨⟨negative, [first], others, some (decide (lead < 0), Nat.toDigits 10 lead.natAbs)⟩,
    ⟨nofun, fun c hc => ?_, ?_, fun c hc => hdigits digits c (hcons ▸ List.mem_cons_of_mem _ hc), fun part hpart => ?_⟩, ?_,
    exists_value_eq_float (.inr nofun)⟩
  · rwa [List.mem_singleton.1 hc]
  · exact lead_of_pos hpos (by rw [hcons]; rfl)
  · obtain rfl := Option.some.inj hpart
    exact ⟨Nat.toDigits_ne_nil, hdigits _⟩
  · have hpad : (FloatStyle.padLeft 1 (toString lead.natAbs)).toList = Nat.toDigits 10 lead.natAbs := by
      rw [toList_padLeft, toList_toString_nat, Nat.sub_eq_zero_of_le Nat.length_toDigits_pos]
      rfl
    unfold FloatStyle.exponential
    simp only [toList_toString_nat, hcons, List.drop_succ_cons, List.drop_zero, List.take_succ_cons, List.take_zero,
      String.toList_append, String.toList_ofList, Numeral.text, Numeral.exponentText,
      show Json.floatStyle.exponentDigits = 1 from rfl, show Json.floatStyle.exponentPlus = false from rfl, hpad]
    cases others <;> by_cases hlead : lead < 0 <;> simp [hlead]

/-- **A finite double is written as a numeral that stands for a double of 64 bits.** -/
theorem exists_numeral_float {negative : Bool} {mantissa : Nat} {exponent : Int}
    (h : (Double.finite negative mantissa exponent).Genuine) : ∃ n : Numeral, n.Valid ∧
    n.text = (Json.floatStyle.text (.finite negative mantissa exponent)).toList ∧ ∃ y : Double, y.Genuine ∧ n.value = .float y := by
  have hsign : (if negative then "-" else "" : String).toList = if negative then ['-'] else [] := by cases negative <;> rfl
  unfold FloatStyle.text
  dsimp only
  by_cases hzero : mantissa = 0
  · have hdigit : ∀ c ∈ ['0'], c.isDigit := fun c hc => @isDigit_of_mem_replicate 1 c hc
    refine ⟨⟨negative, ['0'], ['0'], none⟩, ⟨nofun, hdigit, fun _ => rfl, hdigit, nofun⟩, ?_,
      exists_value_eq_float (.inl nofun)⟩
    rw [if_pos hzero, String.toList_append, hsign]
    rfl
  · have hpos := Double.shortest_pos h hzero
    rw [if_neg hzero]
    generalize Double.shortest mantissa exponent = found at hpos
    obtain ⟨digits, place⟩ := found
    dsimp only at hpos ⊢
    rw [String.toList_append, hsign]
    by_cases hplace : Json.floatStyle.leastPositional ≤ place + (toString digits).length - 1 ∧
        place + (toString digits).length - 1 < Json.floatStyle.firstExponential
    · rw [if_pos hplace]
      exact exists_numeral_positional negative hpos place
    · rw [if_neg hplace]
      exact exists_numeral_exponential negative hpos _

end JsonReader
end PasswordGate
