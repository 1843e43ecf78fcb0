import PasswordGate.Inspect.HexText
import PasswordGate.Proofs.Bytes.Hex
/-!
# Pasted hex — what the tool reads behind a message that was written out

White space and the marker apart, a pasted text is its digits.  The digits of octets that start with a zero hold neither,
so what such a text spells is settled by what follows them (`parse_text_append`).  `Spells` is the grammar of all pasted
texts once their white space is gone, and a text is read exactly by it (`parse_spelled`).
-/
namespace PasswordGate
namespace HexText

theorem isBlank_digit : ∀ n < 16, isBlank (Hex.digit n) = false := by decide

theorem compact_encode_append (data : Bytes) (rest : List Char) :
    compact (Hex.encode data ++ rest) = Hex.encode data ++ compact rest := by
  have hdigits : (Hex.encode data).filter (!isBlank ·) = Hex.encode data := by
    rw [List.filter_eq_self]
    intro c hc
    obtain ⟨n, hn, rfl⟩ := Hex.exists_digit hc
    rw [isBlank_digit n hn]
    rfl
  rw [compact, List.filter_append, hdigits, compact]

theorem unmarked_encode_zero (data : Bytes) (rest : List Char) :
    unmarked (Hex.encode (0 :: data) ++ rest) = Hex.encode (0 :: data) ++ rest := rfl

/-- **A text that starts with the digits of a message** is read as the message and what the rest spells, or is refused
for what the rest is. -/
theorem parse_text_append (data : Bytes) (suffix : String) : parse (Hex.text (0 :: data) ++ suffix) =
    if (compact suffix.toList).length % 2 = 1 then .error .oddLength
    else
      match Hex.decode (compact suffix.toList) with
      | some rest => .ok (0 :: data ++ rest)
      | none => .error (.notHex (Hex.text (0 :: data) ++ suffix)
          ((failure? (Hex.encode (0 :: data) ++ compact suffix.toList)).getD 0)) := by
  have hdigits : unmarked (compact (Hex.text (0 :: data) ++ suffix).toList) =
      Hex.encode (0 :: data) ++ compact suffix.toList := by
    rw [String.toList_append, Hex.text, String.toList_ofList, compact_encode_append, unmarked_encode_zero]
  have hlength : (Hex.encode (0 :: data) ++ compact suffix.toList).length % 2 =
      (compact suffix.toList).length % 2 := by
    rw [List.length_append, Hex.length_encode]
    omega
  unfold parse
  dsimp only
  rw [hdigits, hlength, Hex.decode_encode_append]
  split
  · rfl
  · cases Hex.decode (compact suffix.toList) <;> rfl

/-! ## Which texts spell octets -/

/-- What may stand in front of the digits: nothing, or the marker in either case. -/
def markers : List (List Char) := [[], ['0', 'x'], ['0', 'X']]

/-- **A spelling of octets**: at most one marker, and then two digits for each, those that are written for it in either
case. -/
def Spells (plain : List Char) (data : Bytes) : Prop :=
  ∃ marker ∈ markers, ∃ digits, plain = marker ++ digits ∧ digits.length = 2 * data.length ∧
    digits.map Char.toLower = Hex.encode data

/-- **A text with white space put into it**, anywhere and any number of times. -/
inductive Spaced : List Char → List Char → Prop
  | done : Spaced [] []
  | keep (c : Char) {plain text : List Char} (h : Spaced plain text) : Spaced (c :: plain) (c :: text)
  | blank {c : Char} (hblank : isBlank c = true) {plain text : List Char} (h : Spaced plain text) : Spaced plain (c :: text)

variable {text plain digits marker : List Char} {data : Bytes}

theorem compact_of_spaced (h : Spaced plain text) : compact text = compact plain := by
  induction h with
  | done => rfl
  | keep c h ih =>
    unfold compact at ih ⊢
    rw [List.filter_cons, List.filter_cons, ih]
  | blank hblank h ih =>
    unfold compact at ih ⊢
    rw [List.filter_cons_of_neg (by simp [hblank]), ih]

theorem isBlank_of_nibble? {c : Char} {n : Nat} (h : Hex.nibble? c = some n) : isBlank c = false := by
  have hcode : 33 ≤ c.toNat ∧ c.toNat ≤ 102 := by
    unfold Hex.nibble? at h
    grind
  unfold isBlank
  simp
  omega

theorem exists_nibble (h : digits.map Char.toLower = Hex.encode data) {c : Char} (hc : c ∈ digits) :
    ∃ n, Hex.nibble? c = some n := by
  obtain ⟨n, hn, hdigit⟩ := Hex.exists_digit (h ▸ List.mem_map_of_mem hc)
  exact ⟨n, Hex.nibble?_eq_some_iff.2 ⟨hn, hdigit⟩⟩

/-- A spelling holds no white space. -/
theorem Spells.compact_eq (h : Spells plain data) : compact plain = plain := by
  obtain ⟨marker, hmarker, digits, rfl, -, hdigits⟩ := h
  have hmarkers : markers.flatten.all (!isBlank ·) = true := rfl
  rw [compact, List.filter_eq_self]
  intro c hc
  rcases List.mem_append.1 hc with hc | hc
  · exact List.all_eq_true.1 hmarkers c (List.mem_flatten.2 ⟨marker, hmarker, hc⟩)
  · obtain ⟨n, hn⟩ := exists_nibble hdigits hc
    rw [isBlank_of_nibble? hn]
    rfl

/-- What is cut off is a marker. -/
theorem exists_marker (plain : List Char) : ∃ marker ∈ markers, plain = marker ++ unmarked plain := by
  unfold unmarked
  split
  · exact ⟨['0', 'x'], by decide, rfl⟩
  · exact ⟨['0', 'X'], by decide, rfl⟩
  · exact ⟨[], by decide, rfl⟩

/-- **In front of digits a marker is cut off, and nothing else is**: the digits themselves never start with one. -/
theorem unmarked_append (hmarker : marker ∈ markers) (h : digits.map Char.toLower = Hex.encode data) :
    unmarked (marker ++ digits) = digits := by
  have hletter : ∀ c ∈ digits, c ≠ 'x' ∧ c ≠ 'X' := fun c hc => by
    obtain ⟨n, hn⟩ := exists_nibble h hc
    constructor <;> rintro rfl <;> cases hn
  simp only [markers, List.mem_cons, List.not_mem_nil, or_false] at hmarker
  rcases hmarker with rfl | rfl | rfl
  · unfold unmarked
    rw [List.nil_append]
    split
    · exact absurd rfl (hletter 'x' (by simp)).1
    · exact absurd rfl (hletter 'X' (by simp)).2
    · rfl
  · rfl
  · rfl

/-- **Octets are spelt exactly where what is left without the marker is read as them.** -/
theorem spells_iff : Spells plain data ↔ Hex.decode (unmarked plain) = some data := by
  rw [Hex.decode_eq_some_iff]
  constructor
  · rintro ⟨marker, hmarker, digits, rfl, -, h⟩
    rw [unmarked_append hmarker h, h]
  · intro h
    obtain ⟨marker, hmarker, hplain⟩ := exists_marker plain
    refine ⟨marker, hmarker, unmarked plain, hplain, ?_, h⟩
    rw [← Hex.length_encode, ← h, List.length_map]

theorem parse_eq_ok_iff {text : String} : parse text = .ok data ↔ Spells (compact text.toList) data := by
  rw [spells_iff]
  unfold parse
  dsimp only
  cases hdecode : Hex.decode (unmarked (compact text.toList)) with
  | none => split <;> simp
  | some found =>
    have heven := ((Hex.decode_isSome_iff _).1 (Option.isSome_of_eq_some hdecode)).1
    rw [if_neg (by omega), Except.ok.injEq, Option.some.injEq]

/-- **The octets that a text spells.**  A text is read as octets exactly when, its white space gone, it is a spelling of
them; and a text that spells none is refused, no other is.  So octets are read back from every spelling of them, with a
marker or without and with its letters in any case, and with white space put in anywhere. -/
theorem parse_spelled (text : String) :
    (∀ data, parse text = .ok data ↔ Spells (compact text.toList) data) ∧
    ((∃ e, parse text = .error e) ↔ ∀ data, ¬ Spells (compact text.toList) data) ∧
    ∀ plain data, Spells plain data → Spaced plain text.toList → parse text = .ok data := by
  refine ⟨fun data => parse_eq_ok_iff, ?_, fun plain data hspells hspaced => ?_⟩
  · constructor
    · rintro ⟨e, he⟩ data hspells
      rw [parse_eq_ok_iff.2 hspells] at he
      cases he
    · intro hnone
      cases hparse : parse text with
      | error e => exact ⟨e, rfl⟩
      | ok data => exact absurd (parse_eq_ok_iff.1 hparse) (hnone data)
  · have hcompact := compact_of_spaced hspaced
    rw [hspells.compact_eq] at hcompact
    exact parse_eq_ok_iff.2 (hcompact ▸ hspells)

/-- White space inside the marker and inside an octet, and digits of both cases. -/
theorem parse_spelled_marked :
    parse (String.ofList ['0', ' ', 'X', '0', '\n', 'F', 'f', '\u3000', 'A']) = .ok [15, 250] := by
  have hspells : Spells ['0', 'X', '0', 'F', 'f', 'A'] [15, 250] :=
    ⟨['0', 'X'], by decide, ['0', 'F', 'f', 'A'], rfl, rfl, rfl⟩
  refine (parse_spelled _).2.2 _ _ hspells ?_
  rw [String.toList_ofList]
  exact .keep '0' (.blank rfl (.keep 'X' (.keep '0' (.blank rfl (.keep 'F' (.keep 'f' (.blank rfl (.keep 'A' .done))))))))

end HexText
end PasswordGate
