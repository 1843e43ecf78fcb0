import Mathlib.Tactic.Ring
import PasswordGate.Json.Text
import PasswordGate.Proofs.Bytes.Hex
/-!
# Escape — escaped text can be read back

A character inside a literal or a JSON string is written in one of a few forms.  `Escape.read` takes the first character
off such a text again, whichever of the two wrote it (`read_inside`, `read_jsonInside`).  So what stands between quotes
ends where it seems to end: equal texts come from equal contents, whatever follows (`flatMap_append_inj`).
-/
namespace PasswordGate

namespace Quoted

@[simp]
theorem length_hexDigits (width n : Nat) : (hexDigits width n).length = width := by simp [hexDigits]

theorem hexDigits_succ (width n : Nat) :
    hexDigits (width + 1) n = Hex.digit (n / 16 ^ width % 16) :: hexDigits width n := by
  simp [hexDigits, List.range_succ]

end Quoted

namespace Escape

/-- The number that hexadecimal digits spell behind another one. -/
def number (start : Nat) (digits : List Char) : Nat :=
  digits.foldl (fun n c => 16 * n + (Hex.nibble? c).getD 0) start

theorem number_hexDigits (n : Nat) : ∀ (width start : Nat),
    number start (Quoted.hexDigits width n) = start * 16 ^ width + n % 16 ^ width
  | 0, start => by simp [number, Quoted.hexDigits, Nat.mod_one]
  | width + 1, start => by
    have hdigit := Hex.nibble?_digit (n / 16 ^ width % 16) (Nat.mod_lt _ (by decide))
    have hrest := number_hexDigits n width (16 * start + n / 16 ^ width % 16)
    rw [Quoted.hexDigits_succ, number, List.foldl_cons, hdigit]
    refine hrest.trans ?_
    rw [Nat.pow_succ, Nat.mod_mul]
    ring

/-- A character by the digits of its number, and what follows them. -/
def readNumber (width : Nat) (text : List Char) : Char × List Char :=
  (Char.ofNat (number 0 (text.take width)), text.drop width)

/-- **The first character of an escaped text**, and what follows it. -/
def read : List Char → Option (Char × List Char)
  | [] => none
  | ['\\'] => none
  | '\\' :: 'b' :: rest => some ('\x08', rest)
  | '\\' :: 't' :: rest => some ('\t', rest)
  | '\\' :: 'n' :: rest => some ('\n', rest)
  | '\\' :: 'f' :: rest => some ('\x0c', rest)
  | '\\' :: 'r' :: rest => some ('\r', rest)
  | '\\' :: 'x' :: rest => some (readNumber 2 rest)
  | '\\' :: 'u' :: rest => some (readNumber 4 rest)
  | '\\' :: 'U' :: rest => some (readNumber 8 rest)
  | '\\' :: c :: rest => some (c, rest)
  | c :: rest => some (c, rest)

theorem readNumber_hexDigits {width : Nat} {c : Char} (h : c.toNat < 16 ^ width) (rest : List Char) :
    readNumber width (Quoted.hexDigits width c.toNat ++ rest) = (c, rest) := by
  unfold readNumber
  rw [List.take_left' (Quoted.length_hexDigits _ _), List.drop_left' (Quoted.length_hexDigits _ _), number_hexDigits,
    Nat.zero_mul, Nat.zero_add, Nat.mod_eq_of_lt h, Char.ofNat_toNat]

theorem read_plain {c : Char} (h : c ≠ '\\') (rest : List Char) : read (c :: rest) = some (c, rest) := by
  unfold read
  split <;> simp_all

theorem read_byNumber (c : Char) (rest : List Char) : read (Quoted.byNumber c ++ rest) = some (c, rest) := by
  unfold Quoted.byNumber
  split
  · exact congrArg some (readNumber_hexDigits ‹_› rest)
  split
  · exact congrArg some (readNumber_hexDigits ‹_› rest)
  · exact congrArg some (readNumber_hexDigits c.val.toNat_lt rest)

/-- **A character inside a literal can be read back.** -/
theorem read_inside {shows : Char → Bool} {escaped : Char} (hescaped : escaped = '\x27' ∨ escaped = '"') (c : Char)
    (rest : List Char) : read (Quoted.inside shows escaped c ++ rest) = some (c, rest) := by
  unfold Quoted.inside
  split
  · rename_i h
    rcases h with rfl | rfl
    · rfl
    · rcases hescaped with rfl | rfl <;> rfl
  rename_i h
  split
  · subst c
    rfl
  split
  · subst c
    rfl
  split
  · subst c
    rfl
  split
  · exact read_plain (fun hc => h (.inl hc)) rest
  · exact read_byNumber c rest

/-- **A character inside a JSON string can be read back.** -/
theorem read_jsonInside (c : Char) (rest : List Char) : read (Json.inside c ++ rest) = some (c, rest) := by
  unfold Json.inside
  split
  · subst c
    rfl
  split
  · subst c
    rfl
  rename_i h
  split
  · subst c
    rfl
  split
  · subst c
    rfl
  split
  · subst c
    rfl
  split
  · subst c
    rfl
  split
  · subst c
    rfl
  split
  · rename_i hcontrol
    exact congrArg some (readNumber_hexDigits (Nat.lt_trans hcontrol (by decide)) rest)
  · exact read_plain h rest

section

variable {write : Char → List Char} (hread : ∀ c rest, read (write c ++ rest) = some (c, rest))
include hread

/-- What is written for a character is there, and unless it starts with a backslash it starts with the character. -/
theorem exists_cons (c : Char) : ∃ first others, write c = first :: others ∧ (first = '\\' ∨ first = c) := by
  have hfirst := hread c []
  cases hw : write c with
  | nil =>
    rw [hw] at hfirst
    cases hfirst
  | cons first others =>
    refine ⟨first, others, rfl, ?_⟩
    by_cases hb : first = '\\'
    · exact .inl hb
    · rw [hw, List.cons_append, read_plain hb] at hfirst
      exact .inr (Prod.mk.inj (Option.some.inj hfirst)).1

/-- **Escaped text ends at its stop**, unless the stop is among its characters and not escaped: equal texts up to it come
from equal characters, and what follows is equal. -/
theorem flatMap_append_inj {stop : Char} (hstop : stop ≠ '\\') : ∀ {s t x y : List Char},
    ((write stop).head? = some stop → stop ∉ s ∧ stop ∉ t) →
    s.flatMap write ++ stop :: x = t.flatMap write ++ stop :: y → s = t ∧ x = y
  | [], [], x, y, _, h => ⟨rfl, (List.cons.inj h).2⟩
  | [], d :: t, x, y, hfree, h => by
    obtain ⟨first, others, hw, hfirst⟩ := exists_cons hread d
    rw [List.flatMap_cons, hw] at h
    obtain rfl : stop = first := (List.cons.inj h).1
    obtain rfl : stop = d := hfirst.resolve_left hstop
    exact absurd List.mem_cons_self (hfree (congrArg List.head? hw)).2
  | c :: s, [], x, y, hfree, h => by
    obtain ⟨first, others, hw, hfirst⟩ := exists_cons hread c
    rw [List.flatMap_cons, hw] at h
    obtain rfl : first = stop := (List.cons.inj h).1
    obtain rfl : first = c := hfirst.resolve_left hstop
    exact absurd List.mem_cons_self (hfree (congrArg List.head? hw)).1
  | c :: s, d :: t, x, y, hfree, h => by
    rw [List.flatMap_cons, List.flatMap_cons, List.append_assoc, List.append_assoc] at h
    have hfirst := congrArg read h
    rw [hread, hread] at hfirst
    obtain ⟨rfl, hrest⟩ := Prod.mk.inj (Option.some.inj hfirst)
    obtain ⟨rfl, hafter⟩ := flatMap_append_inj hstop (fun hw => ⟨fun hc => (hfree hw).1 (List.mem_cons_of_mem _ hc),
      fun hc => (hfree hw).2 (List.mem_cons_of_mem _ hc)⟩) hrest
    exact ⟨rfl, hafter⟩

end

end Escape

/-- **A JSON string ends at its closing quote.** -/
@[simp]
theorem Json.quote_append_iff {s t : String} {x y : List Char} :
    (quote s).toList ++ x = (quote t).toList ++ y ↔ s = t ∧ x = y := by
  refine ⟨fun h => ?_, by rintro ⟨rfl, rfl⟩; rfl⟩
  simp only [quote, String.toList_ofList, List.cons_append, List.append_assoc, List.nil_append, List.cons.injEq,
    true_and] at h
  obtain ⟨htext, hrest⟩ := Escape.flatMap_append_inj Escape.read_jsonInside (by decide)
    (fun hw => absurd hw (by decide)) h
  exact ⟨String.toList_inj.1 htext, hrest⟩

namespace Quoted

/-- The quotes of a literal are double only if no character is. -/
theorem quoteFor_cases (text : List Char) : quoteFor text = '\x27' ∨ quoteFor text = '"' ∧ '"' ∉ text := by
  unfold quoteFor
  split
  · rename_i h
    exact .inr ⟨rfl, by simpa using (Bool.and_eq_true_iff.1 h).2⟩
  · exact .inl rfl

theorem toNat_ofNat_byte (b : UInt8) : (Char.ofNat b.toNat).toNat = b.toNat := by
  rw [Char.ofNat, dif_pos (.inl (Nat.lt_trans b.toNat_lt (by decide)))]
  rfl

theorem characters_inj {data other : Bytes} (h : characters data = characters other) : data = other :=
  (List.map_inj_right fun a b hab => UInt8.toNat_inj.1 (by
    rw [← toNat_ofNat_byte a, hab, toNat_ofNat_byte])).1 h

/-- **The inside of a literal ends at its closing quote**: the single quote is escaped, and between double quotes there is
no double quote to escape. -/
theorem flatMap_inside_append_inj {shows : Char → Bool} {escaped : Char} {s t x y : List Char}
    (hescaped : escaped = '\x27' ∨ escaped = quoteFor s) (hquote : quoteFor s = quoteFor t)
    (h : s.flatMap (inside shows escaped) ++ quoteFor s :: x = t.flatMap (inside shows escaped) ++ quoteFor s :: y) :
    s = t ∧ x = y := by
  rcases quoteFor_cases s with hs | ⟨hs, hfree⟩
  · have hsingle : escaped = '\x27' := hescaped.elim id fun he => he.trans hs
    rw [hs, hsingle] at h
    exact Escape.flatMap_append_inj (Escape.read_inside (.inl rfl)) (by decide) (fun hw => by cases hw) h
  · have hfree' : '"' ∉ t := by
      rcases quoteFor_cases t with ht | ⟨-, hfree'⟩
      · rw [← hquote, hs] at ht
        cases ht
      · exact hfree'
    rw [hs] at h hescaped
    exact Escape.flatMap_append_inj (Escape.read_inside hescaped) (by decide) (fun _ => ⟨hfree, hfree'⟩) h

/-- **A literal of octets ends at its closing quote.** -/
@[simp]
theorem ofBytes_append_iff {data other : Bytes} {x y : List Char} :
    (ofBytes data).toList ++ x = (ofBytes other).toList ++ y ↔ data = other ∧ x = y := by
  refine ⟨fun h => ?_, by rintro ⟨rfl, rfl⟩; rfl⟩
  simp only [ofBytes, literal, String.toList_append, String.toList_ofList, List.cons_append, List.append_assoc,
    List.nil_append, List.append_cancel_left_eq, List.cons.injEq] at h
  obtain ⟨hquote, h⟩ := h
  rw [← hquote] at h
  obtain ⟨hdata, hrest⟩ := flatMap_inside_append_inj (.inr rfl) hquote h
  exact ⟨characters_inj hdata, hrest⟩

/-- **A literal of storage ends at its closing quote.** -/
@[simp]
theorem ofStorage_append_iff {data other : Bytes} {x y : List Char} :
    (ofStorage data).toList ++ x = (ofStorage other).toList ++ y ↔ data = other ∧ x = y := by
  refine ⟨fun h => ?_, by rintro ⟨rfl, rfl⟩; rfl⟩
  simp only [ofStorage, String.toList_append, String.toList_ofList, List.cons_append, List.append_assoc,
    List.nil_append, List.append_cancel_left_eq, List.cons.injEq] at h
  obtain ⟨hquote, h⟩ := h
  rw [← hquote] at h
  obtain ⟨hdata, hrest⟩ := flatMap_inside_append_inj (.inl rfl) hquote h
  exact ⟨characters_inj hdata, hrest⟩

end Quoted
end PasswordGate
