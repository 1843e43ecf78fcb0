import PasswordGate.Bytes.Hex
/-!
# Hex laws — digits spell the octets they were written for

What `encode` writes is read back, whatever digits follow (`decode_encode_append`); what is read is an even number of
digits and nothing else (`decode_isSome_iff`), and it is what `encode` writes, but for the case of the letters
(`decode_eq_some_iff`).
-/
namespace PasswordGate
namespace Hex

theorem nibble?_digit : ∀ n < 16, nibble? (digit n) = some n := by decide

theorem ofNat_nibbles (byte : UInt8) : UInt8.ofNat (16 * (byte.toNat / 16) + byte.toNat % 16) = byte := by
  rw [Nat.div_add_mod, UInt8.ofNat_toNat]

/-- **An octet's digits are read back**, in front of what follows. -/
theorem decode_octet_append (byte : UInt8) (rest : List Char) :
    decode (octet byte ++ rest) = (decode rest).map (byte :: ·) := by
  have hlt := byte.toNat_lt
  have hhigh := nibble?_digit (byte.toNat / 16) (by omega)
  have hlow := nibble?_digit (byte.toNat % 16) (Nat.mod_lt _ (by decide))
  show decode (digit (byte.toNat / 16) :: digit (byte.toNat % 16) :: rest) = _
  rw [decode, hhigh, hlow]
  cases decode rest with
  | none => rfl
  | some data => exact congrArg (fun b => some (b :: data)) (ofNat_nibbles byte)

theorem decode_encode_append : ∀ (data : Bytes) (rest : List Char),
    decode (encode data ++ rest) = (decode rest).map (data ++ ·)
  | [], rest => by simp [encode]
  | byte :: data, rest => by
    rw [encode, List.flatMap_cons, List.append_assoc, decode_octet_append]
    show (decode (encode data ++ rest)).map _ = _
    rw [decode_encode_append data rest, Option.map_map]
    rfl

theorem encode_injective {data other : Bytes} (h : encode data = encode other) : data = other := by
  have hdata := decode_encode_append data []
  rw [h, decode_encode_append other []] at hdata
  simpa [decode] using hdata.symm

@[simp]
theorem length_encode : ∀ data : Bytes, (encode data).length = 2 * data.length
  | [] => rfl
  | byte :: data => by
    rw [encode, List.flatMap_cons, List.length_append, List.length_cons]
    show 2 + (encode data).length = _
    rw [length_encode data]
    omega

/-- Every digit that is written is one of the sixteen. -/
theorem exists_digit {data : Bytes} {c : Char} (h : c ∈ encode data) : ∃ n < 16, c = digit n := by
  obtain ⟨byte, -, hc⟩ := List.mem_flatMap.1 h
  have hlt := byte.toNat_lt
  rcases List.mem_cons.1 hc with rfl | hc
  · exact ⟨_, by omega, rfl⟩
  · exact ⟨_, Nat.mod_lt _ (by decide), List.mem_singleton.1 hc⟩

/-- **A text spells octets** exactly when it is an even number of digits. -/
theorem decode_isSome_iff : ∀ text : List Char,
    (decode text).isSome ↔ text.length % 2 = 0 ∧ ∀ c ∈ text, (nibble? c).isSome
  | [] => by simp [decode]
  | [c] => by simp [decode]
  | high :: low :: rest => by
    have hstep : (decode (high :: low :: rest)).isSome =
        ((nibble? high).isSome && (nibble? low).isSome && (decode rest).isSome) := by
      rw [decode]
      cases nibble? high <;> cases nibble? low <;> cases decode rest <;> rfl
    have hlength : (high :: low :: rest).length % 2 = rest.length % 2 := by
      simp only [List.length_cons]
      omega
    rw [hstep, hlength, List.forall_mem_cons, List.forall_mem_cons, Bool.and_eq_true, Bool.and_eq_true,
      decode_isSome_iff rest]
    exact ⟨fun ⟨⟨hhigh, hlow⟩, heven, hrest⟩ => ⟨heven, hhigh, hlow, hrest⟩,
      fun ⟨heven, hhigh, hlow, hrest⟩ => ⟨⟨hhigh, hlow⟩, heven, hrest⟩⟩

/-! ## Digits in either case -/

theorem toNat_toLower (c : Char) : c.toLower.toNat = if 65 ≤ c.toNat ∧ c.toNat ≤ 90 then c.toNat + 32 else c.toNat := by
  have hrange : c.val ≥ 'A'.val ∧ c.val ≤ 'Z'.val ↔ 65 ≤ c.toNat ∧ c.toNat ≤ 90 := by
    rw [ge_iff_le, UInt32.le_iff_toNat_le, UInt32.le_iff_toNat_le]
    rfl
  unfold Char.toLower
  split <;> rename_i hupper
  · have hcode := hrange.1 hupper
    rw [if_pos hcode]
    show (c.val + ('a'.val - 'A'.val)).toNat = c.toNat + 32
    rw [UInt32.toNat_add]
    show (c.toNat + 32) % 4294967296 = c.toNat + 32
    omega
  · rw [if_neg fun hcode => hupper (hrange.2 hcode)]

theorem toNat_digit : ∀ n < 16, (digit n).toNat = if n < 10 then 48 + n else 87 + n := by decide

/-- **The digits of a nibble** are the one that is written for it, and the same in upper case. -/
theorem nibble?_eq_some_iff {c : Char} {n : Nat} : nibble? c = some n ↔ n < 16 ∧ c.toLower = digit n := by
  have hlower : n < 16 → (c.toLower = digit n ↔
      (if 65 ≤ c.toNat ∧ c.toNat ≤ 90 then c.toNat + 32 else c.toNat) = if n < 10 then 48 + n else 87 + n) := fun hn => by
    rw [← toNat_digit n hn, ← toNat_toLower, Char.toNat_inj]
  rw [and_congr_right hlower]
  unfold nibble?
  generalize c.toNat = code
  grind

/-- Two digits and more are read as an octet and more, when they are the digits of its two nibbles. -/
theorem decode_cons_cons_iff {high low : Char} {rest : List Char} {byte : UInt8} {data : Bytes} :
    decode (high :: low :: rest) = some (byte :: data) ↔
      nibble? high = some (byte.toNat / 16) ∧ nibble? low = some (byte.toNat % 16) ∧ decode rest = some data := by
  rw [decode]
  constructor
  · intro h
    split at h
    · rename_i a b others hhigh hlow hrest
      obtain ⟨hbyte, rfl⟩ := List.cons.inj (Option.some.inj h)
      have ha := (nibble?_eq_some_iff.1 hhigh).1
      have hb := (nibble?_eq_some_iff.1 hlow).1
      have hvalue : byte.toNat = 16 * a + b := by
        rw [← hbyte, UInt8.toNat_ofNat']
        omega
      exact ⟨hhigh.trans (congrArg some (by omega)), hlow.trans (congrArg some (by omega)), hrest⟩
    · cases h
  · rintro ⟨hhigh, hlow, hrest⟩
    rw [hhigh, hlow, hrest]
    exact congrArg (fun b => some (b :: data)) (ofNat_nibbles byte)

/-- **A text is read as octets** exactly when it is what is written for them, in either case. -/
theorem decode_eq_some_iff : ∀ {text : List Char} {data : Bytes},
    decode text = some data ↔ text.map Char.toLower = encode data
  | [], data => by cases data <;> simp [decode, encode, octet]
  | [c], data => by
    have hodd : ([c].map Char.toLower).length ≠ (encode data).length := by
      rw [length_encode, List.length_map, List.length_singleton]
      omega
    simp only [decode, reduceCtorEq, false_iff]
    exact fun h => hodd (congrArg List.length h)
  | high :: low :: rest, [] => by
    rw [decode]
    split <;> simp [encode]
  | high :: low :: rest, byte :: data => by
    have hlt := byte.toNat_lt
    have hhigh : nibble? high = some (byte.toNat / 16) ↔ high.toLower = digit (byte.toNat / 16) :=
      nibble?_eq_some_iff.trans (and_iff_right (by omega))
    have hlow : nibble? low = some (byte.toNat % 16) ↔ low.toLower = digit (byte.toNat % 16) :=
      nibble?_eq_some_iff.trans (and_iff_right (Nat.mod_lt _ (by decide)))
    have hencode : encode (byte :: data) = digit (byte.toNat / 16) :: digit (byte.toNat % 16) :: encode data := rfl
    rw [decode_cons_cons_iff, hhigh, hlow, decode_eq_some_iff, hencode, List.map_cons, List.map_cons, List.cons.injEq,
      List.cons.injEq]

end Hex
end PasswordGate
