import PasswordGate.Codec.Field
/-!
# Field laws — what a written field looks like, and which bytes read as one

`Field.wire` is the form of one field and `Field.wires` that of several.  Writing over storage puts exactly that form in
the place of what stood there (`write_eq`, `writeAll_eq`).  Reading inside a window succeeds exactly on bytes that start
with such a form, end inside the window and respect the limit (`read_eq_ok_iff`).
-/
namespace PasswordGate

/-! ## Words -/

namespace Word

theorem encode_of_le {number : Nat} (h : number ≤ largest) : encode number = .ok (bytes number) := if_pos h

theorem encode_eq_ok_iff {number : Nat} {out : Bytes} :
    encode number = .ok out ↔ number ≤ largest ∧ out = bytes number := by
  unfold encode
  by_cases h : number ≤ largest <;> simp [h, eq_comm]

/-- **The four bytes of a number spell it**, whatever follows them. -/
theorem decode_bytes_append {number : Nat} (h : number ≤ largest) (rest : Bytes) :
    decode (bytes number ++ rest) = .ok number := by
  simp only [bytes, decode, List.cons_append, UInt8.toNat_ofNat', Except.ok.injEq]
  unfold largest at h
  omega

/-- **Four bytes are the bytes of one number**, which fits. -/
theorem exists_eq_bytes_append (data : Bytes) (h : size ≤ data.length) :
    ∃ number, number ≤ largest ∧ data = bytes number ++ data.drop size := by
  obtain ⟨b₀, b₁, b₂, b₃, rest, rfl⟩ : ∃ b₀ b₁ b₂ b₃ rest, data = b₀ :: b₁ :: b₂ :: b₃ :: rest := by
    match data, h with
    | b₀ :: b₁ :: b₂ :: b₃ :: rest, _ => exact ⟨b₀, b₁, b₂, b₃, rest, rfl⟩
  have h₀ := b₀.toNat_lt
  have h₁ := b₁.toNat_lt
  have h₂ := b₂.toNat_lt
  have h₃ := b₃.toNat_lt
  refine ⟨b₀.toNat + 256 * b₁.toNat + 65536 * b₂.toNat + 16777216 * b₃.toNat, by unfold largest; omega, ?_⟩
  have hbyte : ∀ (b : UInt8) (n : Nat), n % 256 = b.toNat → UInt8.ofNat n = b := fun b n hn =>
    UInt8.toNat_inj.1 (by rw [UInt8.toNat_ofNat']; exact hn)
  simp only [bytes, size, List.drop_succ_cons, List.drop_zero, List.cons_append, List.nil_append]
  rw [hbyte b₀ _ (by omega), hbyte b₁ _ (by omega), hbyte b₂ _ (by omega), hbyte b₃ _ (by omega)]

theorem bytes_injective {m n : Nat} (hm : m ≤ largest) (hn : n ≤ largest) (h : bytes m = bytes n) : m = n := by
  have hd := decode_bytes_append hm []
  rw [h, decode_bytes_append hn] at hd
  exact (Except.ok.inj hd).symm

end Word

/-! ## Slices at positions inside the data -/

namespace Bytes

/-- A slice that stops inside the data is what is left after its start, as far as it goes. -/
theorem slice_natCast (data : Bytes) (start stop : Nat) (h : stop ≤ data.length) :
    data.slice start stop = (data.drop start).take (stop - start) := by
  unfold slice
  rw [clamp_natCast, clamp_natCast, Nat.min_eq_left h]
  by_cases hs : start ≤ data.length
  · rw [Nat.min_eq_left hs]
  · rw [Nat.min_eq_right (by omega), List.drop_length, List.drop_of_length_le (by omega), List.take_nil, List.take_nil]

/-- A splice at a position inside the data keeps what stands before it and what stands past its stop. -/
theorem splice_natCast (data insertion : Bytes) (start stop : Nat) (hs : start ≤ data.length) (h : start ≤ stop) :
    data.splice start stop insertion = data.take start ++ insertion ++ data.drop stop := by
  unfold splice
  simp only [clamp_natCast, Nat.min_eq_left hs]
  by_cases he : stop ≤ data.length
  · rw [Nat.min_eq_left he, Nat.max_eq_right h]
  · rw [Nat.min_eq_right (by omega), Nat.max_eq_right hs, List.drop_length, List.drop_of_length_le (by omega)]

end Bytes

namespace Field

/-- **The form of a field**: its length as a word, and its content. -/
def wire (content : Bytes) : Bytes := Word.bytes content.length ++ content

def wires : List Bytes → Bytes
  | [] => []
  | content :: rest => wire content ++ wires rest

theorem length_wire (content : Bytes) : (wire content).length = encodedSize content := by
  rw [wire, List.length_append, Word.length_bytes, encodedSize]

theorem length_wires : ∀ contents : List Bytes, (wires contents).length = totalSize contents
  | [] => rfl
  | content :: rest => by rw [wires, List.length_append, length_wire, length_wires rest, totalSize]

/-- Behind the form of a field stands what follows it. -/
theorem drop_behind {data content rest : Bytes} {offset : Nat} (h : data.drop offset = wire content ++ rest) :
    data.drop (offset + encodedSize content) = rest := by
  rw [← List.drop_drop, h, ← length_wire, List.drop_left]

theorem totalSize_append : ∀ contents more : List Bytes,
    totalSize (contents ++ more) = totalSize contents + totalSize more
  | [], more => (Nat.zero_add _).symm
  | content :: rest, more => by
    rw [List.cons_append, totalSize, totalSize, totalSize_append rest more, Nat.add_assoc]

/-- Fewer of the first fields take less room. -/
theorem totalSize_take_le (contents : List Bytes) {count more : Nat} (h : count ≤ more) :
    totalSize (contents.take count) ≤ totalSize (contents.take more) := by
  have hsplit := totalSize_append ((contents.take more).take count) ((contents.take more).drop count)
  rw [List.take_append_drop, List.take_take, Nat.min_eq_left h] at hsplit
  exact hsplit ▸ Nat.le_add_right _ _

/-! ## Writing -/

/-- **A field written at a position inside the storage** takes the place of as many bytes as its form has. -/
theorem write_eq {out content : Bytes} {offset : Nat} (ho : offset ≤ out.length) (hc : content.length ≤ Word.largest) :
    write out offset content =
      .ok (out.take offset ++ wire content ++ out.drop (offset + encodedSize content),
        ((offset + encodedSize content : Nat) : Int)) := by
  unfold write
  rw [Word.encode_of_le hc]
  -- The length word first: what it leaves behind starts with the bytes before the offset and the word.
  have hword : out.splice offset ((offset : Int) + Word.size) (Word.bytes content.length) =
      (out.take offset ++ Word.bytes content.length) ++ out.drop (offset + Word.size) := by
    rw [show ((offset : Int) + Word.size) = ((offset + Word.size : Nat) : Int) by omega,
      Bytes.splice_natCast _ _ _ _ ho (by omega)]
  have hlen : (out.take offset ++ Word.bytes content.length).length = offset + Word.size := by
    rw [List.length_append, List.length_take, Word.length_bytes, Nat.min_eq_left ho]
  have hcontent : Bytes.splice ((out.take offset ++ Word.bytes content.length) ++ out.drop (offset + Word.size))
      ((offset : Int) + Word.size) ((offset : Int) + Word.size + content.length) content =
      (out.take offset ++ Word.bytes content.length) ++ content ++ out.drop (offset + encodedSize content) := by
    rw [show ((offset : Int) + Word.size) = ((offset + Word.size : Nat) : Int) by omega,
      show (((offset + Word.size : Nat) : Int) + content.length) = ((offset + Word.size + content.length : Nat) : Int) by
        omega,
      Bytes.splice_natCast _ _ _ _ (by rw [List.length_append, hlen]; omega) (by omega), ← hlen, List.take_left,
      ← List.drop_drop, List.drop_left, List.drop_drop, hlen, encodedSize, Nat.add_assoc]
  simp only [bind, Except.bind, pure, Except.pure, hword, hcontent, Except.ok.injEq, Prod.mk.injEq]
  refine ⟨by simp [wire], ?_⟩
  unfold encodedSize
  omega

/-- **Fields written one behind the other** take the place of as many bytes as their forms have. -/
theorem writeAll_eq : ∀ (contents : List Bytes) {out : Bytes} {offset : Nat}, offset ≤ out.length →
    (∀ content ∈ contents, content.length ≤ Word.largest) →
    writeAll out offset contents =
      .ok (out.take offset ++ wires contents ++ out.drop (offset + totalSize contents),
        ((offset + totalSize contents : Nat) : Int))
  | [], out, offset, _, _ => by simp [writeAll, wires, totalSize]
  | content :: rest, out, offset, ho, hc => by
    have hlen : (out.take offset ++ wire content).length = offset + encodedSize content := by
      rw [List.length_append, List.length_take, length_wire, Nat.min_eq_left ho]
    simp only [writeAll, write_eq ho (hc content (by simp)), bind, Except.bind]
    rw [writeAll_eq rest (by rw [List.length_append, hlen]; omega) (fun c h => hc c (by simp [h])), ← hlen,
      List.take_left, ← List.drop_drop, List.drop_left, List.drop_drop, hlen]
    simp only [wires, totalSize, List.append_assoc, Nat.add_assoc]

theorem length_le_of_writeAll : ∀ (contents : List Bytes) {out : Bytes} {offset : Int} {result : Bytes × Int},
    writeAll out offset contents = .ok result → ∀ content ∈ contents, content.length ≤ Word.largest
  | [], _, _, _, _ => fun _ hc => by cases hc
  | content :: rest, out, offset, result, h => by
    cases hw : Word.encode content.length with
    | error e => simp [writeAll, write, hw, bind, Except.bind] at h
    | ok word =>
      simp only [writeAll, write, hw, bind, Except.bind, pure, Except.pure] at h
      intro c hc
      rcases List.mem_cons.1 hc with rfl | hc
      · exact (Word.encode_eq_ok_iff.1 hw).1
      · exact length_le_of_writeAll rest h c hc

/-! ## Reading -/

/-- Fewer bytes before the stop than a length word takes: the field is truncated. -/
theorem read_of_short (data : Bytes) {offset stop : Nat} (limit : Int) (h : stop < offset + Word.size) :
    read data offset stop limit = .error (.truncatedField (stop - offset)) := by
  unfold read
  rw [if_pos (by omega)]
  simp only [throw, throwThe, MonadExceptOf.throw, bind, Except.bind, Except.error.injEq, CodecError.truncatedField.injEq]
  omega

/-- **Reading where a length word stands**: the declared length is held against the window, then against the limit. -/
theorem read_of_word {data rest : Bytes} {offset stop declared : Nat} (limit : Int) (hstop : stop ≤ data.length)
    (h : offset + Word.size ≤ stop) (hd : declared ≤ Word.largest) (hw : data.drop offset = Word.bytes declared ++ rest) :
    read data offset stop limit =
      if stop < offset + Word.size + declared then
        .error (.fieldOverrun declared ((stop - (offset + Word.size) : Nat) : Int))
      else if limit < declared then .error (.fieldOverLimit declared limit)
      else .ok (rest.take declared, ((offset + Word.size + declared : Nat) : Int)) := by
  have hrest : data.drop (offset + Word.size) = rest := by
    rw [← List.drop_drop, hw, ← Word.length_bytes declared, List.drop_left]
  have hslice : data.slice offset ((offset : Int) + Word.size) = Word.bytes declared := by
    rw [show ((offset : Int) + Word.size) = ((offset + Word.size : Nat) : Int) by omega,
      Bytes.slice_natCast _ _ _ (by omega), hw, Nat.add_sub_cancel_left, ← Word.length_bytes declared, List.take_left]
  have hdecode : Word.decode (Word.bytes declared) = .ok declared := by
    simpa using Word.decode_bytes_append hd []
  unfold read
  rw [if_neg (by omega), hslice, hdecode]
  simp only [throw, throwThe, MonadExceptOf.throw, bind, Except.bind, pure, Except.pure]
  by_cases hover : stop < offset + Word.size + declared
  · rw [if_pos hover, if_pos (by omega)]
    simp only [Except.error.injEq, CodecError.fieldOverrun.injEq, true_and]
    omega
  rw [if_neg hover, if_neg (by omega)]
  by_cases hlimit : limit < declared
  · rw [if_pos hlimit, if_pos hlimit]
  · have hcontent : data.slice ((offset : Int) + Word.size) ((offset : Int) + Word.size + declared) =
        rest.take declared := by
      rw [show ((offset : Int) + Word.size) = ((offset + Word.size : Nat) : Int) by omega,
        show (((offset + Word.size : Nat) : Int) + declared) = ((offset + Word.size + declared : Nat) : Int) by omega,
        Bytes.slice_natCast _ _ _ (by omega), Nat.add_sub_cancel_left, hrest]
    rw [if_neg hlimit, if_neg hlimit, hcontent]
    simp only [Except.ok.injEq, Prod.mk.injEq, true_and]
    omega

/-- **A field is read exactly where its form stands**, if it ends inside the window and respects the limit. -/
theorem read_eq_ok_iff {data content : Bytes} {offset stop : Nat} {limit next : Int} (hstop : stop ≤ data.length) :
    read data offset stop limit = .ok (content, next) ↔
      next = ((offset + encodedSize content : Nat) : Int) ∧ offset + encodedSize content ≤ stop ∧
      (content.length : Int) ≤ limit ∧ content.length ≤ Word.largest ∧
      ∃ rest, data.drop offset = wire content ++ rest := by
  constructor
  · intro h
    by_cases hs : stop < offset + Word.size
    · rw [read_of_short data limit hs] at h
      cases h
    obtain ⟨declared, hd, hw⟩ := Word.exists_eq_bytes_append (data.drop offset) (by
      rw [List.length_drop]; omega)
    rw [read_of_word limit hstop (by omega) hd hw] at h
    split at h
    · cases h
    split at h
    · cases h
    simp only [Except.ok.injEq, Prod.mk.injEq] at h
    obtain ⟨hcontent, hnext⟩ := h
    have hlen : content.length = declared := by
      rw [← hcontent, List.length_take, List.length_drop, List.length_drop]
      omega
    unfold encodedSize
    refine ⟨by omega, by omega, by omega, by omega, ((data.drop offset).drop Word.size).drop declared, ?_⟩
    rw [wire, List.append_assoc, hlen, ← hcontent, List.take_append_drop]
    exact hw
  · rintro ⟨rfl, hfit, hlimit, hle, rest, hw⟩
    unfold encodedSize at hfit ⊢
    rw [wire, List.append_assoc] at hw
    rw [read_of_word limit hstop (by omega) hle hw, if_neg (by omega), if_neg (by omega), List.take_left, Nat.add_assoc]

/-- Inside the data a field that is refused is malformed: no word is cut short. -/
theorem isMalformed_of_read {data : Bytes} {offset stop : Nat} {limit : Int} {e : CodecError}
    (hstop : stop ≤ data.length) (h : read data offset stop limit = .error e) : e.isMalformed = true := by
  by_cases hs : stop < offset + Word.size
  · rw [read_of_short data limit hs] at h
    cases h
    rfl
  obtain ⟨declared, hd, hw⟩ := Word.exists_eq_bytes_append (data.drop offset) (by
    rw [List.length_drop]; omega)
  rw [read_of_word limit hstop (by omega) hd hw] at h
  split at h
  · cases h
    rfl
  split at h
  · cases h
    rfl
  · cases h

end Field
end PasswordGate
