import Mathlib.Data.Nat.Digits.Defs
import PasswordGate.Proofs.Codec.Window
import PasswordGate.Proofs.Store.Contents
/-!
# Fields — a buffer written into storage, and one read out of a window

A buffer is written in place: its form replaces as many bytes as it has, or what there is of them, and reading at the same
offset gives the buffer back under every end behind the form (`write_reads_back`).  Reading is held against the number that
the length word spells (`Word.value`): whatever the data, it takes the field exactly if that number fits the window and the
limit, it takes that many bytes and no others, and what stands outside the window has no influence (`read_confined`).
-/
namespace PasswordGate

/-! ## The number that a word spells -/

namespace Word

/-- **The number that bytes spell**, the least significant of them first. -/
def value (data : Bytes) : Nat := Nat.ofDigits 256 (data.map UInt8.toNat)

theorem value_bytes {number : Nat} (h : number ≤ largest) : value (bytes number) = number := by
  simp only [value, bytes, List.map_cons, List.map_nil, Nat.ofDigits_cons, Nat.ofDigits_nil, UInt8.toNat_ofNat']
  unfold largest at h
  omega

end Word

namespace Field

variable {data content : Bytes} {offset stop : Nat} {limit next : Int}

/-- The length that the word at an offset declares. -/
def declaredAt (data : Bytes) (offset : Nat) : Nat := Word.value ((data.drop offset).take Word.size)

theorem Declares.declaredAt_eq {declared : Nat} (h : Declares data offset declared) : declaredAt data offset = declared := by
  rw [declaredAt, h.take_eq, Word.value_bytes h.length_le]

theorem declares_declaredAt (hstop : stop ≤ data.length) (hword : offset + Word.size ≤ stop) :
    Declares data offset (declaredAt data offset) := by
  obtain ⟨declared, hdeclares, -⟩ := exists_declares hstop hword
  rw [hdeclares.declaredAt_eq]
  exact hdeclares

/-! ## Reading -/

/-- **A field is read exactly if its length word is there**, and declares no more than the window has left and the limit
allows. -/
theorem exists_read_iff (hstop : stop ≤ data.length) :
    (∃ content next, read data offset stop limit = .ok (content, next)) ↔
      offset + Word.size ≤ stop ∧ declaredAt data offset ≤ stop - offset - Word.size ∧
        (declaredAt data offset : Int) ≤ limit := by
  rw [exists_read_iff_not_malformed hstop]
  constructor
  · intro hformed
    have hword : offset + Word.size ≤ stop := Nat.le_of_not_lt fun hshort => hformed (.truncated hshort)
    have hdeclares := declares_declaredAt hstop hword
    refine ⟨hword, Nat.le_of_not_lt fun hover => ?_, Int.not_lt.1 fun hover => ?_⟩
    · exact hformed (.overrun _ hword hdeclares (Nat.sub_sub .. ▸ hover))
    · exact hformed (.overLimit _ hword hdeclares hover)
  · rintro ⟨hword, hfit, hlimit⟩ hmalformed
    cases hmalformed with
    | truncated hshort => omega
    | overrun declared _ hdeclares hover =>
      rw [hdeclares.declaredAt_eq] at hfit
      omega
    | overLimit declared _ hdeclares hover =>
      rw [hdeclares.declaredAt_eq] at hlimit
      omega

/-- **What was read is what the word declares**, and ends inside the window; with its word it is the slice of the data up to
the offset behind it. -/
theorem read_declared (hstop : stop ≤ data.length) (h : read data offset stop limit = .ok (content, next)) :
    next = ((offset + encodedSize content : Nat) : Int) ∧ next ≤ stop ∧ content.length = declaredAt data offset ∧
      content.length ≤ Word.largest ∧ data.slice offset next = wire content := by
  obtain ⟨rfl, hend, -, hle, rest, hwire⟩ := (read_eq_ok_iff hstop).1 h
  refine ⟨rfl, Int.ofNat_le.2 hend, (declares_of_wire hle hwire).declaredAt_eq.symm, hle, ?_⟩
  rw [Bytes.slice_natCast _ _ _ (Nat.le_trans hend hstop), Nat.add_sub_cancel_left, hwire, ← length_wire, List.take_left]

/-! ## Buffers -/

/-- **A buffer is written in place and read back.**  At any offset inside the storage, a buffer whose length fits a word is
written as its length, the least significant byte first, and its contents; they take the place of as many bytes, and
everything before and behind stays.  So the storage keeps its length if there is room, and else grows by just what is
missing.  Whatever end behind the field a reader is given, and whatever limit the length respects, it finds the contents at
the same offset and stops where the writer did; a new buffer can always be made of them. -/
theorem write_reads_back (s : Store) (b : BufferId) (out : Bytes) (offset : Nat) (ho : offset ≤ out.length)
    (hb : s.length b ≤ Word.largest) :
    let next := offset + encodedSize (s.contents b)
    ∃ word after : Bytes, word.length = Word.size ∧ Word.value word = s.length b ∧
      after = out.take offset ++ word ++ s.contents b ++ out.drop next ∧
      write out offset (s.contents b) = .ok (after, (next : Int)) ∧
      after.length = out.length + (next - out.length) ∧
      ∀ (stop : Nat) (limit : Int), next ≤ stop → stop ≤ after.length → (s.length b : Int) ≤ limit →
        read after offset stop limit = .ok (s.contents b, (next : Int)) ∧
        ∀ t : Store, ∃ copy t', t.copyOf (s.contents b) = .ok (copy, t') ∧ t'.contents copy = s.contents b := by
  intro next
  have hwritten : out.take offset ++ Word.bytes (s.length b) ++ s.contents b ++ out.drop next =
      out.take offset ++ wire (s.contents b) ++ out.drop next := by
    rw [List.append_assoc (out.take offset)]
    rfl
  have hbefore : (out.take offset).length = offset := List.length_take_of_le ho
  refine ⟨Word.bytes (s.length b), _, Word.length_bytes _, Word.value_bytes hb, rfl, ?_, ?_,
    fun stop limit hnext hstop hlimit => ⟨?_, fun t => ?_⟩⟩
  · rw [hwritten]
    exact write_eq ho hb
  · rw [hwritten, List.length_append, List.length_append, List.length_drop, length_wire, hbefore]
    omega
  · rw [hwritten] at hstop ⊢
    refine (read_eq_ok_iff hstop).2 ⟨rfl, hnext, hlimit, hb, out.drop next, ?_⟩
    rw [List.append_assoc, List.drop_left' hbefore]
  · obtain ⟨copy, t', hcopy⟩ := t.exists_copyOf hb
    exact ⟨copy, t', hcopy, Store.contents_copyOf hcopy⟩

/-- The length word begins on the last byte of the storage, which grows by the rest of the field. -/
theorem write_reads_back_straddling : ∃ word after : Bytes, word.length = Word.size ∧ Word.value word = 2 ∧
    after = [1, 2] ++ word ++ [9, 8] ∧ write [1, 2, 3] 2 [9, 8] = .ok (after, 8) ∧ after.length = 8 ∧
    read after 2 8 2 = .ok ([9, 8], 8) := by
  let s : Store := { blocks := [[9, 8]], buffers := [{ block := some 0, finaliser := some 0 }] }
  obtain ⟨word, after, hword, hvalue, hafter, hwrite, hlength, hread⟩ :=
    write_reads_back s 0 [1, 2, 3] 2 (by decide) (by decide)
  exact ⟨word, after, hword, hvalue, hafter.trans (List.append_nil _), hwrite, hlength,
    (hread 8 2 (by decide) (Nat.le_of_eq hlength.symm) (by decide)).1⟩

/-- **Reading stays in its window and takes exactly the fields that are well formed.**  Whatever the data and the offset, a
reader that is given an end inside the data and a limit finds a field or a malformed one, and fails in no other way.  It
finds a field exactly if the window has room for a length word and, behind it, for what this declares, and the limit allows
that.  The field then ends inside the window, behind its word and as many bytes as the word declares.  A buffer of just
these bytes can always be made; written anywhere, it is what the data have between the two offsets.  And data that differ
only outside the window, before the offset or from the end on, are read alike. -/
theorem read_confined (data : Bytes) (offset stop : Nat) (limit : Int) (hstop : stop ≤ data.length) :
    (∀ e, read data offset stop limit = .error e → e.isMalformed = true) ∧
    ((∃ content next, read data offset stop limit = .ok (content, next)) ↔
      offset + Word.size ≤ stop ∧ declaredAt data offset ≤ stop - offset - Word.size ∧
        (declaredAt data offset : Int) ≤ limit) ∧
    (∀ content next, read data offset stop limit = .ok (content, next) →
      next = ((offset + Word.size + declaredAt data offset : Nat) : Int) ∧ (offset : Int) < next ∧ next ≤ stop ∧
      ∀ s : Store, ∃ b s', s.copyOf content = .ok (b, s') ∧ s'.contents b = content ∧
        s'.length b = declaredAt data offset ∧
        ∀ (out : Bytes) (position : Nat), position ≤ out.length → write out position (s'.contents b) =
          .ok (out.take position ++ data.slice offset next ++ out.drop (position + encodedSize content),
            ((position + encodedSize content : Nat) : Int))) ∧
    ∀ other : Bytes, stop ≤ other.length →
      (∀ position, offset ≤ position → position < stop → other[position]? = data[position]?) →
      read other offset stop limit = read data offset stop limit := by
  refine ⟨fun e he => isMalformed_of_read hstop he, exists_read_iff hstop, fun content next hread => ?_,
    fun other hother hagree => read_congr limit hother hstop (window_ext hagree)⟩
  obtain ⟨hnext, hend, hlength, hle, hslice⟩ := read_declared hstop hread
  have hsize : offset + encodedSize content = offset + Word.size + declaredAt data offset := by
    rw [encodedSize, hlength, Nat.add_assoc]
  have hpos : (offset : Int) < next := by
    rw [hnext, encodedSize, Word.size]
    omega
  refine ⟨hnext.trans (congrArg Nat.cast hsize), hpos, hend, fun s => ?_⟩
  obtain ⟨b, s', hcopy⟩ := s.exists_copyOf hle
  have hcontents : s'.contents b = content := Store.contents_copyOf hcopy
  refine ⟨b, s', hcopy, hcontents, by rw [Store.length, hcontents, hlength], fun out position hposition => ?_⟩
  rw [hcontents, hslice]
  exact write_eq hposition hle

/-- The field fills its window; one byte less, and it is malformed.  What stands around the window is not read. -/
theorem read_confined_filling :
    (∃ content b s', read [255, 2, 0, 0, 0, 9, 8, 77] 1 7 2 = .ok (content, 7) ∧
      Store.copyOf {} content = .ok (b, s') ∧ s'.length b = 2) ∧
    (¬ ∃ content next, read [255, 2, 0, 0, 0, 9, 8, 77] 1 6 2 = .ok (content, next)) ∧
    read [0, 2, 0, 0, 0, 9, 8] 1 7 2 = read [255, 2, 0, 0, 0, 9, 8, 77] 1 7 2 := by
  obtain ⟨-, hread, hfield, hwindow⟩ := read_confined [255, 2, 0, 0, 0, 9, 8, 77] 1 7 2 (by decide)
  obtain ⟨-, hshort, -⟩ := read_confined [255, 2, 0, 0, 0, 9, 8, 77] 1 6 2 (by decide)
  obtain ⟨content, next, hcontent⟩ := hread.2 (by decide)
  obtain ⟨rfl, -, -, hbuffer⟩ := hfield content next hcontent
  obtain ⟨b, s', hcopy, -, hlength, -⟩ := hbuffer {}
  have hagree : ∀ position < 7, 1 ≤ position →
      [0, 2, 0, 0, 0, 9, 8][position]? = ([255, 2, 0, 0, 0, 9, 8, 77] : Bytes)[position]? := by decide
  exact ⟨⟨content, b, s', hcontent, hcopy, hlength⟩, mt hshort.1 (by decide),
    hwindow _ (by decide) fun position hfrom hto => hagree position hto hfrom⟩

end Field
end PasswordGate
