import PasswordGate.Proofs.Codec.Field
/-!
# Payload — fields one behind the other, up to the first malformed one

A field is refused exactly where it is `Malformed` (`read_refused_iff`): its length word is cut short, or it declares more
than the window has left or the limit allows.  Fields that do not are said to `Stand` one behind the other.  Reading a
payload finds the fields that stand in front of the first malformed one, or as many as it was asked for
(`readAll_eq_ok_iff`); so the walk that reads and the one that writes meet in one list of bytes.
-/
namespace PasswordGate
namespace Field

/-- The word at an offset of the data spells a length. -/
structure Declares (data : Bytes) (offset declared : Nat) : Prop where
  length_le : declared ≤ Word.largest
  take_eq : (data.drop offset).take Word.size = Word.bytes declared

/-- **The field at an offset of a window is malformed**: its length word is cut short, or it declares more bytes than the
window has left, or more than the limit. -/
inductive Malformed (data : Bytes) (offset stop : Nat) (limit : Int) : Prop
  | truncated (hstop : stop < offset + Word.size)
  | overrun (declared : Nat) (hword : offset + Word.size ≤ stop) (hdeclares : Declares data offset declared)
      (hover : stop - (offset + Word.size) < declared)
  | overLimit (declared : Nat) (hword : offset + Word.size ≤ stop) (hdeclares : Declares data offset declared)
      (hover : limit < declared)

/-- **Fields stand one behind the other in a window**, each within the limit. -/
structure Stand (data : Bytes) (offset stop : Nat) (limit : Int) (contents : List Bytes) : Prop where
  end_le : offset + totalSize contents ≤ stop
  allowed : ∀ content ∈ contents, (content.length : Int) ≤ limit ∧ content.length ≤ Word.largest
  drop_eq : ∃ rest, data.drop offset = wires contents ++ rest

theorem exists_declares {data : Bytes} {offset stop : Nat} (hstop : stop ≤ data.length)
    (h : offset + Word.size ≤ stop) :
    ∃ declared, Declares data offset declared ∧ data.drop offset = Word.bytes declared ++ data.drop (offset + Word.size) := by
  obtain ⟨declared, hle, hdrop⟩ := Word.exists_eq_bytes_append (data.drop offset) (by rw [List.length_drop]; omega)
  refine ⟨declared, ⟨hle, ?_⟩, by rw [← List.drop_drop]; exact hdrop⟩
  rw [hdrop, ← Word.length_bytes declared, List.take_left]

theorem Declares.unique {data : Bytes} {offset m n : Nat} (hm : Declares data offset m) (hn : Declares data offset n) :
    m = n :=
  Word.bytes_injective hm.length_le hn.length_le (hm.take_eq.symm.trans hn.take_eq)

/-- Where the form of a field stands, the length of its content is declared. -/
theorem declares_of_wire {data content rest : Bytes} {offset : Nat} (hle : content.length ≤ Word.largest)
    (h : data.drop offset = wire content ++ rest) : Declares data offset content.length := by
  refine ⟨hle, ?_⟩
  rw [h, wire, List.append_assoc, ← Word.length_bytes content.length, List.take_left]

/-- **A field is refused exactly where it is malformed.** -/
theorem read_refused_iff {data : Bytes} {offset stop : Nat} {limit : Int} (hstop : stop ≤ data.length) :
    (∃ e, read data offset stop limit = .error e) ↔ Malformed data offset stop limit := by
  by_cases hs : stop < offset + Word.size
  · exact ⟨fun _ => .truncated hs, fun _ => ⟨_, read_of_short data limit hs⟩⟩
  have hword : offset + Word.size ≤ stop := Nat.le_of_not_lt hs
  obtain ⟨declared, hdeclares, hdrop⟩ := exists_declares hstop hword
  rw [read_of_word limit hstop hword hdeclares.length_le hdrop]
  constructor
  · rintro ⟨e, he⟩
    split at he
    · rename_i hover
      exact .overrun declared hword hdeclares (by omega)
    split at he
    · rename_i hover
      exact .overLimit declared hword hdeclares hover
    · cases he
  · intro hmalformed
    cases hmalformed with
    | truncated h => exact absurd h hs
    | overrun other _ hother hover =>
      rw [hother.unique hdeclares] at hover
      exact ⟨_, if_pos (by omega)⟩
    | overLimit other _ hother hover =>
      rw [hother.unique hdeclares] at hover
      by_cases hfit : stop < offset + Word.size + declared
      · exact ⟨_, if_pos hfit⟩
      · exact ⟨_, by rw [if_neg hfit, if_pos hover]⟩

theorem exists_read_iff_not_malformed {data : Bytes} {offset stop : Nat} {limit : Int} (hstop : stop ≤ data.length) :
    (∃ content next, read data offset stop limit = .ok (content, next)) ↔ ¬ Malformed data offset stop limit := by
  rw [← read_refused_iff hstop]
  cases read data offset stop limit with
  | error e => simp
  | ok field => simp [Prod.ext_iff]

theorem stand_nil {data : Bytes} {offset stop : Nat} {limit : Int} (ho : offset ≤ stop) :
    Stand data offset stop limit [] := ⟨ho, nofun, _, rfl⟩

/-- A field in front of fields that stand. -/
theorem stand_cons {data : Bytes} {offset stop : Nat} {limit : Int} {content : Bytes} {rest : List Bytes}
    (hstop : stop ≤ data.length) : Stand data offset stop limit (content :: rest) ↔
      read data offset stop limit = .ok (content, ((offset + encodedSize content : Nat) : Int)) ∧
      Stand data (offset + encodedSize content) stop limit rest := by
  rw [read_eq_ok_iff hstop]
  constructor
  · rintro ⟨hend, hallowed, tail, htail⟩
    rw [totalSize] at hend
    rw [wires, List.append_assoc] at htail
    obtain ⟨hlimit, hle⟩ := hallowed content List.mem_cons_self
    exact ⟨⟨rfl, by omega, hlimit, hle, _, htail⟩, by omega, fun c hc => hallowed c (List.mem_cons_of_mem _ hc), tail,
      drop_behind htail⟩
  · rintro ⟨⟨-, -, hlimit, hle, after, hwire⟩, hend, hallowed, tail, htail⟩
    refine ⟨by rw [totalSize]; omega, fun c hc => ?_, tail, ?_⟩
    · rcases List.mem_cons.1 hc with rfl | hc
      · exact ⟨hlimit, hle⟩
      · exact hallowed c hc
    · rw [drop_behind hwire] at htail
      rw [hwire, htail, wires, List.append_assoc]

/-- **Reading fields inside the data never fails**: it ends at the first malformed one, or after the last. -/
theorem exists_readAll {data : Bytes} {stop : Nat} (limit : Int) (hstop : stop ≤ data.length) :
    ∀ (count offset : Nat), ∃ contents complete, readAll data stop limit count offset = .ok (contents, complete) ∧
      contents.length ≤ count ∧ ∀ content ∈ contents, content.length ≤ Word.largest
  | 0, _ => ⟨[], true, rfl, Nat.le_refl 0, by simp⟩
  | count + 1, offset => by
    unfold readAll
    cases hr : read data offset stop limit with
    | error e => exact ⟨[], false, if_pos (isMalformed_of_read hstop hr), Nat.zero_le _, by simp⟩
    | ok field =>
      obtain ⟨content, next⟩ := field
      obtain ⟨rfl, -, -, hle, -⟩ := (read_eq_ok_iff hstop).1 hr
      obtain ⟨rest, complete, hrest, hcount, hlengths⟩ := exists_readAll limit hstop count (offset + encodedSize content)
      refine ⟨content :: rest, complete, ?_, by simpa using hcount, ?_⟩
      · simp only [hrest, bind, Except.bind, pure, Except.pure]
      · intro c hc
        rcases List.mem_cons.1 hc with rfl | hc
        · exact hle
        · exact hlengths c hc

/-- **Reading fields finds those that stand**: as many as it was asked for, or fewer and then a malformed one. -/
theorem readAll_eq_ok_iff {data : Bytes} {stop : Nat} {limit : Int} (hstop : stop ≤ data.length) :
    ∀ {count offset : Nat} {contents : List Bytes} {complete : Bool}, offset ≤ stop →
      (readAll data stop limit count offset = .ok (contents, complete) ↔
        Stand data offset stop limit contents ∧ (complete = true → contents.length = count) ∧
        (complete = false → contents.length < count ∧ Malformed data (offset + totalSize contents) stop limit))
  | 0, offset, contents, complete, ho => by
    simp only [readAll, Except.ok.injEq, Prod.mk.injEq]
    constructor
    · rintro ⟨rfl, rfl⟩
      exact ⟨stand_nil ho, fun _ => rfl, nofun⟩
    · rintro ⟨-, hwhole, hcut⟩
      cases complete with
      | false => exact absurd (hcut rfl).1 (Nat.not_lt_zero _)
      | true => exact ⟨(List.length_eq_zero_iff.1 (hwhole rfl)).symm, rfl⟩
  | count + 1, offset, contents, complete, ho => by
    unfold readAll
    cases hr : read data offset stop limit with
    | error e =>
      have hmalformed : Malformed data offset stop limit := (read_refused_iff hstop).1 ⟨e, hr⟩
      simp only [isMalformed_of_read hstop hr, if_true, Except.ok.injEq, Prod.mk.injEq]
      constructor
      · rintro ⟨rfl, rfl⟩
        exact ⟨stand_nil ho, nofun, fun _ => ⟨Nat.succ_pos count, hmalformed⟩⟩
      · rintro ⟨hstand, hwhole, -⟩
        cases contents with
        | nil =>
          cases complete with
          | false => exact ⟨rfl, rfl⟩
          | true => cases hwhole rfl
        | cons content others =>
          have hread := ((stand_cons hstop).1 hstand).1
          rw [hr] at hread
          cases hread
    | ok field =>
      -- What the walk finds behind this field stands behind it, and `stand_cons` puts the two together.
      obtain ⟨content, next⟩ := field
      obtain ⟨rfl, hfit, -⟩ := (read_eq_ok_iff hstop).1 hr
      obtain ⟨others, whole, hothers, -⟩ := exists_readAll limit hstop count (offset + encodedSize content)
      simp only [hothers, bind, Except.bind, pure, Except.pure, Except.ok.injEq, Prod.mk.injEq]
      constructor
      · rintro ⟨rfl, rfl⟩
        obtain ⟨hstand, hwhole, hcut⟩ := (readAll_eq_ok_iff hstop hfit).1 hothers
        refine ⟨(stand_cons hstop).2 ⟨hr, hstand⟩, fun h => congrArg Nat.succ (hwhole h), fun h => ?_⟩
        obtain ⟨hcount, hmalformed⟩ := hcut h
        exact ⟨Nat.succ_lt_succ hcount, by rwa [totalSize, ← Nat.add_assoc]⟩
      · rintro ⟨hstand, hwhole, hcut⟩
        cases contents with
        | nil =>
          cases complete with
          | false =>
            obtain ⟨e, he⟩ := (read_refused_iff hstop).2 (hcut rfl).2
            rw [totalSize, Nat.add_zero, hr] at he
            cases he
          | true => cases hwhole rfl
        | cons first rest =>
          obtain ⟨hread, hrest⟩ := (stand_cons hstop).1 hstand
          obtain ⟨rfl, -⟩ := Prod.mk.injEq .. ▸ Except.ok.inj (hr.symm.trans hread)
          rw [totalSize, ← Nat.add_assoc] at hcut
          have hread' := (readAll_eq_ok_iff hstop hfit).2
            ⟨hrest, fun h => Nat.succ.inj (hwhole h), fun h => ⟨Nat.lt_of_succ_lt_succ (hcut h).1, (hcut h).2⟩⟩
          obtain ⟨rfl, rfl⟩ := Prod.mk.injEq .. ▸ Except.ok.inj (hothers.symm.trans hread')
          exact ⟨rfl, rfl⟩

section

variable {data : Bytes} {stop count offset : Nat} {limit : Int} {contents : List Bytes}

/-- **All fields are read exactly where they stand one behind the other.** -/
theorem readAll_complete_iff (hstop : stop ≤ data.length) (ho : offset ≤ stop) :
    readAll data stop limit count offset = .ok (contents, true) ↔
      contents.length = count ∧ Stand data offset stop limit contents := by
  rw [readAll_eq_ok_iff hstop ho]
  exact ⟨fun h => ⟨h.2.1 rfl, h.1⟩, fun h => ⟨h.2, fun _ => h.1, nofun⟩⟩

/-- **Reading ends early exactly at the first malformed field**, behind the fields that stand in front of it. -/
theorem readAll_incomplete_iff (hstop : stop ≤ data.length) (ho : offset ≤ stop) :
    readAll data stop limit count offset = .ok (contents, false) ↔
      contents.length < count ∧ Stand data offset stop limit contents ∧
        Malformed data (offset + totalSize contents) stop limit := by
  rw [readAll_eq_ok_iff hstop ho]
  exact ⟨fun h => ⟨(h.2.2 rfl).1, h.1, (h.2.2 rfl).2⟩, fun h => ⟨h.2.1, nofun, fun _ => ⟨h.1, h.2.2⟩⟩⟩

end

end Field
end PasswordGate
