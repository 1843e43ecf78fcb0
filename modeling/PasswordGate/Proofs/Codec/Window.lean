import PasswordGate.Proofs.Codec.Decoding
/-!
# Window — the decoder sees nothing past the end of its window

The decoder takes its slices from all of the data and names the end of the window only in its checks.  Each slice lies
before an end that was checked, so reading a field depends on what the window holds from the field's offset on
(`Field.read_congr`), and a decoding on what the window holds (`Envelope.decode_congr`): data that are cut off at the end
of the window decode alike.
-/
namespace PasswordGate

namespace Field

variable {data data' : Bytes} {offset stop : Nat}

/-- Data that agree inside a window start there with the same length word, and agree behind it. -/
theorem exists_word_of_window (hstop : stop ≤ data.length) (hstop' : stop ≤ data'.length)
    (h : (data.take stop).drop offset = (data'.take stop).drop offset) (hword : offset + Word.size ≤ stop) :
    ∃ declared rest rest', declared ≤ Word.largest ∧ data.drop offset = Word.bytes declared ++ rest ∧
      data'.drop offset = Word.bytes declared ++ rest' ∧
      rest.take (stop - (offset + Word.size)) = rest'.take (stop - (offset + Word.size)) := by
  obtain ⟨declared, hle, hdata⟩ := Word.exists_eq_bytes_append (data.drop offset) (by rw [List.length_drop]; omega)
  obtain ⟨declared', hle', hdata'⟩ := Word.exists_eq_bytes_append (data'.drop offset) (by rw [List.length_drop]; omega)
  have htake : ∀ (number : Nat) (rest : Bytes), (Word.bytes number ++ rest).take (stop - offset) =
      Word.bytes number ++ rest.take (stop - (offset + Word.size)) := fun number rest => by
    rw [List.take_append, List.take_of_length_le (by rw [Word.length_bytes]; omega), Word.length_bytes, Nat.sub_sub]
  rw [List.drop_take, List.drop_take, hdata, hdata', htake, htake] at h
  obtain ⟨hsame, hrest⟩ := List.append_inj h rfl
  obtain rfl := Word.bytes_injective hle hle' hsame
  exact ⟨declared, _, _, hle, hdata, hdata', hrest⟩

/-- Data that agree at every position of a window from an offset on hold the same there. -/
theorem window_ext (h : ∀ position, offset ≤ position → position < stop → data[position]? = data'[position]?) :
    (data.take stop).drop offset = (data'.take stop).drop offset := by
  refine List.ext_getElem? fun position => ?_
  rw [List.getElem?_drop, List.getElem?_drop, List.getElem?_take, List.getElem?_take]
  by_cases hin : offset + position < stop
  · rw [if_pos hin, if_pos hin, h _ (Nat.le_add_right _ _) hin]
  · rw [if_neg hin, if_neg hin]

/-- **Reading a field depends on the window from the field's offset on**, and on nothing before or behind it. -/
theorem read_congr (limit : Int) (hstop : stop ≤ data.length) (hstop' : stop ≤ data'.length)
    (h : (data.take stop).drop offset = (data'.take stop).drop offset) :
    read data offset stop limit = read data' offset stop limit := by
  by_cases hshort : stop < offset + Word.size
  · rw [read_of_short data limit hshort, read_of_short data' limit hshort]
  have hword : offset + Word.size ≤ stop := Nat.le_of_not_lt hshort
  obtain ⟨declared, rest, rest', hle, hdata, hdata', hrest⟩ := exists_word_of_window hstop hstop' h hword
  rw [read_of_word limit hstop hword hle hdata, read_of_word limit hstop' hword hle hdata']
  by_cases hover : stop < offset + Word.size + declared
  · rw [if_pos hover, if_pos hover]
  · have hcontent : rest.take declared = rest'.take declared := by
      have htake := congrArg (List.take declared) hrest
      rwa [List.take_take, List.take_take, Nat.min_eq_left (by omega)] at htake
    rw [if_neg hover, if_neg hover, hcontent]

theorem readAll_congr (limit : Int) (hstop : stop ≤ data.length) (hstop' : stop ≤ data'.length) :
    ∀ (count : Nat) {offset : Nat}, (data.take stop).drop offset = (data'.take stop).drop offset →
      readAll data stop limit count offset = readAll data' stop limit count offset
  | 0, _, _ => rfl
  | count + 1, offset, h => by
    unfold readAll
    rw [← read_congr limit hstop hstop' h]
    cases hread : read data offset stop limit with
    | error e => rfl
    | ok field =>
      obtain ⟨content, next⟩ := field
      obtain ⟨rfl, -⟩ := (read_eq_ok_iff hstop).1 hread
      have hnext : (data.take stop).drop (offset + encodedSize content) =
          (data'.take stop).drop (offset + encodedSize content) := by
        rw [← List.drop_drop, h, List.drop_drop]
      simp only [readAll_congr limit hstop hstop' count hnext]

end Field

namespace Envelope

variable {data data' : Bytes} {stop : Nat}

theorem take_of_window {count : Nat} (h : data.take stop = data'.take stop) (hle : count ≤ stop) :
    data.take count = data'.take count := by
  have htake := congrArg (List.take count) h
  rwa [List.take_take, List.take_take, Nat.min_eq_left hle] at htake

theorem Refused.congr (h : data.take stop = data'.take stop) (hrefused : Refused data stop) : Refused data' stop := by
  cases hrefused with
  | noStatus hstop => exact .noStatus hstop
  | noUserId hstop hshort => exact .noUserId hstop hshort
  | notInOrder hstop hstatus => exact .notInOrder hstop (take_of_window h hstop ▸ hstatus)

theorem Header.congr {userId : Nat} (h : data.take stop = data'.take stop) (hheader : Header data stop userId) :
    Header data' stop userId :=
  ⟨hheader.size_le, hheader.userId_le, take_of_window h hheader.size_le ▸ hheader.take_eq⟩

/-- **A decoding depends on what the window holds**, and on nothing behind it. -/
theorem decode_congr (count : Nat) (limit : Int) (hstop : stop ≤ data.length) (hstop' : stop ≤ data'.length)
    (h : data.take stop = data'.take stop) : decode count data stop limit = decode count data' stop limit := by
  rcases decode_refused_or_header count limit hstop with ⟨hrefused, hdecode⟩ | ⟨userId, hheader, hdecode⟩
  · rw [hdecode, decode_of_refused count limit hstop' (hrefused.congr h)]
  · rw [hdecode, decode_of_header count limit hstop' (hheader.congr h),
      Field.readAll_congr limit hstop hstop' count (congrArg (List.drop headerSize) h)]

/-- **Cutting the data off at the end of the window changes nothing.** -/
theorem decode_take (count : Nat) (limit : Int) (hstop : stop ≤ data.length) :
    decode count (data.take stop) (data.take stop).length limit = decode count data stop limit := by
  have hlength : (data.take stop).length = stop := by rw [List.length_take, Nat.min_eq_left hstop]
  rw [hlength]
  exact decode_congr count limit (Nat.le_of_eq hlength.symm) hstop (by rw [List.take_take, Nat.min_self])

theorem deserialize_take (e : Envelope) (limit : Int) (hstop : stop ≤ data.length) :
    e.deserialize data (some stop) limit = e.deserialize (data.take stop) none limit := by
  have htake : e.deserialize (data.take stop) none limit =
      (decode e.fields.length (data.take stop) (data.take stop).length limit).map e.accept := rfl
  have hstops : e.deserialize data (some stop) limit = (decode e.fields.length data stop limit).map e.accept := by
    rw [deserialize, window_natCast hstop]
    rfl
  rw [hstops, htake, decode_take _ limit hstop]

/-- **The limit turns fields down and does nothing else**: a whole message is decoded alike under every limit that all of
its fields respect. -/
theorem decode_of_limit {count : Nat} {limit limit' : Int} {userId : Nat} {contents : List Bytes}
    (hstop : stop ≤ data.length) (h : decode count data stop limit = .ok (.payload userId contents true))
    (hlimit : ∀ content ∈ contents, (content.length : Int) ≤ limit') :
    decode count data stop limit' = .ok (.payload userId contents true) := by
  obtain ⟨hcount, huser, hend, hallowed, hdata⟩ := (decode_complete_iff hstop).1 h
  exact (decode_complete_iff hstop).2
    ⟨hcount, huser, hend, fun content hc => ⟨hlimit content hc, (hallowed content hc).2⟩, hdata⟩

theorem exists_payload_of_accept {e : Envelope} {decoded : Decoded} (hok : (e.accept decoded).status = .ok) :
    ∃ userId contents, decoded = .payload userId contents true := by
  cases decoded with
  | refused => cases hok
  | payload userId contents complete =>
    cases complete with
    | false => cases hok
    | true => exact ⟨userId, contents, rfl⟩

end Envelope
end PasswordGate
