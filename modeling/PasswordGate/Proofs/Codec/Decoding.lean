import PasswordGate.Proofs.Codec.Envelope
/-!
# Decoding, outcome by outcome — what a window of data comes to

A window is `Refused` before its payload, or its payload is read up to the first field that is malformed, or to its end
(`Field.readAll_eq_ok_iff`).  `Decoding` says what each of the three outcomes makes of a message; one of them holds of
every window (`exists_decoding`), and the decoder follows it (`deserialize_iff_decoding`).
-/
namespace PasswordGate

namespace Envelope

/-- **A window is refused before its payload**: there is no status, it is not in order, or no user id follows it. -/
inductive Refused (data : Bytes) (stop : Nat) : Prop
  | noStatus (hstop : stop < Word.size)
  | notInOrder (hstop : Word.size ≤ stop) (hstatus : data.take Word.size ≠ Word.bytes Status.ok.number)
  | noUserId (hstop : Word.size ≤ stop) (hshort : stop - Word.size < Word.size)

/-- A window's header: the status word in order, and a user id. -/
structure Header (data : Bytes) (stop userId : Nat) : Prop where
  size_le : headerSize ≤ stop
  userId_le : userId ≤ Word.largest
  take_eq : data.take headerSize = Word.bytes Status.ok.number ++ Word.bytes userId

/-- A window is not both refused and read. -/
theorem Refused.not_header {data : Bytes} {stop userId : Nat} (h : Refused data stop) : ¬ Header data stop userId := by
  rintro ⟨hsize, -, htake⟩
  have hsum : headerSize = Word.size + Word.size := rfl
  cases h with
  | noStatus hstop => omega
  | noUserId hstop hshort => omega
  | notInOrder hstop hstatus =>
    refine hstatus ?_
    have htake' := congrArg (List.take Word.size) htake
    rwa [List.take_take, hsum, Nat.min_eq_left (Nat.le_add_right _ _), ← Word.length_bytes Status.ok.number,
      List.take_left] at htake'

/-- **A window is refused or read**, and decoded accordingly. -/
theorem decode_refused_or_header (count : Nat) {data : Bytes} {stop : Nat} (limit : Int) (hstop : stop ≤ data.length) :
    (Refused data stop ∧ decode count data stop limit = .ok .refused) ∨
    ∃ userId, Header data stop userId ∧ decode count data stop limit =
      (Field.readAll data stop limit count headerSize).map fun (contents, complete) =>
        .payload userId contents complete := by
  have hsum : headerSize = Word.size + Word.size := rfl
  rcases decode_cases count limit hstop with ⟨hdecode, hwhy⟩ | ⟨userId, rest, hsize, huser, hdata, hdecode⟩
  · refine .inl ⟨?_, hdecode⟩
    by_cases hword : stop < Word.size
    · exact .noStatus hword
    rcases hwhy with hshort | hstatus
    · exact .noUserId (Nat.le_of_not_lt hword) (by omega)
    · exact .notInOrder (Nat.le_of_not_lt hword) hstatus
  · refine .inr ⟨userId, ⟨hsize, huser, ?_⟩, hdecode⟩
    have hlen : (Word.bytes Status.ok.number ++ Word.bytes userId).length = headerSize := rfl
    rw [hdata, ← hlen, List.take_left]

theorem decode_of_refused (count : Nat) {data : Bytes} {stop : Nat} (limit : Int) (hstop : stop ≤ data.length)
    (h : Refused data stop) : decode count data stop limit = .ok .refused := by
  rcases decode_refused_or_header count limit hstop with ⟨-, hdecode⟩ | ⟨userId, hheader, -⟩
  · exact hdecode
  · exact absurd hheader h.not_header

theorem decode_of_header (count : Nat) {data : Bytes} {stop userId : Nat} (limit : Int) (hstop : stop ≤ data.length)
    (h : Header data stop userId) : decode count data stop limit =
      (Field.readAll data stop limit count headerSize).map fun (contents, complete) =>
        .payload userId contents complete := by
  rcases decode_refused_or_header count limit hstop with ⟨hrefused, -⟩ | ⟨other, hother, hdecode⟩
  · exact absurd h hrefused.not_header
  · have heq := List.append_cancel_left (hother.take_eq.symm.trans h.take_eq)
    rw [hdecode, Word.bytes_injective hother.userId_le h.userId_le heq]

/-- **What a decoding makes of a message.**  Refused before the payload, only its status has changed.  Cut off at the
first malformed field, it has the window's user id and the fields in front of that one, and the others are empty.  Else
all its fields are the window's. -/
inductive Decoding (before : Envelope) (data : Bytes) (stop : Nat) (limit : Int) : Envelope → Prop
  | refused (h : Refused data stop) : Decoding before data stop limit { before with status := .invalid }
  | cut (userId : Nat) (contents : List Bytes) (hheader : Header data stop userId)
      (hcount : contents.length < before.fields.length)
      (hstand : Field.Stand data headerSize stop limit contents)
      (hmalformed : Field.Malformed data (headerSize + Field.totalSize contents) stop limit) :
      Decoding before data stop limit { before with
        status := .invalid, userId := userId
        fields := contents ++ List.replicate (before.fields.length - contents.length) [] }
  | whole (userId : Nat) (contents : List Bytes) (hheader : Header data stop userId)
      (hcount : contents.length = before.fields.length) (hstand : Field.Stand data headerSize stop limit contents) :
      Decoding before data stop limit { before with status := .ok, userId := userId, fields := contents }

theorem deserialize_of_decode {before : Envelope} {data : Bytes} {stop : Nat} {limit : Int} {decoded : Decoded}
    (hstop : stop ≤ data.length) (h : decode before.fields.length data stop limit = .ok decoded) :
    before.deserialize data (some stop) limit = .ok (before.accept decoded) := by
  simp only [deserialize, window_natCast hstop, h, bind, Except.bind, pure, Except.pure]

/-- A message whose every field was read has exactly the fields read. -/
theorem accept_complete {before : Envelope} {contents : List Bytes} (userId : Nat)
    (hcount : contents.length = before.fields.length) : before.accept (.payload userId contents true) =
      { before with status := .ok, userId := userId, fields := contents } := by
  rw [accept, hcount, Nat.sub_self, List.replicate_zero, List.append_nil, if_pos rfl]

/-- **Every window comes to something**: a decoding inside the data never fails. -/
theorem exists_decoding (before : Envelope) {data : Bytes} {stop : Nat} (limit : Int) (hstop : stop ≤ data.length) :
    ∃ after, before.deserialize data (some stop) limit = .ok after ∧ Decoding before data stop limit after := by
  rcases decode_refused_or_header before.fields.length limit hstop with ⟨hrefused, hdecode⟩ | ⟨userId, hheader, hdecode⟩
  · exact ⟨_, deserialize_of_decode hstop hdecode, .refused hrefused⟩
  obtain ⟨contents, complete, hread, -⟩ := Field.exists_readAll limit hstop before.fields.length headerSize
  rw [hread] at hdecode
  refine ⟨_, deserialize_of_decode hstop hdecode, ?_⟩
  cases complete with
  | false =>
    obtain ⟨hcount, hstand, hmalformed⟩ := (Field.readAll_incomplete_iff hstop hheader.size_le).1 hread
    exact .cut userId contents hheader hcount hstand hmalformed
  | true =>
    obtain ⟨hcount, hstand⟩ := (Field.readAll_complete_iff hstop hheader.size_le).1 hread
    rw [accept_complete userId hcount]
    exact .whole userId contents hheader hcount hstand

/-- **The decoder makes of a message exactly what the window comes to.** -/
theorem deserialize_iff_decoding {before after : Envelope} {data : Bytes} {stop : Nat} {limit : Int}
    (hstop : stop ≤ data.length) :
    before.deserialize data (some stop) limit = .ok after ↔ Decoding before data stop limit after := by
  constructor
  · intro h
    obtain ⟨after', hafter', hdecoding⟩ := exists_decoding before limit hstop
    rw [h] at hafter'
    cases hafter'
    exact hdecoding
  · intro h
    cases h with
    | refused h => exact deserialize_of_decode hstop (decode_of_refused _ limit hstop h)
    | cut userId contents hheader hcount hstand hmalformed =>
      have hread := (Field.readAll_incomplete_iff hstop hheader.size_le).2 ⟨hcount, hstand, hmalformed⟩
      exact deserialize_of_decode hstop (by rw [decode_of_header _ limit hstop hheader, hread]; rfl)
    | whole userId contents hheader hcount hstand =>
      have hread := (Field.readAll_complete_iff hstop hheader.size_le).2 ⟨hcount, hstand⟩
      rw [← accept_complete userId hcount]
      exact deserialize_of_decode hstop (by rw [decode_of_header _ limit hstop hheader, hread]; rfl)

end Envelope
end PasswordGate
