import PasswordGate.Proofs.Codec.Layout
import PasswordGate.Proofs.Codec.Window
/-!
# Truncation — what is left of a wire form that was cut off

Wherever the wire form of a message is cut off, the cut falls into the header or into the form of one field, at the latest
of the last one.  In front of that field everything stands as it did; the field itself is malformed, since its length word
is cut short or declares more than is left.  So what a blank message of the kind makes of the rest is known exactly
(`Envelope.truncated`) and never in order, and no wire form is a proper prefix of another (`wire_prefix_free`).
-/
namespace PasswordGate

namespace Field

/-- **Room for less than all fields ends in the form of one of them**: behind what it covers whole, and before the end of
that one. -/
theorem exists_cut : ∀ (contents : List Bytes) (room : Nat), room < totalSize contents →
    ∃ before content after, contents = before ++ content :: after ∧ totalSize before ≤ room ∧
      room < totalSize before + encodedSize content
  | [], room, h => absurd h (Nat.not_lt_zero room)
  | first :: rest, room, h => by
    by_cases hfirst : room < encodedSize first
    · exact ⟨[], first, rest, rfl, Nat.zero_le room, by rwa [totalSize, Nat.zero_add]⟩
    · rw [totalSize] at h
      obtain ⟨before, content, after, hrest, hle, hlt⟩ := exists_cut rest (room - encodedSize first) (by omega)
      refine ⟨first :: before, content, after, by rw [hrest, List.cons_append], ?_, ?_⟩
      · rw [totalSize]
        omega
      · rw [totalSize]
        omega

/-- **A field whose form goes on behind the window is malformed.** -/
theorem malformed_of_cut {data content : Bytes} {offset stop : Nat} (limit : Int) (rest : Bytes)
    (hle : content.length ≤ Word.largest) (hdrop : data.drop offset = wire content ++ rest)
    (hcut : stop < offset + encodedSize content) : Malformed data offset stop limit := by
  by_cases hshort : stop < offset + Word.size
  · exact .truncated hshort
  · rw [encodedSize] at hcut
    exact .overrun content.length (Nat.le_of_not_lt hshort) (declares_of_wire hle hdrop) (by omega)

end Field

namespace Envelope

variable {e : Envelope} {kept : Nat}

/-- **What a blank message makes of the first bytes of a wire form**: it is not in order, it has the user id if that is
among them, and it has the fields of the message that end among them, length word and content; its others are empty. -/
def truncated (e : Envelope) (kept : Nat) : Envelope :=
  { e with
    status := .invalid
    userId := if headerSize ≤ kept then e.userId else 0
    fields := e.fields.mapIdx fun position content =>
      if e.contentStart position + content.length ≤ kept then content else [] }

/-- A field ends with its content: behind the header and the forms of all fields up to it. -/
theorem contentStart_add {position : Nat} {content : Bytes} (hfield : e.fields[position]? = some content) :
    e.contentStart position + content.length = headerSize + Field.totalSize (e.fields.take (position + 1)) := by
  rw [List.take_add_one, hfield, Option.toList_some, Field.totalSize_append, contentStart, Field.totalSize, Field.totalSize,
    Field.encodedSize]
  omega

section Cut

variable {before after : List Bytes} {content : Bytes} (hfields : e.fields = before ++ content :: after)
include hfields

/-- **The fields in front of a cut are those that end before it.** -/
theorem ends_iff_of_cut (hle : headerSize + Field.totalSize before ≤ kept)
    (hcut : kept < headerSize + Field.totalSize before + Field.encodedSize content) {position : Nat} {held : Bytes}
    (hfield : e.fields[position]? = some held) :
    e.contentStart position + held.length ≤ kept ↔ position < before.length := by
  rw [contentStart_add hfield, hfields]
  constructor
  · intro hends
    refine Nat.lt_of_not_le fun hposition => ?_
    have htake := Field.totalSize_take_le (before ++ content :: after) (Nat.add_le_add_right hposition 1)
    rw [List.take_append, List.take_of_length_le (Nat.le_succ _), Nat.add_sub_cancel_left, List.take_succ_cons,
      List.take_zero, Field.totalSize_append, Field.totalSize, Field.totalSize] at htake
    omega
  · intro hposition
    have htake := Field.totalSize_take_le (before ++ content :: after) (show position + 1 ≤ before.length from hposition)
    rw [List.take_left] at htake
    omega

/-- What is left of the fields: those in front of the cut, and as many empty ones as there are others. -/
theorem fields_truncated (hle : headerSize + Field.totalSize before ≤ kept)
    (hcut : kept < headerSize + Field.totalSize before + Field.encodedSize content) :
    (e.truncated kept).fields = before ++ List.replicate (e.fields.length - before.length) [] := by
  refine List.ext_getElem? fun position => ?_
  rw [truncated, List.getElem?_mapIdx]
  cases hfield : e.fields[position]? with
  | none =>
    have hlength := List.getElem?_eq_none_iff.1 hfield
    rw [Option.map_none, List.getElem?_eq_none]
    rw [hfields] at hlength ⊢
    simp only [List.length_append, List.length_cons, List.length_replicate] at hlength ⊢
    omega
  | some held =>
    have hlength := (List.getElem?_eq_some_iff.1 hfield).1
    have hends := ends_iff_of_cut hfields hle hcut hfield
    rw [Option.map_some]
    by_cases hposition : position < before.length
    · rw [if_pos (hends.2 hposition), List.getElem?_append_left hposition, ← hfield, hfields,
        List.getElem?_append_left hposition]
    · rw [if_neg (mt hends.1 hposition), List.getElem?_append_right (Nat.le_of_not_lt hposition),
        List.getElem?_replicate_of_lt (by omega)]

end Cut

/-- Where the header is cut, no field is left. -/
theorem fields_truncated_of_short (hshort : kept < headerSize) :
    (e.truncated kept).fields = List.replicate e.fields.length [] := by
  refine List.eq_replicate_iff.2 ⟨List.length_mapIdx, fun content hmem => ?_⟩
  obtain ⟨position, hposition, rfl⟩ := List.mem_mapIdx.1 hmem
  rw [if_neg]
  rw [contentStart]
  omega

/-- The first bytes of a wire form have its header, if there are enough of them. -/
theorem header_wire (hfits : e.Fits) (hkept : headerSize ≤ kept) : Header e.wire kept e.userId := by
  have hlength : (Word.bytes Status.ok.number ++ Word.bytes e.userId).length = headerSize := rfl
  exact ⟨hkept, hfits.userId_le, by rw [wire, ← hlength, List.take_left]⟩

theorem drop_wire (e : Envelope) : e.wire.drop headerSize = Field.wires e.fields := by
  have hlength : (Word.bytes Status.ok.number ++ Word.bytes e.userId).length = headerSize := rfl
  rw [wire, ← hlength, List.drop_left]

/-- **A wire form that is cut in its header is refused.** -/
theorem decoding_of_short (hcount : e.fields.length = e.kind.fields.length) (limit : Int) (hshort : kept < headerSize) :
    Decoding (blank e.kind) e.wire kept limit (e.truncated kept) := by
  have hsum : headerSize = Word.size + Word.size := rfl
  have hrefused : Refused e.wire kept := by
    by_cases hword : kept < Word.size
    · exact .noStatus hword
    · exact .noUserId (Nat.le_of_not_lt hword) (by omega)
  have hfields : (e.truncated kept).fields = (blank e.kind).fields := by
    rw [fields_truncated_of_short hshort, hcount, blank, List.map_const']
  have hsaid : e.truncated kept = { blank e.kind with status := .invalid, fields := (blank e.kind).fields } := by
    rw [← hfields, truncated, if_neg (Nat.not_le.2 hshort)]
    rfl
  rw [hsaid]
  exact .refused hrefused

/-- **A wire form that is cut in the form of a field is read up to that one.** -/
theorem decoding_of_cut (hfits : e.Fits) (hcount : e.fields.length = e.kind.fields.length) {limit : Int}
    (hlimit : ∀ content ∈ e.fields, (content.length : Int) ≤ limit) {before after : List Bytes} {content : Bytes}
    (hfields : e.fields = before ++ content :: after) (hle : headerSize + Field.totalSize before ≤ kept)
    (hcut : kept < headerSize + Field.totalSize before + Field.encodedSize content) :
    Decoding (blank e.kind) e.wire kept limit (e.truncated kept) := by
  have hheader : headerSize ≤ kept := Nat.le_trans (Nat.le_add_right _ _) hle
  have hlength : (blank e.kind).fields.length = e.fields.length := by rw [hcount, blank, List.length_map]
  have hdrop : e.wire.drop headerSize = Field.wires before ++ (Field.wire content ++ Field.wires after) := by
    have hposition : e.fields[before.length]? = some content := by
      rw [hfields, List.getElem?_append_right (Nat.le_refl _), Nat.sub_self]
      rfl
    rw [drop_wire, Field.wires_around hposition, hfields, List.take_left, ← List.drop_drop, List.drop_left]
    rfl
  have hcontent : content.length ≤ Word.largest :=
    hfits.length_le content (hfields ▸ List.mem_append_right before List.mem_cons_self)
  have hstand : Field.Stand e.wire headerSize kept limit before := {
    end_le := hle
    allowed := fun c hc => by
      have hmem : c ∈ e.fields := hfields ▸ List.mem_append_left _ hc
      exact ⟨hlimit c hmem, hfits.length_le c hmem⟩
    drop_eq := ⟨_, hdrop⟩ }
  have hmalformed : Field.Malformed e.wire (headerSize + Field.totalSize before) kept limit := by
    refine Field.malformed_of_cut limit (Field.wires after) hcontent ?_ hcut
    rw [← List.drop_drop, hdrop, ← Field.length_wires, List.drop_left]
  have hfewer : before.length < (blank e.kind).fields.length := by
    rw [hlength, hfields, List.length_append, List.length_cons]
    omega
  have hsaid : e.truncated kept = { blank e.kind with
      status := .invalid, userId := e.userId
      fields := before ++ List.replicate ((blank e.kind).fields.length - before.length) [] } := by
    rw [hlength, ← fields_truncated hfields hle hcut, truncated, if_pos hheader]
    rfl
  rw [hsaid]
  exact .cut e.userId before (header_wire hfits hheader) hfewer hstand hmalformed

/-- **What a blank message makes of a wire form that was cut off**, wherever it was. -/
theorem deserialize_truncated (hok : e.status = .ok) (hfits : e.Fits) (hcount : e.fields.length = e.kind.fields.length)
    (limit : Int) (hlimit : ∀ content ∈ e.fields, (content.length : Int) ≤ limit) (hkept : kept < e.wire.length) :
    (blank e.kind).deserialize (e.wire.take kept) none limit = .ok (e.truncated kept) := by
  have hdecoding : Decoding (blank e.kind) e.wire kept limit (e.truncated kept) := by
    by_cases hheader : headerSize ≤ kept
    · rw [length_wire hok, encodedSize_of_ok hok] at hkept
      obtain ⟨before, content, after, hfields, hle, hlt⟩ :=
        Field.exists_cut e.fields (kept - headerSize) (by omega)
      exact decoding_of_cut hfits hcount hlimit hfields (by omega) (by omega)
    · exact decoding_of_short hcount limit (Nat.lt_of_not_le hheader)
  rw [← (deserialize_iff_decoding (Nat.le_of_lt hkept)).2 hdecoding, deserialize_take _ limit (Nat.le_of_lt hkept)]

/-- **No wire form is a proper prefix of another one of its kind**: the shorter would decode in order, and cut from the longer it
does not. -/
theorem wire_prefix_free {e' : Envelope} (hok : e.status = .ok) (hfits : e.Fits)
    (hcount : e.fields.length = e.kind.fields.length) (hok' : e'.status = .ok) (hfits' : e'.Fits)
    (hcount' : e'.fields.length = e'.kind.fields.length) (hkind : e.kind = e'.kind) (hstart : e.wire <+: e'.wire) :
    e.wire = e'.wire := by
  refine hstart.eq_of_length_le (Nat.le_of_not_lt fun hlt => ?_)
  have hcut := deserialize_truncated hok' hfits' hcount' Word.largest
    (fun content hc => Int.ofNat_le.2 (hfits'.length_le content hc)) hlt
  have hlength : (blank e'.kind).fields.length = e.fields.length := by rw [hcount, hkind, blank, List.length_map]
  have hwhole : (blank e'.kind).deserialize (e.wire ++ []) none Word.largest = .ok e :=
    deserialize_wire_append hok hfits (show (blank e'.kind).kind = e.kind from hkind.symm) hlength
      (fun content hc => Int.ofNat_le.2 (hfits.length_le content hc)) []
  rw [List.append_nil, List.prefix_iff_eq_take.1 hstart, hcut] at hwhole
  have hstatus : Status.invalid = e.status := congrArg Envelope.status (Except.ok.inj hwhole)
  rw [hok] at hstatus
  cases hstatus

end Envelope
end PasswordGate
