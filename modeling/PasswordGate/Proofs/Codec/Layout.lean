import PasswordGate.Proofs.Codec.Decoding
/-!
# Layout — decoding goes by the length words alone

Two payloads have the same layout when they are made of fields of the same lengths, whatever these hold.  The decoder takes
from a payload what its length words say and looks at nothing else, so payloads of one layout, behind one header, decode to
messages of one shape (`deserialize_sameLayout`): only what the fields hold is another.
-/
namespace PasswordGate

namespace Bytes

/-- Lengths that are there together, and then equal. -/
theorem lengths_cases {given given' : Option Bytes} (h : given.map List.length = given'.map List.length) :
    (given = none ∧ given' = none) ∨
      ∃ content content', given = some content ∧ given' = some content' ∧ content.length = content'.length := by
  cases given with
  | none =>
    cases given' with
    | none => exact .inl ⟨rfl, rfl⟩
    | some content' => cases h
  | some content =>
    cases given' with
    | none => cases h
    | some content' => exact .inr ⟨content, content', rfl, rfl, Option.some.inj h⟩

variable (before content after other : Bytes)

/-- What stands between some bytes and others is the slice behind the first of its own length. -/
theorem slice_around : (before ++ content ++ after).slice before.length (before.length + content.length) = content := by
  have hfit : before.length + content.length ≤ (before ++ content ++ after).length := by
    simp only [List.length_append]
    omega
  rw [← Int.natCast_add, slice_natCast _ _ _ hfit, Nat.add_sub_cancel_left, List.append_assoc, List.drop_left,
    List.take_left]

/-- Writing over what stands between some bytes and others leaves these. -/
theorem splice_around : (before ++ content ++ after).splice before.length (before.length + content.length) other =
    before ++ other ++ after := by
  have hfit : before.length ≤ (before ++ content ++ after).length := by
    simp only [List.length_append]
    omega
  rw [← Int.natCast_add, splice_natCast _ _ _ _ hfit (Nat.le_add_right _ _), List.append_assoc before, List.take_left,
    ← List.drop_drop, List.drop_left, List.drop_left]

end Bytes

namespace Field

/-- **Payloads of one layout**: fields of the same lengths stand one behind the other, and then the same bytes, or a last
field of which only a part is there. -/
inductive SameLayout : Bytes → Bytes → Prop
  | rest (tail : Bytes) : SameLayout tail tail
  | field {content other tail tail' : Bytes} (hle : content.length ≤ Word.largest)
      (hlength : content.length = other.length) (htail : SameLayout tail tail') :
      SameLayout (wire content ++ tail) (wire other ++ tail')
  | cut {declared : Nat} {part part' : Bytes} (hle : declared ≤ Word.largest) (hlength : part.length = part'.length)
      (hcut : part.length < declared) : SameLayout (Word.bytes declared ++ part) (Word.bytes declared ++ part')

variable {data data' payload payload' : Bytes}

theorem SameLayout.length_eq (h : SameLayout payload payload') : payload.length = payload'.length := by
  induction h with
  | rest tail => rfl
  | field hle hlength htail ih =>
    have hwire := length_wire
    simp only [List.length_append, hwire, encodedSize, hlength, ih]
  | cut hle hlength hcut =>
    have hword := Word.length_bytes
    simp only [List.length_append, hword, hlength]

/-- **Payloads of one layout start with the same length word**; behind it they are equally long, and of one layout again
behind what the word declares. -/
theorem SameLayout.exists_word (h : SameLayout payload payload') (hword : Word.size ≤ payload.length) :
    ∃ declared after after', declared ≤ Word.largest ∧ payload = Word.bytes declared ++ after ∧
      payload' = Word.bytes declared ++ after' ∧ after.length = after'.length ∧
      (declared ≤ after.length → SameLayout (after.drop declared) (after'.drop declared)) := by
  cases h with
  | rest =>
    obtain ⟨declared, hle, hdata⟩ := Word.exists_eq_bytes_append payload hword
    exact ⟨declared, _, _, hle, hdata, hdata, rfl, fun _ => .rest _⟩
  | @field content other tail tail' hle hlength htail =>
    have htails := htail.length_eq
    have hother : wire other = Word.bytes content.length ++ other := by rw [wire, hlength]
    refine ⟨content.length, content ++ tail, other ++ tail', hle, ?_, ?_, ?_, fun _ => ?_⟩
    · rw [wire, List.append_assoc]
    · rw [hother, List.append_assoc]
    · simp only [List.length_append, hlength, htails]
    · rw [List.drop_left, hlength, List.drop_left]
      exact htail
  | cut hle hlength hcut =>
    exact ⟨_, _, _, hle, rfl, rfl, hlength, fun hfit => absurd hcut (Nat.not_lt.2 hfit)⟩

/-- **Fields are read alike from payloads of one layout**: equally many, of the same lengths, and as completely. -/
theorem readAll_sameLayout {stop : Nat} (limit : Int) (hlength : data.length = data'.length) (hstop : stop ≤ data.length) :
    ∀ (count offset : Nat), SameLayout (data.drop offset) (data'.drop offset) → ∃ contents others complete,
      readAll data stop limit count offset = .ok (contents, complete) ∧
      readAll data' stop limit count offset = .ok (others, complete) ∧
      contents.map List.length = others.map List.length
  | 0, offset, _ => ⟨[], [], true, rfl, rfl, rfl⟩
  | count + 1, offset, h => by
    unfold readAll
    by_cases hshort : stop < offset + Word.size
    · have hread := read_of_short data limit hshort
      have hread' := read_of_short data' limit hshort
      rw [hread, hread']
      exact ⟨[], [], false, rfl, rfl, rfl⟩
    have hword : offset + Word.size ≤ stop := Nat.le_of_not_lt hshort
    obtain ⟨declared, after, after', hle, hdata, hdata', hafter, hnext⟩ := h.exists_word (by
      rw [List.length_drop]
      omega)
    have hread := read_of_word limit hstop hword hle hdata
    have hread' := read_of_word limit (hlength ▸ hstop) hword hle hdata'
    by_cases hover : stop < offset + Word.size + declared
    · rw [if_pos hover] at hread hread'
      rw [hread, hread']
      exact ⟨[], [], false, rfl, rfl, rfl⟩
    rw [if_neg hover] at hread hread'
    by_cases hlimit : limit < declared
    · rw [if_pos hlimit] at hread hread'
      rw [hread, hread']
      exact ⟨[], [], false, rfl, rfl, rfl⟩
    rw [if_neg hlimit] at hread hread'
    -- The field is read from both; what stands behind it has one layout again.
    have hsize : (data.drop offset).length = Word.size + after.length := by
      rw [hdata, List.length_append, Word.length_bytes]
    have hfit : declared ≤ after.length := by
      rw [List.length_drop] at hsize
      omega
    have hbehind {data after : Bytes} (hdata : data.drop offset = Word.bytes declared ++ after) :
        data.drop (offset + Word.size + declared) = after.drop declared := by
      rw [Nat.add_assoc, ← List.drop_drop, hdata, ← List.drop_drop, ← Word.length_bytes declared, List.drop_left]
    have hlayout : SameLayout (data.drop (offset + Word.size + declared)) (data'.drop (offset + Word.size + declared)) := by
      rw [hbehind hdata, hbehind hdata']
      exact hnext hfit
    obtain ⟨contents, others, complete, hcontents, hothers, hlengths⟩ :=
      readAll_sameLayout limit hlength hstop count (offset + Word.size + declared) hlayout
    refine ⟨after.take declared :: contents, after'.take declared :: others, complete, ?_, ?_, ?_⟩
    · simp only [hread, hcontents, bind, Except.bind, pure, Except.pure]
    · simp only [hread', hothers, bind, Except.bind, pure, Except.pure]
    · simp only [List.map_cons, List.length_take, hafter, hlengths]

/-- **Fields of the same lengths are written in one layout.** -/
theorem sameLayout_wires (tail : Bytes) : ∀ {contents others : List Bytes},
    (∀ content ∈ contents, content.length ≤ Word.largest) → contents.map List.length = others.map List.length →
      SameLayout (wires contents ++ tail) (wires others ++ tail)
  | [], others, _, hlengths => by
    have hnone : others = [] := List.map_eq_nil_iff.1 hlengths.symm
    rw [hnone]
    exact .rest _
  | content :: contents, [], _, hlengths => by cases hlengths
  | content :: contents, other :: others, hle, hlengths => by
    obtain ⟨hlength, hlater⟩ := List.cons.inj hlengths
    obtain ⟨hfirst, hrest⟩ := List.forall_mem_cons.1 hle
    have htail := sameLayout_wires tail hrest hlater
    rw [wires, wires, List.append_assoc, List.append_assoc]
    exact .field hfirst hlength htail

/-- **A field among others**: what stands before it, its own form, and what stands behind. -/
theorem wires_around : ∀ {contents : List Bytes} {position : Nat} {content : Bytes}, contents[position]? = some content →
    wires contents = wires (contents.take position) ++ (wire content ++ wires (contents.drop (position + 1)))
  | [], position, content, h => by cases h
  | first :: rest, 0, content, h => by
    cases h
    rfl
  | first :: rest, position + 1, content, h => by
    have hrest : wires rest = _ := wires_around h
    rw [wires, hrest, List.take_succ_cons, List.drop_succ_cons, wires, List.append_assoc]

end Field

namespace Envelope

/-- **Messages of one shape**: they say the same, but for what their fields hold, and these are equally long. -/
structure SameShape (e e' : Envelope) : Prop where
  kind : e.kind = e'.kind
  status : e.status = e'.status
  userId : e.userId = e'.userId
  lengths : e.fields.map List.length = e'.fields.map List.length

/-- **Data of one layout**: the same header, and payloads of one layout behind it. -/
structure SameLayout (data data' : Bytes) : Prop where
  header : data.take headerSize = data'.take headerSize
  payload : Field.SameLayout (data.drop headerSize) (data'.drop headerSize)

variable {data data' : Bytes}

theorem SameLayout.length_eq (h : SameLayout data data') : data.length = data'.length := by
  have hheader := congrArg List.length h.header
  have hpayload := h.payload.length_eq
  simp only [List.length_take, List.length_drop] at hheader hpayload
  omega

theorem SameLayout.refused {stop : Nat} (h : SameLayout data data') (hrefused : Refused data stop) : Refused data' stop := by
  cases hrefused with
  | noStatus hstop => exact .noStatus hstop
  | noUserId hstop hshort => exact .noUserId hstop hshort
  | notInOrder hstop hstatus =>
    have hword := congrArg (List.take Word.size) h.header
    rw [List.take_take, List.take_take, Nat.min_eq_left (by decide)] at hword
    exact .notInOrder hstop (hword ▸ hstatus)

/-- **Data of one layout decode to messages of one shape.** -/
theorem deserialize_sameLayout (before : Envelope) (limit : Int) (h : SameLayout data data') : ∃ e e',
    before.deserialize data none limit = .ok e ∧ before.deserialize data' none limit = .ok e' ∧ e.SameShape e' := by
  have hlength := h.length_eq
  have hstop' : data.length ≤ data'.length := Nat.le_of_eq hlength
  have hwindow : (data'.length : Int) = data.length := by rw [hlength]
  simp only [deserialize, window, hwindow, bind, Except.bind, pure, Except.pure]
  rcases decode_refused_or_header before.fields.length limit (Nat.le_refl data.length) with
    ⟨hrefused, hdecode⟩ | ⟨userId, hheader, hdecode⟩
  · have hdecode' := decode_of_refused before.fields.length limit hstop' (h.refused hrefused)
    rw [hdecode, hdecode']
    exact ⟨_, _, rfl, rfl, rfl, rfl, rfl, rfl⟩
  · have hheader' : Header data' data.length userId := ⟨hheader.size_le, hheader.userId_le, h.header ▸ hheader.take_eq⟩
    have hdecode' := decode_of_header before.fields.length limit hstop' hheader'
    obtain ⟨contents, others, complete, hread, hread', hlengths⟩ :=
      Field.readAll_sameLayout limit hlength (Nat.le_refl _) before.fields.length headerSize h.payload
    have hcount : contents.length = others.length := by simpa using congrArg List.length hlengths
    rw [hdecode, hdecode', hread, hread']
    refine ⟨_, _, rfl, rfl, rfl, rfl, rfl, ?_⟩
    simp only [accept, List.map_append, hlengths, hcount]

/-- Equally long fields stand under one name in messages of one shape. -/
theorem SameShape.length_field? {e e' : Envelope} (h : e.SameShape e') (name : String) :
    (e.field? name).map List.length = (e'.field? name).map List.length := by
  unfold field?
  rw [h.kind]
  cases e'.kind.position? name with
  | none => rfl
  | some position =>
    have hlengths := congrArg (·[position]?) h.lengths
    simpa using hlengths

/-- **Messages of one shape are written in one layout**, whatever follows them. -/
theorem SameShape.sameLayout {e e' : Envelope} (h : e.SameShape e') (hfits : e.Fits) (rest : Bytes) :
    SameLayout (e.wire ++ rest) (e'.wire ++ rest) := by
  have hhead : ∀ userId, (Word.bytes Status.ok.number ++ Word.bytes userId).length = headerSize := fun _ => rfl
  have htail := Field.sameLayout_wires rest hfits.length_le h.lengths
  unfold wire
  rw [h.userId, List.append_assoc _ _ rest, List.append_assoc _ _ rest]
  constructor
  · rw [← hhead e'.userId, List.take_left, List.take_left]
  · rw [← hhead e'.userId, List.drop_left, List.drop_left]
    exact htail

/-! ## Writing over one field -/

/-- A message with another content in one of its fields. -/
def overwritten (e : Envelope) (position : Nat) (other : Bytes) : Envelope :=
  { e with fields := e.fields.set position other }

theorem forall_overwritten {e : Envelope} {position : Nat} {other : Bytes} {P : Bytes → Prop}
    (h : ∀ content ∈ e.fields, P content) (hother : P other) :
    ∀ content ∈ (e.overwritten position other).fields, P content := by
  intro content hmem
  rcases List.mem_or_eq_of_mem_set hmem with hold | rfl
  · exact h content hold
  · exact hother

/-- Where the content of a field starts in the wire form: behind the header, the fields before it and its length word. -/
def contentStart (e : Envelope) (position : Nat) : Nat :=
  headerSize + Field.totalSize (e.fields.take position) + Word.size

/-- **The wire form around the content of a field**: another content of the same length stands in the same place. -/
theorem exists_wire_around {e : Envelope} {position : Nat} {content : Bytes} (h : e.fields[position]? = some content) :
    ∃ before after : Bytes, before.length = e.contentStart position ∧ e.wire = before ++ content ++ after ∧
      ∀ other : Bytes, other.length = content.length → (e.overwritten position other).wire = before ++ other ++ after := by
  have hposition : position < e.fields.length := (List.getElem?_eq_some_iff.1 h).1
  refine ⟨Word.bytes Status.ok.number ++ Word.bytes e.userId ++ Field.wires (e.fields.take position) ++
    Word.bytes content.length, Field.wires (e.fields.drop (position + 1)), ?_, ?_, fun other hlength => ?_⟩
  · have hhead : (Word.bytes Status.ok.number ++ Word.bytes e.userId).length = headerSize := rfl
    rw [List.length_append, List.length_append, hhead, Field.length_wires, Word.length_bytes, contentStart]
  · rw [wire, Field.wires_around h, Field.wire]
    simp only [List.append_assoc]
  · have hset : (e.fields.set position other)[position]? = some other := by
      rw [List.getElem?_set_self hposition]
    have htake : (e.fields.set position other).take position = e.fields.take position :=
      List.take_set_of_le (Nat.le_refl position)
    have hdrop : (e.fields.set position other).drop (position + 1) = e.fields.drop (position + 1) :=
      List.drop_set_of_lt (Nat.lt_succ_self position)
    rw [wire, overwritten, Field.wires_around hset, htake, hdrop, Field.wire, hlength]
    simp only [List.append_assoc]

/-- **Writing over the content of a field changes that field alone.**  In data that decode in order, the content stands
where the lengths say; other bytes of its length there decode to the same message with that content, whatever the field,
and whatever follows the message. -/
theorem exists_data_around {target e : Envelope} {data content : Bytes} {limit : Int} {position : Nat}
    (hdecode : target.deserialize data none limit = .ok e) (hok : e.status = .ok)
    (hfield : e.fields[position]? = some content) :
    ∃ before after : Bytes, before.length = e.contentStart position ∧ data = before ++ content ++ after ∧
      ∀ other : Bytes, other.length = content.length →
        target.deserialize (before ++ other ++ after) none limit = .ok (e.overwritten position other) := by
  obtain ⟨hfits, hlimit, ⟨rest, hdata⟩, -⟩ := wire_of_deserialize hdecode hok
  obtain ⟨hkind, hcount⟩ := shape_of_deserialize hdecode
  obtain ⟨before, after, hbefore, hwire, hother⟩ := exists_wire_around hfield
  refine ⟨before, after ++ rest, hbefore, ?_, fun other hlength => ?_⟩
  · rw [hdata, hwire, List.append_assoc _ after rest]
  · have hmem : content ∈ e.fields := List.mem_of_getElem? hfield
    have hok' : (e.overwritten position other).status = .ok := hok
    have hfits' : (e.overwritten position other).Fits :=
      ⟨hfits.userId_le, forall_overwritten hfits.length_le (hlength ▸ hfits.length_le content hmem)⟩
    have hlimit' : ∀ c ∈ (e.overwritten position other).fields, (c.length : Int) ≤ limit :=
      forall_overwritten hlimit (hlength ▸ hlimit content hmem)
    have hcount' : target.fields.length = (e.overwritten position other).fields.length := by
      rw [← hcount, overwritten, List.length_set]
    rw [← List.append_assoc _ after rest, ← hother other hlength]
    exact deserialize_wire_append hok' hfits' hkind.symm hcount' hlimit' rest

end Envelope
end PasswordGate
