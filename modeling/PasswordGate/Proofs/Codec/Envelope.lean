import PasswordGate.Codec.Envelope
import PasswordGate.Proofs.Codec.Payload
/-!
# Envelope laws — encoding and decoding are inverse to each other

`Envelope.wire` is the wire form of a message in order.  Encoding writes the fields one behind the other into storage that
was prepared at the size of the form, with the header in it and zeros behind (`writeAll_prepared`), and so produces it for
every message that fits the words (`encode_eq_wire`); decoding finds a whole message exactly on data that start with such
a form (`decode_complete_iff`).  So what decodes in order is encoded back to the bytes it came from
(`wire_of_deserialize`), and what was encoded decodes to itself whatever follows it (`deserialize_wire_append`).
-/
namespace PasswordGate
namespace Envelope

/-- **A message that fits its words**: its user id, and the length of each of its fields. -/
structure Fits (e : Envelope) : Prop where
  userId_le : e.userId ≤ Word.largest
  length_le : ∀ content ∈ e.fields, content.length ≤ Word.largest

def wire (e : Envelope) : Bytes := Word.bytes Status.ok.number ++ Word.bytes e.userId ++ Field.wires e.fields

/-- What stands in front of the fields. -/
def header (e : Envelope) : Bytes := Word.bytes e.status.number ++ Word.bytes e.userId

/-- The storage that the fields are written into: as long as the form is to be, with the header in it. -/
def prepared (e : Envelope) : Bytes := (Bytes.zeros e.encodedSize).splice 0 headerSize e.header

theorem encodedSize_of_ok {e : Envelope} (h : e.status = .ok) :
    e.encodedSize = headerSize + Field.totalSize e.fields := by
  simp only [encodedSize, h]

theorem length_wire {e : Envelope} (h : e.status = .ok) : e.wire.length = e.encodedSize := by
  simp only [encodedSize_of_ok h, wire, headerSize, List.length_append, Word.length_bytes, Field.length_wires]

/-- The wire form of a message in order is longer than a bare status word. -/
theorem wire_ne_refusal {e : Envelope} (h : e.status = .ok) : e.wire ≠ [1, 0, 0, 0] := by
  intro hword
  have hlen := length_wire h
  rw [hword, encodedSize_of_ok h, headerSize] at hlen
  simp only [Word.size, List.length_cons, List.length_nil] at hlen
  omega

theorem prepared_eq {e : Envelope} (hok : e.status = .ok) :
    e.prepared = e.header ++ Bytes.zeros (Field.totalSize e.fields) := by
  rw [prepared, show (0 : Int) = ((0 : Nat) : Int) from rfl,
    Bytes.splice_natCast _ _ _ _ (Nat.zero_le _) (Nat.zero_le _), encodedSize_of_ok hok]
  simp [Bytes.zeros, List.drop_replicate]

/-- **Writing the first fields into the prepared storage** puts their forms behind the header, and leaves zeros for the
others. -/
theorem writeAll_prepared {e : Envelope} (hok : e.status = .ok) (hfits : e.Fits) {before after : List Bytes}
    (hfields : e.fields = before ++ after) : Field.writeAll e.prepared headerSize before =
      .ok (e.header ++ Field.wires before ++ Bytes.zeros (Field.totalSize after),
        ((headerSize + Field.totalSize before : Nat) : Int)) := by
  have hheader : e.header.length = headerSize := rfl
  have hlength : ∀ content ∈ before, content.length ≤ Word.largest := fun content hc =>
    hfits.length_le content (hfields ▸ List.mem_append_left after hc)
  have hsize : Field.totalSize e.fields = Field.totalSize before + Field.totalSize after := by
    rw [hfields, Field.totalSize_append]
  rw [prepared_eq hok, Field.writeAll_eq before (by rw [List.length_append, hheader]; omega) hlength, ← hheader,
    List.take_left, ← List.drop_drop, List.drop_left]
  simp [Bytes.zeros, hsize]

/-- **Encoding a message in order is writing its fields into the prepared storage.** -/
theorem encode_eq_writeAll {e : Envelope} (hok : e.status = .ok) (hfits : e.Fits) :
    e.encode = (Field.writeAll e.prepared headerSize e.fields).map (·.1) := by
  rw [prepared, header]
  unfold encode
  simp only [hok, Word.encode_of_le (show Status.ok.number ≤ Word.largest by decide), Word.encode_of_le hfits.userId_le,
    bind, Except.bind, pure, Except.pure]
  rfl

theorem wire_eq {e : Envelope} (hok : e.status = .ok) : e.wire = e.header ++ Field.wires e.fields := by
  rw [wire, header, hok]

/-- **A message in order that fits is encoded to its wire form**: the fields fill the prepared storage exactly. -/
theorem encode_eq_wire {e : Envelope} (hok : e.status = .ok) (hfits : e.Fits) : e.encode = .ok e.wire := by
  rw [encode_eq_writeAll hok hfits, writeAll_prepared hok hfits (List.append_nil e.fields).symm, wire_eq hok]
  exact congrArg Except.ok (List.append_nil _)

theorem encode_eq_ok_iff {e : Envelope} (hok : e.status = .ok) {data : Bytes} :
    e.encode = .ok data ↔ e.Fits ∧ data = e.wire := by
  constructor
  · intro h
    have hfits : e.Fits := by
      have henc := h
      unfold encode at henc
      rw [hok] at henc
      simp only [Word.encode_of_le (show Status.ok.number ≤ Word.largest by decide), bind, Except.bind] at henc
      cases huser : Word.encode e.userId with
      | error cause =>
        rw [huser] at henc
        cases henc
      | ok word =>
        rw [huser] at henc
        dsimp only at henc
        split at henc
        · cases henc
        · rename_i hwrite
          exact ⟨(Word.encode_eq_ok_iff.1 huser).1, Field.length_le_of_writeAll _ hwrite⟩
    exact ⟨hfits, Except.ok.inj (h.symm.trans (encode_eq_wire hok hfits))⟩
  · rintro ⟨hfits, rfl⟩
    exact encode_eq_wire hok hfits

theorem window_natCast {data : Bytes} {stop : Nat} (hstop : stop ≤ data.length) : window data (some stop) = .ok stop :=
  if_pos ⟨Int.natCast_nonneg _, Int.ofNat_le.2 hstop⟩

theorem window_eq_ok {data : Bytes} {stop : Option Int} {last : Int} (h : window data stop = .ok last) :
    ∃ n : Nat, last = n ∧ n ≤ data.length := by
  cases stop with
  | none => exact ⟨data.length, (Except.ok.inj h).symm, Nat.le_refl _⟩
  | some stop =>
    simp only [window] at h
    split at h
    · rename_i hin
      cases h
      exact ⟨last.toNat, by omega, by omega⟩
    · cases h

/-- **What a decoding comes to**: it is refused before the fields exactly when the window is too short for a status and a
user id or the status is not in order; else it reads the fields behind them. -/
theorem decode_cases (count : Nat) {data : Bytes} {stop : Nat} (limit : Int) (hstop : stop ≤ data.length) :
    (decode count data stop limit = .ok .refused ∧
      (stop < headerSize ∨ data.take Word.size ≠ Word.bytes Status.ok.number)) ∨
    ∃ userId rest, headerSize ≤ stop ∧ userId ≤ Word.largest ∧
      data = Word.bytes Status.ok.number ++ Word.bytes userId ++ rest ∧
      decode count data stop limit =
        (Field.readAll data stop limit count headerSize).map fun (contents, complete) =>
          .payload userId contents complete := by
  have hsize : (headerSize : Nat) = Word.size + Word.size := rfl
  unfold decode
  by_cases h₀ : stop < Word.size
  · exact .inl ⟨by rw [if_pos (by omega)]; rfl, .inl (by omega)⟩
  rw [if_neg (by omega)]
  obtain ⟨status, hle, hdata⟩ := Word.exists_eq_bytes_append data (by omega)
  have htake : data.slice 0 Word.size = Word.bytes status := by
    rw [show (0 : Int) = ((0 : Nat) : Int) from rfl, Bytes.slice_natCast _ _ _ (by omega), List.drop_zero, Nat.sub_zero,
      hdata, ← Word.length_bytes status, List.take_left]
  have hdecode : ∀ n ≤ Word.largest, Word.decode (Word.bytes n) = .ok n := fun n hn => by
    simpa using Word.decode_bytes_append hn []
  rw [htake, hdecode status hle]
  simp only [bind, Except.bind, pure, Except.pure]
  by_cases h₁ : status = 0
  · rw [if_neg (by simp [Status.ofWire, h₁])]
    by_cases h₂ : stop < headerSize
    · exact .inl ⟨by rw [if_pos (by omega)], .inl h₂⟩
    rw [if_neg (by omega)]
    obtain ⟨userId, huser, hrest⟩ := Word.exists_eq_bytes_append (data.drop Word.size) (by
      rw [List.length_drop]; omega)
    have hslice : data.slice Word.size headerSize = Word.bytes userId := by
      rw [Bytes.slice_natCast _ _ _ (by omega), hrest, hsize, Nat.add_sub_cancel, ← Word.length_bytes userId,
        List.take_left]
    rw [hslice, hdecode userId huser]
    refine .inr ⟨userId, (data.drop Word.size).drop Word.size, by omega, huser, ?_, ?_⟩
    · rw [List.append_assoc, ← hrest]
      subst h₁
      exact hdata
    · cases Field.readAll data stop limit count headerSize <;> rfl
  · rw [if_pos (by simp [Status.ofWire, h₁])]
    refine .inl ⟨rfl, .inr fun htake => h₁ ?_⟩
    rw [hdata, ← Word.length_bytes status, List.take_left] at htake
    exact Word.bytes_injective hle (by decide) htake

/-- **Decoding inside the data never fails**, and what it finds fits the words. -/
theorem exists_decode (count : Nat) {data : Bytes} {stop : Nat} (limit : Int) (hstop : stop ≤ data.length) :
    decode count data stop limit = .ok .refused ∨
    ∃ userId contents complete, decode count data stop limit = .ok (.payload userId contents complete) ∧
      userId ≤ Word.largest ∧ contents.length ≤ count ∧ ∀ content ∈ contents, content.length ≤ Word.largest := by
  rcases decode_cases count limit hstop with ⟨h, -⟩ | ⟨userId, rest, -, huser, -, h⟩
  · exact .inl h
  · obtain ⟨contents, complete, hread, hcount, hlengths⟩ := Field.exists_readAll limit hstop count headerSize
    exact .inr ⟨userId, contents, complete, by rw [h, hread]; rfl, huser, hcount, hlengths⟩

/-- **A whole message is decoded exactly where its wire form stands**, if it ends inside the window and each field
respects the limit. -/
theorem decode_complete_iff {count : Nat} {data : Bytes} {stop : Nat} {limit : Int} {userId : Nat}
    {contents : List Bytes} (hstop : stop ≤ data.length) :
    decode count data stop limit = .ok (.payload userId contents true) ↔
      contents.length = count ∧ userId ≤ Word.largest ∧ headerSize + Field.totalSize contents ≤ stop ∧
      (∀ content ∈ contents, (content.length : Int) ≤ limit ∧ content.length ≤ Word.largest) ∧
      ∃ rest, data = Word.bytes Status.ok.number ++ Word.bytes userId ++ Field.wires contents ++ rest := by
  have hlen : ∀ n, (Word.bytes Status.ok.number ++ Word.bytes n).length = headerSize := fun _ => rfl
  rcases decode_cases count limit hstop with ⟨h, hwhy⟩ | ⟨user, tail, hheader, huser, hdata, h⟩
  · rw [h]
    refine ⟨(fun hd => by cases hd), fun ⟨_, _, hfit, _, rest, hd⟩ => ?_⟩
    rcases hwhy with hshort | hstatus
    · omega
    · refine absurd ?_ hstatus
      rw [hd, List.append_assoc, List.append_assoc, ← Word.length_bytes Status.ok.number, List.take_left]
  · have hdrop : data.drop headerSize = tail := by rw [hdata, ← hlen user, List.drop_left]
    have hread : decode count data stop limit = .ok (.payload userId contents true) ↔
        user = userId ∧ Field.readAll data stop limit count headerSize = .ok (contents, true) := by
      rw [h]
      cases Field.readAll data stop limit count headerSize <;> simp [Except.map, Prod.ext_iff]
    rw [hread, Field.readAll_complete_iff hstop hheader]
    constructor
    · rintro ⟨rfl, hcount, hfit, hall, rest, htail⟩
      rw [hdrop] at htail
      exact ⟨hcount, huser, hfit, hall, rest, by rw [hdata, htail, List.append_assoc _ _ rest]⟩
    · rintro ⟨hcount, hle, hfit, hall, rest, hd⟩
      rw [hd, List.append_assoc _ _ rest] at hdata
      obtain ⟨hhead, htail⟩ := List.append_inj hdata ((hlen userId).trans (hlen user).symm)
      exact ⟨(Word.bytes_injective hle huser (List.append_cancel_left hhead)).symm, hcount, hfit, hall, rest,
        hdrop.trans htail.symm⟩

/-- **What decodes in order is its own wire form**: the message fits and respects the limit, ends inside the window, and
its form is what the data start with. -/
theorem wire_of_deserialize {e e' : Envelope} {data : Bytes} {stop : Option Int} {limit : Int}
    (h : e.deserialize data stop limit = .ok e') (hok : e'.status = .ok) :
    e'.Fits ∧ (∀ content ∈ e'.fields, (content.length : Int) ≤ limit) ∧ (∃ rest, data = e'.wire ++ rest) ∧
      ∃ last : Nat, window data stop = .ok last ∧ last ≤ data.length ∧ e'.encodedSize ≤ last := by
  cases hw : window data stop with
  | error cause => simp [deserialize, hw, bind, Except.bind] at h
  | ok last =>
    obtain ⟨last, rfl, hlast⟩ := window_eq_ok hw
    simp only [deserialize, hw, bind, Except.bind, pure, Except.pure] at h
    rcases exists_decode e.fields.length limit hlast with hd | ⟨userId, contents, complete, hd, huser, -, hlengths⟩
    · rw [hd] at h
      cases h
      cases hok
    · rw [hd] at h
      cases h
      cases complete with
      | false => cases hok
      | true =>
        obtain ⟨hcount, -, hfit, hlimit, rest, hdata⟩ := (decode_complete_iff hlast).1 hd
        have hfields : (e.accept (.payload userId contents true)).fields = contents := by simp [accept, hcount]
        refine ⟨⟨huser, by rw [hfields]; exact hlengths⟩, ?_, ⟨rest, ?_⟩, last, rfl, hlast, ?_⟩
        · rw [hfields]
          exact fun content hc => (hlimit content hc).1
        · rw [wire, hfields]
          exact hdata
        · rw [encodedSize_of_ok hok, hfields]
          exact hfit

theorem decode_wire_append {e : Envelope} {limit : Int} (hok : e.status = .ok) (hfits : e.Fits)
    (hlimit : ∀ content ∈ e.fields, (content.length : Int) ≤ limit) (trailing : Bytes) :
    decode e.fields.length (e.wire ++ trailing) ((e.wire ++ trailing).length : Nat) limit =
      .ok (.payload e.userId e.fields true) := by
  have hsize := (length_wire hok).trans (encodedSize_of_ok hok)
  exact (decode_complete_iff (Nat.le_refl _)).2 ⟨rfl, hfits.userId_le, by rw [List.length_append]; omega,
    fun content hc => ⟨hlimit content hc, hfits.length_le content hc⟩, trailing, rfl⟩

/-- **A wire form decodes to its message**, whatever stands behind it and whatever the receiver said before. -/
theorem deserialize_wire_append {e target : Envelope} {limit : Int} (hok : e.status = .ok) (hfits : e.Fits)
    (hkind : target.kind = e.kind) (hcount : target.fields.length = e.fields.length)
    (hlimit : ∀ content ∈ e.fields, (content.length : Int) ≤ limit) (trailing : Bytes) :
    target.deserialize (e.wire ++ trailing) none limit = .ok e := by
  simp only [deserialize, window, bind, Except.bind, hcount, decode_wire_append hok hfits hlimit trailing, pure,
    Except.pure, accept, if_true, Except.ok.injEq]
  rw [Nat.sub_self, List.replicate_zero, List.append_nil, hkind, ← hok]

/-- Decoding keeps the kind of a message and the number of its fields. -/
theorem shape_of_deserialize {e e' : Envelope} {data : Bytes} {stop : Option Int} {limit : Int}
    (h : e.deserialize data stop limit = .ok e') : e'.kind = e.kind ∧ e'.fields.length = e.fields.length := by
  cases hw : window data stop with
  | error cause => simp [deserialize, hw, bind, Except.bind] at h
  | ok last =>
    obtain ⟨last, rfl, hlast⟩ := window_eq_ok hw
    simp only [deserialize, hw, bind, Except.bind, pure, Except.pure] at h
    rcases exists_decode e.fields.length limit hlast with hd | ⟨userId, contents, complete, hd, -, hcount, -⟩
    · rw [hd] at h
      cases h
      exact ⟨rfl, rfl⟩
    · rw [hd] at h
      cases h
      refine ⟨rfl, ?_⟩
      simp only [accept, List.length_append, List.length_replicate]
      omega

/-- The whole of some data is never refused outright. -/
theorem exists_deserialize (e : Envelope) (data : Bytes) (limit : Int) :
    ∃ e', e.deserialize data none limit = .ok e' := by
  simp only [deserialize, window, bind, Except.bind, pure, Except.pure]
  rcases exists_decode e.fields.length limit (Nat.le_refl data.length) with hd | ⟨userId, contents, complete, hd, -⟩
  · rw [hd]
    exact ⟨_, rfl⟩
  · rw [hd]
    exact ⟨_, rfl⟩

/-- **A wire form with a field over the limit is not in order**: what it decodes to would be the message itself. -/
theorem deserialize_wire_over_limit {e target : Envelope} {limit : Int} (hok : e.status = .ok) (hfits : e.Fits)
    (hkind : target.kind = e.kind) (hcount : target.fields.length = e.fields.length) {content : Bytes}
    (hc : content ∈ e.fields) (hover : limit < content.length) (trailing : Bytes) :
    ∃ e', target.deserialize (e.wire ++ trailing) none limit = .ok e' ∧ e'.status = .invalid := by
  have hfree : ∀ {e : Envelope}, e.Fits → ∀ content ∈ e.fields, (content.length : Int) ≤ Word.largest :=
    fun h content hc => Int.ofNat_le.2 (h.length_le content hc)
  obtain ⟨e', he'⟩ := exists_deserialize target (e.wire ++ trailing) limit
  refine ⟨e', he', ?_⟩
  cases hs : e'.status with
  | invalid => rfl
  | ok =>
    obtain ⟨hfits', hlimit, ⟨rest, hdata⟩, -⟩ := wire_of_deserialize he' hs
    obtain ⟨hkind', hcount'⟩ := shape_of_deserialize he'
    have hdecode := deserialize_wire_append hok hfits hkind hcount (hfree hfits) trailing
    rw [hdata, deserialize_wire_append hs hfits' hkind'.symm hcount'.symm (hfree hfits') rest] at hdecode
    cases hdecode
    exact absurd (hlimit content hc) (Int.not_le.2 hover)

end Envelope
end PasswordGate
