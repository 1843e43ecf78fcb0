import PasswordGate.Proofs.Store.Workspace
/-!
# Serialization — a message of a workspace can always be written, and fills its storage

Whatever steps led to a message, its user id and the lengths of its fields fit their words (`fits_envelope`), so writing
it is never refused.  The fields are written into storage that was prepared at the size of the whole form; nothing checks
there that a field fits, but each one puts its form where the one before it ends, and the last one ends with the storage
(`Envelope.Fills`).
-/
namespace PasswordGate

namespace Envelope

variable {e : Envelope}

/-- **The form fills the storage.**  However many fields have been written, the storage holds the header, their forms and
zeros behind them; it is as long as it was, and the next field takes the place of the first of the zeros.  When all have
been written there are no zeros left: what stands there is the form, and it ends with the storage. -/
structure Fills (e : Envelope) (wire : Bytes) : Prop where
  start : e.prepared = e.header ++ Bytes.zeros (Field.totalSize e.fields)
  room : ∀ before content after, e.fields = before ++ content :: after → ∃ (out : Bytes) (offset : Nat),
    Field.writeAll e.prepared headerSize before = .ok (out, offset) ∧
      out = e.header ++ Field.wires before ++ Bytes.zeros (Field.encodedSize content + Field.totalSize after) ∧
      out.length = e.encodedSize ∧ offset + Field.encodedSize content + Field.totalSize after = e.encodedSize
  full : Field.writeAll e.prepared headerSize e.fields = .ok (wire, e.encodedSize)
  form : wire = e.header ++ Field.wires e.fields

theorem fills_of_encode (hok : e.status = .ok) (hfits : e.Fits) {wire : Bytes} (hwire : e.encode = .ok wire) :
    e.Fills wire where
  start := prepared_eq hok
  room before content after hfields := by
    have hsize : e.encodedSize = headerSize + Field.totalSize before + Field.encodedSize content + Field.totalSize after := by
      rw [encodedSize_of_ok hok, hfields, Field.totalSize_append, Field.totalSize, Nat.add_assoc, Nat.add_assoc]
    have hheader : e.header.length = headerSize := rfl
    refine ⟨_, _, writeAll_prepared hok hfits hfields, rfl, ?_, hsize.symm⟩
    rw [List.length_append, List.length_append, hheader, Field.length_wires, Bytes.length_zeros, hsize, Field.totalSize]
    omega
  full := by
    have hwritten := writeAll_prepared hok hfits (List.append_nil e.fields).symm
    rw [encode_eq_writeAll hok hfits, hwritten] at hwire
    rw [hwritten, encodedSize_of_ok hok, ← Except.ok.inj hwire]
  form := by
    rw [encode_eq_wire hok hfits] at hwire
    rw [← Except.ok.inj hwire, wire_eq hok]

/-- **A message that fits is never refused**, and its form has the size that was announced: it fills the storage prepared
for it, or it is the bare status of a message that is not in order. -/
theorem exists_encode (hfits : e.Fits) : ∃ wire, e.encode = .ok wire ∧ wire.length = e.encodedSize ∧
    (e.status = .ok → e.Fills wire) ∧ (e.status = .invalid → wire = Word.bytes Status.invalid.number) := by
  cases hs : e.status with
  | ok =>
    have hwire := encode_eq_wire hs hfits
    exact ⟨e.wire, hwire, length_wire hs, fun _ => fills_of_encode hs hfits hwire, nofun⟩
  | invalid =>
    exact ⟨Word.bytes Status.invalid.number, by simp only [encode, hs]; rfl, by simp only [encodedSize, hs]; rfl, nofun,
      fun _ => rfl⟩

end Envelope

namespace Workspace

variable {w : Workspace}

theorem run_find_message {name : String} {m : MessageId} (hname : w.messages.lookup name = some m) :
    (Act.find (·.message name)).run w = (.ok m, w) := by
  rw [Act.run_find, message, hname]

theorem run_size (htidy : ∀ b, b ∉ w.reachable → w.store.buffer b = {}) {name : String} {m : MessageId}
    (hname : w.messages.lookup name = some m) :
    w.run (.size name) = (.ok (.number (w.store.envelope m).encodedSize), w) := by
  have hperform : (Act.perform (.size name)).run w = (.ok (.number (w.store.envelope m).encodedSize), w) :=
    Running.run_bind_of_ok (run_find_message hname)
  unfold run outcome
  rw [hperform]
  exact Prod.ext rfl (collect_of_tidy htidy)

/-- **A step that serializes changes nothing but the blobs**, where the form may be kept under a name. -/
theorem run_serialize (htidy : ∀ b, b ∉ w.reachable → w.store.buffer b = {}) {name : String} {m : MessageId}
    (hname : w.messages.lookup name = some m) {wire : Bytes} (hwire : w.store.serialize m = .ok wire)
    (blob : Option String) : ∃ blobs, w.run (.serialize name blob) = (.ok (.bytes wire), { w with blobs := blobs }) := by
  obtain ⟨blobs, hperform⟩ : ∃ blobs, (Act.perform (.serialize name blob)).run w =
      (.ok (.bytes wire), { w with blobs := blobs }) := by
    show ∃ blobs, (Act.find (·.message name) >>= fun m => _ : Act Answer).run w = _
    rw [Running.run_bind_of_ok (run_find_message hname),
      Running.run_bind_of_ok (show (get : Act Workspace).run w = (.ok w, w) from rfl), hwire,
      Running.run_bind_of_ok (show (Act.ofCodec (.ok wire)).run w = (.ok wire, w) from rfl)]
    cases blob with
    | none => exact ⟨w.blobs, rfl⟩
    | some blob => exact ⟨rebind w.blobs blob wire, rfl⟩
  refine ⟨blobs, ?_⟩
  unfold run outcome
  rw [hperform]
  exact Prod.ext rfl (collect_of_tidy htidy)

/-- **Serialization cannot fail or overrun.**  After any run of steps, refused or not, a named message has a user id and
field lengths that fit their words, and writing it gives a form of exactly the size that was announced.  If the message is
in order, the header, the forms of its fields and nothing else fill the storage prepared for them, which never gets longer;
if not, its form is its status alone.  Nothing but the blobs has changed then, and writing the message again gives the same
form. -/
theorem serialize_answers (steps : List Step) (name : String) (m : MessageId)
    (hname : (Workspace.runs {} steps).messages.lookup name = some m) :
    let w := Workspace.runs {} steps
    (w.store.envelope m).Fits ∧ w.run (.size name) = (.ok (.number (w.store.envelope m).encodedSize), w) ∧
    ∃ wire : Bytes, wire.length = (w.store.envelope m).encodedSize ∧
      ((w.store.envelope m).status = .ok → (w.store.envelope m).Fills wire) ∧
      ((w.store.envelope m).status = .invalid → wire = Word.bytes Status.invalid.number) ∧
      ∀ blob, ∃ blobs, w.run (.serialize name blob) = (.ok (.bytes wire), { w with blobs := blobs }) ∧
        ∀ again, ∃ blobs', ({ w with blobs := blobs } : Workspace).run (.serialize name again) =
          (.ok (.bytes wire), { w with blobs := blobs' }) := by
  intro w
  have h : w.Sound := sound_runs steps sound_empty
  have htidy : ∀ b, b ∉ w.reachable → w.store.buffer b = {} := buffer_runs steps fun _ _ => rfl
  have hfits := Store.fits_envelope h.store m
  obtain ⟨wire, hwire, hlength, hfills, hrefusal⟩ := Envelope.exists_encode hfits
  refine ⟨hfits, run_size htidy hname, wire, hlength, hfills, hrefusal, fun blob => ?_⟩
  obtain ⟨blobs, hrun⟩ := run_serialize htidy hname hwire blob
  exact ⟨blobs, hrun, fun again => run_serialize (w := { w with blobs := blobs }) htidy hname hwire again⟩

/-- A refused user id and a decoding that stopped at its second field lie behind this message, which was then set in
order again: its user id is the decoded one, its first field what was read, and its second one is empty. -/
theorem serialize_answers_verifyRequest :
    let steps : List Step := [.construct "m" .verifyRequest 0 7 [.data [1, 2]], .setUserId "m" 4294967296,
      .deserialize "m" (.data [0, 0, 0, 0, 9, 0, 0, 0, 1, 0, 0, 0, 255, 5]) none 64, .setStatus "m" 0]
    ∃ blobs, (Workspace.runs {} steps).run (.serialize "m" (some "kept")) =
      (.ok (.bytes [0, 0, 0, 0, 9, 0, 0, 0, 1, 0, 0, 0, 255, 0, 0, 0, 0]),
        { Workspace.runs {} steps with blobs := blobs }) := by
  intro steps
  obtain ⟨-, -, wire, -, hfills, -, hserialize⟩ := serialize_answers steps "m" 0 (by decide +kernel)
  obtain rfl : wire = [0, 0, 0, 0, 9, 0, 0, 0, 1, 0, 0, 0, 255, 0, 0, 0, 0] :=
    (hfills (by decide +kernel)).form.trans (by decide +kernel)
  obtain ⟨blobs, hrun, -⟩ := hserialize (some "kept")
  exact ⟨blobs, hrun⟩

end Workspace
end PasswordGate
