import PasswordGate.Device.Authenticator
import PasswordGate.Inspect.Snapshot
import PasswordGate.Proofs.Codec.Layout
/-!
# Redaction — a snapshot tells nothing of a password but its length

Two decoded messages are the same but for their passwords (`Envelope.SameButPassword`) when neither is in order, or both
are, with the same user id, fields of the same lengths, and the same content in every field that is no password.  Their
snapshots are the same (`ofEnvelope_sameButPassword`).  So data of one length that decode to such messages are summarised
alike, and writing over the octets of a password changes nothing (`build_redacts`).
-/
namespace PasswordGate

theorem Kind.mem_table {name : String} {kind : Kind} (h : table.lookup name = some kind) : (name, kind) ∈ table := by
  obtain ⟨before, after, htable, -⟩ := List.lookup_eq_some_iff.1 h
  rw [htable]
  exact List.mem_append_right _ List.mem_cons_self

/-- A field stands where its name does, since no name is there twice. -/
theorem Kind.position?_eq_some_iff {kind : Kind} {position : Nat} {name : String} :
    kind.position? name = some position ↔ kind.fields[position]? = some name := by
  unfold position?
  rw [List.findIdx?_eq_some_iff_getElem, List.getElem?_eq_some_iff]
  constructor
  · rintro ⟨hlt, hname, -⟩
    exact ⟨hlt, beq_iff_eq.1 hname⟩
  · rintro ⟨hlt, hname⟩
    refine ⟨hlt, beq_iff_eq.2 hname, fun earlier hearlier hsame => ?_⟩
    have hindex := (List.getElem_inj kind.distinct).1 ((beq_iff_eq.1 hsame).trans hname.symm)
    exact Nat.ne_of_lt hearlier hindex

namespace Envelope

/-- **Messages that are the same but for their passwords**: neither is in order, or both are, and say the same besides the
contents of passwords, which are equally long. -/
inductive SameButPassword (e e' : Envelope) : Prop
  | invalid (hstatus : e.status = .invalid) (hstatus' : e'.status = .invalid)
  | ok (hstatus : e.status = .ok) (hstatus' : e'.status = .ok) (huser : e.userId = e'.userId)
      (hlengths : e.fields.map List.length = e'.fields.map List.length)
      (hothers : ∀ name, name ≠ passwordField → e.field? name = e'.field? name)

theorem field?_of_getElem? {e : Envelope} {position : Nat} {name : String} (h : e.kind.fields[position]? = some name) :
    e.field? name = e.fields[position]? := by
  unfold field?
  rw [Kind.position?_eq_some_iff.2 h]
  rfl

/-- **Writing over a password** leaves a message that is the same but for it. -/
theorem sameButPassword_overwritten {e : Envelope} {position : Nat} {content other : Bytes} (hstatus : e.status = .ok)
    (hposition : e.kind.position? passwordField = some position) (hfield : e.fields[position]? = some content)
    (hlength : other.length = content.length) : e.SameButPassword (e.overwritten position other) := by
  obtain ⟨hlt, hcontent⟩ := List.getElem?_eq_some_iff.1 hfield
  refine .ok hstatus hstatus rfl ?_ fun name hname => ?_
  · have hsame : e.fields.set position content = e.fields := by
      rw [← hcontent]
      exact List.set_getElem_self hlt
    rw [overwritten, List.map_set, hlength, ← List.map_set, hsame]
  · unfold field? overwritten
    dsimp only
    cases hplace : e.kind.position? name with
    | none => rfl
    | some place =>
      have hne : position ≠ place := by
        intro hsame
        have hthere := Kind.position?_eq_some_iff.1 hplace
        rw [← hsame, Kind.position?_eq_some_iff.1 hposition] at hthere
        exact hname (Option.some.inj hthere).symm
      exact (List.getElem?_set_ne hne).symm

end Envelope

namespace FieldSnapshot

/-- **A password is shown by its length alone.** -/
theorem of_password {content other : Bytes} (hlength : content.length = other.length) :
    of passwordField content = of passwordField other := by
  unfold of
  rw [hlength, if_pos (by decide), if_pos (by decide)]

end FieldSnapshot

namespace Snapshot

variable {e e' : Envelope}

/-- Fields are summarised alike if they are equally long, and the same unless they are passwords. -/
theorem fields_eq (hkind : e.kind = e'.kind) (hlengths : e.fields.map List.length = e'.fields.map List.length)
    (hothers : ∀ name, name ≠ passwordField → e.field? name = e'.field? name) :
    List.zipWith FieldSnapshot.of e.kind.fields e.fields = List.zipWith FieldSnapshot.of e'.kind.fields e'.fields := by
  apply List.ext_getElem?
  intro position
  rw [List.getElem?_zipWith, List.getElem?_zipWith, ← hkind]
  cases hname : e.kind.fields[position]? with
  | none => rfl
  | some name =>
    by_cases hpassword : name = passwordField
    · have hlength : (e.fields[position]?).map List.length = (e'.fields[position]?).map List.length := by
        have hat := congrArg (·[position]?) hlengths
        simpa only [List.getElem?_map] using hat
      obtain ⟨hnone, hnone'⟩ | ⟨content, content', hsome, hsome', hcontent⟩ := Bytes.lengths_cases hlength
      · rw [hnone, hnone']
      · rw [hsome, hsome', hpassword]
        exact congrArg some (FieldSnapshot.of_password hcontent)
    · have hsame := hothers name hpassword
      rw [Envelope.field?_of_getElem? hname, Envelope.field?_of_getElem? (hkind ▸ hname)] at hsame
      rw [hsame]

/-- **Messages that are the same but for their passwords have one snapshot.** -/
theorem ofEnvelope_sameButPassword (name : String) (rawLength : Nat) (hkind : e.kind = e'.kind) (h : e.SameButPassword e') :
    ofEnvelope name rawLength e = ofEnvelope name rawLength e' := by
  unfold ofEnvelope
  cases h with
  | invalid hstatus hstatus' => rw [hstatus, hstatus']
  | ok hstatus hstatus' huser hlengths hothers =>
    have hfields := fields_eq hkind hlengths hothers
    rw [hstatus, hstatus', huser, hfields]

/-- Data that decode as a kind are summarised by what they decode to. -/
theorem build_of_deserialize {name : String} {kind : Kind} {raw : Bytes} (hkind : Kind.table.lookup name = some kind)
    (hdecode : (Envelope.blank kind).deserialize raw none Field.maxLength = .ok e) :
    build name raw = .ok (ofEnvelope name raw.length e) := by
  unfold build
  rw [hkind]
  dsimp only
  rw [hdecode]

theorem build_eq_of_sameButPassword {name : String} {kind : Kind} {raw raw' : Bytes}
    (hkind : Kind.table.lookup name = some kind) (hlength : raw.length = raw'.length)
    (hdecode : (Envelope.blank kind).deserialize raw none Field.maxLength = .ok e)
    (hdecode' : (Envelope.blank kind).deserialize raw' none Field.maxLength = .ok e') (h : e.SameButPassword e') :
    ∃ s, build name raw = .ok s ∧ build name raw' = .ok s := by
  obtain ⟨hshape, -⟩ := Envelope.shape_of_deserialize hdecode
  obtain ⟨hshape', -⟩ := Envelope.shape_of_deserialize hdecode'
  have hsame := ofEnvelope_sameButPassword name raw.length (hshape.trans hshape'.symm) h
  refine ⟨ofEnvelope name raw.length e, build_of_deserialize hkind hdecode, ?_⟩
  rw [build_of_deserialize hkind hdecode', hsame, hlength]

/-- **Snapshots redact passwords.**  Data of one length are summarised, and alike, whenever they decode to messages that
are the same but for their passwords: none of them in order, or both with the same user id, fields of the same lengths and
the same content in every field but passwords, whatever follows the messages.  In particular, the password of a message in
order stands where the lengths of the fields before it say, and writing other octets over it changes nothing. -/
theorem build_redacts (name : String) (kind : Kind) (hkind : Kind.table.lookup name = some kind) :
    (∀ (raw raw' : Bytes) (e e' : Envelope), raw.length = raw'.length →
      (Envelope.blank kind).deserialize raw none Field.maxLength = .ok e →
      (Envelope.blank kind).deserialize raw' none Field.maxLength = .ok e' → e.SameButPassword e' →
      ∃ s, build name raw = .ok s ∧ build name raw' = .ok s) ∧
    ∀ (raw password other : Bytes) (e : Envelope) (position : Nat),
      (Envelope.blank kind).deserialize raw none Field.maxLength = .ok e → e.status = .ok →
      kind.position? passwordField = some position → e.fields[position]? = some password →
      other.length = password.length →
      raw.slice (e.contentStart position) (e.contentStart position + password.length) = password ∧
      ∃ s, build name raw = .ok s ∧
        build name (raw.splice (e.contentStart position) (e.contentStart position + password.length) other) = .ok s := by
  constructor
  · intro raw raw' e e' hlength hdecode hdecode' h
    exact build_eq_of_sameButPassword hkind hlength hdecode hdecode' h
  · intro raw password other e position hdecode hok hposition hfield hlength
    obtain ⟨hshape, -⟩ := Envelope.shape_of_deserialize hdecode
    have hposition' : e.kind.position? passwordField = some position := hshape ▸ hposition
    have hsame := Envelope.sameButPassword_overwritten hok hposition' hfield hlength
    obtain ⟨before, after, hbefore, hraw, hother⟩ := Envelope.exists_data_around hdecode hok hfield
    have hdecode' := hother other hlength
    have hsize : raw.length = (before ++ other ++ after).length := by
      simp only [hraw, List.length_append, hlength]
    rw [hraw, ← hbefore, Bytes.slice_around, Bytes.splice_around, ← hraw]
    exact ⟨rfl, build_eq_of_sameButPassword hkind hsize hdecode hdecode' hsame⟩

/-- A verify request with other bytes behind it, and with another password. -/
theorem build_redacts_verifyRequest : ∃ s,
    build "verify-request" [0, 0, 0, 0, 7, 0, 0, 0, 1, 0, 0, 0, 9, 2, 0, 0, 0, 1, 2, 0] = .ok s ∧
    build "verify-request" [0, 0, 0, 0, 7, 0, 0, 0, 1, 0, 0, 0, 9, 2, 0, 0, 0, 5, 6, 8] = .ok s ∧
    build "verify-request" [0, 0, 0, 0, 7, 0, 0, 0, 1, 0, 0, 0, 9, 2, 0, 0, 0, 3, 4, 0] = .ok s := by
  obtain ⟨hsame, hoverwritten⟩ := build_redacts "verify-request" .verifyRequest rfl
  let e : Envelope := { kind := .verifyRequest, userId := 7, fields := [[9], [1, 2]] }
  have hothers : e.SameButPassword (e.overwritten 1 [5, 6]) := Envelope.sameButPassword_overwritten rfl rfl rfl rfl
  obtain ⟨s, hs, hs'⟩ := hsame [0, 0, 0, 0, 7, 0, 0, 0, 1, 0, 0, 0, 9, 2, 0, 0, 0, 1, 2, 0]
    [0, 0, 0, 0, 7, 0, 0, 0, 1, 0, 0, 0, 9, 2, 0, 0, 0, 5, 6, 8] _ _ rfl rfl rfl hothers
  obtain ⟨-, t, ht, ht'⟩ := hoverwritten [0, 0, 0, 0, 7, 0, 0, 0, 1, 0, 0, 0, 9, 2, 0, 0, 0, 1, 2, 0] [1, 2] [3, 4] e 1
    rfl rfl rfl rfl rfl
  rw [hs] at ht
  cases ht
  exact ⟨s, hs, hs', ht'⟩

end Snapshot
end PasswordGate
