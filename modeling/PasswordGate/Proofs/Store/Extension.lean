import PasswordGate.Proofs.Inspect.Redaction
import PasswordGate.Proofs.Store.RoundTrip
import PasswordGate.Proofs.Store.Window
/-!
# Extension — a kind with further fields has a longer wire form

A kind that extends another has the other's fields first, and its own behind them (`Kind.Extends`).  So a message of such
a kind is written as what a message of the other kind would be written as, with the forms of its own fields behind it; and
a reader that knows only the other kind reads what that one would say (`Envelope.readAs`), and does not see the rest.
-/
namespace PasswordGate

/-- **A kind that extends another by further fields**: its fields are those of the extension; the title, the constructor
and the setters are its own. -/
structure Kind.Extends (child parent : Kind) (own : List String) : Prop where
  distinct : (parent.fields ++ own).Nodup
  fields_eq : child.fields = (parent.extend child.title own distinct).fields

theorem Kind.extends_extend {parent : Kind} {title : String} {own : List String} (distinct : (parent.fields ++ own).Nodup) :
    (parent.extend title own distinct).Extends parent own := ⟨distinct, rfl⟩

theorem Field.wires_append : ∀ contents more : List Bytes, wires (contents ++ more) = wires contents ++ wires more
  | [], _ => rfl
  | content :: rest, more => by rw [List.cons_append, wires, wires, wires_append rest more, List.append_assoc]

namespace Envelope

variable {e : Envelope} {parent : Kind} {own : List String}

/-- **What a message says to a reader of another kind**: the same, with the fields that this kind has. -/
def readAs (e : Envelope) (kind : Kind) : Envelope := { e with kind := kind, fields := kind.fields.filterMap e.field? }

/-- The fields of a message, looked up by their names in wire order, are all there. -/
theorem map_field? (hcount : e.fields.length = e.kind.fields.length) : e.kind.fields.map e.field? = e.fields.map some := by
  apply List.ext_getElem?
  intro position
  rw [List.getElem?_map, List.getElem?_map]
  cases hname : e.kind.fields[position]? with
  | none =>
    have hout : e.fields[position]? = none := by
      rw [List.getElem?_eq_none_iff, hcount]
      exact List.getElem?_eq_none_iff.1 hname
    rw [hout]
    rfl
  | some name =>
    have hlt : position < e.fields.length := hcount ▸ (List.getElem?_eq_some_iff.1 hname).1
    have hfield := field?_of_getElem? hname
    rw [Option.map_some, hfield, List.getElem?_eq_getElem hlt, Option.map_some]

theorem filterMap_of_map {names : List String} {contents : List Bytes} (h : contents.map some = names.map e.field?) :
    names.filterMap e.field? = contents := by
  have hvalues := congrArg (List.filterMap id) h
  simpa [List.filterMap_map, Function.comp_def] using hvalues.symm

/-- **The fields of a message of an extended kind** are those that the other kind has, and then its own. -/
theorem fields_of_extends (hextends : e.kind.Extends parent own) (hcount : e.fields.length = e.kind.fields.length) :
    e.fields = (e.readAs parent).fields ++ own.filterMap e.field? ∧
      (e.readAs parent).fields.length = parent.fields.length := by
  have hkind : e.kind.fields = parent.fields ++ own := hextends.fields_eq
  have hmap : e.fields.map some = parent.fields.map e.field? ++ own.map e.field? := by
    rw [← List.map_append, ← hkind, map_field? hcount]
  obtain ⟨shared, others, hfields, hshared, hothers⟩ := List.map_eq_append_iff.1 hmap
  have hread : (e.readAs parent).fields = shared := filterMap_of_map hshared
  rw [hread, filterMap_of_map hothers]
  exact ⟨hfields, by simpa using congrArg List.length hshared⟩

/-- **An extended message is written as the shorter one, and then its own fields.** -/
theorem wire_of_extends (hextends : e.kind.Extends parent own) (hcount : e.fields.length = e.kind.fields.length) :
    e.wire = (e.readAs parent).wire ++ Field.wires (own.filterMap e.field?) := by
  have hfields := (fields_of_extends hextends hcount).1
  rw [wire, hfields, Field.wires_append, ← List.append_assoc]
  rfl

theorem fits_readAs (hfits : e.Fits) (kind : Kind) : (e.readAs kind).Fits where
  userId_le := hfits.userId_le
  length_le content hcontent := by
    obtain ⟨name, -, hfield⟩ := List.mem_filterMap.1 hcontent
    obtain ⟨position, -, hposition⟩ := Option.bind_eq_some_iff.1 hfield
    exact hfits.length_le content (List.mem_of_getElem? hposition)

end Envelope

namespace Workspace

/-- **Extending a kind extends its wire form.**  Take a message in order of a kind that extends another, with a user id and
lengths that fit.  Whatever message of whatever store says it is written as the message that a reader of the other kind
sees would be written, with the forms of the further fields behind it.  And after any run of steps, a named message of the
other kind that decodes the longer form is in order and says what such a reader sees: the same user id, and the contents
of the fields that it has. -/
theorem extension_appends (steps : List Step) (name : String) (m : MessageId) (parent : Kind) (own : List String)
    (e : Envelope) (limit : Int) (hname : (Workspace.runs {} steps).messages.lookup name = some m)
    (hkind : ((Workspace.runs {} steps).store.message m).kind = parent) (hextends : e.kind.Extends parent own)
    (hcount : e.fields.length = e.kind.fields.length) (hok : e.status = .ok) (hfits : e.Fits)
    (hlimit : ∀ field ∈ parent.fields, ∀ content, e.field? field = some content → (content.length : Int) ≤ limit) :
    ∃ wire : Bytes,
      (∀ source m', Store.envelope source m' = e.readAs parent → source.serialize m' = .ok wire) ∧
      (∀ source m', Store.envelope source m' = e →
        source.serialize m' = .ok (wire ++ Field.wires (own.filterMap e.field?))) ∧
      ∃ after : Workspace, (Workspace.runs {} steps).run
          (.deserialize name (.data (wire ++ Field.wires (own.filterMap e.field?))) none limit) =
            (.ok (.status .ok), after) ∧
        after.store.envelope m = e.readAs parent := by
  have h : (Workspace.runs {} steps).Sound := sound_runs steps sound_empty
  have hm : m < (Workspace.runs {} steps).store.messages.length := h.message_lt _ (mem_of_lookup hname)
  have hread : (e.readAs parent).Fits := Envelope.fits_readAs hfits parent
  have hwire : (e.readAs parent).encode = .ok (e.readAs parent).wire := Envelope.encode_eq_wire hok hread
  have hlimits : ∀ content ∈ (e.readAs parent).fields, (content.length : Int) ≤ limit := fun content hcontent => by
    obtain ⟨field, hfield, hvalue⟩ := List.mem_filterMap.1 hcontent
    exact hlimit field hfield content hvalue
  have hdecodes : ∃ s, s.envelope m = e.readAs parent ∧ ∀ trailing,
      (Workspace.runs {} steps).store.deserialize m ((e.readAs parent).wire ++ trailing) none limit = .ok s :=
    Store.deserialize_wire_append h.store hm hok hread hkind (Envelope.fields_of_extends hextends hcount).2 hlimits
  obtain ⟨s, henvelope, hdecode⟩ := hdecodes
  have hs := hdecode (Field.wires (own.filterMap e.field?))
  refine ⟨(e.readAs parent).wire, fun source m' hsource => ?_, fun source m' hsource => ?_, ?_⟩
  · rw [Store.serialize, hsource, hwire]
  · rw [Store.serialize, hsource, Envelope.encode_eq_wire hok hfits, Envelope.wire_of_extends hextends hcount]
  · have hstatus : (s.envelope m).status = .ok := by rw [henvelope, Envelope.readAs, hok]
    refine ⟨_, (run_deserialize_ok_iff hname).2 ⟨s, hs, hstatus, rfl⟩, ?_⟩
    rw [envelope_collect_of_deserialize h hname hs, henvelope]

/-- Two fields, and a third that another kind adds; the reader was marked before, and held other contents. -/
theorem extension_appends_third :
    let pair := Kind.base.extend "Pair" ["first", "second"] (by decide)
    let triple := pair.extend "Triple" ["third"] (by decide)
    let shorter : Envelope := { kind := pair, userId := 9, fields := [[255], []] }
    let longer : Envelope := { kind := triple, userId := 9, fields := [[255], [], [1, 2]] }
    let steps := [.construct "m" pair 1 7 [], .setField "m" "second" (.data [3]) false]
    ∃ wire : Bytes, (∀ source m', Store.envelope source m' = shorter → source.serialize m' = .ok wire) ∧
      (∀ source m', Store.envelope source m' = longer → source.serialize m' = .ok (wire ++ [2, 0, 0, 0, 1, 2])) ∧
      ∃ after : Workspace, (Workspace.runs {} steps).run (.deserialize "m" (.data (wire ++ [2, 0, 0, 0, 1, 2])) none 1) =
          (.ok (.status .ok), after) ∧ after.store.envelope 0 = shorter := by
  intro pair triple shorter longer steps
  have hshorter : longer.readAs pair = shorter := by decide
  have hlimit : ∀ field ∈ pair.fields, ∀ content, longer.field? field = some content → (content.length : Int) ≤ 1 := by
    have hshort : ∀ content ∈ shorter.fields, (content.length : Int) ≤ 1 := by decide
    exact fun field hfield content hcontent => hshort content (hshorter ▸ List.mem_filterMap.2 ⟨field, hfield, hcontent⟩)
  have h := extension_appends steps "m" 0 pair ["third"] longer 1 (by decide) (by decide) (Kind.extends_extend _) rfl rfl
    ⟨by decide, by decide⟩ hlimit
  rw [hshorter] at h
  exact h

end Workspace
end PasswordGate
