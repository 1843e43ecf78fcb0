import PasswordGate.Proofs.Inspect.Comparison
import PasswordGate.Proofs.Inspect.Disclosure
import PasswordGate.Proofs.Store.Construction
import PasswordGate.Proofs.Store.Workspace
/-!
# Reports — what a run of the tool says of its text

The octets of the text are decoded into a fresh message, which is looked at and then released; from then on it has nothing
left to look at (`Store.Examined`).  So it says the same in every store, which is what the tool takes its snapshot of
(`examined_of_deserialize`).  What is to be printed of a message is written out as lines (`Report.lines`) and as a JSON value
(`Report.json`); a run prints the lines, or a text that is read as that value, or it complains that the text spells no octets
(`run_reports`).
-/
namespace PasswordGate

namespace Store

variable {s : Store} {kind : Kind} {raw : Bytes} {e : Envelope}

/-- **What a fresh message makes of data**: it is made in a store and given them, and then says `e`; once it is released
its fields are empty. -/
def Examined (s : Store) (kind : Kind) (raw : Bytes) (e : Envelope) : Prop :=
  ∃ m opened read, s.construct kind Status.ok.number 0 [] = .ok (m, opened) ∧
    opened.deserialize m raw none Field.maxLength = .ok read ∧ read.envelope m = e ∧
    (read.releaseMessage m).envelope m = { e with fields := List.replicate e.fields.length [] }

/-- A fresh message makes of data what a blank one does. -/
theorem examined_of_deserialize (h : s.Sound)
    (hdecode : (Envelope.blank kind).deserialize raw none Field.maxLength = .ok e) : s.Examined kind raw e := by
  obtain ⟨opened, hmade, hblank⟩ := construct_nil h kind
  obtain ⟨hreach, hm⟩ := reaches_construct h hmade
  have hopened : opened.Sound := Reaches.sound hreach h
  obtain ⟨cause, -, hcause⟩ | ⟨read, hread, henvelope, -⟩ := deserialize_refines hopened hm raw none Field.maxLength
  · rw [hblank, hdecode] at hcause
    cases hcause
  · rw [hblank, hdecode] at henvelope
    obtain rfl := Except.ok.inj henvelope
    have hreleased := envelope_releaseMessage (Reaches.sound (reaches_deserialize hopened hread) hopened)
      s.messages.length s.messages.length
    rw [if_pos rfl] at hreleased
    exact ⟨_, opened, read, hmade, hread, rfl, hreleased⟩

end Store

/-! ## What is to be printed -/

namespace Report

/-- The first sixteen digits of the digest of a field's content; of a password there are none. -/
def fingerprint? (field : String) (content : Bytes) : Option String :=
  if field = "provided_password" then none else some (String.ofList ((Hex.encode (Sha256.digest content)).take 16))

/-- The line of a field: its name, how long its content is, and its fingerprint if there is one. -/
def fieldLine (field : String) (content : Bytes) : String :=
  field ++ ": len=" ++ toString content.length ++ (fingerprint? field content).elim "" (" sha256=" ++ ·)

/-- **The lines of a report**: the kind and the number of octets that came in, then that the message is not in order, and
nothing else; or that it is, with its user id and a line for each of its fields in wire order. -/
def lines (name : String) (raw : Bytes) (e : Envelope) : List String :=
  ["[MessageDebug] --- Snapshot ---", "kind=" ++ name, "raw_len=" ++ toString raw.length] ++
    match e.status with
    | .invalid => ["status=INVALID"]
    | .ok => ["status=OK", "user_id=" ++ toString e.userId] ++ List.zipWith fieldLine e.kind.fields e.fields

def fieldJson (field : String) (content : Bytes) : Json :=
  .object [("name", .text field), ("length", .int content.length),
    ("fingerprint", (fingerprint? field content).elim .null .text)]

/-- **A report in JSON**, with the same in it; what is not told is null, or a row without items. -/
def json (name : String) (raw : Bytes) (e : Envelope) : Json :=
  .object ([("kind", .text name), ("raw_length", .int raw.length)] ++
    match e.status with
    | .invalid => [("status", .text "INVALID"), ("user_id", .null), ("fields", .array [])]
    | .ok => [("status", .text "OK"), ("user_id", .int e.userId),
        ("fields", .array (List.zipWith fieldJson e.kind.fields e.fields))])

end Report

namespace FieldSnapshot

theorem of_eq (field : String) (content : Bytes) :
    of field content = ⟨field, content.length, Report.fingerprint? field content⟩ := by
  have hcontains : lengthOnly.contains field = true ↔ field = "provided_password" := by
    simp [lengthOnly]
  simp only [of, hcontains]
  rfl

theorem line_of (field : String) (content : Bytes) : (of field content).line = Report.fieldLine field content := by
  have hlength : field ++ s!": len={content.length}" = field ++ ": len=" ++ toString content.length :=
    String.append_assoc.symm
  rw [of_eq, line, Report.fieldLine, ← hlength]
  cases Report.fingerprint? field content <;> rfl

theorem toJson_of (field : String) (content : Bytes) : (of field content).toJson = Report.fieldJson field content := by
  rw [of_eq, toJson, Report.fieldJson]
  cases Report.fingerprint? field content <;> rfl

end FieldSnapshot

namespace Snapshot

/-- **The lines of a snapshot are those of the report** on the message that it was taken of. -/
theorem lines_ofEnvelope (name : String) (raw : Bytes) (e : Envelope) :
    (ofEnvelope name raw.length e).lines = Report.lines name raw e := by
  rw [lines_eq, ofEnvelope, Report.lines]
  cases e.status with
  | invalid => rfl
  | ok =>
    have hfields : (List.zipWith FieldSnapshot.of e.kind.fields e.fields).map FieldSnapshot.line =
        List.zipWith Report.fieldLine e.kind.fields e.fields := by
      rw [List.map_zipWith]
      simp only [FieldSnapshot.line_of]
    rw [← hfields]
    rfl

theorem toJson_ofEnvelope (name : String) (raw : Bytes) (e : Envelope) :
    (ofEnvelope name raw.length e).toJson = Report.json name raw e := by
  rw [toJson, ofEnvelope, Report.json]
  cases e.status with
  | invalid => rfl
  | ok =>
    have hfields : (List.zipWith FieldSnapshot.of e.kind.fields e.fields).map FieldSnapshot.toJson =
        List.zipWith Report.fieldJson e.kind.fields e.fields := by
      rw [List.map_zipWith]
      simp only [FieldSnapshot.toJson_of]
    rw [← hfields]
    rfl

theorem status_ofEnvelope (name : String) (rawLength : Nat) (e : Envelope) :
    (ofEnvelope name rawLength e).status = e.status := by
  unfold ofEnvelope
  split <;> simp_all

end Snapshot

namespace Command

open Arguments (words)

variable {name text : String} {kind : Kind}

theorem plain_table : ∀ entry ∈ Kind.table, Arguments.Plain entry.1 := by decide

theorem mem_kinds (h : (name, kind) ∈ Kind.table) : name ∈ kinds := by
  rw [kinds, List.mem_mergeSort]
  exact List.mem_map_of_mem h

/-- A text that spells octets has their snapshot printed. -/
theorem execute_of_parse {raw : Bytes} {e : Envelope} (hkind : Kind.table.lookup name = some kind)
    (hparse : HexText.parse text = .ok raw)
    (hdecode : (Envelope.blank kind).deserialize raw none Field.maxLength = .ok e) (json : Bool) :
    execute { kind := name, text := text, json := json } =
      .ok { exit := if (Snapshot.ofEnvelope name raw.length e).status = .ok then 0 else 1
            stdout := (if json then (Snapshot.ofEnvelope name raw.length e).json
              else (Snapshot.ofEnvelope name raw.length e).render) ++ "\n" } := by
  unfold execute
  dsimp only
  rw [hparse]
  dsimp only
  rw [Snapshot.build_of_deserialize hkind hdecode]

/-- **A run on a known kind and a text** carries out the request that they make. -/
theorem run_known (hkind : Kind.table.lookup name = some kind) (htext : Arguments.Plain text) (place : Option (Fin 3)) :
    run (words name text place) = execute { kind := name, text := text, json := place.isSome } := by
  have hmem := Kind.mem_table hkind
  exact run_positionals (mem_kinds hmem) (plain_table _ hmem) htext place

/-- **The octets of a text are reported**, wherever the option for JSON stands. -/
theorem run_spelled (hkind : Kind.table.lookup name = some kind) (htext : Arguments.Plain text) {raw : Bytes}
    (hraw : HexText.Spells (HexText.compact text.toList) raw) : ∃ (e : Envelope) (json : String),
      (∀ steps : List Step, (Workspace.runs {} steps).store.Examined kind raw e) ∧ e.kind = kind ∧
      e.fields.length = kind.fields.length ∧ Json.read? json = some (Report.json name raw e) ∧
      ∀ place : Option (Fin 3), run (words name text place) =
        .ok { exit := if e.status = .ok then 0 else 1
              stdout := (if place.isSome then json else "\n".intercalate (Report.lines name raw e)) ++ "\n"
              stderr := "" } := by
  obtain ⟨e, hdecode⟩ := Envelope.exists_deserialize (Envelope.blank kind) raw Field.maxLength
  obtain ⟨hkept, hblank⟩ := Envelope.shape_of_deserialize hdecode
  have hcount : e.fields.length = kind.fields.length := by rw [hblank, Envelope.blank, List.length_map]
  refine ⟨e, (Snapshot.ofEnvelope name raw.length e).json, fun steps => ?_, hkept, hcount, ?_, fun place => ?_⟩
  · exact Store.examined_of_deserialize (Workspace.sound_runs steps Workspace.sound_empty).store hdecode
  · rw [Snapshot.read?_json, Snapshot.toJson_ofEnvelope]
  · rw [run_known hkind htext, execute_of_parse hkind (HexText.parse_eq_ok_iff.2 hraw) hdecode, Snapshot.status_ofEnvelope,
      Snapshot.render, Snapshot.lines_ofEnvelope]

/-- **A run reports what the decoder sees.**  A known kind and a text that does not start with a dash are given, with the
option for JSON at any place or without it.  The run ends with 2 and a complaint, the same for all of these, exactly if the
text spells no octets.  Of a text that spells some, all of them report what a fresh message of the kind makes of the octets
in any workspace, and write nothing to the error stream: without the option the lines of the report are printed, with it a
text that is read as the report in JSON.  They end with 0 if that message is in order and with 1 if it is not. -/
theorem run_reports (name : String) (kind : Kind) (text : String) (hkind : Kind.table.lookup name = some kind)
    (htext : Arguments.Plain text) :
    (∃ complaint : String, ∀ place : Option (Fin 3), run (words name text place) =
        .ok { exit := 2, stdout := "", stderr := "error: " ++ complaint } ↔
      ∀ raw, ¬ HexText.Spells (HexText.compact text.toList) raw) ∧
    ∀ raw, HexText.Spells (HexText.compact text.toList) raw → ∃ (e : Envelope) (json : String),
      (∀ steps : List Step, (Workspace.runs {} steps).store.Examined kind raw e) ∧ e.kind = kind ∧
      e.fields.length = kind.fields.length ∧ Json.read? json = some (Report.json name raw e) ∧
      ∀ place : Option (Fin 3), run (words name text place) =
        .ok { exit := if e.status = .ok then 0 else 1
              stdout := (if place.isSome then json else "\n".intercalate (Report.lines name raw e)) ++ "\n"
              stderr := "" } := by
  refine ⟨?_, fun raw hraw => run_spelled hkind htext hraw⟩
  obtain ⟨hspells, hrefused, -⟩ := HexText.parse_spelled text
  cases hparse : HexText.parse text with
  | error cause =>
    refine ⟨cause.message ++ "\n", fun place => iff_of_true ?_ (hrefused.1 ⟨cause, hparse⟩)⟩
    rw [run_known hkind htext, execute, hparse]
    simp only [String.append_assoc]
  | ok raw =>
    have hraw := (hspells raw).1 hparse
    obtain ⟨e, json, -, -, -, -, hends⟩ := run_spelled hkind htext hraw
    refine ⟨"", fun place => iff_of_false (fun h => ?_) fun hnone => hnone raw hraw⟩
    rw [hends] at h
    have hexit := congrArg Outcome.exit (Except.ok.inj h)
    dsimp only at hexit
    split at hexit <;> cases hexit

/-- A verify request in blocks of eight digits, with an octet behind it: its handle has a fingerprint, its password none. -/
theorem run_reports_verifyRequest :
    run ["verify-request", "00000000 07000000 01000000 09010000 0061FF"] =
      .ok { exit := 0
            stdout := "[MessageDebug] --- Snapshot ---\nkind=verify-request\nraw_len=19\nstatus=OK\nuser_id=7\n" ++
              "password_handle: len=1 sha256=2b4c342f5433ebe5\nprovided_password: len=1\n"
            stderr := "" } ∧
    ∃ json, run ["verify-request", "--json", "00000000 07000000 01000000 09010000 0061FF"] =
        .ok { exit := 0, stdout := json ++ "\n", stderr := "" } ∧
      Json.read? json = some (.object [("kind", .text "verify-request"), ("raw_length", .int 19), ("status", .text "OK"),
        ("user_id", .int 7), ("fields", .array [
          .object [("name", .text "password_handle"), ("length", .int 1), ("fingerprint", .text "2b4c342f5433ebe5")],
          .object [("name", .text "provided_password"), ("length", .int 1), ("fingerprint", .null)]])]) := by
  have hraw : HexText.Spells (HexText.compact "00000000 07000000 01000000 09010000 0061FF".toList)
      [0, 0, 0, 0, 7, 0, 0, 0, 1, 0, 0, 0, 9, 1, 0, 0, 0, 0x61, 0xff] := HexText.parse_eq_ok_iff.1 rfl
  obtain ⟨-, hreports⟩ := run_reports "verify-request" .verifyRequest "00000000 07000000 01000000 09010000 0061FF" rfl
    (by decide)
  obtain ⟨e, json, hexamined, -, -, hread, hruns⟩ := hreports _ hraw
  obtain ⟨m, opened, read, hmade, hread', hsaid, -⟩ := hexamined []
  have hm : (m, opened) = _ := (Except.ok.inj hmade).symm
  cases hm
  cases hread'
  obtain rfl : e = { kind := .verifyRequest, userId := 7, fields := [[9], [0x61]] } := hsaid.symm
  have hdigits : Report.fingerprint? "password_handle" [9] = some "2b4c342f5433ebe5" := by decide +kernel
  have hlines : "\n".intercalate (Report.lines "verify-request" [0, 0, 0, 0, 7, 0, 0, 0, 1, 0, 0, 0, 9, 1, 0, 0, 0, 0x61, 0xff]
      { kind := .verifyRequest, userId := 7, fields := [[9], [0x61]] }) ++ "\n" =
      "[MessageDebug] --- Snapshot ---\nkind=verify-request\nraw_len=19\nstatus=OK\nuser_id=7\n" ++
        "password_handle: len=1 sha256=2b4c342f5433ebe5\nprovided_password: len=1\n" := by decide +kernel
  have hhandle : Report.fieldJson "password_handle" [9] =
      .object [("name", .text "password_handle"), ("length", .int 1), ("fingerprint", .text "2b4c342f5433ebe5")] := by
    rw [Report.fieldJson, hdigits]
    rfl
  refine ⟨?_, json, hruns (some 1), hread.trans ?_⟩
  · rw [← hlines]
    exact hruns none
  · rw [← hhandle]
    rfl

end Command
end PasswordGate
