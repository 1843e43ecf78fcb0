import PasswordGate.Proofs.Inspect.Redaction
import PasswordGate.Proofs.Json.RoundTrip
/-!
# Comparison — two snapshots are compared by their texts

In JSON, a snapshot shows all that it holds, so two of them are told apart by reading it back (`Snapshot.json_inj`).  As
lines they are told apart if names and fingerprints keep to their places (`Snapshot.Lined`): no line feed in any of them,
and no colon in the name of a field.  Then the text ends each line where it seems to, the line of a user id is not that of a
field, and each line is told by what it shows (`Snapshot.Lined.render_inj`).  What is summarised from data is lined
(`lined_of_build`), so its two texts tell the same snapshots apart (`texts_eq_iff`).
-/
namespace PasswordGate

namespace Status

theorem label_inj {status status' : Status} (h : status.label = status'.label) : status = status' := by
  cases status <;> cases status' <;> first | rfl | exact absurd h (by decide)

end Status

/-! ## As JSON -/

namespace FieldSnapshot

variable {f f' : FieldSnapshot}

theorem toJson_inj (h : f.toJson = f'.toJson) : f = f' := by
  obtain ⟨name, length, fingerprint⟩ := f
  obtain ⟨name', length', fingerprint'⟩ := f'
  cases fingerprint <;> cases fingerprint' <;> simp_all [toJson]

theorem genuine_toJson (f : FieldSnapshot) : f.toJson.Genuine ∧ f.toJson.recovered = f.toJson := by
  obtain ⟨name, length, fingerprint⟩ := f
  cases fingerprint <;> exact ⟨⟨trivial, trivial, trivial, trivial⟩, rfl⟩

theorem genuine_toJson_all : ∀ fields : List FieldSnapshot,
    Json.GenuineItems (fields.map toJson) ∧ Json.recoveredItems (fields.map toJson) = fields.map toJson
  | [] => ⟨trivial, rfl⟩
  | f :: fields => by
    obtain ⟨hgenuine, hrecovered⟩ := genuine_toJson f
    obtain ⟨hrest, hrestRecovered⟩ := genuine_toJson_all fields
    refine ⟨⟨hgenuine, hrest⟩, ?_⟩
    rw [List.map_cons, Json.recoveredItems, hrecovered, hrestRecovered]

end FieldSnapshot

namespace Snapshot

variable {s s' : Snapshot}

theorem toJson_inj (h : s.toJson = s'.toJson) : s = s' := by
  obtain ⟨kind, rawLength, status, userId, fields⟩ := s
  obtain ⟨kind', rawLength', status', userId', fields'⟩ := s'
  simp only [toJson, Json.object.injEq, List.cons.injEq, Prod.mk.injEq, Json.text.injEq, Json.int.injEq, Json.array.injEq,
    true_and, and_true, Int.natCast_inj] at h
  obtain ⟨rfl, rfl, hstatus, huser, hfields⟩ := h
  obtain rfl := Status.label_inj hstatus
  obtain rfl := (List.map_inj_right fun _ _ => FieldSnapshot.toJson_inj).1 hfields
  cases userId <;> cases userId' <;> simp_all

/-- A snapshot's JSON holds no double, so it is read back as it is. -/
theorem read?_json (s : Snapshot) : Json.read? s.json = some s.toJson := by
  obtain ⟨kind, rawLength, status, userId, fields⟩ := s
  obtain ⟨hfields, hrecovered⟩ := FieldSnapshot.genuine_toJson_all fields
  have hgenuine : (toJson ⟨kind, rawLength, status, userId, fields⟩).Genuine := by
    cases userId <;> exact ⟨trivial, trivial, trivial, trivial, hfields, trivial⟩
  rw [json, Json.read?_render hgenuine]
  cases userId <;> simp [toJson, Json.recovered, Json.recoveredMembers, hrecovered]

/-- **Snapshots are told apart by their JSON.** -/
theorem json_inj (h : s.json = s'.json) : s = s' := by
  have hread := read?_json s
  rw [h, read?_json s'] at hread
  exact toJson_inj (Option.some.inj hread.symm)

end Snapshot

/-! ## As lines -/

namespace FieldSnapshot

variable {f f' : FieldSnapshot}

/-- **A text ends at its first stop.** -/
theorem append_cons_inj {stop : Char} : ∀ {x y u v : List Char}, stop ∉ x → stop ∉ y →
    x ++ stop :: u = y ++ stop :: v → x = y ∧ u = v
  | [], [], _, _, _, _, h => ⟨rfl, (List.cons.inj h).2⟩
  | [], d :: y, _, _, _, hy, h => absurd ((List.cons.inj h).1 ▸ List.mem_cons_self) hy
  | c :: x, [], _, _, hx, _, h => absurd ((List.cons.inj h).1 ▸ List.mem_cons_self) hx
  | c :: x, d :: y, _, _, hx, hy, h => by
    obtain ⟨rfl, hrest⟩ := List.cons.inj h
    obtain ⟨rfl, hafter⟩ := append_cons_inj (fun hc => hx (List.mem_cons_of_mem _ hc))
      (fun hc => hy (List.mem_cons_of_mem _ hc)) hrest
    exact ⟨rfl, hafter⟩

/-- **A field that keeps to its line**: its name ends at the colon, and nothing in it breaks the line. -/
structure Lined (f : FieldSnapshot) : Prop where
  colon : ':' ∉ f.name.toList
  name : '\n' ∉ f.name.toList
  fingerprint : ∀ digits ∈ f.fingerprint, '\n' ∉ digits.toList

/-- What stands behind the length. -/
def mark : Option String → List Char
  | none => []
  | some digits => [' ', 's', 'h', 'a', '2', '5', '6', '='] ++ digits.toList

theorem toList_line (f : FieldSnapshot) : f.line.toList =
    f.name.toList ++ ':' :: ([' ', 'l', 'e', 'n', '='] ++ ((toString f.length).toList ++ mark f.fingerprint)) := by
  have hlength : (toString ": len=").toList = [':', ' ', 'l', 'e', 'n', '='] := rfl
  have hmark : " sha256=".toList = [' ', 's', 'h', 'a', '2', '5', '6', '='] := rfl
  obtain ⟨name, length, fingerprint⟩ := f
  unfold line mark
  cases fingerprint <;> simp [hlength, hmark]

theorem mark_inj {fingerprint fingerprint' : Option String} (h : mark fingerprint = mark fingerprint') :
    fingerprint = fingerprint' := by
  cases fingerprint <;> cases fingerprint' <;> simp_all [mark, String.toList_inj]

/-- What stands behind a length does not go on with it. -/
theorem not_isDigit_mark (fingerprint : Option String) : ∀ c ∈ (mark fingerprint).head?, ¬ c.isDigit := by
  cases fingerprint <;> simp [mark]

/-- **A field is told by its line.** -/
theorem Lined.line_inj (h : f.Lined) (h' : f'.Lined) (hline : f.line = f'.line) : f = f' := by
  have htext := congrArg String.toList hline
  rw [toList_line, toList_line] at htext
  obtain ⟨hname, htext⟩ := append_cons_inj h.colon h'.colon htext
  obtain ⟨hlength, hmark⟩ := JsonReader.digits_append_inj (not_isDigit_mark _) (not_isDigit_mark _)
    (List.append_cancel_left htext)
  have hfingerprint := mark_inj hmark
  cases f
  cases f'
  simp_all [String.toList_inj]

theorem map_line_inj : ∀ {fields fields' : List FieldSnapshot}, (∀ f ∈ fields, f.Lined) → (∀ f ∈ fields', f.Lined) →
    fields.map line = fields'.map line → fields = fields'
  | [], [], _, _, _ => rfl
  | [], _ :: _, _, _, h => nomatch h
  | _ :: _, [], _, _, h => nomatch h
  | f :: fields, f' :: fields', hlined, hlined', h => by
    obtain ⟨hf, hfields⟩ := List.forall_mem_cons.1 hlined
    obtain ⟨hf', hfields'⟩ := List.forall_mem_cons.1 hlined'
    obtain ⟨hline, hrest⟩ := List.cons.inj h
    rw [hf.line_inj hf' hline, map_line_inj hfields hfields' hrest]

theorem Lined.not_mem_line (h : f.Lined) : '\n' ∉ f.line.toList := by
  have hmark : '\n' ∉ mark f.fingerprint := by
    have hdigits := h.fingerprint
    cases hfingerprint : f.fingerprint <;> simp_all [mark]
  have hlength : '\n' ∉ Nat.toDigits 10 f.length := fun hmem =>
    absurd (JsonReader.isDigit_of_mem_toDigits hmem) (by decide)
  rw [toList_line, JsonReader.toList_toString_nat]
  simp [h.name, hlength, hmark]

/-- A fingerprint is a row of digits. -/
theorem lined_of {name : String} (hcolon : ':' ∉ name.toList) (hname : '\n' ∉ name.toList) (content : Bytes) :
    (of name content).Lined := by
  have hdigits : ∀ n < 16, Hex.digit n ≠ '\n' := by decide
  refine ⟨hcolon, hname, fun digits hmem hfeed => ?_⟩
  unfold of at hmem
  split at hmem
  · cases hmem
  · cases hmem
    rw [fingerprintOf, String.toList_ofList] at hfeed
    obtain ⟨n, hn, hdigit⟩ := Hex.exists_digit (List.mem_of_mem_take hfeed)
    exact hdigits n hn hdigit.symm

end FieldSnapshot

namespace Snapshot

variable {s s' : Snapshot}

/-- The line of a user id, if there is one. -/
def userLines : Option Nat → List String
  | none => []
  | some userId => [s!"user_id={userId}"]

theorem lines_eq (s : Snapshot) : s.lines = "[MessageDebug] --- Snapshot ---" :: ("kind=" ++ s.kind) ::
    s!"raw_len={s.rawLength}" :: ("status=" ++ s.status.label) :: (userLines s.userId ++ s.fields.map FieldSnapshot.line) := by
  obtain ⟨kind, rawLength, status, userId, fields⟩ := s
  cases userId <;> rfl

/-- A number behind a label is told by the two. -/
theorem number_inj {label : String} {m n : Nat} (h : label ++ toString m = label ++ toString n) : m = n := by
  have htext : (toString m).toList ++ [] = (toString n).toList ++ [] := by rw [(String.append_right_inj label).1 h]
  have hend : ∀ c ∈ ([] : List Char).head?, ¬ c.isDigit := nofun
  exact (JsonReader.digits_append_inj hend hend htext).1

theorem toList_userLine (userId : Nat) : (s!"user_id={userId}").toList =
    ['u', 's', 'e', 'r', '_', 'i', 'd', '='] ++ (toString userId).toList := by
  have hlabel : (toString "user_id=").toList = ['u', 's', 'e', 'r', '_', 'i', 'd', '='] := rfl
  rw [String.toList_append, hlabel]

/-- A user id's line has no colon, a field's line has. -/
theorem line_ne_userLine (f : FieldSnapshot) (userId : Nat) : f.line ≠ s!"user_id={userId}" := fun h => by
  have hcolon : ':' ∈ f.line.toList := by simp [FieldSnapshot.toList_line]
  rw [h, toList_userLine, JsonReader.toList_toString_nat] at hcolon
  have hdigits : ':' ∉ Nat.toDigits 10 userId := fun hmem =>
    absurd (JsonReader.isDigit_of_mem_toDigits hmem) (by decide)
  simp [hdigits] at hcolon

/-- **A snapshot that keeps to its lines.** -/
structure Lined (s : Snapshot) : Prop where
  kind : '\n' ∉ s.kind.toList
  fields : ∀ f ∈ s.fields, f.Lined

/-- The lines behind the status tell the user id and the fields. -/
theorem Lined.rest_inj (h : s.Lined) (h' : s'.Lined) (hrest : userLines s.userId ++ s.fields.map FieldSnapshot.line =
    userLines s'.userId ++ s'.fields.map FieldSnapshot.line) : s.userId = s'.userId ∧ s.fields = s'.fields := by
  have hfields := FieldSnapshot.map_line_inj h.fields h'.fields
  have hline : ∀ (fields : List FieldSnapshot) (userId : Nat) (rest : List String),
      fields.map FieldSnapshot.line ≠ s!"user_id={userId}" :: rest := fun fields userId rest hmap => by
    obtain ⟨f, -, -, hf, -⟩ := List.map_eq_cons_iff.1 hmap
    exact line_ne_userLine f userId hf
  cases huser : s.userId with
  | none =>
    cases huser' : s'.userId with
    | none => exact ⟨rfl, hfields (by simpa [huser, huser', userLines] using hrest)⟩
    | some userId' => exact absurd (by simpa [huser, huser', userLines] using hrest) (hline s.fields userId' _)
  | some userId =>
    cases huser' : s'.userId with
    | none => exact absurd (by simpa [huser, huser', userLines] using hrest.symm) (hline s'.fields userId _)
    | some userId' =>
      rw [huser, huser'] at hrest
      obtain ⟨hhead, htail⟩ := List.cons.inj hrest
      exact ⟨congrArg some (number_inj hhead), hfields htail⟩

/-- **A snapshot is told by its lines.** -/
theorem Lined.lines_inj (h : s.Lined) (h' : s'.Lined) (hlines : s.lines = s'.lines) : s = s' := by
  rw [lines_eq, lines_eq] at hlines
  simp only [List.cons.injEq, true_and] at hlines
  obtain ⟨hkind, hlength, hstatus, hrest⟩ := hlines
  have hkind := (String.append_right_inj "kind=").1 hkind
  have hlength := number_inj hlength
  have hstatus := Status.label_inj ((String.append_right_inj "status=").1 hstatus)
  obtain ⟨huser, hfields⟩ := h.rest_inj h' hrest
  cases s
  cases s'
  simp_all

theorem Lined.not_mem_lines (h : s.Lined) : ∀ line ∈ s.lines, '\n' ∉ line.toList := by
  have hnumber : ∀ n : Nat, '\n' ∉ Nat.toDigits 10 n := fun n hmem =>
    absurd (JsonReader.isDigit_of_mem_toDigits hmem) (by decide)
  have hlabel : '\n' ∉ s.status.label.toList := by cases s.status <;> decide
  rw [lines_eq]
  simp only [List.forall_mem_cons, List.forall_mem_append, List.forall_mem_map]
  have hkind : "kind=".toList = ['k', 'i', 'n', 'd', '='] := rfl
  have hlength : (toString "raw_len=").toList = ['r', 'a', 'w', '_', 'l', 'e', 'n', '='] := rfl
  have hstatus : "status=".toList = ['s', 't', 'a', 't', 'u', 's', '='] := rfl
  refine ⟨by decide, ?_, ?_, ?_, ?_, fun f hf => (h.fields f hf).not_mem_line⟩
  · simp [hkind, h.kind]
  · rw [String.toList_append, hlength, JsonReader.toList_toString_nat]
    simp [hnumber]
  · simp [hstatus, hlabel]
  · cases s.userId with
    | none => exact nofun
    | some userId =>
      rintro _ (_ | ⟨_, ⟨⟩⟩)
      rw [toList_userLine, JsonReader.toList_toString_nat]
      simp [hnumber]

/-- **Snapshots are told apart by their lines.** -/
theorem Lined.render_inj (h : s.Lined) (h' : s'.Lined) (hrender : s.render = s'.render) : s = s' := by
  have hsplit : ∀ {s : Snapshot}, s.Lined → s.render.toList.splitOn '\n' = s.lines.map String.toList := fun {s} h => by
    rw [render, String.toList_intercalate]
    refine List.splitOn_intercalate '\n' (List.forall_mem_map.2 h.not_mem_lines) ?_
    simp [lines]
  have hlines := hsplit h
  rw [hrender, hsplit h'] at hlines
  exact h.lines_inj h' ((List.map_inj_right fun _ _ => String.toList_inj.1).1 hlines.symm)

/-! ## Of messages -/

theorem exists_envelope_of_build {name : String} {raw : Bytes} (h : build name raw = .ok s) :
    ∃ kind e, Kind.table.lookup name = some kind ∧
      (Envelope.blank kind).deserialize raw none Field.maxLength = .ok e ∧ s = ofEnvelope name raw.length e := by
  unfold build at h
  cases hkind : Kind.table.lookup name with
  | none =>
    rw [hkind] at h
    cases h
  | some kind =>
    rw [hkind] at h
    cases hdecode : (Envelope.blank kind).deserialize raw none Field.maxLength with
    | error e =>
      simp only [hdecode] at h
      cases h
    | ok e =>
      simp only [hdecode, Except.ok.injEq] at h
      exact ⟨kind, e, rfl, hdecode, h.symm⟩

/-- The names of kinds and of fields keep to their places. -/
theorem lined_table : ∀ entry ∈ Kind.table, '\n' ∉ entry.1.toList ∧
    ∀ field ∈ entry.2.fields, ':' ∉ field.toList ∧ '\n' ∉ field.toList := by decide

/-- **What is summarised keeps to its lines.** -/
theorem lined_of_build {name : String} {raw : Bytes} (h : build name raw = .ok s) : s.Lined := by
  obtain ⟨kind, e, hkind, hdecode, rfl⟩ := exists_envelope_of_build h
  obtain ⟨hname, hfields⟩ := lined_table (name, kind) (Kind.mem_table hkind)
  have hshape : e.kind = kind := (Envelope.shape_of_deserialize hdecode).1
  unfold ofEnvelope
  split
  · exact ⟨hname, nofun⟩
  · refine ⟨hname, fun f hf => ?_⟩
    rw [← List.map_uncurry_zip_eq_zipWith] at hf
    obtain ⟨⟨field, content⟩, hmem, rfl⟩ := List.mem_map.1 hf
    obtain ⟨hcolon, hfeed⟩ := hfields field (hshape ▸ (List.of_mem_zip hmem).1)
    exact FieldSnapshot.lined_of hcolon hfeed content

/-- **Dumps are compared by their texts.**  For any two snapshots of data, of any kinds, the texts are equal exactly if the
snapshots are, as lines and as JSON. -/
theorem texts_eq_iff (name name' : String) (raw raw' : Bytes) (s s' : Snapshot) (h : build name raw = .ok s)
    (h' : build name' raw' = .ok s') : (s.render = s'.render ↔ s = s') ∧ (s.render = s'.render ↔ s.json = s'.json) := by
  have hrender : s.render = s'.render ↔ s = s' :=
    ⟨(lined_of_build h).render_inj (lined_of_build h'), congrArg render⟩
  have hjson : s.json = s'.json ↔ s = s' := ⟨json_inj, congrArg json⟩
  exact ⟨hrender, hrender.trans hjson.symm⟩

/-- Two enroll requests of two users. -/
theorem texts_ne_of_users : ∃ s s',
    build "enroll-request" [0, 0, 0, 0, 7, 0, 0, 0, 1, 0, 0, 0, 9] = .ok s ∧
    build "enroll-request" [0, 0, 0, 0, 8, 0, 0, 0, 1, 0, 0, 0, 9] = .ok s' ∧ s.render ≠ s'.render ∧ s.json ≠ s'.json := by
  let s : Snapshot := ⟨"enroll-request", 13, .ok, some 7, [⟨"provided_password", 1, none⟩]⟩
  let s' : Snapshot := ⟨"enroll-request", 13, .ok, some 8, [⟨"provided_password", 1, none⟩]⟩
  have hs : build "enroll-request" [0, 0, 0, 0, 7, 0, 0, 0, 1, 0, 0, 0, 9] = .ok s := rfl
  have hs' : build "enroll-request" [0, 0, 0, 0, 8, 0, 0, 0, 1, 0, 0, 0, 9] = .ok s' := rfl
  obtain ⟨hrender, hjson⟩ := texts_eq_iff _ _ _ _ _ _ hs hs'
  have hne : s ≠ s' := by decide
  exact ⟨s, s', hs, hs', mt hrender.1 hne, mt hjson.2 (mt hrender.1 hne)⟩

end Snapshot
end PasswordGate
