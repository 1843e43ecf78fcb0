import PasswordGate.Proofs.Json.Numbers
import PasswordGate.Proofs.Toml.Distinct
import PasswordGate.Settings.Loading
/-!
# Loading — how it ends, and what is logged

`Loading.Exit` gives, for every state of a file, what loading comes to and what it logs.  A document's names are distinct, so
of a document only the value under one name matters, whatever else it holds (`load_congr`).  The note of what was loaded says
which settings these are (`loadedNote_inj`), so it is logged exactly if they are what loading comes to.
-/
namespace PasswordGate

/-! ## The bytes of a text -/

namespace Bytes

theorem toList_loop (bytes : ByteArray) (i : Nat) (read : List UInt8) :
    ByteArray.toList.loop bytes i read = read.reverse ++ bytes.data.toList.drop i := by
  fun_induction ByteArray.toList.loop bytes i read with
  | case1 i read hlt ih =>
    have hlength : i < bytes.data.toList.length := hlt
    have hget : bytes.get! i = bytes.data.toList[i] := getElem!_pos bytes.data i hlt
    rw [ih, hget, List.reverse_cons, List.append_assoc, List.singleton_append, ← List.drop_eq_getElem_cons]
  | case2 i read hge =>
    rw [List.drop_eq_nil_of_le (Nat.not_lt.1 hge), List.append_nil]

/-- **The bytes of a text encode that text.** -/
theorem toString?_ofString (text : String) : (ofString text).toString? = some text := by
  have hbytes : ByteArray.mk (ofString text).toArray = text.toUTF8 := by
    rw [ofString, ByteArray.toList, toList_loop]
    rfl
  unfold toString? String.fromUTF8?
  rw [hbytes]
  exact dif_pos text.isValidUTF8

end Bytes

/-! ## What is said of settings -/

namespace Settings

variable {s t : Settings} {rest other : List Char}

theorem switchText_append_inj {a b : Bool} (h : (switchText a).toList ++ rest = (switchText b).toList ++ other) :
    a = b ∧ rest = other := by
  cases a <;> cases b <;> simp_all [switchText]

theorem toList_summary (s : Settings) : s.summary.toList =
    "RuntimeConfig(debug_logging=".toList ++ ((switchText s.debugLogging).toList ++ (", max_field_length=".toList ++
      ((toString s.maxFieldLength).toList ++ (", ".toList ++ ("max_password_length=".toList ++
        ((toString s.maxPasswordLength).toList ++ (", metrics_enabled=".toList ++
          ((switchText s.metricsEnabled).toList ++ ")".toList)))))))) := by
  unfold summary
  simp only [String.toList_append, List.append_assoc]
  rfl

/-- **What is said of settings says what they are.** -/
theorem summary_inj (h : s.summary = t.summary) : s = t := by
  have htext := congrArg String.toList h
  rw [toList_summary, toList_summary] at htext
  -- A number ends where its digits do, in front of a comma.
  obtain ⟨hdebug, htext⟩ := switchText_append_inj (List.append_cancel_left htext)
  obtain ⟨hfield, htext⟩ := JsonReader.digits_append_inj (by simp) (by simp) (List.append_cancel_left htext)
  obtain ⟨hpassword, htext⟩ :=
    JsonReader.digits_append_inj (by simp) (by simp) (List.append_cancel_left (List.append_cancel_left htext))
  obtain ⟨hmetrics, -⟩ := switchText_append_inj (List.append_cancel_left htext)
  cases s
  cases t
  simp_all

end Settings

namespace Loading

variable {path : String} {file : File} {data : Bytes} {document other entries : Toml.Entries}
  {outcome : Except Failure Settings} {notes : List Note} {s t : Settings}

/-- **How loading ends**, for every state of the file: what it comes to, and what it logs on the way. -/
inductive Exit (path : String) : File → Except Failure Settings → List Note → Prop
  | absent : Exit path .absent (.ok {}) [absenceNote path, loadedNote path {}]
  | directory : Exit path .directory (.error .directory) []
  | noDocument {data : Bytes} {e : Failure} (hdocument : documentOf data = .error e) :
      Exit path (.content data) (.error e) []
  | noTable {data : Bytes} {document : Toml.Entries} (hdocument : documentOf data = .ok document)
      (hnone : ∀ value, (tableName, value) ∉ document) : Exit path (.content data) (.ok {}) [loadedNote path {}]
  | notATable {data : Bytes} {document : Toml.Entries} {value : Value} (hdocument : documentOf data = .ok document)
      (hentry : (tableName, value) ∈ document) (hvalue : ∀ entries, value ≠ .dict entries) :
      Exit path (.content data) (.error (.notATable path)) []
  | refused {data : Bytes} {document entries : Toml.Entries} {e : Schema.Failure}
      (hdocument : documentOf data = .ok document) (hentry : (tableName, .dict entries) ∈ document)
      (hload : Schema.load (.dict entries) = .error e) : Exit path (.content data) (.error (.schema e)) []
  | loaded {data : Bytes} {document entries : Toml.Entries} {s : Settings}
      (hdocument : documentOf data = .ok document) (hentry : (tableName, .dict entries) ∈ document)
      (hload : Schema.load (.dict entries) = .ok s) : Exit path (.content data) (.ok s) [loadedNote path s]

/-! ## The table in a document -/

theorem distinct_documentOf (h : documentOf data = .ok document) : Value.Distinct (.dict document) := by
  unfold documentOf at h
  split at h
  · cases h
  · rename_i text _
    split at h
    · rename_i hread
      cases h
      exact Toml.distinct_read text _ hread
    · cases h

theorem lookup_documentOf (h : documentOf data = .ok document) {value : Value} :
    document.lookup tableName = some value ↔ (tableName, value) ∈ document :=
  Value.lookup_eq_some_iff_mem (distinct_documentOf h).nodup

theorem tableOf_content (h : documentOf data = .ok document) :
    tableOf path (.content data) = sectionOf path document := by
  rw [tableOf, h]
  rfl

theorem tableOf_of_absent (hdocument : documentOf data = .ok document) (hnone : ∀ value, (tableName, value) ∉ document) :
    tableOf path (.content data) = .ok [] := by
  rw [tableOf_content hdocument, sectionOf, Value.lookup_eq_none_iff_forall.2 hnone]

theorem tableOf_of_dict (hdocument : documentOf data = .ok document) (hentry : (tableName, .dict entries) ∈ document) :
    tableOf path (.content data) = .ok entries := by
  rw [tableOf_content hdocument, sectionOf, (lookup_documentOf hdocument).2 hentry]

theorem tableOf_of_ne_dict (hdocument : documentOf data = .ok document) {value : Value}
    (hentry : (tableName, value) ∈ document) (hvalue : ∀ entries, value ≠ .dict entries) :
    tableOf path (.content data) = .error (.notATable path) := by
  rw [tableOf_content hdocument, sectionOf, (lookup_documentOf hdocument).2 hentry]
  split <;> rename_i hsome
  · cases hsome
  · cases hsome
    exact absurd rfl (hvalue _)
  · rfl

/-- **The bytes of a text give what the text is read as.** -/
theorem documentOf_ofString (text : String) :
    documentOf (Bytes.ofString text) = (Toml.read text).mapError .document := by
  simp only [documentOf, Bytes.toString?_ofString]
  cases Toml.read text <;> rfl

/-! ## Loading from what there is -/

theorem load_of_error {e : Failure} (h : tableOf path (.content data) = .error e) :
    load path (.content data) = (.error e, []) := by
  simp only [load, h, reduceCtorEq, if_false]

theorem load_of_refusal (h : tableOf path (.content data) = .ok entries) {e : Schema.Failure}
    (hload : Schema.load (.dict entries) = .error e) : load path (.content data) = (.error (.schema e), []) := by
  simp only [load, h, settingsOf, hload, reduceCtorEq, if_false]

theorem load_of_settings (h : tableOf path (.content data) = .ok entries) (hload : Schema.load (.dict entries) = .ok s) :
    load path (.content data) = (.ok s, [loadedNote path s]) := by
  simp only [load, h, settingsOf, hload, reduceCtorEq, if_false, List.nil_append]

/-- **Loading ends as it should.** -/
theorem Exit.load_eq (h : Exit path file outcome notes) : load path file = (outcome, notes) := by
  cases h with
  | absent => rfl
  | directory => rfl
  | noDocument hdocument =>
    refine load_of_error ?_
    rw [tableOf, hdocument]
    rfl
  | noTable hdocument hnone => exact load_of_settings (tableOf_of_absent hdocument hnone) rfl
  | notATable hdocument hentry hvalue => exact load_of_error (tableOf_of_ne_dict hdocument hentry hvalue)
  | refused hdocument hentry hload => exact load_of_refusal (tableOf_of_dict hdocument hentry) hload
  | loaded hdocument hentry hload => exact load_of_settings (tableOf_of_dict hdocument hentry) hload

/-- For every state of the file there is a way to end. -/
theorem exists_exit (path : String) (file : File) : ∃ outcome notes, Exit path file outcome notes := by
  cases file with
  | absent => exact ⟨_, _, .absent⟩
  | directory => exact ⟨_, _, .directory⟩
  | content data =>
    cases hdocument : documentOf data with
    | error e => exact ⟨_, _, .noDocument hdocument⟩
    | ok document =>
      by_cases hnone : ∀ value, (tableName, value) ∉ document
      · exact ⟨_, _, .noTable hdocument hnone⟩
      · obtain ⟨value, hentry⟩ := Classical.not_forall_not.1 hnone
        by_cases hvalue : ∀ entries, value ≠ .dict entries
        · exact ⟨_, _, .notATable hdocument hentry hvalue⟩
        · obtain ⟨entries, rfl⟩ := Classical.not_forall_not.1 hvalue
          cases hload : Schema.load (.dict entries) with
          | error e => exact ⟨_, _, .refused hdocument hentry hload⟩
          | ok s => exact ⟨_, _, .loaded hdocument hentry hload⟩

theorem load_eq_iff : load path file = (outcome, notes) ↔ Exit path file outcome notes := by
  refine ⟨fun h => ?_, Exit.load_eq⟩
  -- There is an end at all, and loading comes to it: so it is the one that loading came to.
  obtain ⟨found, logged, hexit⟩ := exists_exit path file
  cases h.symm.trans hexit.load_eq
  exact hexit

/-- **Two documents with the same value under the name load alike**, whatever else they hold. -/
theorem load_congr {data further : Bytes} (hdocument : documentOf data = .ok document)
    (hother : documentOf further = .ok other) (h : ∀ value, (tableName, value) ∈ document ↔ (tableName, value) ∈ other) :
    load path (.content data) = load path (.content further) := by
  have hlookup : document.lookup tableName = other.lookup tableName := by
    apply Option.ext
    intro value
    rw [lookup_documentOf hdocument, lookup_documentOf hother, h]
  have htable : tableOf path (.content data) = tableOf path (.content further) := by
    rw [tableOf_content hdocument, tableOf_content hother, sectionOf, sectionOf, hlookup]
  simp only [load, htable, reduceCtorEq, if_false]

/-! ## The notes -/

/-- The note of what was loaded, for one file, is the note of these settings alone. -/
theorem loadedNote_inj (h : loadedNote path s = loadedNote path t) : s = t := by
  have hmessage := congrArg Note.message h
  simp only [loadedNote] at hmessage
  exact Settings.summary_inj (String.append_right_inj _ |>.1 hmessage)

theorem absenceNote_ne_loadedNote : absenceNote path ≠ loadedNote path s := by
  intro h
  have hlevel : Level.info = Level.debug := congrArg Note.level h
  exact absurd hlevel (by decide)

theorem Exit.notes_of_error {e : Failure} (h : Exit path file (.error e) notes) : notes = [] := by
  cases h <;> rfl

theorem Exit.loadedNote_mem_iff (h : Exit path file outcome notes) : loadedNote path s ∈ notes ↔ outcome = .ok s := by
  have hother : loadedNote path s ≠ absenceNote path := absenceNote_ne_loadedNote.symm
  have hsame : ∀ t, loadedNote path s = loadedNote path t ↔ t = s := fun t =>
    ⟨fun h => (loadedNote_inj h).symm, fun h => h ▸ rfl⟩
  cases h <;> simp [hother, hsame]

theorem Exit.absenceNote_mem_iff (h : Exit path file outcome notes) : absenceNote path ∈ notes ↔ file = .absent := by
  have hother : ∀ t, absenceNote path ≠ loadedNote path t := fun t => absenceNote_ne_loadedNote
  cases h <;> simp [hother]

/-- **Loading ends in one way for every state of the file**, by what a document holds under the one name and by nothing
else in it; and what is logged tells how it ended. -/
theorem load_exits (path : String) :
    (∀ file outcome notes, load path file = (outcome, notes) ↔ Exit path file outcome notes) ∧
    (∀ data further document other, documentOf data = .ok document → documentOf further = .ok other →
      (∀ value, (tableName, value) ∈ document ↔ (tableName, value) ∈ other) →
      load path (.content data) = load path (.content further)) ∧
    ∀ file, (∀ s, loadedNote path s ∈ (load path file).2 ↔ (load path file).1 = .ok s) ∧
      (absenceNote path ∈ (load path file).2 ↔ file = .absent) ∧
      ∀ e, (load path file).1 = .error e → (load path file).2 = [] := by
  refine ⟨fun _ _ _ => load_eq_iff, fun _ _ _ _ => load_congr, fun file => ?_⟩
  have hexit : Exit path file (load path file).1 (load path file).2 := load_eq_iff.1 rfl
  refine ⟨fun s => hexit.loadedNote_mem_iff, hexit.absenceNote_mem_iff, fun e he => ?_⟩
  rw [he] at hexit
  exact hexit.notes_of_error

/-- Two documents with the same table, in which there is an unknown setting, and each with a table of its own. -/
theorem load_exits_unknown :
    let data := Bytes.ofString "[door]\n[general.colour]\n"
    let further := Bytes.ofString "[general.colour]\n[gate]\n"
    load "gate.toml" (.content data) = (.error (.schema (.invalid [("colour", [.unknownSetting])])), []) ∧
    load "gate.toml" (.content data) = load "gate.toml" (.content further) := by
  intro data further
  have hdocument : documentOf data = .ok [("door", .dict []), (tableName, .dict [("colour", .dict [])])] :=
    (documentOf_ofString _).trans rfl
  have hother : documentOf further = .ok [(tableName, .dict [("colour", .dict [])]), ("gate", .dict [])] :=
    (documentOf_ofString _).trans rfl
  obtain ⟨hexit, hcongr, -⟩ := load_exits "gate.toml"
  constructor
  · exact (hexit _ _ _).2 (.refused hdocument (List.mem_cons_of_mem _ List.mem_cons_self) rfl)
  · exact hcongr _ _ _ _ hdocument hother fun value => by simp [tableName]

end Loading
end PasswordGate
