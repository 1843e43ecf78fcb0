import Mathlib.Data.List.Forall2
import PasswordGate.Log.Routing
import PasswordGate.Proofs.Json.RoundTrip
import PasswordGate.Proofs.Log.Exposure
/-!
# Recovery — a record's line is one line, and says what the record said

The line of a record is one JSON object without a control character, so nothing in the record can end it early or begin
another one; and a reader of JSON finds in it the level, the logger, the message and the exception as they were, and every
attribute of the record's own under its name (`line_recovers`).  That holds of records in order (`Record.Tidy`), and every
record that a logger makes is one, with a logger and a level that are text (`Routing.tidy_record?`).
-/
namespace PasswordGate

/-- **What a reader finds for a value of a record**: plain values as they are, binary ones by their length, a finite double
as a double of 64 bits and any other as null, and whatever else there is in words. -/
inductive Value.Shows : Value → Json → Prop
  | null : Shows .null .null
  | bool (b : Bool) : Shows (.bool b) (.bool b)
  | int (n : Int) : Shows (.int n) (.int n)
  | text (s : String) : Shows (.text s) (.text s)
  | status (s : Status) : Shows (.status s) (.int s.number)
  | octets (data : Bytes) : Shows (.octets data) (.text s!"<{data.length} bytes>")
  | storage (data : Bytes) : Shows (.storage data) (.text s!"<{data.length} bytes>")
  | view (writable : Bool) (data : Bytes) : Shows (.view writable data) (.text s!"<{data.length} bytes>")
  | wordView (writable : Bool) (data : Bytes) : Shows (.wordView writable data) (.text s!"<{data.length} bytes>")
  | buffer (content : Bytes) : Shows (.buffer content) (.text s!"<{content.length} bytes>")
  | finite (negative : Bool) (mantissa : Nat) (exponent : Int) {y : Double} (hy : y.Genuine) :
    Shows (.float (.finite negative mantissa exponent)) (.float y)
  | infinite (negative : Bool) : Shows (.float (.infinite negative)) .null
  | nan : Shows (.float .nan) .null
  | path (written : String) : Shows (.path written) (.text (Value.path written).inWords)
  | moment (written : String) : Shows (.moment written) (.text (Value.moment written).inWords)
  | tuple (items : List Value) : Shows (.tuple items) (.text (Value.tuple items).inWords)
  | list (items : List Value) : Shows (.list items) (.text (Value.list items).inWords)
  | dict (entries : List (String × Value)) : Shows (.dict entries) (.text (Value.dict entries).inWords)

/-- A double of a value's own is one of 64 bits. -/
def Value.Genuine (v : Value) : Prop := ∀ x, v = .float x → x.Genuine

theorem Value.shows_recovered {v : Value} (h : v.Genuine) : v.Shows (Json.redacted v).recovered := by
  cases v with
  | float x =>
    cases x with
    | finite negative mantissa exponent =>
      obtain ⟨y, hgenuine, hy⟩ := Json.recoveredFloat_finite (h _ rfl)
      show Shows _ (Json.recoveredFloat _)
      rw [hy]
      exact .finite negative mantissa exponent hgenuine
    | infinite negative =>
      cases negative
      · exact .infinite false
      · exact .infinite true
    | nan => exact .nan
  | _ => constructor

theorem Value.genuine_redacted {v : Value} (h : v.Genuine) : (Json.redacted v).Genuine := by
  cases v with
  | float x => exact h x rfl
  | _ => trivial

namespace Record

/-- **A record in order**: its own attributes are under different names, none of them a standard one, as in every mapping of
names to attributes, and their doubles are of 64 bits. -/
structure Tidy (r : Record) : Prop where
  distinct : (r.extras.map (·.1)).Nodup
  own : ∀ entry ∈ r.extras, entry.1 ∉ standardKeys
  genuine : ∀ entry ∈ r.extras, entry.2.Genuine

/-- **The attributes that a record's line is to show**: no standard ones, and none whose name starts with an underscore. -/
def shown (r : Record) : List (String × Value) :=
  r.extras.filter fun entry => !standardKeys.contains entry.1 && entry.1.toList.head? != some '_'

theorem Tidy.visibleExtras_eq {r : Record} (h : r.Tidy) : r.visibleExtras = r.shown := by
  refine List.filter_congr fun entry hentry => ?_
  have hown : standardKeys.contains entry.1 = false := by simpa using h.own entry hentry
  rw [hown]
  rfl

/-! ## Records in order -/

theorem mem_insert {extras : List (String × Value)} {key : String} {value : Value} {entry : String × Value}
    (h : entry ∈ insert extras key value) : entry = (key, value) ∨ entry ∈ extras := by
  unfold insert at h
  split at h
  · obtain ⟨old, hold, rfl⟩ := List.mem_map.1 h
    split
    · exact .inl rfl
    · exact .inr hold
  · exact (List.mem_append.1 h).elim .inr fun hnew => .inl (List.mem_singleton.1 hnew)

theorem distinct_insert {extras : List (String × Value)} (h : (extras.map (·.1)).Nodup) (key : String) (value : Value) :
    ((insert extras key value).map (·.1)).Nodup := by
  unfold insert
  split
  · have hkeys : (extras.map fun entry => if entry.1 == key then (key, value) else entry).map (·.1) = extras.map (·.1) := by
      rw [List.map_map]
      refine List.map_congr_left fun entry _ => ?_
      by_cases hkey : entry.1 = key <;> simp [hkey]
    rwa [hkeys]
  · rename_i hnew
    have hfresh : key ∉ extras.map (·.1) := fun hmem => hnew (by
      obtain ⟨entry, hentry, rfl⟩ := List.mem_map.1 hmem
      exact List.any_eq_true.2 ⟨entry, hentry, beq_self_eq_true _⟩)
    rw [List.map_append]
    refine List.nodup_append.2 ⟨h, List.nodup_cons.2 ⟨nofun, List.nodup_nil⟩, fun a ha b hb hab => hfresh ?_⟩
    rwa [hab, List.mem_singleton.1 hb] at ha

theorem tidy_make (logger : String) (level : Level) (message : Value) (arguments : List Value) :
    (make logger level message arguments).Tidy := ⟨List.nodup_nil, nofun, nofun⟩

/-- **Setting an attribute keeps a record in order**, whichever attribute it is. -/
theorem Tidy.set {r : Record} (h : r.Tidy) (key : String) {value : Value} (hvalue : value.Genuine) :
    (r.set key value).Tidy := by
  unfold Record.set
  split
  case h_7 =>
    split
    · exact h
    · rename_i hown
      have hkey : key ∉ standardKeys := by simpa using hown
      refine ⟨distinct_insert h.distinct key value, fun entry hentry => ?_, fun entry hentry => ?_⟩
      · rcases mem_insert hentry with rfl | hold
        · exact hkey
        · exact h.own entry hold
      · rcases mem_insert hentry with rfl | hold
        · exact hvalue
        · exact h.genuine entry hold
  all_goals exact ⟨h.distinct, h.own, h.genuine⟩

theorem Tidy.setAll {r : Record} (h : r.Tidy) : ∀ (attributes : List (String × Value)),
    (∀ entry ∈ attributes, entry.2.Genuine) → (r.setAll attributes).Tidy := by
  intro attributes
  induction attributes generalizing r with
  | nil => exact fun _ => h
  | cons entry rest ih =>
    intro hgenuine
    obtain ⟨hfirst, hrest⟩ := List.forall_mem_cons.1 hgenuine
    exact ih (h.set entry.1 hfirst) hrest

/-- Setting an attribute that is no standard one changes the record's own attributes alone. -/
theorem set_own {key : String} (h : key ∉ standardKeys) (r : Record) (value : Value) :
    r.set key value = { r with extras := insert r.extras key value } := by
  unfold Record.set
  split
  case h_7 => exact if_neg (by simpa using h)
  all_goals exact absurd (by decide) h

theorem setAll_own : ∀ {attributes : List (String × Value)}, (∀ entry ∈ attributes, entry.1 ∉ standardKeys) →
    ∀ r : Record, ∃ extras, r.setAll attributes = { r with extras := extras }
  | [], _, r => ⟨r.extras, rfl⟩
  | entry :: rest, h, r => by
    obtain ⟨hfirst, hrest⟩ := List.forall_mem_cons.1 h
    obtain ⟨extras, hextras⟩ := setAll_own hrest (r.set entry.1 entry.2)
    exact ⟨extras, hextras.trans (by rw [set_own hfirst])⟩

end Record

/-- **Every record that a logger makes is in order**, under the logger's name and the level's. -/
theorem Routing.tidy_record? {routing : Routing} {logger : String} {level : Level} {message : Value}
    {arguments : List Value} {extras : List (String × Value)} {r : Record}
    (hmade : routing.record? logger level message arguments extras = .ok (some r))
    (hgenuine : ∀ entry ∈ extras, entry.2.Genuine) :
    r.Tidy ∧ r.logger = .text (loggerName logger) ∧ r.level = .text level.name := by
  unfold record? at hmade
  split at hmade
  · cases hmade
  split at hmade
  · cases hmade
  · rename_i hnone
    have hown : ∀ entry ∈ extras, entry.1 ∉ Record.standardKeys := fun entry hentry => by
      simpa using List.find?_eq_none.1 hnone entry hentry
    obtain rfl := Option.some.inj (Except.ok.inj hmade)
    refine ⟨(Record.tidy_make (loggerName logger) level message arguments).setAll extras hgenuine, ?_⟩
    obtain ⟨own, heq⟩ := Record.setAll_own hown (Record.make (loggerName logger) level message arguments)
    rw [heq]
    exact ⟨rfl, rfl⟩

namespace Record

/-! ## The line -/

/-- **The package's name in front of a logger's is taken away once**, and no other part of the name. -/
theorem relativeName_spec (name : String) : name = "keyguard." ++ relativeName name ∨
    ¬ "keyguard.".toList <+: name.toList ∧ relativeName name = name := by
  unfold relativeName
  dsimp only
  split
  · rename_i hprefix
    obtain ⟨rest, hrest⟩ := List.isPrefixOf_iff_prefix.1 hprefix
    have hdrop : name.toList.drop "keyguard.".length = rest := by
      rw [← hrest]
      exact List.drop_left' rfl
    left
    rw [hdrop, ← String.toList_inj, String.toList_append, ← hrest]
    exact congrArg ("keyguard.".toList ++ ·) String.toList_ofList.symm
  · rename_i hprefix
    exact .inr ⟨fun h => hprefix (List.isPrefixOf_iff_prefix.2 h), rfl⟩

theorem recoveredMembers_append : ∀ members others : List (String × Json),
    Json.recoveredMembers (members ++ others) = Json.recoveredMembers members ++ Json.recoveredMembers others
  | [], _ => rfl
  | (key, value) :: rest, others => by
    rw [List.cons_append, Json.recoveredMembers, Json.recoveredMembers, recoveredMembers_append rest, List.cons_append]

theorem keys_recoveredMembers : ∀ members : List (String × Json),
    (Json.recoveredMembers members).map (·.1) = members.map (·.1)
  | [] => rfl
  | (key, _) :: rest => congrArg (key :: ·) (keys_recoveredMembers rest)

/-- The attributes come back each under its name, in their order. -/
theorem shows_recoveredMembers : ∀ entries : List (String × Value), (∀ entry ∈ entries, entry.2.Genuine) →
    List.Forall₂ (fun entry member => member.1 = entry.1 ∧ entry.2.Shows member.2) entries
      (Json.recoveredMembers (entries.map fun entry => (entry.1, Json.redacted entry.2)))
  | [], _ => .nil
  | entry :: rest, h => .cons ⟨rfl, Value.shows_recovered (h entry List.mem_cons_self)⟩
    (shows_recoveredMembers rest fun other hother => h other (List.mem_cons_of_mem _ hother))

theorem genuineMembers_append : ∀ {members others : List (String × Json)}, Json.GenuineMembers members →
    Json.GenuineMembers others → Json.GenuineMembers (members ++ others)
  | [], _, _, hothers => hothers
  | _ :: _, _, h, hothers => ⟨h.1, genuineMembers_append h.2 hothers⟩

theorem genuineMembers_redacted : ∀ entries : List (String × Value), (∀ entry ∈ entries, entry.2.Genuine) →
    Json.GenuineMembers (entries.map fun entry => (entry.1, Json.redacted entry.2))
  | [], _ => trivial
  | entry :: rest, h => ⟨Value.genuine_redacted (h entry List.mem_cons_self),
    genuineMembers_redacted rest fun other hother => h other (List.mem_cons_of_mem _ hother)⟩

/-- The member for the exception, if there is one. -/
def exceptionMembers (exception : Option String) : List (String × Json) :=
  exception.toList.map fun text => ("exception", .text text)

/-- **The exception's text is there exactly if an exception was raised.** -/
def Raises (r : Record) (exception : Option String) : Prop :=
  r.raised = .nothing ∧ exception = none ∨
    ∃ title text, r.raised = .exception title text ∧ exception = some (exceptionText title text)

/-- A record with a line has a stamp, a message and an exception that can be told, and these are its members. -/
theorem exists_of_line {r : Record} {name level line : String} (hlogger : r.logger = .text name)
    (hlevel : r.level = .text level) (hline : r.line = .ok line) : ∃ (stamp message : String) (exception : Option String),
    r.stamp = .ok stamp ∧ r.text = .ok message ∧ r.Raises exception ∧
    line = (Json.object ([("ts", .text stamp), ("level", .text level), ("logger", .text (relativeName name)),
      ("message", .text message)] ++ extraMembers r.visibleExtras ++ exceptionMembers exception)).render := by
  unfold Record.line at hline
  cases hstamp : r.stamp with
  | error e =>
    rw [hstamp] at hline
    cases hline
  | ok stamp =>
    rw [hstamp] at hline
    simp only [lineAt, members_eq, surroundings, hlogger, hlevel] at hline
    cases hmessage : r.text with
    | error e =>
      rw [hmessage] at hline
      cases hline
    | ok message =>
      rw [hmessage] at hline
      cases hraised : r.raised with
      | nothing =>
        rw [hraised] at hline
        cases hline
        exact ⟨stamp, message, none, rfl, rfl, .inl ⟨hraised, rfl⟩, rfl⟩
      | exception title text =>
        rw [hraised] at hline
        cases hline
        exact ⟨stamp, message, some (exceptionText title text), rfl, rfl, .inr ⟨title, text, hraised, rfl⟩, rfl⟩
      | foreign =>
        rw [hraised] at hline
        cases hline

/-- **One record is one line that a reader of JSON takes apart again.**  For every record in order whose logger and level
are text: a line that it has holds no control character, and reading it gives one object with the stamp, the level, the
logger, the message, then the record's own attributes if it has any to show, then the exception if one was raised.  The
level, the message and the exception are the very texts, the logger's is its name without one `keyguard.` in front; the
attributes are there under different names, in the order of the record, with the values they had. -/
theorem line_recovers {r : Record} (h : r.Tidy) {name level line : String} (hlogger : r.logger = .text name)
    (hlevel : r.level = .text level) (hline : r.line = .ok line) :
    JsonReader.Clear line.toList ∧
    ∃ (stamp message logger : String) (extra : List (String × Json)) (exception : Option String),
      r.stamp = .ok stamp ∧ r.text = .ok message ∧ r.Raises exception ∧
      (name = "keyguard." ++ logger ∨ ¬ "keyguard.".toList <+: name.toList ∧ logger = name) ∧
      List.Forall₂ (fun entry member => member.1 = entry.1 ∧ entry.2.Shows member.2) r.shown extra ∧
      (extra.map (·.1)).Nodup ∧
      Json.read? line = some (.object (
        [("ts", .text stamp), ("level", .text level), ("logger", .text logger), ("message", .text message)] ++
        (if r.shown = [] then [] else [("extra", .object extra)]) ++ exceptionMembers exception)) := by
  obtain ⟨stamp, message, exception, hstamp, hmessage, hraises, rfl⟩ := exists_of_line hlogger hlevel hline
  rw [h.visibleExtras_eq]
  have hgenuine : ∀ entry ∈ r.shown, entry.2.Genuine := fun entry hentry => h.genuine entry (List.mem_filter.1 hentry).1
  have hextra := shows_recoveredMembers r.shown hgenuine
  have hobject : (Json.object ([("ts", .text stamp), ("level", .text level), ("logger", .text (relativeName name)),
      ("message", .text message)] ++ extraMembers r.shown ++ exceptionMembers exception)).Genuine := by
    refine genuineMembers_append (genuineMembers_append ⟨trivial, trivial, trivial, trivial, trivial⟩ ?_) ?_
    · unfold extraMembers
      split
      · trivial
      · exact ⟨genuineMembers_redacted r.shown hgenuine, trivial⟩
    · cases exception with
      | none => trivial
      | some text => exact ⟨trivial, trivial⟩
  refine ⟨JsonReader.clear_render _ hobject, stamp, message, relativeName name, _, exception, hstamp, hmessage, hraises,
    relativeName_spec name, hextra, ?_, ?_⟩
  · rw [keys_recoveredMembers, List.map_map]
    exact h.distinct.sublist (List.filter_sublist.map _)
  · rw [Json.read?_render hobject]
    refine congrArg (fun members => some (Json.object members)) ?_
    rw [recoveredMembers_append, recoveredMembers_append]
    congr 1
    · congr 1
      unfold extraMembers
      by_cases hempty : r.shown = []
      · rw [hempty]
        rfl
      · rw [if_neg hempty, if_neg (by simpa using hempty)]
        rfl
    · cases exception <;> rfl

/-- Line breaks in a logger's name, in a message and in an attribute's name, and an attribute that stays out. -/
theorem line_recovers_breaks : ∃ (r : Record) (line stamp : String),
    (Routing.configure false).record? "keyguard.a\nb" Level.info (.text "m\r\n") []
      [("k\n", .octets [1, 2]), ("_n", .int 3), ("n", .int (-7))] = .ok (some r) ∧
    r.line = .ok line ∧ JsonReader.Clear line.toList ∧
    Json.read? line = some (.object [("ts", .text stamp), ("level", .text "INFO"), ("logger", .text "a\nb"),
      ("message", .text "m\r\n"), ("extra", .object [("k\n", .text "<2 bytes>"), ("n", .int (-7))])]) := by
  let r : Record := { logger := .text "keyguard.a\nb", level := .text "INFO", message := .text "m\r\n"
                      extras := [("k\n", .octets [1, 2]), ("_n", .int 3), ("n", .int (-7))] }
  have hmade : (Routing.configure false).record? "keyguard.a\nb" Level.info (.text "m\r\n") []
      [("k\n", .octets [1, 2]), ("_n", .int 3), ("n", .int (-7))] = .ok (some r) := rfl
  obtain ⟨htidy, hlogger, hlevel⟩ := Routing.tidy_record? hmade fun entry hentry x hx => by
    simp only [List.mem_cons, List.not_mem_nil, or_false] at hentry
    rcases hentry with rfl | rfl | rfl <;> cases hx
  have hsome : r.line.toOption ≠ none := by decide +kernel
  cases hline : r.line with
  | error e => exact absurd (congrArg Except.toOption hline) hsome
  | ok line =>
    obtain ⟨hclear, stamp, message, logger, extra, exception, -, hmessage, hraises, hname, hextra, -, hread⟩ :=
      line_recovers htidy hlogger hlevel hline
    refine ⟨r, line, stamp, hmade, hline, hclear, ?_⟩
    obtain rfl := Except.ok.inj hmessage
    obtain rfl : logger = "a\nb" := by
      rcases hname with hname | ⟨hnot, -⟩
      · exact ((String.append_right_inj "keyguard.").1
          ((by decide : "keyguard." ++ "a\nb" = "keyguard.a\nb").trans hname)).symm
      · exact absurd (by decide) hnot
    obtain ⟨-, rfl⟩ := hraises.resolve_right fun ⟨_, _, hraised, _⟩ => by cases hraised
    have hshown : List.Forall₂ _ [("k\n", Value.octets [1, 2]), ("n", Value.int (-7))] extra := hextra
    obtain ⟨⟨key, value⟩, rest, ⟨rfl, hvalue⟩, hrest, rfl⟩ := List.forall₂_cons_left_iff.1 hshown
    cases hvalue
    obtain ⟨⟨key, value⟩, none, ⟨rfl, hvalue⟩, hnone, rfl⟩ := List.forall₂_cons_left_iff.1 hrest
    cases hvalue
    obtain rfl := List.forall₂_nil_left_iff.1 hnone
    refine hread.trans (congrArg (fun members => some (Json.object members)) ?_)
    rfl

end Record
end PasswordGate
