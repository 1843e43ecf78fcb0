import PasswordGate.Proofs.Settings.Schema
import PasswordGate.Proofs.Value.Distinct
/-!
# Complaints — what is reported about a table of settings

`Schema.Fault` says what can be wrong with an entry by itself: its name, that it holds nothing, that its value is no
switch or no integer, or that the integer is out of range.  Unless a switch refuses its hash, the faults are what is
reported if there are any, each once and under its name (`Schema.Faithful`); only without any are the two limits compared.
So the order of the entries does not matter (`load_perm`).
-/
namespace PasswordGate
namespace Schema

variable {entries other : List (String × Value)} {name : String} {value : Value} {c : Complaint}
  {complaints : List Complaint}

/-- **What is wrong with an entry by itself.** -/
inductive Fault : String → Value → Complaint → Prop
  | unknown {name : String} {value : Value} (hname : name ∉ names) : Fault name value .unknownSetting
  | missing {name : String} (hname : name ∈ names) : Fault name .null .missingValue
  | switch {name : String} {value : Value} {c : Complaint} (hname : name ∈ switches) (hvalue : value ≠ .null)
      (hcoerce : Coercion.switch value = .error (.complaint c)) : Fault name value c
  | limit {name : String} {value : Value} {c : Complaint} (hname : name ∈ limits) (hvalue : value ≠ .null)
      (hcoerce : Coercion.integer value = .error c) : Fault name value c
  | range {name : String} {value : Value} {n : Int} (hname : name ∈ limits) (hcoerce : Coercion.integer value = .ok n)
      (hrange : n < 1 ∨ Word.largest < n) : Fault name value .outOfRange

def Faulty (entries : List (String × Value)) : Prop := ∃ name value c, (name, value) ∈ entries ∧ Fault name value c

/-- **Complaints that report the faults of a table**: one for each, under the name of its entry, and no other. -/
structure Faithful (entries : List (String × Value)) (messages : Complaints) : Prop where
  distinct : (messages.map (·.1)).Nodup
  mem_iff : ∀ name complaints, (name, complaints) ∈ messages ↔
    ∃ value c, (name, value) ∈ entries ∧ Fault name value c ∧ complaints = [c]

/-- **The value that a setting has**: what its entry is coerced to, or its default if it has none. -/
inductive Takes {α ε : Type} (entries : List (String × Value)) (name : String) (default : α)
    (coerce : Value → Except ε α) : α → Prop
  | given {value : Value} {a : α} (hentry : (name, value) ∈ entries) (hcoerce : coerce value = .ok a) :
      Takes entries name default coerce a
  | absent (hnone : ∀ value, (name, value) ∉ entries) : Takes entries name default coerce default

/-- **Settings that have the values that a table gives them**; whether the limits are in order is not asked. -/
structure Effective (entries : List (String × Value)) (settings : Settings) : Prop where
  debugLogging : Takes entries "debug_logging" false Coercion.switch settings.debugLogging
  maxFieldLength : Takes entries "max_field_length" (4294967295 : Int) Coercion.integer settings.maxFieldLength
  maxPasswordLength : Takes entries "max_password_length" (4096 : Int) Coercion.integer settings.maxPasswordLength
  metricsEnabled : Takes entries "metrics_enabled" false Coercion.switch settings.metricsEnabled

/-! ## One setting -/

theorem length_eq_error_iff : length value = .error (.complaint c) ↔ Coercion.integer value = .error c ∨
    ∃ n, Coercion.integer value = .ok n ∧ (n < 1 ∨ Word.largest < n) ∧ c = .outOfRange := by
  unfold length
  cases hvalue : Coercion.integer value with
  | error e => simp
  | ok n =>
    simp only [reduceCtorEq, false_or, Except.ok.injEq, exists_eq_left']
    split <;> rename_i hrange
    · simp only [reduceCtorEq, false_iff]
      omega
    · simp only [Except.error.injEq, Coercion.Failure.complaint.injEq]
      constructor
      · rintro rfl
        exact ⟨by omega, rfl⟩
      · exact fun h => h.2.symm

section Setting

variable {α : Type} {default a : α} {coerce : Value → Except Coercion.Failure α}

/-- A setting without an entry has its default; one with an entry is missing, or what its value is coerced to. -/
theorem setting_of_mem (hdistinct : (entries.map (·.1)).Nodup) (hentry : (name, value) ∈ entries) (hvalue : value ≠ .null) :
    setting entries name default coerce = coerce value := by
  unfold setting
  rw [(Value.lookup_eq_some_iff_mem hdistinct).2 hentry]
  split <;> rename_i hsome
  · cases hsome
  · cases hsome
    exact absurd rfl hvalue
  · cases hsome
    rfl

theorem setting_of_null (hdistinct : (entries.map (·.1)).Nodup) (hentry : (name, .null) ∈ entries) :
    setting entries name default coerce = .error (.complaint .missingValue) := by
  unfold setting
  rw [(Value.lookup_eq_some_iff_mem hdistinct).2 hentry]

theorem setting_of_absent (hnone : ∀ value, (name, value) ∉ entries) :
    setting entries name default coerce = .ok default := by
  unfold setting
  rw [Value.lookup_eq_none_iff_forall.2 hnone]

theorem setting_eq_error_iff (hdistinct : (entries.map (·.1)).Nodup) :
    setting entries name default coerce = .error (.complaint c) ↔ ∃ value, (name, value) ∈ entries ∧
      (value = .null ∧ c = .missingValue ∨ value ≠ .null ∧ coerce value = .error (.complaint c)) := by
  constructor
  · intro h
    by_cases hnone : ∀ value, (name, value) ∉ entries
    · rw [setting_of_absent hnone] at h
      cases h
    · obtain ⟨value, hentry⟩ := Classical.not_forall_not.1 hnone
      refine ⟨value, hentry, ?_⟩
      by_cases hvalue : value = .null
      · rw [hvalue] at hentry
        rw [setting_of_null hdistinct hentry] at h
        exact .inl ⟨hvalue, (Coercion.Failure.complaint.inj (Except.error.inj h)).symm⟩
      · rw [setting_of_mem hdistinct hentry hvalue] at h
        exact .inr ⟨hvalue, h⟩
  · rintro ⟨value, hentry, ⟨rfl, rfl⟩ | ⟨hvalue, h⟩⟩
    · exact setting_of_null hdistinct hentry
    · rw [setting_of_mem hdistinct hentry hvalue, h]

theorem takes_of_setting (hdistinct : (entries.map (·.1)).Nodup) (h : setting entries name default coerce = .ok a) :
    Takes entries name default coerce a := by
  by_cases hnone : ∀ value, (name, value) ∉ entries
  · rw [setting_of_absent hnone] at h
    cases h
    exact .absent hnone
  · obtain ⟨value, hentry⟩ := Classical.not_forall_not.1 hnone
    by_cases hvalue : value = .null
    · rw [hvalue] at hentry
      rw [setting_of_null hdistinct hentry] at h
      cases h
    · rw [setting_of_mem hdistinct hentry hvalue] at h
      exact .given hentry h

end Setting

/-! ## Faults of an entry -/

theorem fault_switch_iff (hname : name ∈ switches) : Fault name value c ↔
    value = .null ∧ c = .missingValue ∨ value ≠ .null ∧ Coercion.switch value = .error (.complaint c) := by
  have hknown : ∀ name ∈ switches, name ∈ names ∧ name ∉ limits := by decide
  constructor
  · intro h
    cases h with
    | unknown hunknown => exact absurd (hknown name hname).1 hunknown
    | missing _ => exact .inl ⟨rfl, rfl⟩
    | switch _ hvalue hcoerce => exact .inr ⟨hvalue, hcoerce⟩
    | limit hlimit _ _ => exact absurd hlimit (hknown name hname).2
    | range hlimit _ _ => exact absurd hlimit (hknown name hname).2
  · rintro (⟨rfl, rfl⟩ | ⟨hvalue, hcoerce⟩)
    · exact .missing (hknown name hname).1
    · exact .switch hname hvalue hcoerce

theorem fault_limit_iff (hname : name ∈ limits) : Fault name value c ↔
    value = .null ∧ c = .missingValue ∨ value ≠ .null ∧ length value = .error (.complaint c) := by
  have hknown : ∀ name ∈ limits, name ∈ names ∧ name ∉ switches := by decide
  rw [length_eq_error_iff]
  constructor
  · intro h
    cases h with
    | unknown hunknown => exact absurd (hknown name hname).1 hunknown
    | missing _ => exact .inl ⟨rfl, rfl⟩
    | switch hswitch _ _ => exact absurd hswitch (hknown name hname).2
    | limit _ hvalue hcoerce => exact .inr ⟨hvalue, .inl hcoerce⟩
    | range _ hcoerce hrange =>
      refine .inr ⟨?_, .inr ⟨_, hcoerce, hrange, rfl⟩⟩
      rintro rfl
      cases hcoerce
  · rintro (⟨rfl, rfl⟩ | ⟨hvalue, hcoerce | ⟨n, hcoerce, hrange, rfl⟩⟩)
    · exact .missing (hknown name hname).1
    · exact .limit hname hvalue hcoerce
    · exact .range hname hcoerce hrange

theorem fault_unknown_iff (hname : name ∉ names) : Fault name value c ↔ c = .unknownSetting := by
  have hknown : ∀ name ∈ switches ++ limits, name ∈ names := by decide
  constructor
  · intro h
    cases h with
    | unknown _ => rfl
    | missing hmem => exact absurd hmem hname
    | switch hmem _ _ => exact absurd (hknown name (List.mem_append_left limits hmem)) hname
    | limit hmem _ _ => exact absurd (hknown name (List.mem_append_right switches hmem)) hname
    | range hmem _ _ => exact absurd (hknown name (List.mem_append_right switches hmem)) hname
  · rintro rfl
    exact .unknown hname

/-! ## All that is wrong with single entries -/

/-- **What is reported of single entries**: of the four settings in their order, and then of what is no setting. -/
def complaintsOf (entries : List (String × Value)) : Complaints :=
  complaint "debug_logging" (setting entries "debug_logging" ({} : Settings).debugLogging Coercion.switch) ++
  complaint "max_field_length" (setting entries "max_field_length" (({} : Settings).maxFieldLength : Int) length) ++
  complaint "max_password_length" (setting entries "max_password_length" (({} : Settings).maxPasswordLength : Int) length) ++
  complaint "metrics_enabled" (setting entries "metrics_enabled" ({} : Settings).metricsEnabled Coercion.switch) ++
  unknown entries

theorem mem_complaint_iff {α : Type} {own : String} {result : Except Coercion.Failure α} :
    (name, complaints) ∈ complaint own result ↔ name = own ∧ ∃ c, result = .error (.complaint c) ∧ complaints = [c] := by
  unfold complaint
  split
  · simp
  · rename_i hother
    refine iff_of_false List.not_mem_nil ?_
    rintro ⟨-, c, hresult, -⟩
    exact hother c hresult

theorem mem_complaint_setting_iff {α : Type} {own : String} {default : α} {coerce : Value → Except Coercion.Failure α}
    (hdistinct : (entries.map (·.1)).Nodup) (hfault : ∀ value c, Fault own value c ↔
      value = .null ∧ c = .missingValue ∨ value ≠ .null ∧ coerce value = .error (.complaint c)) :
    (name, complaints) ∈ complaint own (setting entries own default coerce) ↔
      name = own ∧ ∃ value c, (name, value) ∈ entries ∧ Fault name value c ∧ complaints = [c] := by
  rw [mem_complaint_iff]
  refine and_congr_right fun hname => ?_
  subst hname
  simp only [setting_eq_error_iff hdistinct, hfault]
  exact ⟨fun ⟨c, ⟨value, hentry, h⟩, hc⟩ => ⟨value, c, hentry, h, hc⟩,
    fun ⟨value, c, hentry, h, hc⟩ => ⟨c, ⟨value, hentry, h⟩, hc⟩⟩

theorem mem_unknown_iff : (name, complaints) ∈ unknown entries ↔
    name ∉ names ∧ ∃ value c, (name, value) ∈ entries ∧ Fault name value c ∧ complaints = [c] := by
  unfold unknown
  simp only [List.mem_map, List.mem_filter, Prod.exists, Prod.mk.injEq, Bool.not_eq_true', List.contains_eq_mem,
    decide_eq_false_iff_not]
  constructor
  · rintro ⟨_, value, ⟨hentry, hname⟩, rfl, rfl⟩
    exact ⟨hname, value, _, hentry, .unknown hname, rfl⟩
  · rintro ⟨hname, value, c, hentry, hfault, rfl⟩
    rw [(fault_unknown_iff hname).1 hfault]
    exact ⟨name, value, ⟨hentry, hname⟩, rfl, rfl⟩

/-- **What is reported of single entries is what is wrong with them.** -/
theorem mem_complaintsOf_iff (hdistinct : (entries.map (·.1)).Nodup) : (name, complaints) ∈ complaintsOf entries ↔
    ∃ value c, (name, value) ∈ entries ∧ Fault name value c ∧ complaints = [c] := by
  have hnames : name ∈ names ↔ ((name = "debug_logging" ∨ name = "max_field_length") ∨ name = "max_password_length") ∨
      name = "metrics_enabled" := by simp [names, or_assoc]
  unfold complaintsOf
  rw [List.mem_append, List.mem_append, List.mem_append, List.mem_append,
    mem_complaint_setting_iff hdistinct fun _ _ => fault_switch_iff (by decide),
    mem_complaint_setting_iff hdistinct fun _ _ => fault_limit_iff (by decide),
    mem_complaint_setting_iff hdistinct fun _ _ => fault_limit_iff (by decide),
    mem_complaint_setting_iff hdistinct fun _ _ => fault_switch_iff (by decide), mem_unknown_iff, hnames, ← or_and_right,
    ← or_and_right, ← or_and_right, ← or_and_right]
  exact and_iff_right (Classical.em _)

theorem map_fst_complaint {α : Type} (own : String) (result : Except Coercion.Failure α) :
    List.Sublist ((complaint own result).map (·.1)) [own] := by
  unfold complaint
  split
  · exact List.Sublist.refl _
  · exact List.nil_sublist _

/-- Each name is reported once: a setting's own, and those of the entries that are no settings. -/
theorem distinct_complaintsOf (hdistinct : (entries.map (·.1)).Nodup) : ((complaintsOf entries).map (·.1)).Nodup := by
  have hunknown : List.Sublist ((unknown entries).map (·.1)) (entries.map (·.1)) := by
    rw [unknown, List.map_map]
    exact List.filter_sublist.map _
  have hsublist : List.Sublist ((complaintsOf entries).map (·.1)) (names ++ (unknown entries).map (·.1)) := by
    have hnames : names = ["debug_logging"] ++ ["max_field_length"] ++ ["max_password_length"] ++ ["metrics_enabled"] := rfl
    rw [complaintsOf, hnames, List.map_append, List.map_append, List.map_append, List.map_append]
    exact ((((map_fst_complaint _ _).append (map_fst_complaint _ _)).append (map_fst_complaint _ _)).append
      (map_fst_complaint _ _)).append (List.Sublist.refl _)
  refine List.Nodup.sublist hsublist (List.nodup_append.2 ⟨by decide, hdistinct.sublist hunknown, ?_⟩)
  rintro name hname _ hother rfl
  obtain ⟨entry, hentry, rfl⟩ := List.mem_map.1 hother
  exact (mem_unknown_iff.1 hentry).1 hname

theorem faithful_complaintsOf (hdistinct : (entries.map (·.1)).Nodup) : Faithful entries (complaintsOf entries) :=
  ⟨distinct_complaintsOf hdistinct, fun _ _ => mem_complaintsOf_iff hdistinct⟩

/-! ## What a table comes to -/

/-- What no refusal and no complaint came from is in order. -/
theorem complaint_eq_nil_iff {α : Type} {own : String} {result : Except Coercion.Failure α} (h : refusal? result = none) :
    complaint own result = [] ↔ ∃ a, result = .ok a := by
  cases result with
  | ok a => exact iff_of_true rfl ⟨a, rfl⟩
  | error failure =>
    cases failure with
    | complaint c => exact iff_of_false nofun nofun
    | hash cause => cases h

/-- **A table in which nothing refuses its hash is read when nothing is wrong with single entries.** -/
theorem complaintsOf_eq_nil_iff (hnone : firstRefusal? entries = none) : complaintsOf entries = [] ↔
    ∃ debug field password metrics, Reads entries debug field password metrics := by
  simp only [firstRefusal?, Option.or_eq_none_iff] at hnone
  obtain ⟨hdebug, hfield, hpassword, hmetrics⟩ := hnone
  simp only [complaintsOf, List.append_eq_nil_iff, complaint_eq_nil_iff hdebug, complaint_eq_nil_iff hfield,
    complaint_eq_nil_iff hpassword, complaint_eq_nil_iff hmetrics]
  constructor
  · rintro ⟨⟨⟨⟨⟨debug, hdebug⟩, field, hfield⟩, password, hpassword⟩, metrics, hmetrics⟩, hunknown⟩
    exact ⟨debug, field, password, metrics, hdebug, hfield, hpassword, hmetrics, hunknown⟩
  · rintro ⟨debug, field, password, metrics, h⟩
    exact ⟨⟨⟨⟨⟨debug, h.debug_eq⟩, field, h.field_eq⟩, password, h.password_eq⟩, metrics, h.metrics_eq⟩, h.unknown_eq⟩

theorem ofEntries_of_complaints (hnone : firstRefusal? entries = none) (h : complaintsOf entries ≠ []) :
    ofEntries entries = .error (.invalid (complaintsOf entries)) := by
  have hread := (complaintsOf_eq_nil_iff hnone).2
  unfold firstRefusal? at hnone
  simp only [ofEntries, hnone]
  split
  · rename_i debug field password metrics hdebug hfield hpassword hmetrics hunknown
    exact absurd (hread ⟨debug, field, password, metrics, hdebug, hfield, hpassword, hmetrics, hunknown⟩) h
  · rfl

theorem Takes.of_length {default n : Int} (h : Takes entries name default length n) :
    Takes entries name default Coercion.integer n := by
  cases h with
  | given hentry hcoerce => exact .given hentry (length_eq_ok_iff.1 hcoerce).1
  | absent hnone => exact .absent hnone

/-- **A table that is read has the values that it is read as**, and only the limits are left to compare. -/
theorem exists_effective_of_reads (hdistinct : (entries.map (·.1)).Nodup) {debug metrics : Bool} {field password : Int}
    (h : Reads entries debug field password metrics) : ∃ settings, Effective entries settings ∧
      ofEntries entries = if settings.maxFieldLength < settings.maxPasswordLength then
        .error (.invalid [("max_password_length", [.passwordOverField])]) else .ok settings := by
  obtain ⟨hfield, -⟩ := h.field_bounded
  obtain ⟨hpassword, -⟩ := h.password_bounded
  have hdebug := takes_of_setting hdistinct h.debug_eq
  have hmetrics := takes_of_setting hdistinct h.metrics_eq
  refine ⟨{ debugLogging := debug, maxFieldLength := field.toNat, maxPasswordLength := password.toNat,
            metricsEnabled := metrics }, ⟨hdebug, ?_, ?_, hmetrics⟩, ?_⟩
  · rw [Int.toNat_of_nonneg (by omega)]
    exact (takes_of_setting hdistinct h.field_eq).of_length
  · rw [Int.toNat_of_nonneg (by omega)]
    exact (takes_of_setting hdistinct h.password_eq).of_length
  · rcases Int.lt_or_le field password with hlt | hle
    · rw [ofEntries_of_lt h hlt, if_pos (by simp only; omega)]
    · rw [ofEntries_of_le h hle, if_neg (by simp only; omega)]

theorem faulty_iff (hdistinct : (entries.map (·.1)).Nodup) : Faulty entries ↔ complaintsOf entries ≠ [] := by
  rw [List.ne_nil_iff_exists_cons]
  constructor
  · rintro ⟨name, value, c, hentry, hfault⟩
    have hmem : (name, [c]) ∈ complaintsOf entries := (mem_complaintsOf_iff hdistinct).2 ⟨value, c, hentry, hfault, rfl⟩
    cases hcomplaints : complaintsOf entries with
    | nil => rw [hcomplaints] at hmem; cases hmem
    | cons first rest => exact ⟨first, rest, rfl⟩
  · rintro ⟨⟨name, complaints⟩, rest, hcomplaints⟩
    obtain ⟨value, c, hentry, hfault, -⟩ := (mem_complaintsOf_iff hdistinct).1 (hcomplaints ▸ List.mem_cons_self)
    exact ⟨name, value, c, hentry, hfault⟩

/-- **Outcomes that are the same but for the order of what is reported.** -/
inductive SameButOrder : Except Failure Settings → Except Failure Settings → Prop
  | same (outcome : Except Failure Settings) : SameButOrder outcome outcome
  | reported {messages messages' : Complaints} (h : messages.Perm messages') :
      SameButOrder (.error (.invalid messages)) (.error (.invalid messages'))

/-- **The order of the entries does not matter.** -/
theorem load_perm (hdistinct : (entries.map (·.1)).Nodup) (h : entries.Perm other) :
    SameButOrder (load (.dict entries)) (load (.dict other)) := by
  have hsetting : ∀ {α : Type} (name : String) (default : α) (coerce : Value → Except Coercion.Failure α),
      setting other name default coerce = setting entries name default coerce := fun name default coerce => by
    rw [setting, setting, Value.lookup_perm hdistinct h]
  have hunknown : (unknown entries).Perm (unknown other) := (h.filter _).map _
  have hcomplaints : (complaintsOf entries).Perm (complaintsOf other) := by
    simp only [complaintsOf, hsetting]
    exact hunknown.append_left _
  have hrefusal : firstRefusal? other = firstRefusal? entries := by simp only [firstRefusal?, hsetting]
  show SameButOrder (ofEntries entries) (ofEntries other)
  cases hnone : firstRefusal? entries with
  | some cause =>
    rw [ofEntries_of_refused (firstRefusal?_eq_some_iff.1 hnone),
      ofEntries_of_refused (firstRefusal?_eq_some_iff.1 (hrefusal.trans hnone))]
    exact .same _
  | none =>
    by_cases hfine : complaintsOf entries = []
    · obtain ⟨debug, field, password, metrics, hreads⟩ := (complaintsOf_eq_nil_iff hnone).1 hfine
      have hother : Reads other debug field password metrics := {
        debug_eq := (hsetting _ _ _).trans hreads.debug_eq
        field_eq := (hsetting _ _ _).trans hreads.field_eq
        password_eq := (hsetting _ _ _).trans hreads.password_eq
        metrics_eq := (hsetting _ _ _).trans hreads.metrics_eq
        unknown_eq := (hreads.unknown_eq ▸ hunknown).nil_eq.symm }
      rcases Int.lt_or_le field password with hlt | hle
      · rw [ofEntries_of_lt hreads hlt, ofEntries_of_lt hother hlt]
        exact .same _
      · rw [ofEntries_of_le hreads hle, ofEntries_of_le hother hle]
        exact .same _
    · have hother : complaintsOf other ≠ [] := fun hnil => hfine (hnil ▸ hcomplaints).eq_nil
      rw [ofEntries_of_complaints hnone hfine, ofEntries_of_complaints (hrefusal.trans hnone) hother]
      exact .reported hcomplaints

/-- **What is reported about a table is what is wrong with it.**  Take a table in which no name stands twice.  A refusal
comes through exactly if a switch refuses its hash.  If none does and there is something wrong with single entries, that is
reported, each fault once under the name of its entry, and nothing else.  If there is nothing wrong with them, every setting
has a value, coerced or its default; either the password limit is over the field limit, and only this is reported, or these
values are the settings.  And the order of the entries does not matter. -/
theorem load_reports (hdistinct : (entries.map (·.1)).Nodup) :
    (∀ cause, load (.dict entries) = .error (.hash cause) ↔ Refused entries cause) ∧
    ((∀ cause, ¬ Refused entries cause) → Faulty entries →
      ∃ messages, load (.dict entries) = .error (.invalid messages) ∧ Faithful entries messages) ∧
    ((∀ cause, ¬ Refused entries cause) → ¬ Faulty entries → ∃ settings, Effective entries settings ∧
      load (.dict entries) = if settings.maxFieldLength < settings.maxPasswordLength then
        .error (.invalid [("max_password_length", [.passwordOverField])]) else .ok settings) ∧
    ∀ other, entries.Perm other → SameButOrder (load (.dict entries)) (load (.dict other)) := by
  have hnone : (∀ cause, ¬ Refused entries cause) → firstRefusal? entries = none := fun hrefused =>
    Option.eq_none_iff_forall_ne_some.2 fun cause hcause => hrefused cause (firstRefusal?_eq_some_iff.1 hcause)
  refine ⟨fun _ => ofEntries_eq_hash_iff, fun hrefused hfaulty => ?_, fun hrefused hfine => ?_,
    fun other => load_perm hdistinct⟩
  · exact ⟨_, ofEntries_of_complaints (hnone hrefused) ((faulty_iff hdistinct).1 hfaulty), faithful_complaintsOf hdistinct⟩
  · have hnil : complaintsOf entries = [] :=
      Classical.not_not.1 fun hcomplaints => hfine ((faulty_iff hdistinct).2 hcomplaints)
    obtain ⟨debug, field, password, metrics, hreads⟩ := (complaintsOf_eq_nil_iff (hnone hrefused)).1 hnil
    exact exists_effective_of_reads hdistinct hreads

/-- Three faults and a switch in words; limits that are fine each, but not together, in either order; and a view of wide
items for a switch, beside a fault. -/
theorem load_reports_limits :
    let faulty := [("max_field_length", Value.text " 0 "), ("debug_logging", .text "on"), ("colour", .int 1),
      ("max_password_length", .null)]
    let crossed := [("max_password_length", Value.text "8"), ("max_field_length", .int 7)]
    (∃ messages, load (.dict faulty) = .error (.invalid messages) ∧ Faithful faulty messages) ∧
    (∃ settings, Effective crossed settings ∧
      load (.dict crossed) = if settings.maxFieldLength < settings.maxPasswordLength then
        .error (.invalid [("max_password_length", [.passwordOverField])]) else .ok settings) ∧
    SameButOrder (load (.dict crossed)) (load (.dict crossed.reverse)) ∧
    load (.dict [("max_field_length", .int 0), ("metrics_enabled", .wordView false [])]) = .error (.hash .wideItems) := by
  intro faulty crossed
  have hfaulty : (faulty.map (·.1)).Nodup := by decide
  have hcrossed : (crossed.map (·.1)).Nodup := by decide
  have hfault : Faulty faulty := ⟨"colour", .int 1, _, by simp [faulty], .unknown (by decide)⟩
  have hfine : ¬ Faulty crossed := fun h => (faulty_iff hcrossed).1 h rfl
  have hnone : ∀ entries, firstRefusal? entries = none → ∀ cause, ¬ Refused entries cause := fun entries hnone cause h => by
    rw [firstRefusal?_eq_some_iff.2 h] at hnone
    cases hnone
  have hrefused : Refused [("max_field_length", .int 0), ("metrics_enabled", .wordView false [])] .wideItems :=
    .metrics nofun rfl (.wideItems [])
  obtain ⟨-, hreported, -, -⟩ := load_reports hfaulty
  obtain ⟨-, -, hread, hperm⟩ := load_reports hcrossed
  exact ⟨hreported (hnone faulty rfl) hfault, hread (hnone crossed rfl) hfine, hperm _ (List.reverse_perm crossed).symm,
    ((load_reports (by decide)).1 _).2 hrefused⟩

end Schema
end PasswordGate
