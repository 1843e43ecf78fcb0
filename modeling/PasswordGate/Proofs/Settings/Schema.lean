import PasswordGate.Settings.Schema
import PasswordGate.Proofs.Settings.Making
import PasswordGate.Proofs.Value.Hash
/-!
# Schema laws — a table of settings and named values come to the same settings

A table is read when each of its settings is in order and it holds nothing else (`Schema.Reads`); then only the comparison
of the two limits is left.  So a table gives settings exactly when it is read and its values make them
(`ofEntries_eq_ok_iff`), and since every limit that is read is in range, what is wrong with a table is never the refusal to
make settings of it.  It is a complaint about it, but for one case: a switch whose value refuses its hash
(`Schema.Refused`), which ends the reading before any complaint is made.
-/
namespace PasswordGate

namespace Schema

variable {entries : List (String × Value)} {debug metrics : Bool} {field password : Int}

def switches : List String := ["debug_logging", "metrics_enabled"]

def limits : List String := ["max_field_length", "max_password_length"]

/-- **A table whose settings are all in order**, with the values that they have, and without any other entry. -/
structure Reads (entries : List (String × Value)) (debug : Bool) (field password : Int) (metrics : Bool) : Prop where
  debug_eq : setting entries "debug_logging" ({} : Settings).debugLogging Coercion.switch = .ok debug
  field_eq : setting entries "max_field_length" (({} : Settings).maxFieldLength : Int) length = .ok field
  password_eq : setting entries "max_password_length" (({} : Settings).maxPasswordLength : Int) length = .ok password
  metrics_eq : setting entries "metrics_enabled" ({} : Settings).metricsEnabled Coercion.switch = .ok metrics
  unknown_eq : unknown entries = []

/-- **A switch of a table refuses its hash**; of two that do, it is the first. -/
inductive Refused (entries : List (String × Value)) : HashRefusal → Prop
  | debug {value : Value} {cause : HashRefusal} (hvalue : entries.lookup "debug_logging" = some value)
      (hrefuses : value.Refuses cause) : Refused entries cause
  | metrics {value : Value} {cause : HashRefusal}
      (hfirst : ∀ first, entries.lookup "debug_logging" = some first → ∀ other, ¬ first.Refuses other)
      (hvalue : entries.lookup "metrics_enabled" = some value) (hrefuses : value.Refuses cause) : Refused entries cause

/-! ## Limits -/

theorem length_eq_ok_iff {value : Value} {n : Int} :
    length value = .ok n ↔ Coercion.integer value = .ok n ∧ 1 ≤ n ∧ n ≤ Word.largest := by
  unfold length
  cases hvalue : Coercion.integer value with
  | error e => simp
  | ok m =>
    simp only [Except.ok.injEq]
    split <;> rename_i hrange
    · simp only [Except.ok.injEq]
      exact ⟨fun h => ⟨h, h ▸ hrange⟩, fun h => h.1⟩
    · simp only [reduceCtorEq, false_iff]
      exact fun ⟨h, hin⟩ => hrange (h ▸ hin)

theorem length_ne_hash (value : Value) (cause : HashRefusal) : length value ≠ .error (.hash cause) := by
  unfold length
  split
  · nofun
  · split <;> nofun

/-- A limit that is read is in range, given or not. -/
theorem setting_length_bounded {name : String} {default n : Int} (hdefault : 1 ≤ default ∧ default ≤ Word.largest)
    (h : setting entries name default length = .ok n) : 1 ≤ n ∧ n ≤ Word.largest := by
  unfold setting at h
  split at h
  · cases h
    exact hdefault
  · cases h
  · exact (length_eq_ok_iff.1 h).2

theorem Reads.field_bounded (h : Reads entries debug field password metrics) : 1 ≤ field ∧ field ≤ Word.largest :=
  setting_length_bounded (by decide) h.field_eq

theorem Reads.password_bounded (h : Reads entries debug field password metrics) :
    1 ≤ password ∧ password ≤ Word.largest :=
  setting_length_bounded (by decide) h.password_eq

/-! ## Refusals -/

section Refusals

variable {α : Type} {name : String} {default : α} {coerce : Value → Except Coercion.Failure α} {cause : HashRefusal}

theorem refusal?_eq_some_iff {result : Except Coercion.Failure α} :
    refusal? result = some cause ↔ result = .error (.hash cause) := by
  unfold refusal?
  split <;> simp_all

/-- **A switch fails with a refusal exactly for the values that refuse their hash.** -/
theorem switch_eq_hash_iff {value : Value} : Coercion.switch value = .error (.hash cause) ↔ value.Refuses cause := by
  rw [← Value.hashFault?_eq_refused_iff]
  unfold Coercion.switch
  split <;> rename_i hfault
  · simp [hfault]
  · simp [hfault]
  · rw [hfault]
    split
    · simp
    · split <;> simp

/-- A setting meets with a refusal when its value does. -/
theorem setting_eq_hash_iff (hnull : coerce .null ≠ .error (.hash cause)) :
    setting entries name default coerce = .error (.hash cause) ↔
      ∃ value, entries.lookup name = some value ∧ coerce value = .error (.hash cause) := by
  unfold setting
  split <;> rename_i hvalue
  · simp [hvalue]
  · simp [hvalue, hnull]
  · simp [hvalue]

theorem refusal?_switch_eq_some_iff {default : Bool} :
    refusal? (setting entries name default Coercion.switch) = some cause ↔
      ∃ value, entries.lookup name = some value ∧ value.Refuses cause := by
  rw [refusal?_eq_some_iff, setting_eq_hash_iff (by rw [Ne, switch_eq_hash_iff]; nofun)]
  simp only [switch_eq_hash_iff]

theorem refusal?_length {default : Int} : refusal? (setting entries name default length) = none := by
  rw [Option.eq_none_iff_forall_ne_some]
  intro cause h
  obtain ⟨value, -, hvalue⟩ := (setting_eq_hash_iff (length_ne_hash _ _)).1 (refusal?_eq_some_iff.1 h)
  exact length_ne_hash value cause hvalue

end Refusals

/-- The first refusal among the settings of a table, in their order. -/
def firstRefusal? (entries : List (String × Value)) : Option HashRefusal :=
  (refusal? (setting entries "debug_logging" ({} : Settings).debugLogging Coercion.switch)).or
    ((refusal? (setting entries "max_field_length" (({} : Settings).maxFieldLength : Int) length)).or
      ((refusal? (setting entries "max_password_length" (({} : Settings).maxPasswordLength : Int) length)).or
        (refusal? (setting entries "metrics_enabled" ({} : Settings).metricsEnabled Coercion.switch))))

theorem firstRefusal?_eq_some_iff {cause : HashRefusal} : firstRefusal? entries = some cause ↔ Refused entries cause := by
  unfold firstRefusal?
  rw [refusal?_length, refusal?_length, Option.none_or, Option.none_or, Option.or_eq_some_iff,
    refusal?_switch_eq_some_iff, refusal?_switch_eq_some_iff, Option.eq_none_iff_forall_ne_some]
  simp only [ne_eq, refusal?_switch_eq_some_iff, not_exists, not_and]
  constructor
  · rintro (⟨value, hvalue, hrefuses⟩ | ⟨hfirst, value, hvalue, hrefuses⟩)
    · exact .debug hvalue hrefuses
    · exact .metrics (fun first hlookup other => hfirst other first hlookup) hvalue hrefuses
  · intro h
    cases h with
    | debug hvalue hrefuses => exact .inl ⟨_, hvalue, hrefuses⟩
    | metrics hfirst hvalue hrefuses =>
      exact .inr ⟨fun other first hlookup => hfirst first hlookup other, _, hvalue, hrefuses⟩

/-! ## What a table comes to -/

/-- **A refusal ends the reading**, whatever else is wrong. -/
theorem ofEntries_of_refused {cause : HashRefusal} (h : Refused entries cause) :
    ofEntries entries = .error (.hash cause) := by
  have hfirst := firstRefusal?_eq_some_iff.2 h
  unfold firstRefusal? at hfirst
  simp only [ofEntries, hfirst]

/-- **A table that is read gives its settings, if the limits are in the right order.** -/
theorem ofEntries_of_le (h : Reads entries debug field password metrics) (hle : password ≤ field) :
    ofEntries entries = .ok { debugLogging := debug, maxFieldLength := field.toNat
                              maxPasswordLength := password.toNat, metricsEnabled := metrics } := by
  have hmake : Settings.make debug field password metrics = .ok _ :=
    Settings.make_eq_ok_iff.2 ⟨h.password_bounded.1, hle, h.field_bounded.2, rfl⟩
  simp only [ofEntries, h.debug_eq, h.field_eq, h.password_eq, h.metrics_eq, h.unknown_eq, hmake]
  exact if_neg (Int.not_lt.2 hle)

theorem ofEntries_of_lt (h : Reads entries debug field password metrics) (hlt : field < password) :
    ofEntries entries = .error (.invalid [("max_password_length", [.passwordOverField])]) := by
  simp only [ofEntries, h.debug_eq, h.field_eq, h.password_eq, h.metrics_eq, h.unknown_eq]
  exact if_pos hlt

/-- **A table is read, or a switch of it refuses its hash, or there are complaints about its entries.** -/
theorem reads_or_complaints (entries : List (String × Value)) :
    (∃ debug field password metrics, Reads entries debug field password metrics) ∨
      (∃ cause, Refused entries cause) ∨ ∃ complaints, ofEntries entries = .error (.invalid complaints) := by
  cases hfirst : firstRefusal? entries with
  | some cause => exact .inr (.inl ⟨cause, firstRefusal?_eq_some_iff.1 hfirst⟩)
  | none =>
    unfold firstRefusal? at hfirst
    simp only [ofEntries, hfirst]
    split
    · rename_i debug field password metrics hdebug hfield hpassword hmetrics hunknown
      exact .inl ⟨debug, field, password, metrics, hdebug, hfield, hpassword, hmetrics, hunknown⟩
    · exact .inr (.inr ⟨_, rfl⟩)

/-- **A table gives settings exactly when it is read and its values make them.** -/
theorem ofEntries_eq_ok_iff {settings : Settings} : ofEntries entries = .ok settings ↔
    ∃ debug field password metrics, Reads entries debug field password metrics ∧
      Settings.make debug field password metrics = .ok settings := by
  constructor
  · intro h
    rcases reads_or_complaints entries with
      ⟨debug, field, password, metrics, hreads⟩ | ⟨cause, hrefused⟩ | ⟨complaints, hcomplaints⟩
    · refine ⟨debug, field, password, metrics, hreads, ?_⟩
      rcases Int.lt_or_le field password with hlt | hle
      · rw [ofEntries_of_lt hreads hlt] at h
        cases h
      · rw [ofEntries_of_le hreads hle] at h
        exact Settings.make_eq_ok_iff.2 ⟨hreads.password_bounded.1, hle, hreads.field_bounded.2, (Except.ok.inj h).symm⟩
    · rw [ofEntries_of_refused hrefused] at h
      cases h
    · rw [hcomplaints] at h
      cases h
  · rintro ⟨debug, field, password, metrics, hreads, hmake⟩
    obtain ⟨-, hle, -, rfl⟩ := Settings.make_eq_ok_iff.1 hmake
    exact ofEntries_of_le hreads hle

/-- **A table gives settings with limits in order, or there are complaints about it, or a switch of it refuses its hash.** -/
theorem ofEntries_cases (entries : List (String × Value)) :
    (∃ settings, ofEntries entries = .ok settings ∧ settings.Bounded) ∨
      (∃ complaints, ofEntries entries = .error (.invalid complaints)) ∨ ∃ cause, Refused entries cause := by
  rcases reads_or_complaints entries with ⟨debug, field, password, metrics, hreads⟩ | hrefused | hcomplaints
  · rcases Int.lt_or_le field password with hlt | hle
    · exact .inr (.inl ⟨_, ofEntries_of_lt hreads hlt⟩)
    · have hgives := ofEntries_of_le hreads hle
      obtain ⟨_, _, _, _, -, hmake⟩ := ofEntries_eq_ok_iff.1 hgives
      exact .inl ⟨_, hgives, Settings.bounded_of_make hmake⟩
  · exact .inr (.inr hrefused)
  · exact .inr (.inl hcomplaints)

theorem ofEntries_eq_hash_iff {cause : HashRefusal} :
    ofEntries entries = .error (.hash cause) ↔ Refused entries cause := by
  refine ⟨fun h => ?_, ofEntries_of_refused⟩
  rcases ofEntries_cases entries with ⟨settings, hsettings, -⟩ | ⟨complaints, hcomplaints⟩ | ⟨other, hrefused⟩
  · rw [hsettings] at h
    cases h
  · rw [hcomplaints] at h
    cases h
  · rw [ofEntries_of_refused hrefused] at h
    cases h
    exact hrefused

/-! ## Values of the declared types -/

end Schema
end PasswordGate
