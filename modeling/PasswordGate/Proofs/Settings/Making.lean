import PasswordGate.Settings
/-!
# Making — which values make settings

Settings are made of two switches and two limits, and it is the limits that may be refused.  `make_eq_ok_iff` says which
limits pass and what they make; all settings that are made have their limits in order (`Settings.Bounded`).
-/
namespace PasswordGate

/-- **Limits in order**: none is zero or over 32 bits, and no password is allowed that a field is not. -/
structure Settings.Bounded (settings : Settings) : Prop where
  one_le : 1 ≤ settings.maxPasswordLength
  password_le : settings.maxPasswordLength ≤ settings.maxFieldLength
  field_le : settings.maxFieldLength ≤ Word.largest

namespace Settings

variable {debugLogging metricsEnabled : Bool} {maxFieldLength maxPasswordLength : Int} {settings : Settings}

theorem requireLength_eq_ok_iff {name : String} {value : Int} {limit : Nat} :
    requireLength name value = .ok limit ↔ 1 ≤ value ∧ value ≤ Word.largest ∧ limit = value.toNat := by
  unfold requireLength
  split <;> rename_i hrange
  · simp [hrange, eq_comm]
  · simp only [reduceCtorEq, false_iff]
    exact fun h => hrange ⟨h.1, h.2.1⟩

/-- **Settings are made exactly of limits in order**, and say what they were made of. -/
theorem make_eq_ok_iff : make debugLogging maxFieldLength maxPasswordLength metricsEnabled = .ok settings ↔
    1 ≤ maxPasswordLength ∧ maxPasswordLength ≤ maxFieldLength ∧ maxFieldLength ≤ Word.largest ∧
      settings = { debugLogging := debugLogging, maxFieldLength := maxFieldLength.toNat
                   maxPasswordLength := maxPasswordLength.toNat, metricsEnabled := metricsEnabled } := by
  unfold make
  constructor
  · intro h
    cases hfield : requireLength "max_field_length" maxFieldLength with
    | error e => simp [hfield, bind, Except.bind] at h
    | ok field =>
      cases hpassword : requireLength "max_password_length" maxPasswordLength with
      | error e => simp [hfield, hpassword, bind, Except.bind] at h
      | ok password =>
        obtain ⟨hfield₁, hfield₂, rfl⟩ := requireLength_eq_ok_iff.1 hfield
        obtain ⟨hpassword₁, -, rfl⟩ := requireLength_eq_ok_iff.1 hpassword
        simp only [hfield, hpassword, bind, Except.bind, pure, Except.pure] at h
        split at h
        · cases h
        · exact ⟨hpassword₁, by omega, hfield₂, (Except.ok.inj h).symm⟩
  · rintro ⟨hone, hle, hlargest, rfl⟩
    have hfield : requireLength "max_field_length" maxFieldLength = .ok maxFieldLength.toNat :=
      requireLength_eq_ok_iff.2 ⟨Int.le_trans hone hle, hlargest, rfl⟩
    have hpassword : requireLength "max_password_length" maxPasswordLength = .ok maxPasswordLength.toNat :=
      requireLength_eq_ok_iff.2 ⟨hone, Int.le_trans hle hlargest, rfl⟩
    simp only [hfield, hpassword, bind, Except.bind, pure, Except.pure]
    rw [if_neg (by omega)]

theorem bounded_of_make (h : make debugLogging maxFieldLength maxPasswordLength metricsEnabled = .ok settings) :
    settings.Bounded := by
  obtain ⟨hone, hle, hlargest, rfl⟩ := make_eq_ok_iff.1 h
  exact ⟨by simp only; omega, by simp only; omega, by simp only; omega⟩

end Settings
end PasswordGate
