import PasswordGate.Proofs.Device.Verdict
/-!
# Visits — a device that has been visited

Whatever a device is asked for, and under whichever authenticator, its store stays in order and its settings stay what
they were; so both hold of a device after any history of visits (`Device.Reached`).
-/
namespace PasswordGate
namespace Device

open Running
open Store (Reaches)

variable {d : Device}

theorem visit_enroll (d : Device) (auth : Authenticator) (userId : Int) (password : Option Bytes) :
    d.visit auth (.enroll userId password) = (((Call.enroll auth userId password).run d).1.map .buffer,
      ((Call.enroll auth userId password).run d).2) := run_map _ _ _

theorem visit_verify (d : Device) (auth : Authenticator) (userId : Int) (handle password : Option Bytes) :
    d.visit auth (.verify userId handle password) = (((Call.verify auth userId handle password).run d).1.map .buffer,
      ((Call.verify auth userId handle password).run d).2) := run_map _ _ _

theorem visit_message (d : Device) (auth : Authenticator) (operation : Operation) (data : Bytes) :
    d.visit auth (.message operation data) = (((Call.handle auth operation data).run d).1.map .message,
      ((Call.handle auth operation data).run d).2) := run_map _ _ _

theorem visit_close (d : Device) (auth : Authenticator) : d.visit auth .close = (.ok .nothing,
    if d.closed then d else ({ d with closed := true }).addNote Level.info "Keyguard device closed") := by
  cases hc : d.closed with
  | true =>
    have hclose : Call.close.run d = (.ok (), d) := by
      unfold Call.close
      rw [run_bind_of_ok (Call.run_get d), hc]
      rfl
    exact run_bind_of_ok hclose
  | false =>
    have hclose : Call.close.run d =
        (.ok (), ({ d with closed := true }).addNote Level.info "Keyguard device closed") := by
      unfold Call.close
      rw [run_bind_of_ok (Call.run_get d), hc]
      rfl
    exact run_bind_of_ok hclose

/-- **A closed device turns every call down** and is left as it was. -/
theorem visit_refused (h : d.closed = true) (auth : Authenticator) {v : Visit} (hv : v ≠ .close) :
    d.visit auth v = (.error .closed, d) := by
  have hensure : Call.ensureOpen.run d = (.error .closed, d) := by rw [Call.run_ensureOpen, h]; rfl
  cases v with
  | enroll userId password =>
    rw [visit_enroll]
    unfold Call.enroll
    rw [run_bind_of_error hensure]
    rfl
  | verify userId handle password =>
    rw [visit_verify]
    unfold Call.verify
    rw [run_bind_of_error hensure]
    rfl
  | message operation data =>
    rw [visit_message]
    unfold Call.handle
    rw [run_bind_of_error hensure]
    rfl
  | close => exact absurd rfl hv

/-- **A closed device is left as it was**, whatever it is asked for. -/
theorem visit_of_closed (h : d.closed = true) (auth : Authenticator) (v : Visit) : (d.visit auth v).2 = d := by
  by_cases hv : v = .close
  · rw [hv, visit_close, h, if_pos rfl]
  · rw [visit_refused h auth hv]

/-- **A visit changes the store by ticks and leaves the settings alone.** -/
theorem visit_keeps (h : d.store.Sound) (auth : Authenticator) (v : Visit) :
    Reaches d.store (d.visit auth v).2.store ∧ (d.visit auth v).2.settings = d.settings := by
  cases hc : d.closed with
  | true =>
    rw [visit_of_closed hc]
    exact ⟨.refl, rfl⟩
  | false =>
    cases v with
    | enroll userId password =>
      have hfollows := Call.enroll_follows h hc auth userId password
      rw [visit_enroll]
      exact ⟨hfollows.reaches, hfollows.settings⟩
    | verify userId handle password =>
      have hfollows := Call.verify_follows h hc auth userId handle password
      rw [visit_verify]
      exact ⟨hfollows.reaches, hfollows.settings⟩
    | message operation data =>
      have hfollows := Call.handle_follows h hc auth operation data
      rw [visit_message]
      exact ⟨hfollows.reaches, hfollows.settings⟩
    | close =>
      rw [visit_close, hc]
      exact ⟨.refl, rfl⟩

theorem visits_keep : ∀ (history : List (Authenticator × Visit)) {d : Device}, d.store.Sound →
    (d.visits history).2.store.Sound ∧ (d.visits history).2.settings = d.settings
  | [], _, h => ⟨h, rfl⟩
  | (auth, v) :: rest, d, h => by
    obtain ⟨hreach, hsettings⟩ := visit_keeps h auth v
    obtain ⟨hsound, hrest⟩ := visits_keep rest (Store.Reaches.sound hreach h)
    exact ⟨hsound, hrest.trans hsettings⟩

/-- **A device that was made with some settings and has had some visits.** -/
def Reached (settings : Settings) (d : Device) : Prop :=
  ∃ counters history, d = ((make settings counters).visits history).2

theorem Reached.keeps {settings : Settings} (h : d.Reached settings) : d.store.Sound ∧ d.settings = settings := by
  obtain ⟨counters, history, rfl⟩ := h
  exact visits_keep history Store.sound_empty

end Device
end PasswordGate
