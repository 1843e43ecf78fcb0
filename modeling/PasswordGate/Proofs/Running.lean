/-!
# Running — carrying out what may be refused

Steps on a workspace and calls of a device are actions on a state that may end in an error; the state that the error
leaves is kept.  These are the equations by which a row of actions is run one after the other.
-/
namespace PasswordGate
namespace Running

variable {σ ε α β : Type}

theorem run_bind (x : ExceptT ε (StateM σ) α) (f : α → ExceptT ε (StateM σ) β) (s : σ) : (x >>= f).run s =
    match x.run s with
    | (.ok a, after) => (f a).run after
    | (.error e, after) => (.error e, after) := by
  show (ExceptT.bind x f).run s = _
  simp only [ExceptT.bind, ExceptT.run, ExceptT.mk, bind, StateT.bind]
  show (match x s with | (r, after) => _) = _
  cases x s with
  | mk r after => cases r <;> rfl

theorem run_bind_of_ok {x : ExceptT ε (StateM σ) α} {f : α → ExceptT ε (StateM σ) β} {s after : σ} {a : α}
    (h : x.run s = (.ok a, after)) : (x >>= f).run s = (f a).run after := by rw [run_bind, h]

theorem run_bind_of_error {x : ExceptT ε (StateM σ) α} {f : α → ExceptT ε (StateM σ) β} {s after : σ} {e : ε}
    (h : x.run s = (.error e, after)) : (x >>= f).run s = (.error e, after) := by rw [run_bind, h]

theorem run_map (x : ExceptT ε (StateM σ) α) (f : α → β) (s : σ) :
    (x >>= fun a => pure (f a)).run s = ((x.run s).1.map f, (x.run s).2) := by
  rw [run_bind]
  cases x.run s with
  | mk r after => cases r <;> rfl

end Running
end PasswordGate
