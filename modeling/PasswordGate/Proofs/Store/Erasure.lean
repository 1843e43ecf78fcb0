import PasswordGate.Proofs.Store.Workspace
/-!
# Erasure — every run of steps guards the storage

What every reachable workspace satisfies (`Guarded`): blocks have one owner, finalisers are on owned storage, and storage
that nothing can reach is zero.  The proof is the store's invariant, with one addition that collecting provides: a buffer
that nothing stands for owns nothing.
-/
namespace PasswordGate
namespace Workspace

open Store (Reaches)

/-- **Storage is guarded**: a block has one owner; a buffer has storage exactly when it holds something, and its finaliser
is on that storage; a block that no live buffer owns is all zeros. -/
structure Guarded (w : Workspace) : Prop where
  owner_unique : ∀ b b' i, w.store.Owns b i → w.store.Owns b' i → b = b'
  storage_iff : ∀ b, (∃ i, w.store.Owns b i) ↔ w.store.length b ≠ 0
  finaliser_eq : ∀ b, (w.store.buffer b).finaliser = (w.store.buffer b).block
  lost_zero : ∀ i, (∀ b ∈ w.reachable, ¬ w.store.Owns b i) → ∀ x ∈ w.store.block i, x = 0

theorem Sound.exists_owns_iff {w : Workspace} (h : w.Sound) (b : BufferId) :
    (∃ i, w.store.Owns b i) ↔ w.store.length b ≠ 0 := by
  rw [Store.length, Ne, List.length_eq_zero_iff]
  constructor
  · rintro ⟨i, hi⟩
    have hblock : (w.store.buffer b).block = some i := hi
    rw [Store.contents, hblock]
    exact h.store.block_ne_nil b i hi
  · intro hne
    cases hblock : (w.store.buffer b).block with
    | none => exact absurd (by rw [Store.contents, hblock]) hne
    | some i => exact ⟨i, hblock⟩

theorem Sound.guarded {w : Workspace} (h : w.Sound) (hlost : ∀ b, b ∉ w.reachable → w.store.buffer b = {}) :
    w.Guarded where
  owner_unique := h.store.owner_unique
  storage_iff := h.exists_owns_iff
  finaliser_eq := h.store.finaliser_eq
  lost_zero i hno := h.store.orphan_zero i fun b hb => by
    by_cases hlive : b ∈ w.reachable
    · exact hno b hlive hb
    · rw [Store.Owns, hlost b hlive] at hb
      cases hb

/-- **Ownership and erasure.**  After any run of steps storage is guarded; a further step is a row of single changes, in
every state along it a release leaves the blocks of all other buffers alone, and a block that is owned when the step is
over holds what it held before the step. -/
theorem guarded_runs (steps : List Step) (step : Step) : (Workspace.runs {} steps).Guarded ∧
    Reaches (Workspace.runs {} steps).store ((Workspace.runs {} steps).run step).2.store ∧
    (∀ s b b' i, Reaches (Workspace.runs {} steps).store s → s.Owns b' i → b' ≠ b →
      (s.release b).Owns b' i ∧ (s.release b).block i = s.block i) ∧
    ∀ b i, i < (Workspace.runs {} steps).store.blocks.length → ((Workspace.runs {} steps).run step).2.store.Owns b i →
      ((Workspace.runs {} steps).run step).2.store.block i = (Workspace.runs {} steps).store.block i := by
  have h : (Workspace.runs {} steps).Sound := sound_runs steps sound_empty
  have hreach := reaches_run h step
  refine ⟨h.guarded (buffer_runs steps fun _ _ => rfl), hreach, fun s b b' i hs hown hne => ?_, fun b i hi hown => ?_⟩
  · have hkept := (Store.owns_release b' i).2 ⟨hne, hown⟩
    exact ⟨hkept, (Store.Reaches.sound hs h.store).block_release_of_owns hkept⟩
  · exact ((Store.Reaches.grows hreach h.store).kept i b hi hown).2

end Workspace
end PasswordGate
