import PasswordGate.Proofs.Store.Construction
import PasswordGate.Proofs.Store.Workspace
/-!
# Moves — contents change hands, and nothing else changes

A move has a giver, a taker, and a buffer whose former storage makes room (`Moved`): taking into a new buffer, moving from
one buffer to another and assigning a slot are all of this kind, wherever the buffers are.  A message is made by a row of
moves into slots that are still empty, so nothing at all is wiped then (`Made`).
-/
namespace PasswordGate
namespace Store

variable {s s' : Store}

/-- **A move**: the taker holds what the giver held, the giver holds nothing, and what the former buffer owned is zeroed;
every other block and every other buffer is as it was. -/
structure Moved (s : Store) (giver taker former : BufferId) (s' : Store) : Prop where
  taken : s'.contents taker = s.contents giver
  emptied : s'.contents giver = []
  dropped : former ≠ taker → s'.contents former = []
  wiped : ∀ i, s.Owns former i → s'.block i = Bytes.zeros (s.block i).length
  blocks : ∀ i, ¬ s.Owns former i → s'.block i = s.block i
  others : ∀ x, x ≠ giver → x ≠ taker → x ≠ former → s'.buffer x = s.buffer x ∧ s'.contents x = s.contents x

/-- A buffer that owns what it owned, or what another one did, holds the same as long as that is not what was wiped. -/
theorem contents_of_kept (h : s.Owned) {b b' former : BufferId} (hne : b ≠ former)
    (hb : (s'.buffer b').block = (s.buffer b).block) (hblocks : ∀ i, ¬ s.Owns former i → s'.block i = s.block i) :
    s'.contents b' = s.contents b :=
  contents_of_buffer_eq hb fun i hi => hblocks i fun hformer => hne (h.owner_unique b former i hi hformer)

/-- **A move is told by its buffers and its blocks.** -/
theorem moved_of_lookups (h : s.Owned) {giver taker former : BufferId} (hgiver : giver ≠ former) (htaker : giver ≠ taker)
    (hbuffer : ∀ x, s'.buffer x = if x = taker then Buffer.owning (s.buffer giver).block
      else if x = giver ∨ x = former then {} else s.buffer x)
    (hblock : ∀ i, s'.block i =
      if (s.buffer former).block = some i then Bytes.zeros (s.block i).length else s.block i) :
    s.Moved giver taker former s' := by
  have hblocks : ∀ i, ¬ s.Owns former i → s'.block i = s.block i := fun i hi => (hblock i).trans (if_neg hi)
  refine ⟨?_, ?_, fun hne => ?_, fun i hi => (hblock i).trans (if_pos hi), hblocks, fun x hg ht hf => ?_⟩
  · exact contents_of_kept h hgiver (by rw [hbuffer, if_pos rfl]; rfl) hblocks
  · exact contents_of_empty (by rw [hbuffer, if_neg htaker, if_pos (.inl rfl)])
  · exact contents_of_empty (by rw [hbuffer, if_neg hne, if_pos (.inr rfl)])
  · have hx : s'.buffer x = s.buffer x := by rw [hbuffer, if_neg ht, if_neg (not_or.2 ⟨hg, hf⟩)]
    exact ⟨hx, contents_of_kept h hf (congrArg Buffer.block hx) hblocks⟩

/-! ## Single moves -/

/-- A new buffer has no former storage, so taking wipes nothing. -/
theorem take_moved (h : s.Owned) {b : BufferId} (hb : b < s.buffers.length) :
    s.Moved b s.buffers.length s.buffers.length (s.take b).2 := by
  refine moved_of_lookups h (Nat.ne_of_lt hb) (Nat.ne_of_lt hb) (fun x => ?_) fun i => ?_
  · rw [buffer_take]
    by_cases hx : x = s.buffers.length
    · rw [if_pos hx, if_pos hx]
    · simp only [hx, or_false, if_false]
  · rw [block_take, s.buffer_of_length_le (Nat.le_refl _), if_neg nofun]

theorem moveFrom_self (s : Store) (b : BufferId) : s.moveFrom b b = s := if_pos rfl

theorem messages_moveFrom (s : Store) (b other : BufferId) : (s.moveFrom b other).messages = s.messages := by
  unfold moveFrom
  split
  · rfl
  · simp only [disown, messages_receive, messages_setBuffer, messages_release]

/-- **Moving into a buffer that holds something** releases that first, so it is the taker's own former storage that goes. -/
theorem moveFrom_moved (h : s.Owned) {b other : BufferId} (hb : b < s.buffers.length) (hne : other ≠ b) :
    s.Moved other b b (s.moveFrom b other) := by
  have hvacant : (s.release b).Vacant b := ⟨by rw [length_buffers_release]; exact hb, by rw [buffer_release, if_pos rfl]⟩
  have hother : (s.release b).buffer other = s.buffer other := by rw [buffer_release, if_neg hne]
  have hmove : s.moveFrom b other =
      ((s.release b).setBuffer other {}).receive b ((s.release b).buffer other).block := if_neg hne
  refine moved_of_lookups h hne hne (fun x => ?_) fun i => ?_
  · rw [hmove, buffer_move other hvacant, hother, buffer_release]
    by_cases hx : x = b
    · rw [if_pos hx, if_pos hx]
    · simp only [hx, or_false, if_false]
  · rw [hmove, block_receive, block_setBuffer, block_release, h.finaliser_eq]

theorem assign_self {m : MessageId} {position : Nat} {current : BufferId} (hslot : s.slot? m position = some current) :
    s.assign m position (some current) = s := by
  rw [assign, hslot]
  exact if_pos rfl

/-- **A slot that is assigned another buffer** gets a new one for what that buffer held, and drops its own. -/
theorem assign_moved (h : s.Sound) {m : MessageId} {position : Nat} {b current : BufferId}
    (hslot : s.slot? m position = some current) (hb : b < s.buffers.length) (hne : b ≠ current) :
    s.Moved b s.buffers.length current (s.assign m position (some b)) := by
  have hne' : some b ≠ some current := fun he => hne (Option.some.inj he)
  have hlt := h.slot_lt m current (List.mem_of_getElem? hslot)
  refine moved_of_lookups h.toOwned hne (Nat.ne_of_lt hb) (fun x => ?_) (block_assign h hslot hne')
  rw [buffer_assign hslot hne']
  by_cases hnew : x = s.buffers.length
  · rw [if_pos hnew, if_pos hnew, if_neg fun hx => Nat.ne_of_gt hlt (hnew.symm.trans hx)]
  · rw [if_neg hnew, if_neg hnew]
    by_cases hx : x = current
    · rw [if_pos hx, if_pos (.inr hx)]
    · simp only [hx, or_false, if_false]

end Store

namespace Workspace

/-- **Moves conserve what is held.**  After any run of steps: taking into a new buffer, moving from one buffer to another
and assigning a slot another buffer, be it in a slot itself or not, are moves, and all messages stay as they were but for
the new buffer in the slot; a buffer moved into itself, or assigned to the slot it is in, changes nothing.  A message that
is made from buffers holds what they held, each buffer giving its contents to the first field it is passed for. -/
theorem moves_conserve (steps : List Step) :
    let s := (Workspace.runs {} steps).store
    (∀ b, b < s.buffers.length → (s.take b).1 = s.buffers.length ∧
      s.Moved b s.buffers.length s.buffers.length (s.take b).2 ∧ (s.take b).2.messages = s.messages) ∧
    (∀ b other, b < s.buffers.length → other ≠ b →
      s.Moved other b b (s.moveFrom b other) ∧ (s.moveFrom b other).messages = s.messages) ∧
    (∀ b, s.moveFrom b b = s) ∧
    (∀ m position current b, s.slot? m position = some current → b < s.buffers.length → b ≠ current →
      s.Moved b s.buffers.length current (s.assign m position (some b)) ∧
      ∀ x, (s.assign m position (some b)).message x = if x = m then
        { s.message m with slots := (s.message m).slots.set position s.buffers.length } else s.message x) ∧
    (∀ m position current, s.slot? m position = some current → s.assign m position (some current) = s) ∧
    ∀ (kind : Kind) (status : Status) (userId : Nat) (values : List (Option BufferId)), userId ≤ Word.largest →
      values.length ≤ kind.filled → values.length ≤ kind.fields.length →
      (∀ b, some b ∈ values → b < s.buffers.length) →
      ∃ s', s.construct kind status.number userId values = .ok (s.messages.length, s') ∧
        s.Made kind status userId values s' := by
  intro s
  have h : s.Sound := (sound_runs steps sound_empty).store
  refine ⟨fun b hb => ⟨rfl, Store.take_moved h.toOwned hb, s.messages_take b⟩, fun b other hb hne => ?_,
    Store.moveFrom_self s, fun m position current b hslot hb hne => ?_, fun m position current => Store.assign_self,
    fun kind status userId values huser hfilled hfit hvalues => ?_⟩
  · exact ⟨Store.moveFrom_moved h.toOwned hb hne, s.messages_moveFrom b other⟩
  · exact ⟨Store.assign_moved h hslot hb hne, Store.message_assign hslot fun he => hne (Option.some.inj he)⟩
  · exact Store.construct_made h status huser hfilled hfit hvalues

/-- A buffer of a slot moved into the other slot of its message, and one buffer passed for both fields of another. -/
theorem moves_conserve_verifyRequest :
    (Workspace.runs {} [.copyOf "p" [1, 2], .construct "m" .verifyRequest 0 7 [.data [3], .data [4]]]).store.Moved 5 7 6
      ((Workspace.runs {} [.copyOf "p" [1, 2], .construct "m" .verifyRequest 0 7 [.data [3], .data [4]]]).store.assign
        0 1 (some 5)) ∧
    (Workspace.runs {} [.copyOf "p" [1, 2], .construct "m" .verifyRequest 0 7 [.data [3], .data [4]]]).store.Moved 0 6 6
      ((Workspace.runs {} [.copyOf "p" [1, 2],
        .construct "m" .verifyRequest 0 7 [.data [3], .data [4]]]).store.moveFrom 6 0) ∧
    ∃ s', (Workspace.runs {} [.copyOf "p" [1, 2],
        .construct "m" .verifyRequest 0 7 [.data [3], .data [4]]]).store.construct .verifyRequest 1 9 [some 0, some 0] =
          .ok (1, s') ∧
      s'.envelope 1 = { kind := .verifyRequest, status := .invalid, userId := 9, fields := [[1, 2], []] } := by
  obtain ⟨-, hmoveFrom, -, hassign, -, hconstruct⟩ := moves_conserve [.copyOf "p" [1, 2],
    .construct "m" .verifyRequest 0 7 [.data [3], .data [4]]]
  obtain ⟨s', hs', hmade⟩ := hconstruct .verifyRequest .invalid 9 [some 0, some 0] (by decide) (by decide) (by decide)
    (fun b hb => by
      obtain rfl : b = 0 := by simpa using hb
      decide)
  exact ⟨(hassign 0 1 6 5 (by decide) (by decide) (by decide)).1, (hmoveFrom 6 0 (by decide) (by decide)).1, s', hs',
    hmade.said⟩

end Workspace
end PasswordGate
