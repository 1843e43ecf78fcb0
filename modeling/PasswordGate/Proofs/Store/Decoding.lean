import PasswordGate.Proofs.Store.Contents
/-!
# Decoding in the store — a message in the store decodes as what it says does

The decoder is the envelope's; in the store its result is carried out by releasing every slot and moving a new buffer
into each slot that was read.  `deserialize_refines` says that this leaves the message saying exactly what the envelope's
own decoding gives, that it is refused exactly when that one is, and that no other message changes.
-/
namespace PasswordGate
namespace Store

variable {s s' : Store}

/-- **A copy of some data moved into a slot.** -/
theorem copyOf_assign (h : s.Sound) {m : MessageId} {position : Nat} {content : Bytes}
    (hlt : position < (s.envelope m).fields.length) (hle : content.length ≤ Word.largest) : ∃ copied,
    s.copyOf content = .ok (s.buffers.length, copied) ∧
    Reaches s (copied.assign m position (some s.buffers.length)) ∧
    ∀ x, (copied.assign m position (some s.buffers.length)).envelope x = if x = m then
      { s.envelope x with fields := (s.envelope x).fields.set position content } else s.envelope x := by
  obtain ⟨copied, hcopy, hreach, hmessages, hlen, hcontents⟩ := copyOf_spec h.toOwned hle
  have hc := Reaches.sound hreach h
  have hmessage : ∀ x, copied.message x = s.message x := fun x => by rw [message, message, hmessages]
  have hsame : ∀ x, copied.envelope x = s.envelope x := fun x => envelope_of_eq (hmessage x) fun b hb => by
    rw [hcontents, if_neg (Nat.ne_of_lt (h.slot_lt x b hb))]
  have hloose : copied.Loose s.buffers.length :=
    h.loose_of_le hmessage (Nat.le_refl _) (by rw [hlen]; exact Nat.lt_succ_self _)
  obtain ⟨current, hslot⟩ : ∃ current, copied.slot? m position = some current := by
    rw [envelope, List.length_map] at hlt
    exact ⟨_, by rw [slot?, hmessage]; exact List.getElem?_eq_getElem hlt⟩
  refine ⟨copied, hcopy, hreach.trans (reaches_assign hc.toSlotted m position _), fun x => ?_⟩
  rw [envelope_assign_of_loose hc hslot (fun b hb => Option.some.inj hb ▸ hloose), hsame, given, hcontents, if_pos rfl]

theorem take_append_drop_set {α : Type} {l : List α} {position : Nat} (a : α) (rest : List α) (h : position < l.length) :
    (l.set position a).take (position + 1) ++ rest ++ (l.set position a).drop (position + 1 + rest.length) =
      l.take position ++ (a :: rest) ++ l.drop (position + (a :: rest).length) := by
  have hset : l.set position a = (l.take position ++ [a]) ++ l.drop (position + 1) := by
    rw [List.set_eq_take_append_cons_drop, if_pos h, List.append_assoc]
    rfl
  have hlen : (l.take position ++ [a]).length = position + 1 := by
    rw [List.length_append, List.length_take, Nat.min_eq_left (Nat.le_of_lt h)]
    rfl
  have hdrop : ((l.take position ++ [a]) ++ l.drop (position + 1)).drop (position + 1 + rest.length) =
      l.drop (position + 1 + rest.length) := by
    rw [← List.drop_drop, ← hlen, List.drop_left, hlen, List.drop_drop]
  have htake : ((l.take position ++ [a]) ++ l.drop (position + 1)).take (position + 1) = l.take position ++ [a] := by
    rw [← hlen, List.take_left]
  rw [hset, hdrop, htake, List.append_assoc (l.take position), List.length_cons, Nat.add_assoc, Nat.add_comm 1]
  rfl

/-- **Decoded contents are installed one slot after the other**, and no other message changes. -/
theorem install_spec (m : MessageId) : ∀ (contents : List Bytes) (position : Nat) {s : Store}, s.Sound →
    position + contents.length ≤ (s.envelope m).fields.length → (∀ content ∈ contents, content.length ≤ Word.largest) →
    ∃ s', s.install m position contents = .ok s' ∧ s'.envelope m = { s.envelope m with
      fields := (s.envelope m).fields.take position ++ contents ++ (s.envelope m).fields.drop (position + contents.length) } ∧
      ∀ x, x ≠ m → s'.envelope x = s.envelope x
  | [], position, s, _, _, _ => ⟨s, rfl, by simp, fun _ _ => rfl⟩
  | content :: rest, position, s, h, hfit, hle => by
    simp only [List.length_cons] at hfit
    obtain ⟨copied, hcopy, hreach, henvelope⟩ := copyOf_assign h (m := m) (show position < _ by omega) (hle content (by simp))
    have hm := henvelope m
    rw [if_pos rfl] at hm
    obtain ⟨s', hinstall, hfields, hothers⟩ := install_spec m rest (position + 1) (Reaches.sound hreach h)
      (by rw [hm, List.length_set]; omega) (fun c hc => hle c (by simp [hc]))
    refine ⟨s', ?_, ?_, fun x hx => ?_⟩
    · simp only [install, hcopy, bind, Except.bind]
      exact hinstall
    · rw [hfields, hm, take_append_drop_set content rest (by omega)]
    · rw [hothers x hx, henvelope, if_neg hx]

/-- **A decoding takes effect on a message as on what it says.** -/
theorem accept_spec (h : s.Sound) {m : MessageId} (hm : m < s.messages.length) {decoded : Decoded}
    (hd : ∀ userId contents complete, decoded = .payload userId contents complete → userId ≤ Word.largest ∧
      contents.length ≤ (s.envelope m).fields.length ∧ ∀ content ∈ contents, content.length ≤ Word.largest) :
    ∃ s', s.accept m decoded = .ok s' ∧ s'.envelope m = (s.envelope m).accept decoded ∧
      ∀ x, x ≠ m → s'.envelope x = s.envelope x := by
  cases decoded with
  | refused =>
    refine ⟨s.setStatus m .invalid, rfl, ?_, fun x hx => ?_⟩
    · rw [envelope_setStatus hm, if_pos rfl]
      rfl
    · rw [envelope_setStatus hm, if_neg hx]
  | payload userId contents complete =>
    obtain ⟨huser, hcount, hlengths⟩ := hd userId contents complete rfl
    have hlabel := reaches_setUser s m huser
    have hlabelled := Reaches.sound hlabel h
    have hreleased := Reaches.sound (reaches_releaseMessage (s.setMessage m { s.message m with userId := userId }) m) hlabelled
    have henvelope : ∀ x, ((s.setMessage m { s.message m with userId := userId }).releaseMessage m).envelope x =
        if x = m then { s.envelope x with
          userId := userId, fields := List.replicate (s.envelope x).fields.length [] } else s.envelope x := fun x => by
      rw [envelope_releaseMessage hlabelled, envelope_setUserId hm]
      split <;> rfl
    have hm' := henvelope m
    rw [if_pos rfl] at hm'
    obtain ⟨installed, hinstall, hfields, hothers⟩ := install_spec m contents 0 hreleased
      (by rw [hm', List.length_replicate]; omega) hlengths
    have hlt : m < installed.messages.length := by
      have hgrows := Reaches.grows (reaches_install m contents 0 hreleased hinstall) hreleased
      refine Nat.lt_of_lt_of_le ?_ hgrows.messages_le
      rw [releaseMessage, messages_releaseAll, length_messages_setMessage]
      exact hm
    refine ⟨installed.setStatus m (if complete then .ok else .invalid), ?_, ?_, fun x hx => ?_⟩
    · simp only [accept, hinstall, bind, Except.bind, pure, Except.pure]
    · rw [envelope_setStatus hlt, if_pos rfl, hfields, hm']
      simp [Envelope.accept, List.drop_replicate]
    · rw [envelope_setStatus hlt, if_neg hx, hothers x hx, henvelope, if_neg hx]

/-- **Decoding a message in the store is decoding what it says**: both are refused together, or the store's message says
afterwards what the other decoding gives; other messages say what they said. -/
theorem deserialize_refines (h : s.Sound) {m : MessageId} (hm : m < s.messages.length) (data : Bytes) (stop : Option Int)
    (limit : Int) :
    (∃ e, s.deserialize m data stop limit = .error e ∧ (s.envelope m).deserialize data stop limit = .error e) ∨
    ∃ s', s.deserialize m data stop limit = .ok s' ∧ (s.envelope m).deserialize data stop limit = .ok (s'.envelope m) ∧
      ∀ x, x ≠ m → s'.envelope x = s.envelope x := by
  have hcount : (s.message m).slots.length = (s.envelope m).fields.length := (List.length_map _).symm
  unfold deserialize Envelope.deserialize
  rw [hcount]
  cases hw : Envelope.window data stop with
  | error e => exact .inl ⟨e, rfl, rfl⟩
  | ok last =>
    obtain ⟨last, rfl, hlast⟩ := Envelope.window_eq_ok hw
    obtain ⟨decoded, hdecode, hd⟩ : ∃ decoded,
        Envelope.decode (s.envelope m).fields.length data last limit = .ok decoded ∧
        ∀ userId contents complete, decoded = .payload userId contents complete → userId ≤ Word.largest ∧
          contents.length ≤ (s.envelope m).fields.length ∧ ∀ content ∈ contents, content.length ≤ Word.largest := by
      rcases Envelope.exists_decode (s.envelope m).fields.length limit hlast with
        hr | ⟨userId, contents, complete, hp, hbounds⟩
      · exact ⟨.refused, hr, fun _ _ _ he => by cases he⟩
      · exact ⟨_, hp, fun _ _ _ he => by cases he; exact hbounds⟩
    obtain ⟨s', haccept, henvelope, hothers⟩ := accept_spec h hm hd
    refine .inr ⟨s', ?_, ?_, hothers⟩
    · simp only [hdecode, bind, Except.bind]
      exact haccept
    · simp only [hdecode, bind, Except.bind, pure, Except.pure, henvelope]

/-- A decoding in the store that succeeds, seen on what the message says. -/
theorem deserialize_envelope (h : s.Sound) {m : MessageId} (hm : m < s.messages.length) {data : Bytes} {stop : Option Int}
    {limit : Int} (hd : s.deserialize m data stop limit = .ok s') :
    (s.envelope m).deserialize data stop limit = .ok (s'.envelope m) := by
  rcases deserialize_refines h hm data stop limit with ⟨e, he, -⟩ | ⟨t, ht, henvelope, -⟩
  · rw [hd] at he
    cases he
  · rw [hd] at ht
    cases ht
    exact henvelope

end Store
end PasswordGate
