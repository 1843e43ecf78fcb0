import PasswordGate.Inspect.Arguments
/-!
# Command lines — a kind and a text

A known kind and a text that do not start with a dash are read as what they are, and the option for JSON may stand in
front of them, between them or behind them (`parse_words`).
-/
namespace PasswordGate
namespace Arguments

/-- **A kind and a text on the command line**, with the option for JSON at one of the three places, or without it. -/
def words (kind text : String) : Option (Fin 3) → List String
  | none => [kind, text]
  | some place => [kind, text].insertIdx place "--json"

/-- A word that is an argument and nothing else. -/
def Plain (word : String) : Prop := word.toList.head? ≠ some '-'

instance (word : String) : Decidable (Plain word) := inferInstanceAs (Decidable (_ ≠ _))

theorem Plain.ne_separator {word : String} (h : Plain word) : word ≠ "--" := by
  rintro rfl
  exact h rfl

theorem Plain.token_eq {word : String} (h : Plain word) : token word = .ok (.argument word) := by
  unfold token
  split
  · rename_i hw
    rw [Plain, hw] at h
    exact absurd rfl h
  · rfl

theorem tokens_plain {word : String} (h : Plain word) (rest : List String) :
    tokens (word :: rest) = (tokens rest).map (.argument word :: ·) := by
  rw [tokens, if_neg h.ne_separator, h.token_eq]
  cases tokens rest <;> rfl

theorem tokens_json (rest : List String) :
    tokens ("--json" :: rest) = (tokens rest).map (.option .json .nothing :: ·) := by
  rw [tokens, if_neg (by decide), show token "--json" = .ok (.option .json .nothing) by rfl]
  cases tokens rest <;> rfl

theorem wordOf_plain {word : String} (h : Plain word) : wordOf [word] = some word := by
  rw [wordOf, List.erase_cons_tail (by simpa using h.ne_separator)]
  rfl

variable {kinds : List String} {kind text : String}

theorem takeKind_known (hkind : kind ∈ kinds) (hplain : Plain kind) (taken : Taken) :
    takeKind kinds taken [kind] = .ok { taken with kind := some kind } := by
  unfold takeKind
  rw [wordOf_plain hplain]
  exact if_pos (List.contains_iff_mem.2 hkind)

theorem takeText_plain (htext : Plain text) (taken : Taken) :
    takeText taken [text] = { taken with text := some (some text) } := by
  rw [takeText, wordOf_plain htext]

/-- An argument is taken alone if no separator follows it. -/
theorem splitArgument_argument (word : String) : ∀ {rest : List Token}, rest.head? ≠ some .separator →
    splitArgument (.argument word :: rest) = some ([word], rest)
  | [], _ => rfl
  | next :: rest, h => by
    have hnext : ¬ (next == Token.separator) = true := by simpa using h
    have htake : (next :: rest).takeWhile (· == .separator) = [] := List.takeWhile_cons_of_neg hnext
    have hdrop : (next :: rest).dropWhile (· == .separator) = next :: rest := List.dropWhile_cons_of_neg hnext
    show some (word :: ((next :: rest).takeWhile (· == .separator)).map Token.word,
      (next :: rest).dropWhile (· == .separator)) = _
    rw [htake, hdrop]
    rfl

/-- The kind and the text, where they stand together. -/
theorem takePositionals_both (hkind : kind ∈ kinds) (hplain : Plain kind) (htext : Plain text) (json : Bool)
    {rest : List Token} (hrest : rest.head? ≠ some .separator) :
    takePositionals kinds { json := json } (.argument kind :: .argument text :: rest) =
      .ok ({ kind := some kind, text := some (some text), json := json }, rest) := by
  unfold takePositionals
  rw [splitArgument_argument kind (by simp)]
  simp only [takeKind_known hkind hplain, splitArgument_argument text hrest, takeText_plain htext, bind, Except.bind,
    pure, Except.pure]

/-- The kind alone, in front of an option. -/
theorem takePositionals_kind (hkind : kind ∈ kinds) (hplain : Plain kind) (rest : List Token) :
    takePositionals kinds {} (.argument kind :: .option .json .nothing :: rest) =
      .ok ({ kind := some kind }, .option .json .nothing :: rest) := by
  unfold takePositionals
  rw [splitArgument_argument kind (by simp)]
  simp only [takeKind_known hkind hplain, bind, Except.bind, pure, Except.pure]
  rfl

/-- The text alone, behind the rest. -/
theorem takePositionals_text (htext : Plain text) (json : Bool) :
    takePositionals kinds { kind := some kind, json := json } [.argument text] =
      .ok ({ kind := some kind, text := some (some text), json := json }, []) := by
  unfold takePositionals
  rw [splitArgument_argument text (by simp)]
  simp only [takeText_plain htext]

theorem consume_json (fuel : Nat) (taken : Taken) (rest : List Token) :
    consume kinds (fuel + 1) taken (.option .json .nothing :: rest) = consume kinds fuel { taken with json := true } rest :=
  rfl

/-- With no option left, what stands together is all that is taken. -/
theorem consume_last {fuel : Nat} {taken after : Taken} {words : List Token} (hwords : words.dropWhile (!·.isOption) = [])
    (h : takePositionals kinds taken words = .ok (after, [])) : consume kinds (fuel + 1) taken words = .ok after := by
  unfold consume
  rw [hwords, h]
  simp [bind, Except.bind, pure, Except.pure]

/-- In front of an option, what stands together is taken first. -/
theorem consume_run {fuel : Nat} {taken after : Taken} {words rest run others : List Token} {first next : Token}
    (hrun : words.takeWhile (!·.isOption) = first :: run) (hothers : words.dropWhile (!·.isOption) = next :: others)
    (h : takePositionals kinds taken words = .ok (after, rest)) (hlt : rest.length < words.length) :
    consume kinds (fuel + 1) taken words = consume kinds fuel after rest := by
  rw [consume, hrun, hothers, h]
  simp only [bind, Except.bind]
  exact if_pos hlt

/-- **The words are told apart and taken**, wherever the option for JSON stands. -/
theorem consume_words (hkind : kind ∈ kinds) (hplain : Plain kind) (htext : Plain text) (place : Option (Fin 3)) :
    ∃ found, tokens (words kind text place) = .ok found ∧ consume kinds (found.length + 1) {} found =
      .ok { kind := some kind, text := some (some text), json := place.isSome } := by
  have hboth (json : Bool) {rest : List Token} (hrest : rest.head? ≠ some .separator) :=
    takePositionals_both hkind hplain htext json hrest
  match place with
  | none =>
    refine ⟨[.argument kind, .argument text], ?_, consume_last rfl (hboth false (by simp))⟩
    rw [words, tokens_plain hplain, tokens_plain htext]
    rfl
  | some 0 =>
    refine ⟨[.option .json .nothing, .argument kind, .argument text], ?_, ?_⟩
    · show tokens ["--json", kind, text] = _
      rw [tokens_json, tokens_plain hplain, tokens_plain htext]
      rfl
    · rw [List.length_cons, consume_json]
      exact consume_last rfl (hboth true (by simp))
  | some 1 =>
    refine ⟨[.argument kind, .option .json .nothing, .argument text], ?_, ?_⟩
    · show tokens [kind, "--json", text] = _
      rw [tokens_plain hplain, tokens_json, tokens_plain htext]
      rfl
    · rw [consume_run rfl rfl (takePositionals_kind hkind hplain _) (Nat.lt_succ_self _)]
      exact (consume_json 2 _ _).trans (consume_last rfl (takePositionals_text htext true))
  | some 2 =>
    refine ⟨[.argument kind, .argument text, .option .json .nothing], ?_, ?_⟩
    · show tokens [kind, text, "--json"] = _
      rw [tokens_plain hplain, tokens_plain htext, tokens_json]
      rfl
    · rw [consume_run rfl rfl (hboth false (by simp)) (by simp)]
      exact (consume_json 2 _ _).trans (consume_last rfl rfl)

/-- **A command line is read** as the kind and the text that stand on it, wherever the option for JSON stands. -/
theorem parse_words (hkind : kind ∈ kinds) (hplain : Plain kind) (htext : Plain text) (place : Option (Fin 3)) :
    parse kinds (words kind text place) = .ok { kind := kind, text := text, json := place.isSome } := by
  obtain ⟨found, htokens, hconsume⟩ := consume_words hkind hplain htext place
  unfold parse
  rw [htokens]
  show (consume kinds (found.length + 1) {} found >>= finish) = _
  rw [hconsume]
  rfl

end Arguments
end PasswordGate
