import HttpBinding.Source.Grammar.Attribute

/-!
What a successful reader has done. A reader that is made of two succeeds exactly if both
do, the second one where the first has ended, so a result is taken apart step by step. A
repetition is one reading after the other.
-/
namespace HttpBinding.Source.Reader

variable {α β : Type}

/-- The reader takes a value from the front of the tokens and leaves the rest. -/
def Reads (reader : Reader α) (tokens : Tokens) (value : α) (rest : Tokens) : Prop :=
  ∃ onward, reader tokens = some ⟨value, rest, onward⟩

theorem Reads.suffix {reader : Reader α} {tokens rest : Tokens} {value : α}
    (read : reader.Reads tokens value rest) : rest <:+ tokens :=
  read.1

theorem Reads.unique {reader : Reader α} {tokens rest other : Tokens} {value another : α}
    (read : reader.Reads tokens value rest) (again : reader.Reads tokens another other) :
    another = value ∧ other = rest := by
  obtain ⟨_, read⟩ := read
  obtain ⟨_, again⟩ := again
  cases read.symm.trans again
  exact ⟨rfl, rfl⟩

theorem whole_eq_some_iff (inner : Reader α) (tokens : Tokens) (value : α) :
    whole inner tokens = some value ↔ inner.Reads tokens value [] := by
  unfold whole Reads
  constructor
  · intro success
    split at success
    · rename_i onward read
      cases success
      exact ⟨onward, read⟩
    · cases success
  · rintro ⟨onward, read⟩
    rw [read]

theorem reads_pure_iff (made value : α) (tokens rest : Tokens) :
    (pure made : Reader α).Reads tokens value rest ↔ made = value ∧ tokens = rest := by
  constructor
  · rintro ⟨_, success⟩
    cases success
    exact ⟨rfl, rfl⟩
  · rintro ⟨rfl, rfl⟩
    exact ⟨List.suffix_refl _, rfl⟩

theorem not_reads_failure (value : α) (tokens rest : Tokens) :
    ¬ (failure : Reader α).Reads tokens value rest := by
  rintro ⟨_, success⟩
  cases success

theorem reads_bind_iff (first : Reader α) (next : α → Reader β) (value : β)
    (tokens rest : Tokens) :
    (first >>= next).Reads tokens value rest ↔
      ∃ read between, first.Reads tokens read between ∧ (next read).Reads between value rest := by
  constructor
  · rintro ⟨_, success⟩
    simp only [bind] at success
    split at success
    · cases success
    · rename_i read between onward started
      split at success
      · cases success
      · rename_i further ended
        cases success
        exact ⟨read, between, ⟨onward, started⟩, _, ended⟩
  · rintro ⟨read, between, ⟨onward, started⟩, further, ended⟩
    refine ⟨further.trans onward, ?_⟩
    simp only [bind, started, ended]

theorem reads_ahead_iff (tokens found rest : Tokens) :
    ahead.Reads tokens found rest ↔ tokens = found ∧ tokens = rest := by
  constructor
  · rintro ⟨_, success⟩
    cases success
    exact ⟨rfl, rfl⟩
  · rintro ⟨rfl, rfl⟩
    exact ⟨List.suffix_refl _, rfl⟩

theorem reads_next_iff (token : Token) (tokens rest : Tokens) :
    next.Reads tokens token rest ↔ tokens = token :: rest := by
  constructor
  · rintro ⟨_, success⟩
    cases tokens with
    | nil => cases success
    | cons _ _ =>
        cases success
        rfl
  · rintro rfl
    exact ⟨List.suffix_cons _ _, rfl⟩

theorem reads_test_iff (holds : Tokens → Bool) (value : Bool) (tokens rest : Tokens) :
    (test holds).Reads tokens value rest ↔ holds tokens = value ∧ tokens = rest := by
  simp only [test, reads_bind_iff, reads_ahead_iff, reads_pure_iff]
  constructor
  · rintro ⟨_, _, ⟨rfl, rfl⟩, rfl, rfl⟩
    exact ⟨rfl, rfl⟩
  · rintro ⟨rfl, rfl⟩
    exact ⟨_, _, ⟨rfl, rfl⟩, rfl, rfl⟩

theorem reads_check_iff (holds : Tokens → Bool) (tokens rest : Tokens) (value : Unit) :
    (check holds).Reads tokens value rest ↔ holds tokens = true ∧ tokens = rest := by
  simp only [check, reads_bind_iff, reads_ahead_iff]
  constructor
  · rintro ⟨_, _, ⟨rfl, rfl⟩, read⟩
    split at read
    · exact ⟨‹_›, ((reads_pure_iff ..).mp read).2⟩
    · exact (not_reads_failure _ _ _ read).elim
  · rintro ⟨held, rfl⟩
    exact ⟨_, _, ⟨rfl, rfl⟩, by simpa [held] using (reads_pure_iff ..).mpr ⟨rfl, rfl⟩⟩

theorem reads_drop_iff (count : Nat) (tokens rest : Tokens) (value : Unit) :
    (drop count).Reads tokens value rest ↔ tokens.drop count = rest := by
  constructor
  · rintro ⟨_, success⟩
    cases success
    rfl
  · rintro rfl
    exact ⟨List.drop_suffix _ _, rfl⟩

/-! Words and groups -/

theorem seesWord_iff (text : String) (tokens : Tokens) :
    Tokens.seesWord text tokens = true ↔ ∃ span rest, tokens = .word text span :: rest := by
  constructor
  · intro seen
    unfold Tokens.seesWord at seen
    split at seen
    · rename_i found span rest
      obtain rfl : found = text := of_decide_eq_true seen
      exact ⟨span, rest, rfl⟩
    · cases seen
  · rintro ⟨span, rest, rfl⟩
    exact decide_eq_true rfl

theorem reads_word_iff (text : String) (tokens rest : Tokens) (value : Unit) :
    (word text).Reads tokens value rest ↔ ∃ span, tokens = .word text span :: rest := by
  simp only [word, reads_bind_iff, reads_check_iff, reads_drop_iff, seesWord_iff]
  constructor
  · rintro ⟨_, _, ⟨⟨span, more, rfl⟩, rfl⟩, rfl⟩
    exact ⟨span, rfl⟩
  · rintro ⟨span, rfl⟩
    exact ⟨(), _, ⟨⟨span, rest, rfl⟩, rfl⟩, rfl⟩

theorem reads_optionalWord (text : String) (tokens rest : Tokens) (found : Bool)
    (read : (optionalWord text).Reads tokens found rest) :
    (found = true ∧ ∃ span, tokens = .word text span :: rest) ∨ (found = false ∧ tokens = rest) := by
  simp only [optionalWord, reads_bind_iff, reads_test_iff] at read
  obtain ⟨seen, _, ⟨_, rfl⟩, read⟩ := read
  split at read
  · simp only [reads_bind_iff, reads_word_iff, reads_pure_iff] at read
    obtain ⟨_, _, taken, rfl, rfl⟩ := read
    exact .inl ⟨rfl, taken⟩
  · obtain ⟨rfl, rfl⟩ := (reads_pure_iff ..).mp read
    exact .inr ⟨rfl, rfl⟩

theorem reads_anyWord_iff (tokens rest : Tokens) (text : String) :
    anyWord.Reads tokens text rest ↔ ∃ span, tokens = .word text span :: rest := by
  simp only [anyWord, reads_bind_iff, reads_next_iff]
  constructor
  · rintro ⟨token, _, rfl, read⟩
    split at read
    · rename_i found span
      obtain ⟨rfl, rfl⟩ := (reads_pure_iff ..).mp read
      exact ⟨span, rfl⟩
    · exact (not_reads_failure _ _ _ read).elim
  · rintro ⟨span, rfl⟩
    exact ⟨_, _, rfl, (reads_pure_iff ..).mpr ⟨rfl, rfl⟩⟩

theorem reads_within_iff (delimiter : Delimiter) (inner : Reader α)
    (tokens rest : Tokens) (value : α) :
    (within delimiter inner).Reads tokens value rest ↔
      ∃ inside span, tokens = .group delimiter inside span :: rest ∧
        inner.Reads inside value [] := by
  simp only [within, reads_bind_iff, reads_check_iff, reads_next_iff]
  constructor
  · rintro ⟨_, _, ⟨seen, rfl⟩, token, _, rfl, read⟩
    split at read
    · rename_i found inside span
      obtain rfl : found = delimiter := of_decide_eq_true seen
      split at read
      · rename_i made whole
        obtain ⟨rfl, rfl⟩ := (reads_pure_iff ..).mp read
        exact ⟨inside, span, rfl, (whole_eq_some_iff ..).mp whole⟩
      · exact (not_reads_failure _ _ _ read).elim
    · exact (not_reads_failure _ _ _ read).elim
  · rintro ⟨inside, span, rfl, read⟩
    refine ⟨(), _, ⟨decide_eq_true rfl, rfl⟩, _, _, rfl, ?_⟩
    simp only [(whole_eq_some_iff ..).mpr read]
    exact (reads_pure_iff ..).mpr ⟨rfl, rfl⟩

/-! Repetition -/

/-- Values read one after the other. -/
inductive InTurn (reader : Reader α) : Tokens → List α → Tokens → Prop where
  | none (tokens : Tokens) : InTurn reader tokens [] tokens
  | next {tokens between rest : Tokens} {value : α} {values : List α}
      (read : reader.Reads tokens value between) (others : InTurn reader between values rest) :
      InTurn reader tokens (value :: values) rest

theorem InTurn.suffix {reader : Reader α} {tokens rest : Tokens} {values : List α}
    (read : InTurn reader tokens values rest) : rest <:+ tokens := by
  induction read with
  | none tokens => exact List.suffix_refl tokens
  | next read _ ih => exact ih.trans read.suffix

theorem InTurn.split {reader : Reader α} {tokens rest : Tokens} (first second : List α)
    (read : InTurn reader tokens (first ++ second) rest) :
    ∃ between, InTurn reader tokens first between ∧ InTurn reader between second rest := by
  induction first generalizing tokens with
  | nil => exact ⟨tokens, .none tokens, read⟩
  | cons value first ih =>
      cases read with
      | next taken others =>
          obtain ⟨between, front, back⟩ := ih others
          exact ⟨between, .next taken front, back⟩

/-- What has been found already stands in front, last one first. -/
theorem inTurn_of_iterate (holds : Tokens → Bool) (value : Reader α) (fuel : Nat)
    (found values : List α) (tokens rest : Tokens)
    (read : (iterate failure (fun found => (do
      if ← test holds then return .inl ((← value) :: found)
      else return .inr found.reverse : Reader (List α ⊕ List α))) fuel found).Reads
        tokens values rest) :
    ∃ more, values = found.reverse ++ more ∧ InTurn value tokens more rest ∧
      holds rest = false := by
  induction fuel generalizing tokens found with
  | zero => exact (not_reads_failure _ _ _ read).elim
  | succ fuel ih =>
      simp only [iterate, reads_bind_iff, reads_test_iff] at read
      obtain ⟨step, between, ⟨_, _, ⟨rfl, rfl⟩, stepped⟩, read⟩ := read
      split at stepped
      · simp only [reads_bind_iff, reads_pure_iff] at stepped
        obtain ⟨first, _, taken, rfl, rfl⟩ := stepped
        obtain ⟨more, rfl, inTurn, ended⟩ := ih _ _ read
        exact ⟨first :: more, by simp, .next taken inTurn, ended⟩
      · rename_i stopped
        obtain ⟨rfl, rfl⟩ := (reads_pure_iff ..).mp stepped
        obtain ⟨rfl, rfl⟩ := (reads_pure_iff ..).mp read
        exact ⟨[], by simp, .none _, by simpa using stopped⟩

theorem inTurn_of_many (holds : Tokens → Bool) (value : Reader α) (tokens rest : Tokens)
    (values : List α) (read : (many holds value).Reads tokens values rest) :
    InTurn value tokens values rest ∧ holds rest = false := by
  simp only [many, untilDone, reads_bind_iff, reads_ahead_iff] at read
  obtain ⟨_, _, ⟨rfl, rfl⟩, read⟩ := read
  obtain ⟨more, rfl, inTurn, ended⟩ := inTurn_of_iterate holds value _ [] values _ rest read
  exact ⟨by simpa using inTurn, ended⟩

end HttpBinding.Source.Reader
