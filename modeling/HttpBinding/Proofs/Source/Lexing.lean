import HttpBinding.Proofs.Source.Onward

/-!
Where tokens stand. The tokens of a text are in the order of the text and do not overlap, and
each one stands for exactly the characters of its span: a word for its letters, a group for
what starts and ends with its brackets. Only the tokens of a documentation comment stand for
what is written otherwise, and all of them for the same comment.
-/
namespace HttpBinding.Source

open Cursor (Onward)

/-- The characters stand in the text at the span, and fill it. -/
def Covers (source : List Char) (span : Span) (chars : List Char) : Prop :=
  ∃ front back, source = front ++ chars ++ back ∧ span.start = front.length ∧
    span.stop = front.length + chars.length

theorem covers_of_onward (source chars : List Char) (first last : Cursor)
    (placed : Onward ⟨0, source⟩ first) (taken : first.rest = chars ++ last.rest)
    (offset : last.offset = first.offset + chars.length) :
    Covers source ⟨first.offset, last.offset⟩ chars := by
  obtain ⟨front, rest, place⟩ := placed
  simp only [Nat.zero_add] at place
  refine ⟨front, last.rest, ?_, place, ?_⟩
  · rw [List.append_assoc, ← taken]
    exact rest
  · rw [← place]
    exact offset

theorem covers_between (source : List Char) (first last : Cursor)
    (placed : Onward ⟨0, source⟩ first) (onward : first.Onward last) :
    Covers source ⟨first.offset, last.offset⟩ (first.between last) := by
  obtain ⟨taken, rest, offset⟩ := onward
  have same : first.between last = taken := by
    rw [Cursor.between, offset, Nat.add_sub_cancel_left, rest, List.take_left']
    rfl
  rw [same]
  exact covers_of_onward source taken first last placed rest offset

def Delimiter.opening : Delimiter → Char
  | parenthesis => '('
  | bracket => '['
  | brace => '{'

def Delimiter.closing : Delimiter → Char
  | parenthesis => ')'
  | bracket => ']'
  | brace => '}'

/-- A token stands for what is written at its span. -/
inductive Token.Written (source : List Char) : Token → Prop where
  | word {text : String} {span : Span} (covers : Covers source span text.toList) :
      Written source (.word text span)
  | mark {c : Char} {joint : Bool} {span : Span} (covers : Covers source span [c]) :
      Written source (.mark c joint span)
  | literal {kind : LiteralKind} {text : String} {span : Span}
      (covers : Covers source span text.toList) : Written source (.literal kind text span)
  | group {delimiter : Delimiter} {inner : List Token} {span : Span} (inside : List Char)
      (covers : Covers source span (delimiter.opening :: inside ++ [delimiter.closing])) :
      Written source (.group delimiter inner span)

/-- Tokens in order between two places of a text: each behind the one in front of it. -/
inductive Lexed (source : List Char) : Nat → Nat → List Token → Prop where
  | none {start stop : Nat} (ordered : start ≤ stop) : Lexed source start stop []
  | token {start stop : Nat} {token : Token} {rest : List Token} (written : token.Written source)
      (behind : start ≤ token.span.start) (others : Lexed source token.span.stop stop rest) :
      Lexed source start stop (token :: rest)
  | comment {start stop : Nat} {span : Span} {rest : List Token} (inner : Bool)
      (behind : start ≤ span.start) (ordered : span.start ≤ span.stop)
      (others : Lexed source span.stop stop rest) :
      Lexed source start stop (Lexer.docTokens inner span ++ rest)

theorem Token.Written.ordered {source : List Char} {token : Token}
    (written : token.Written source) : token.span.start ≤ token.span.stop := by
  have ordered {span : Span} {chars : List Char} (covers : Covers source span chars) :
      span.start ≤ span.stop := by
    obtain ⟨front, back, _, start, stop⟩ := covers
    omega
  cases written with
  | word covers => exact ordered covers
  | mark covers => exact ordered covers
  | literal covers => exact ordered covers
  | group inside covers => exact ordered covers

namespace Lexed

variable {source : List Char} {start between stop : Nat} {first second tokens : List Token}

theorem ordered (lexed : Lexed source start stop tokens) : start ≤ stop := by
  induction lexed with
  | none ordered => exact ordered
  | token written behind _ ih => exact Nat.le_trans (Nat.le_trans behind written.ordered) ih
  | comment _ behind ordered _ ih => exact Nat.le_trans (Nat.le_trans behind ordered) ih

theorem from_le (lexed : Lexed source between stop tokens) (earlier : start ≤ between) :
    Lexed source start stop tokens := by
  cases lexed with
  | none ordered => exact .none (Nat.le_trans earlier ordered)
  | token written behind others => exact .token written (Nat.le_trans earlier behind) others
  | comment inner behind ordered others =>
      exact .comment inner (Nat.le_trans earlier behind) ordered others

theorem append (front : Lexed source start between first)
    (back : Lexed source between stop second) : Lexed source start stop (first ++ second) := by
  induction front with
  | none ordered => exact back.from_le ordered
  | token written behind _ ih => exact .token written behind (ih back)
  | comment inner behind ordered _ ih =>
      rw [List.append_assoc]
      exact .comment inner behind ordered (ih back)

/-- A token stands for what is written, with the others in front of it and behind it, or it is
part of a documentation comment. -/
theorem split (front : List Token) (token : Token) (back : List Token)
    (lexed : Lexed source start stop (front ++ token :: back)) :
    (token.Written source ∧ Lexed source start token.span.start front ∧
      Lexed source token.span.stop stop back) ∨
    ∃ inner span before after rest, Lexer.docTokens inner span = before ++ token :: after ∧
      back = after ++ rest := by
  -- Along the tokens; the token that is looked for is the next one, part of the next comment, or
  -- behind either of them.
  generalize same : front ++ token :: back = tokens at lexed
  induction lexed generalizing front with
  | none => simp at same
  | @token start stop other rest written behind others ih =>
      cases front with
      | nil =>
          obtain ⟨rfl, rfl⟩ := List.cons.inj same
          exact .inl ⟨written, .none behind, others⟩
      | cons earlier front =>
          obtain ⟨rfl, left⟩ := List.cons.inj same
          rcases ih front left with ⟨stands, before, after⟩ | comment
          · exact .inl ⟨stands, .token written behind before, after⟩
          · exact .inr comment
  | @comment start stop span rest inner behind ordered others ih =>
      rcases List.append_eq_append_iff.mp same with ⟨part, whole, left⟩ | ⟨part, rfl, left⟩
      · cases part with
        | nil =>
            rcases ih [] left with ⟨stands, before, after⟩ | comment
            · refine .inl ⟨stands, ?_, after⟩
              rw [List.append_nil] at whole
              simpa [whole] using Lexed.comment inner behind ordered before
            · exact .inr comment
        | cons found part =>
            obtain ⟨rfl, rfl⟩ := List.cons.inj left
            exact .inr ⟨inner, span, front, part, rest, whole, rfl⟩
      · rcases ih part left.symm with ⟨stands, before, after⟩ | comment
        · exact .inl ⟨stands, .comment inner behind ordered before, after⟩
        · exact .inr comment

theorem split_word (front : List Token) (text : String) (span : Span) (back : List Token)
    (lexed : Lexed source start stop (front ++ .word text span :: back)) :
    Covers source span text.toList ∧ Lexed source start span.start front ∧
      Lexed source span.stop stop back := by
  rcases lexed.split front _ back with
    ⟨written, before, after⟩ | ⟨inner, place, before, after, rest, whole, _⟩
  · cases written with
    | word covers => exact ⟨covers, before, after⟩
  · have member : Token.word text span ∈ Lexer.docTokens inner place := whole ▸ by simp
    cases inner <;> simp [Lexer.docTokens] at member

theorem split_brace (front inner : List Token) (span : Span) (back : List Token)
    (lexed : Lexed source start stop (front ++ .group .brace inner span :: back)) :
    (∃ inside, Covers source span ('{' :: inside ++ ['}'])) ∧ Lexed source start span.start front ∧
      Lexed source span.stop stop back := by
  rcases lexed.split front _ back with
    ⟨written, before, after⟩ | ⟨isInner, place, before, after, rest, whole, _⟩
  · cases written with
    | group inside covers => exact ⟨⟨inside, covers⟩, before, after⟩
  · have member : Token.group .brace inner span ∈ Lexer.docTokens isInner place := whole ▸ by simp
    cases isInner <;> simp [Lexer.docTokens] at member

/-- A hash is written as one, or it starts the tokens of a documentation comment. -/
theorem split_hash (front : List Token) (joint : Bool) (span : Span) (back : List Token)
    (lexed : Lexed source start stop (front ++ .mark '#' joint span :: back)) :
    (Covers source span ['#'] ∧ Lexed source start span.start front ∧
      Lexed source span.stop stop back) ∨
    ∃ inner rest, .mark '#' joint span :: back = Lexer.docTokens inner span ++ rest := by
  rcases lexed.split front _ back with
    ⟨written, before, after⟩ | ⟨inner, place, before, after, rest, whole, rfl⟩
  · cases written with
    | mark covers => exact .inl ⟨covers, before, after⟩
  · right
    -- The hash is the first token of a comment and no other.
    cases before with
    | nil =>
        obtain ⟨same, _⟩ := List.cons.inj whole
        cases same
        exact ⟨inner, rest, by rw [whole]; rfl⟩
    | cons first before =>
        have member : Token.mark '#' joint span ∈ (Lexer.docTokens inner place).tail := by
          rw [whole]
          simp
        cases inner <;> simp [Lexer.docTokens] at member

end Lexed

namespace Lexer

/-! Tokens one at a time -/

/-- What a reader of one token does: the token stands for what was taken. -/
structure Taken (source : List Char) (token : Token) (before after : Cursor) : Prop where
  written : token.Written source
  span : token.span = ⟨before.offset, after.offset⟩
  onward : before.Onward after

section
variable (source : List Char) (before after : Cursor) (token : Token)
  (placed : Onward ⟨0, source⟩ before)
include placed

theorem taken_of_literal? (fuel : Nat) (read : literal? fuel before = some (token, after)) :
    Taken source token before after := by
  obtain ⟨⟨kind, stop⟩, found, same⟩ := Option.map_eq_some_iff.mp read
  cases same
  have onward := Literal.onward_of_read? fuel before after kind found
  refine ⟨.literal ?_, rfl, onward⟩
  rw [String.toList_ofList]
  exact covers_between source before after placed onward

theorem markChar?_eq_some (c : Char) (read : markChar? before = some (c, after)) :
    before.Onward after ∧ Covers source ⟨before.offset, after.offset⟩ [c] := by
  simp only [markChar?] at read
  split at read
  · cases read
  · obtain ⟨⟨found, stop⟩, next, kept⟩ := Option.bind_eq_some_iff.mp read
    simp only at kept
    split at kept
    · cases kept
      obtain ⟨shape, offset⟩ := (Cursor.next?_eq_some_iff ..).mp next
      refine ⟨Cursor.onward_of_next? before after c next, ?_⟩
      exact covers_of_onward source [c] before after placed (by rw [shape]; rfl) offset
    · cases kept

theorem taken_of_mark? (read : mark? before = some (token, after)) :
    Taken source token before after := by
  obtain ⟨⟨c, stop⟩, found, read⟩ := Option.bind_eq_some_iff.mp read
  obtain ⟨onward, covers⟩ := markChar?_eq_some source before stop placed c found
  simp only at read
  split at read
  · obtain ⟨word, _, kept⟩ := Option.bind_eq_some_iff.mp read
    split at kept
    · cases kept
    · cases kept
      exact ⟨.mark covers, rfl, onward⟩
  · cases read
    exact ⟨.mark covers, rfl, onward⟩

theorem taken_of_word? (read : word? before = some (token, after)) :
    Taken source token before after := by
  simp only [word?] at read
  split at read
  · cases read
  · obtain ⟨stop, found, same⟩ := Option.map_eq_some_iff.mp read
    cases same
    have onward := forward_anyWord? before after found
    refine ⟨.word ?_, rfl, onward⟩
    rw [String.toList_ofList]
    exact covers_between source before after placed onward

theorem taken_of_damaged? (read : damaged? before = some (token, after)) :
    Taken source token before after := by
  simp only [damaged?] at read
  split at read
  · rename_i starts
    cases read
    obtain ⟨rest, whole⟩ := List.isPrefixOf_iff_prefix.mp starts
    refine ⟨.literal ?_, rfl, Cursor.onward_of_startsWith before _ starts⟩
    refine covers_of_onward source _ before _ placed ?_ ?_
    · rw [Cursor.advance, ← whole, ← String.length_toList, List.drop_left]
    · rw [Cursor.advance, String.length_toList]
  · cases read

theorem taken_of_leaf? (fuel : Nat) (read : leaf? fuel before = some (token, after)) :
    Taken source token before after := by
  simp only [leaf?, Option.orElse_eq_orElse, Option.orElse_eq_or, Option.or_eq_some_iff] at read
  obtain literal | ⟨-, mark | ⟨-, word | ⟨-, damaged⟩⟩⟩ := read
  · exact taken_of_literal? source before after token placed fuel literal
  · exact taken_of_mark? source before after token placed mark
  · exact taken_of_word? source before after token placed word
  · exact taken_of_damaged? source before after token placed damaged

end

/-! Groups -/

/-- A group is open: it starts with its bracket, behind the tokens in front of it. -/
structure Frame.OpenAt (source : List Char) (cursor : Cursor) (frame : Frame) : Prop where
  opened : ∃ inside, Onward ⟨0, source⟩ ⟨frame.start, frame.delimiter.opening :: inside⟩ ∧
    Onward ⟨frame.start + 1, inside⟩ cursor
  before : Lexed source 0 frame.start frame.before.reverse

/-- What holds wherever a text has been read up to. -/
structure Reached (source : List Char) (frames : List Frame) (read : List Token)
    (cursor : Cursor) : Prop where
  placed : Onward ⟨0, source⟩ cursor
  opened : ∀ frame ∈ frames, frame.OpenAt source cursor
  read : Lexed source 0 cursor.offset read.reverse

section
variable {source : List Char} {frames : List Frame} {read : List Token} {cursor : Cursor}

theorem Frame.OpenAt.further {frame : Frame} (opened : frame.OpenAt source cursor)
    (after : Cursor) (onward : cursor.Onward after) : frame.OpenAt source after := by
  obtain ⟨⟨inside, starts, leads⟩, before⟩ := opened
  exact ⟨⟨inside, starts, leads.trans onward⟩, before⟩

theorem Reached.append (reached : Reached source frames read cursor) (tokens : List Token)
    (after : Cursor) (onward : cursor.Onward after)
    (lexed : Lexed source cursor.offset after.offset tokens) :
    Reached source frames (tokens.reverse ++ read) after where
  placed := reached.placed.trans onward
  opened frame member := (reached.opened frame member).further after onward
  read := by
    rw [List.reverse_append, List.reverse_reverse]
    exact reached.read.append lexed

theorem Reached.further (reached : Reached source frames read cursor) (after : Cursor)
    (onward : cursor.Onward after) : Reached source frames read after :=
  reached.append [] after onward (.none onward.offset_le)

theorem Reached.comment (reached : Reached source frames read cursor) (tokens : List Token)
    (after : Cursor) (found : docComment? cursor = some (tokens, after)) :
    Reached source frames (tokens.reverse ++ read) after := by
  obtain ⟨⟨inner, text, stop⟩, taken, kept⟩ := Option.bind_eq_some_iff.mp found
  have onward := onward_of_docText? cursor stop inner text taken
  simp only at kept
  split at kept
  · cases kept
  · cases kept
    refine reached.append _ after onward ?_
    have lexed : Lexed source cursor.offset after.offset
        (docTokens inner ⟨cursor.offset, after.offset⟩ ++ []) :=
      .comment inner (Nat.le_refl _) onward.offset_le (.none (Nat.le_refl _))
    rwa [List.append_nil] at lexed

theorem Reached.token (reached : Reached source frames read cursor) (token : Token)
    (after : Cursor) (taken : Taken source token cursor after) :
    Reached source frames (token :: read) after := by
  have ends : token.span.stop = after.offset := by rw [taken.span]
  have starts : cursor.offset ≤ token.span.start := Nat.le_of_eq (by rw [taken.span])
  exact reached.append [token] after taken.onward
    (.token taken.written starts (.none (Nat.le_of_eq ends)))

theorem Reached.opening (reached : Reached source frames read cursor) (after : Cursor)
    (delimiter : Delimiter) (next : cursor.next? = some (delimiter.opening, after)) :
    Reached source (⟨delimiter, cursor.offset, read⟩ :: frames) [] after := by
  have onward := Cursor.onward_of_next? cursor after _ next
  obtain ⟨shape, offset⟩ := (Cursor.next?_eq_some_iff ..).mp next
  refine ⟨reached.placed.trans onward, ?_, .none (Nat.zero_le _)⟩
  rintro frame (_ | ⟨_, outer⟩)
  · refine ⟨⟨after.rest, shape ▸ reached.placed, ?_⟩, reached.read⟩
    rw [← offset]
  · exact (reached.opened frame outer).further after onward

theorem Reached.closing {frame : Frame} (reached : Reached source (frame :: frames) read cursor)
    (after : Cursor) (next : cursor.next? = some (frame.delimiter.closing, after)) :
    Reached source frames
      (.group frame.delimiter read.reverse ⟨frame.start, after.offset⟩ :: frame.before) after := by
  have onward := Cursor.onward_of_next? cursor after _ next
  obtain ⟨shape, offset⟩ := (Cursor.next?_eq_some_iff ..).mp next
  obtain ⟨⟨inside, starts, taken, rest, count⟩, before⟩ := reached.opened frame List.mem_cons_self
  have covers : Covers source ⟨frame.start, after.offset⟩
      (frame.delimiter.opening :: taken ++ [frame.delimiter.closing]) := by
    refine covers_of_onward source _ ⟨frame.start, _ :: inside⟩ after starts ?_ ?_
    · rw [shape] at rest
      simp only at rest
      simp [rest]
    · simp only [List.length_append, List.length_cons, List.length_nil]
      simp only at count
      omega
  refine ⟨reached.placed.trans onward, ?_, ?_⟩
  · intro outer member
    exact (reached.opened outer (List.mem_cons_of_mem _ member)).further after onward
  · rw [List.reverse_cons]
    exact before.append (.token (.group taken covers) (Nat.le_refl _) (.none (Nat.le_refl _)))

end

theorem opening_of_opening? (cursor after : Cursor) (c : Char) (delimiter : Delimiter)
    (next : cursor.next? = some (c, after)) (opens : opening? cursor = some delimiter) :
    c = delimiter.opening := by
  obtain ⟨shape, _⟩ := (Cursor.next?_eq_some_iff ..).mp next
  have sees (bracket : Char) : cursor.sees (· = bracket) = decide (c = bracket) := by
    rw [shape]
    rfl
  simp only [opening?, sees, decide_eq_true_eq, Bool.and_eq_true] at opens
  split at opens
  · rename_i bracket
    cases opens
    exact bracket
  · split at opens
    · rename_i brace
      cases opens
      exact brace
    · split at opens
      · rename_i parenthesis
        cases opens
        exact parenthesis.1
      · cases opens

theorem closing_of_closing? (c : Char) (delimiter : Delimiter)
    (closes : closing? c = some delimiter) : c = delimiter.closing := by
  simp only [closing?] at closes
  split at closes <;> cases closes <;> rfl

theorem lexed_of_tokensFrom (source : List Char) (limit fuel : Nat) (frames : List Frame)
    (read tokens : List Token) (cursor : Cursor) (reached : Reached source frames read cursor)
    (success : tokensFrom limit fuel frames read cursor = some tokens) :
    Lexed source 0 source.length tokens := by
  induction fuel generalizing frames read cursor with
  | zero => cases success
  | succ fuel ih =>
      -- Blanks are passed first; what follows is one of the steps above.
      have skipped := reached.further _ (onward_skipBlank limit cursor)
      rw [tokensFrom] at success
      generalize skipBlank limit cursor = cursor at skipped success
      simp only at success
      split at success
      · rename_i found after comment
        exact ih _ _ _ (skipped.comment found after comment) success
      · split at success
        · rename_i ended
          split at success
          · cases success
            obtain ⟨front, rest, offset⟩ := skipped.placed
            obtain ⟨place, left⟩ := cursor
            cases left with
            | cons => cases ended
            | nil =>
                -- Nothing is left, so the place is the end of the text.
                have whole : source.length = place := by
                  simp only [Nat.zero_add, List.append_nil] at rest offset
                  rw [rest, offset]
                rw [whole]
                exact skipped.read
          · cases success
        · rename_i c after next
          split at success
          · rename_i delimiter opens
            rw [opening_of_opening? cursor after c delimiter next opens] at next
            exact ih _ _ _ (skipped.opening after delimiter next) success
          · cases success
          · rename_i delimiter frame outer _ closes
            split at success
            · rename_i same
              rw [closing_of_closing? c delimiter closes, ← same] at next
              subst same
              exact ih _ _ _ (skipped.closing after next) success
            · cases success
          · obtain ⟨⟨token, stop⟩, leaf, success⟩ := Option.bind_eq_some_iff.mp success
            exact ih _ _ _
              (skipped.token token stop (taken_of_leaf? source _ _ _ skipped.placed limit leaf)) success

theorem lexed_of_tokens? (source : List Char) (tokens : List Token)
    (divided : tokens? source = some tokens) : Lexed source 0 source.length tokens := by
  refine lexed_of_tokensFrom source _ _ [] [] tokens _ ⟨?_, by simp, .none (Nat.zero_le _)⟩ divided
  split
  · rename_i marked
    cases source with
    | nil => cases marked
    | cons mark rest => exact Cursor.onward_cons 0 mark rest
  · rfl

end Lexer
end HttpBinding.Source
