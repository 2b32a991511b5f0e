import HttpBinding.Proofs.Source.Bundle
import HttpBinding.Proofs.Source.FunctionItem
import HttpBinding.Proofs.Source.Lexing

/-!
Extraction. The text of a function is cut out of the file from its first attribute that is no
documentation, or from the first word of its head, to the closing brace of its body, with every
character in between. Only a function that starts on the first line of a text with a byte order
mark is cut out one character early.
-/
namespace HttpBinding.Source

open Reader Tokens

/-! Characters -/

/-- What is written at two places and in between. -/
theorem covers_join (source chars ends : List Char) (first last : Span)
    (starts : Covers source first chars) (stops : Covers source last ends)
    (apart : first.stop ≤ last.start) :
    ∃ front between back, source = front ++ (chars ++ between ++ ends) ++ back ∧
      first.start = front.length ∧ last.start = front.length + (chars ++ between).length ∧
      last.stop = front.length + (chars ++ between ++ ends).length := by
  obtain ⟨front, behind, whole, start, stop⟩ := starts
  obtain ⟨ahead, back, again, place, final⟩ := stops
  have leads : ahead <+: source := ⟨ends ++ back, by rw [again, List.append_assoc]⟩
  have inside : front ++ chars <+: source := ⟨behind, whole.symm⟩
  have fewer : (front ++ chars).length ≤ ahead.length := by
    rw [List.length_append]
    omega
  obtain ⟨between, rfl⟩ := List.prefix_of_prefix_length_le inside leads fewer
  refine ⟨front, between, back, by rw [again]; simp, start, ?_, ?_⟩
  · rw [place]
    simp
  · rw [final]
    simp [Nat.add_assoc]

theorem isDoc_of_docTokens (grammar : Grammar) (inner : Bool) (span : Span) (tokens rest : Tokens)
    (found : Attribute)
    (read : (outerAttribute grammar).Reads (Lexer.docTokens inner span ++ tokens) found rest) :
    found.isDoc = true := by
  simp only [outerAttribute, marks, reads_bind_iff, reads_ahead_iff, reads_check_iff,
    reads_drop_iff, reads_pure_iff, reads_within_iff] at read
  obtain ⟨_, _, ⟨rfl, rfl⟩, _, _, ⟨_, _, ⟨_, rfl⟩, rfl⟩, ⟨isDoc, tree⟩, _,
    ⟨inside, place, whole, content⟩, rfl, rfl⟩ := read
  cases inner with
  | true => cases whole
  | false =>
      obtain ⟨same, _⟩ := List.cons.inj whole
      cases same
      obtain ⟨_, read⟩ := content
      -- Whatever the grammar, the path is `doc` and its value a literal.
      have doc : attributeContent grammar
          [.word "doc" span, .mark '=' false span, .literal .text "" span]
        = some ⟨(true, .metadata (.path false ["doc"] .none []) [.nothing]), [], by simp⟩ := rfl
      rw [doc] at read
      cases read
      rfl

/-! Tokens -/

theorem inTurn_taken {α : Type} (reader : Reader α) (token : Token) (tokens rest : Tokens)
    (values : List α) (read : InTurn reader (token :: tokens ++ rest) values rest) :
    ∃ value others after, values = value :: others ∧
      reader.Reads (token :: tokens ++ rest) value after := by
  generalize whole : token :: tokens ++ rest = given at read
  cases read with
  | none =>
      have longer := congrArg List.length whole
      simp only [List.cons_append, List.length_cons, List.length_append] at longer
      omega
  | next taken others => exact ⟨_, _, _, rfl, taken⟩

/-- What is written where the code of a function starts, and where it ends. -/
structure FunctionEnds (source : List Char) (attributes head : Tokens) (first last : Span)
    (chars : List Char) : Prop where
  starts : Covers source first chars
  ofAttribute : attributes ≠ [] → chars = ['#']
  ofHead : attributes = [] → ∃ word more, head = .word word first :: more ∧
    word ∈ functionWords ∧ word.toList = chars
  ends : ∃ inside, Covers source last ('{' :: inside ++ ['}'])
  apart : first.stop ≤ last.start

theorem functionEnds_of_lexed (source : List Char) (start stop : Nat) (grammar : Grammar)
    (name : String) (before docs attributes head inner rest : Tokens) (last : Span)
    (function : FunctionTokens grammar name docs attributes head inner last rest)
    (lexed : Lexed source start stop
      (before ++ (docs ++ (attributes ++ (head ++ .group .brace inner last :: rest))))) :
    ∃ first chars, FunctionEnds source attributes head first last chars ∧
      startOf (attributes ++ (head ++ .group .brace inner last :: rest)) = first.start := by
  rw [← List.append_assoc] at lexed
  cases attributes with
  | nil =>
      obtain ⟨word, first, more, rfl, known⟩ := function.headed.first
      obtain ⟨covers, _, behind⟩ := lexed.split_word _ word first _
      obtain ⟨ends, between, _⟩ := behind.split_brace more inner last rest
      exact ⟨first, word.toList, ⟨covers, by simp, fun _ => ⟨word, more, rfl, known, rfl⟩, ends,
        between.ordered⟩, rfl⟩
  | cons token attributes =>
      obtain ⟨found, read, leading⟩ := function.attributed
      obtain ⟨doc, others, after, rfl, taken⟩ := inTurn_taken _ _ _ _ _ read
      obtain ⟨joint, first, _, whole⟩ :=
        seesMarks_last '#' _ (start_outerAttribute grammar _ _ _ taken).2
      obtain ⟨rfl, _⟩ := List.cons.inj whole
      rw [List.cons_append] at lexed taken
      rcases lexed.split_hash _ joint first _ with ⟨covers, _, behind⟩ | ⟨isInner, tokens, comment⟩
      · rw [← List.append_assoc] at behind
        obtain ⟨ends, between, _⟩ := behind.split_brace _ inner last rest
        exact ⟨first, ['#'], ⟨covers, fun _ => rfl, by simp, ends, between.ordered⟩, rfl⟩
      · -- A documentation comment would be documentation.
        rw [comment] at taken
        have documents := isDoc_of_docTokens grammar isInner first tokens _ _ taken
        rw [leading doc rfl] at documents
        cases documents

/-! Positions -/

theorem eq_of_concat_eq_cons {α : Type} (values : List α) (a b : α)
    (same : values ++ [b] = a :: values) : b = a := by
  induction values with
  | nil => simpa using same
  | cons value values ih =>
      obtain ⟨rfl, tail⟩ := List.cons.inj same
      exact ih tail

/-- Behind a mark that is not counted, a part of a text is found where it is only if it does not
start on the first line. -/
theorem slice_behind_mark (mark last : Char) (text front opened back : List Char)
    (whole : text = front ++ (opened ++ [last]) ++ back) (visible : mark ≠ '\n')
    (different : (opened ++ [last]).head? ≠ some last) :
    slice (mark :: text) (.ofOffset text front.length)
        (.ofOffset text (front ++ (opened ++ [last])).length) = opened ++ [last]
      ↔ '\n' ∈ front := by
  have begins : text.take front.length = front := by simp [whole]
  have ends : text.take (front ++ (opened ++ [last])).length = front ++ (opened ++ [last]) := by
    rw [whole, List.take_left' rfl]
  have start := Position.toOffset_cons_ofOffset mark text front.length (by simp [whole]) visible
  have stop := Position.toOffset_cons_ofOffset mark text (front ++ (opened ++ [last])).length
    (by simp [whole]) visible
  rw [begins] at start
  rw [ends] at stop
  rw [slice, start, stop]
  by_cases later : '\n' ∈ front
  · have behind : text.drop front.length = opened ++ [last] ++ back := by simp [whole]
    have size : (front ++ (opened ++ [last])).length - front.length = (opened ++ [last]).length := by
      simp
    rw [if_pos later, if_pos (List.mem_append_left _ later), Nat.add_sub_add_right, size,
      List.drop_succ_cons, behind, List.take_left' rfl]
    simp [later]
  · -- What is cut out starts with the character in front, so it could only be the same if every
    -- character of it were the last one.
    rw [if_neg later]
    refine iff_of_false ?_ later
    have split := List.dropLast_append_getLast (List.cons_ne_nil mark front)
    generalize (mark :: front).getLast (List.cons_ne_nil mark front) = early at split
    have count : (mark :: front).dropLast.length = front.length := by simp
    have behind : (mark :: text).drop front.length = early :: (opened ++ [last]) ++ back := by
      rw [show mark :: text = (mark :: front) ++ (opened ++ [last] ++ back) by simp [whole], ← split,
        List.append_assoc, List.drop_left' count]
      simp
    rw [behind]
    intro same
    split_ifs at same with broken
    · have size := congrArg List.length same
      simp only [List.length_take, List.length_append, List.length_cons, List.length_nil] at size
      omega
    · have size : (front ++ (opened ++ [last])).length - front.length = opened.length + 1 := by simp
      rw [size] at same
      simp only [List.append_assoc, List.cons_append, List.take_succ_cons, List.take_left'] at same
      have first := eq_of_concat_eq_cons opened early last same.symm
      rw [← same, first] at different
      exact different rfl

/-! Functions -/

/-- The number of characters in front of those that hold the items. -/
def skipped (text : List Char) : Nat := text.length - (content text).length

theorem withoutMark_suffix (text : List Char) : withoutMark text <:+ text := by
  cases text with
  | nil => exact List.suffix_refl _
  | cons c rest =>
      rw [withoutMark]
      split
      · exact List.suffix_cons c rest
      · exact List.suffix_refl _

theorem content_behind_skipped (text : List Char) :
    ∃ front, text = front ++ content text ∧ front.length = skipped text := by
  obtain ⟨front, whole⟩ := (content_suffix text).trans (withoutMark_suffix text)
  refine ⟨front, whole.symm, ?_⟩
  have size := congrArg List.length whole
  rw [List.length_append] at size
  rw [skipped]
  omega

/-- A function in its file: its tokens between those in front of it and behind it, and its code
between the characters in front of it and behind it. -/
structure FunctionPlace where
  before : Tokens
  docs : Tokens
  attributes : Tokens
  head : Tokens
  inner : Tokens
  body : Span
  rest : Tokens
  front : List Char
  code : List Char
  back : List Char

namespace FunctionPlace

/-- The tokens behind the documentation of the function. -/
def own (place : FunctionPlace) : Tokens :=
  place.attributes ++ (place.head ++ .group .brace place.inner place.body :: place.rest)

/-- The code of a function is a part of the text. It starts with the hash of the first attribute
that is no documentation, or without one with the first word of the head, and it ends with the
closing brace of the body. -/
structure StandsIn (place : FunctionPlace) (text : List Char) (name : String) (item : Item) :
    Prop where
  divided : Lexer.tokens? (content text) = some (place.before ++ (place.docs ++ place.own))
  read : (Source.item (grammarFor (content text))).Reads (place.docs ++ place.own) item place.rest
  function : FunctionTokens (grammarFor (content text)) name place.docs place.attributes place.head
    place.inner place.body place.rest
  verbatim : text = place.front ++ place.code ++ place.back
  start : place.front.length = skipped text + startOf place.own
  ofAttribute : place.attributes ≠ [] → ['#'] <+: place.code
  ofHead : place.attributes = [] → ∃ word span more, place.head = .word word span :: more ∧
    word ∈ functionWords ∧ word.toList <+: place.code
  body : ∃ opened inside, place.code = opened ++ ('{' :: inside ++ ['}']) ∧
    (place.front ++ opened).length = skipped text + place.body.start
  stop : (place.front ++ place.code).length = skipped text + place.body.stop

end FunctionPlace

theorem functionText_ok_iff (file : SourceFile) (name found : String) :
    functionText file name = .ok found ↔ ∃ items item, items? file.text.toList = some items ∧
      FirstOf (fun item => item.declared = .function name) items item ∧
      found = String.ofList (item.excerpt file.text.toList) := by
  unfold functionText locate
  cases parsed : items? file.text.toList with
  | none => simp [Bind.bind, Except.bind]
  | some items =>
      simp only [Option.some.injEq, ← find?_declared_eq_some_iff]
      cases located : findFunction? items name with
      | none =>
          rw [findFunction?] at located
          simp [located, Bind.bind, Except.bind]
      | some item =>
          rw [findFunction?] at located
          simp [located, Bind.bind, Except.bind, pure, Except.pure, eq_comm]

theorem reads_of_laidOut (grammar : Grammar) (tokens : Tokens) (earlier : List Item) (item : Item)
    (later : List Item) (laid : LaidOut grammar tokens (earlier ++ item :: later)) :
    ∃ before own rest, tokens = before ++ own ∧ (Source.item grammar).Reads own item rest := by
  induction earlier generalizing tokens with
  | nil =>
      cases laid with
      | next stands others => exact ⟨[], _, _, rfl, stands.read⟩
  | cons first earlier ih =>
      cases laid with
      | @next docs own rest _ _ stands others =>
          obtain ⟨before, found, left, rfl, read⟩ := ih rest others
          exact ⟨docs ++ own ++ before, found, left, by simp, read⟩

theorem exists_functionPlace (text : List Char) (items : List Item) (item : Item) (name : String)
    (parsed : items? text = some items)
    (first : FirstOf (fun item => item.declared = .function name) items item) :
    ∃ place : FunctionPlace, place.StandsIn text name item ∧
      item.span = ⟨startOf place.own, place.body.stop⟩ := by
  obtain ⟨earlier, later, rfl, declared, _⟩ := first
  obtain ⟨tokens, _, _, divided, leading, laid⟩ := itemsIn_of_items? text _ parsed
  obtain ⟨ahead, rfl⟩ := leading.suffix
  obtain ⟨before, _, rest, rfl, read⟩ := reads_of_laidOut _ _ earlier item later laid
  obtain ⟨docs, attributes, head, inner, body, rfl, function, span⟩ :=
    functionTokens_of_reads _ _ rest item name read declared
  rw [← List.append_assoc] at divided
  obtain ⟨first, chars, written, start⟩ := functionEnds_of_lexed (content text) _ _ _ name _ docs
    attributes head inner rest body function (Lexer.lexed_of_tokens? _ _ divided)
  obtain ⟨inside, ends⟩ := written.ends
  obtain ⟨front, between, back, whole, starts, opens, closes⟩ :=
    covers_join _ chars _ first body written.starts ends written.apart
  obtain ⟨passed, shown, size⟩ := content_behind_skipped text
  refine ⟨⟨ahead ++ before, docs, attributes, head, inner, body, rest, passed ++ front,
    chars ++ between ++ ('{' :: inside ++ ['}']), back⟩, ?_, span⟩
  refine {
    divided
    read
    function
    verbatim := ?_
    start := ?_
    ofAttribute := ?_
    ofHead := ?_
    body := ⟨chars ++ between, inside, rfl, ?_⟩
    stop := ?_ }
  · rw [shown, whole]
    simp
  · rw [FunctionPlace.own, start, starts, List.length_append, size]
  · intro attributed
    rw [← written.ofAttribute attributed, List.append_assoc]
    exact List.prefix_append _ _
  · intro bare
    obtain ⟨word, more, leads, known, rfl⟩ := written.ofHead bare
    refine ⟨word, first, more, leads, known, ?_⟩
    simp only [List.append_assoc]
    exact List.prefix_append _ _
  · rw [opens, List.append_assoc, List.length_append, List.length_append, size]
  · rw [closes, List.append_assoc, List.length_append, List.length_append, size]

/-- The first character of a function is no closing brace. -/
theorem FunctionPlace.StandsIn.opens {place : FunctionPlace} {text : List Char} {name : String}
    {item : Item} (stands : place.StandsIn text name item) : place.code.head? ≠ some '}' := by
  by_cases bare : place.attributes = []
  · obtain ⟨word, span, more, _, known, rest, code⟩ := stands.ofHead bare
    have first : ∀ word ∈ functionWords, ∃ c more, word.toList = c :: more ∧ c ≠ '}' := by
      simp [functionWords]
    obtain ⟨c, letters, written, different⟩ := first word known
    rw [← code, written]
    simpa using different
  · obtain ⟨rest, code⟩ := stands.ofAttribute bare
    rw [← code]
    simp

theorem excerpt_verbatim_iff (text : List Char) (name : String) (item : Item)
    (place : FunctionPlace) (stands : place.StandsIn text name item)
    (span : item.span = ⟨startOf place.own, place.body.stop⟩) :
    item.excerpt text = place.code ↔ Unmarked text ∨ '\n' ∈ place.front := by
  have whole := stands.verbatim
  have start := stands.start
  have stop := stands.stop
  have inside := (content_suffix text).length_le
  rw [skipped] at start stop
  simp only [Item.excerpt, Item.positions, span]
  by_cases unmarked : Unmarked text
  · rw [withoutMark_of_unmarked text unmarked] at inside ⊢
    refine iff_of_true ?_ (.inl unmarked)
    rw [← start, ← stop, slice_ofOffset, whole, List.append_assoc, List.drop_left, List.length_append,
      Nat.add_sub_cancel_left, List.take_left]
  · cases text with
    | nil => exact absurd (by simp [Unmarked]) unmarked
    | cons mark shown =>
        -- Positions are counted without the mark, and looked up in the text with it.
        obtain rfl : mark = Lexer.byteOrderMark := by simpa [Unmarked] using unmarked
        rw [withoutMark, if_pos rfl] at inside ⊢
        rw [List.length_cons] at start stop
        cases front : place.front with
        | nil =>
            rw [front, List.length_nil] at start
            omega
        | cons mark ahead =>
            rw [front, List.cons_append, List.cons_append] at whole
            obtain ⟨rfl, rfl⟩ := List.cons.inj whole
            obtain ⟨opened, between, code, _⟩ := stands.body
            have shape : place.code = (opened ++ '{' :: between) ++ ['}'] := by simp [code]
            have opens := stands.opens
            rw [front, List.length_cons] at start
            rw [front, List.cons_append, List.length_cons] at stop
            generalize shown : ahead ++ place.code ++ place.back = text at *
            rw [show text.length - (content (Lexer.byteOrderMark :: text)).length
                + startOf place.own = ahead.length by omega,
              show text.length - (content (Lexer.byteOrderMark :: text)).length
                + place.body.stop = (ahead ++ place.code).length by omega]
            rw [shape] at opens shown ⊢
            rw [slice_behind_mark _ '}' text ahead _ place.back shown.symm (by decide) opens]
            have visible : '\n' ≠ Lexer.byteOrderMark := by decide
            simp [unmarked, visible]

/-- The text of a function is its code, from its first attribute that is no documentation or the
first word of its head to the closing brace of its body, exactly if the file has no byte order
mark or the function starts behind the first line. -/
theorem functionText_verbatim_iff (file : SourceFile) (name found : String)
    (success : functionText file name = .ok found) :
    ∃ items item place, items? file.text.toList = some items ∧
      FirstOf (fun item => item.declared = .function name) items item ∧
      FunctionPlace.StandsIn place file.text.toList name item ∧
      (found.toList = place.code ↔ Unmarked file.text.toList ∨ '\n' ∈ place.front) := by
  obtain ⟨items, item, parsed, first, rfl⟩ := (functionText_ok_iff file name found).mp success
  obtain ⟨place, stands, span⟩ := exists_functionPlace file.text.toList items item name parsed first
  refine ⟨items, item, place, parsed, first, stands, ?_⟩
  rw [String.toList_ofList]
  exact excerpt_verbatim_iff file.text.toList name item place stands span

/-- A first line for an interpreter, line ends of two characters, documentation on both sides of
an attribute, and letters of several bytes. -/
def scriptFile : SourceFile where
  path := "script.rs"
  text := "\r\n".intercalate ["#!/usr/bin/env run", "/// Grüße.", "#[inline]", "/// Mehr.",
    "pub const fn gruß() -> char \x7b", "    'é' // \x7d", "\x7d", ""]

def scriptCode : String := "\r\n".intercalate ["#[inline]", "/// Mehr.",
  "pub const fn gruß() -> char \x7b", "    'é' // \x7d", "\x7d"]

theorem scriptFile_verbatim : functionText scriptFile "gruß" = .ok scriptCode ∧
    ∃ items item place, items? scriptFile.text.toList = some items ∧
      FirstOf (fun item => item.declared = .function "gruß") items item ∧
      FunctionPlace.StandsIn place scriptFile.text.toList "gruß" item ∧
      place.code = scriptCode.toList := by
  have success : functionText scriptFile "gruß" = .ok scriptCode := by decide +kernel
  have unmarked : Unmarked scriptFile.text.toList := by decide +kernel
  obtain ⟨items, item, place, parsed, first, stands, verbatim⟩ :=
    functionText_verbatim_iff scriptFile "gruß" scriptCode success
  exact ⟨success, items, item, place, parsed, first, stands, (verbatim.mpr (.inl unmarked)).symm⟩

/-- A function on the first line behind a byte order mark. -/
def markedFile : SourceFile where
  path := "marked.rs"
  text := "\uFEFFfn f() \x7b\x7d"

/-- What is cut out there starts with the mark and stops in front of the closing brace. -/
theorem markedFile_one_early : functionText markedFile "f" = .ok "\uFEFFfn f() \x7b" ∧
    ∀ item place, FunctionPlace.StandsIn place markedFile.text.toList "f" item →
      "\uFEFFfn f() \x7b".toList ≠ place.code := by
  refine ⟨by decide +kernel, ?_⟩
  intro item place stands same
  obtain ⟨opened, inside, code, _⟩ := stands.body
  have last := congrArg List.getLast? (same.trans code)
  rw [← List.append_assoc, List.getLast?_concat] at last
  revert last
  decide

end HttpBinding.Source
