import HttpBinding.Proofs.Source.Written.Trees

/-!
Names where they are read. A path without arguments is spelled by the tokens that it takes. A
macro call is written in the text, since its arguments stand behind its path, and so is an
attribute, which starts with its path.
-/
namespace HttpBinding.Source

open Reader Tokens

/-! Marks -/

theorem seesMarks_last (c : Char) (tokens : Tokens) (seen : seesMarks [c] tokens = true) :
    ∃ joint span rest, tokens = .mark c joint span :: rest := by
  cases tokens with
  | nil => cases seen
  | cons token rest =>
      cases token with
      | mark found joint span =>
          rw [seesMarks, Bool.and_eq_true, decide_eq_true_eq] at seen
          exact ⟨joint, span, rest, by rw [seen.1]⟩
      | word text span => cases seen
      | literal kind text span => cases seen
      | group delimiter inner span => cases seen

theorem seesMarks_cons (c d : Char) (more : List Char) (tokens : Tokens)
    (seen : seesMarks (c :: d :: more) tokens = true) :
    ∃ span rest, tokens = .mark c true span :: rest ∧ seesMarks (d :: more) rest = true := by
  cases tokens with
  | nil => cases seen
  | cons token rest =>
      cases token with
      | mark found joint span =>
          rw [seesMarks, Bool.and_eq_true, Bool.and_eq_true, decide_eq_true_eq] at seen
          · exact ⟨span, rest, by rw [seen.1.1, seen.1.2], seen.2⟩
          · exact nofun
      | word text span => cases seen
      | literal kind text span => cases seen
      | group delimiter inner span => cases seen

theorem reads_marks (text : String) (tokens rest : Tokens) (value : Unit)
    (read : (marks text).Reads tokens value rest) :
    seesMarks text.toList tokens = true ∧ tokens.drop text.length = rest := by
  simp only [marks, reads_bind_iff, reads_check_iff, reads_drop_iff] at read
  obtain ⟨_, _, ⟨seen, rfl⟩, rest⟩ := read
  exact ⟨seen, rest⟩

theorem reads_mark (text : String) (c : Char) (alone : text.toList = [c]) (tokens rest : Tokens)
    (value : Unit) (read : (marks text).Reads tokens value rest) :
    ∃ joint span, tokens = .mark c joint span :: rest := by
  obtain ⟨seen, rfl⟩ := reads_marks text tokens rest value read
  rw [alone] at seen
  obtain ⟨joint, span, rest, rfl⟩ := seesMarks_last c tokens seen
  have size : text.length = 1 := by rw [← String.length_toList, alone, List.length_singleton]
  exact ⟨joint, span, by rw [size, List.drop_succ_cons, List.drop_zero]⟩

theorem reads_colons (tokens rest : Tokens) (value : Unit)
    (read : (marks "::").Reads tokens value rest) :
    ∃ first joint second, tokens = .mark ':' true first :: .mark ':' joint second :: rest := by
  obtain ⟨seen, rfl⟩ := reads_marks "::" tokens rest value read
  obtain ⟨first, behind, rfl, seen⟩ := seesMarks_cons ':' ':' [] tokens seen
  obtain ⟨joint, second, rest, rfl⟩ := seesMarks_last ':' behind seen
  exact ⟨first, joint, second, rfl⟩

theorem reads_optionalMarks (text : String) (tokens rest : Tokens) (found : Bool)
    (read : (optionalMarks text).Reads tokens found rest) :
    (found = true ∧ (marks text).Reads tokens () rest) ∨ (found = false ∧ tokens = rest) := by
  simp only [optionalMarks, reads_bind_iff, reads_test_iff] at read
  obtain ⟨seen, _, ⟨_, rfl⟩, read⟩ := read
  split at read
  · simp only [reads_bind_iff, reads_pure_iff] at read
    obtain ⟨_, _, taken, rfl, rfl⟩ := read
    exact .inl ⟨rfl, taken⟩
  · obtain ⟨rfl, rfl⟩ := (reads_pure_iff ..).mp read
    exact .inr ⟨rfl, rfl⟩

/-- A path that may start at the root, by how its names are spelled. -/
theorem writtenPath_of_optionalMarks (rooted : Bool) (names : List String)
    (tokens between written : Tokens) (rest : Tokens)
    (leads : (optionalMarks "::").Reads tokens rooted between) (whole : between = written ++ rest)
    (spelled : Spelled names written) :
    ∃ path, tokens = path ++ rest ∧ WrittenPath (.path rooted names .none []) path := by
  subst whole
  rcases reads_optionalMarks _ _ _ _ leads with ⟨rfl, marked⟩ | ⟨rfl, rfl⟩
  · obtain ⟨first, joint, second, rfl⟩ := reads_colons _ _ _ marked
    exact ⟨_, rfl, .rooted first second joint spelled⟩
  · exact ⟨written, rfl, .relative spelled⟩

/-! Plain paths -/

-- Names that have been read already stand in front, last one first.
theorem spelled_of_iterate (fuel : Nat) (names found : List String) (tokens rest : Tokens)
    (read : (iterate failure (fun names => (do
      check seesPathWord
      let names := (← anyWord) :: names
      if ← optionalMarks "::" then return .inl names
      else return .inr names.reverse : Reader (List String ⊕ List String))) fuel names).Reads
        tokens found rest) :
    ∃ more written, found = names.reverse ++ more ∧ tokens = written ++ rest ∧
      Spelled more written := by
  induction fuel generalizing tokens names with
  | zero => exact (not_reads_failure _ _ _ read).elim
  | succ fuel ih =>
      simp only [iterate, reads_bind_iff, reads_check_iff, reads_anyWord_iff] at read
      obtain ⟨step, between, ⟨_, _, ⟨_, rfl⟩, name, behind, ⟨span, rfl⟩, further, left, marked,
        stepped⟩, read⟩ := read
      rcases reads_optionalMarks _ _ _ _ marked with ⟨rfl, colons⟩ | ⟨rfl, rfl⟩
      · obtain ⟨rfl, rfl⟩ := (reads_pure_iff ..).mp stepped
        obtain ⟨first, joint, second, rfl⟩ := reads_colons _ _ _ colons
        obtain ⟨more, written, rfl, rfl, spelled⟩ := ih _ _ read
        exact ⟨name :: more, _, by simp, rfl, .next name span first second joint spelled⟩
      · obtain ⟨rfl, rfl⟩ := (reads_pure_iff ..).mp stepped
        obtain ⟨rfl, rfl⟩ := (reads_pure_iff ..).mp read
        exact ⟨[name], [.word name span], by simp, rfl, .last name span⟩

theorem writtenPath_of_plainPath (tokens rest : Tokens) (name : Tree)
    (read : plainPath.Reads tokens name rest) :
    ∃ path, tokens = path ++ rest ∧ WrittenPath name path := by
  simp only [plainPath, untilDone, reads_bind_iff, reads_ahead_iff, reads_pure_iff] at read
  obtain ⟨rooted, between, leads, names, _, ⟨_, _, ⟨rfl, rfl⟩, read⟩, rfl, rfl⟩ := read
  obtain ⟨_, written, rfl, whole, spelled⟩ := spelled_of_iterate _ _ _ _ _ read
  exact writtenPath_of_optionalMarks rooted _ _ _ _ _ leads whole spelled

/-! Paths that turn out to have no arguments -/

theorem none_of_style (segments : List Segment) (style : Arguments)
    (plain : segments.foldl (fun style segment =>
      match segment.style with
      | .none => style
      | written => written) style = .none) :
    style = .none ∧ ∀ segment ∈ segments, segment.style = .none := by
  induction segments generalizing style with
  | nil => exact ⟨plain, by simp⟩
  | cons segment rest ih =>
      obtain ⟨here, others⟩ := ih _ plain
      cases written : segment.style with
      | none => exact ⟨by simpa [written] using here, by simpa [written] using others⟩
      | angled => simp [written] at here
      | parenthesized => simp [written] at here

section Segments
variable (grammar : Grammar) (inExpression : Bool)

theorem reads_segment (tokens rest : Tokens) (found : Segment)
    (read : (segment grammar inExpression).Reads tokens found rest)
    (plain : found.style = .none) :
    found.arguments = [] ∧ ∃ span, tokens = .word found.name span :: rest := by
  simp only [segment, reads_bind_iff, reads_test_iff] at read
  obtain ⟨special, _, ⟨_, rfl⟩, read⟩ := read
  split at read
  · simp only [reads_bind_iff, reads_anyWord_iff, reads_pure_iff] at read
    obtain ⟨name, _, ⟨span, rfl⟩, rfl, rfl⟩ := read
    exact ⟨rfl, span, rfl⟩
  · simp only [reads_bind_iff, reads_test_iff] at read
    obtain ⟨name, behind, ⟨_, _, ⟨_, rfl⟩, named⟩, argued, _, ⟨_, rfl⟩, read⟩ := read
    have word : ∃ span, tokens = .word name span :: behind := by
      split at named
      · exact (reads_anyWord_iff ..).mp named
      · simp only [Reader.name, reads_bind_iff, reads_check_iff] at named
        obtain ⟨_, _, ⟨_, rfl⟩, named⟩ := named
        exact (reads_anyWord_iff ..).mp named
    split at read
    · simp only [reads_bind_iff, reads_pure_iff] at read
      obtain ⟨_, _, _, _, _, _, rfl, _⟩ := read
      cases plain
    · obtain ⟨rfl, rfl⟩ := (reads_pure_iff ..).mp read
      exact ⟨rfl, word⟩

theorem spelled_of_segments (segments : List Segment) (tokens rest : Tokens)
    (read : InTurn (do marks "::"; segment grammar inExpression) tokens segments rest)
    (plain : ∀ segment ∈ segments, segment.style = .none) (name : String) (span : Span) :
    ∃ written, .word name span :: tokens = written ++ rest ∧
      Spelled (name :: segments.map Segment.name) written := by
  induction read generalizing name span with
  | none tokens => exact ⟨[.word name span], rfl, .last name span⟩
  | @next tokens between rest found others read _ ih =>
      obtain ⟨_, behind, marked, one⟩ := (reads_bind_iff ..).mp read
      obtain ⟨first, joint, second, rfl⟩ := reads_colons _ _ _ marked
      obtain ⟨_, place, rfl⟩ := reads_segment grammar inExpression _ _ _ one
        (plain found List.mem_cons_self)
      obtain ⟨written, whole, spelled⟩ := ih
        (fun segment member => plain segment (List.mem_cons_of_mem _ member)) found.name place
      exact ⟨_, by rw [whole]; rfl, .next name span first second joint spelled⟩

theorem arguments_of_segments (segments : List Segment) (tokens rest : Tokens)
    (read : InTurn (do marks "::"; segment grammar inExpression) tokens segments rest)
    (plain : ∀ segment ∈ segments, segment.style = .none) :
    segments.flatMap Segment.arguments = [] := by
  induction read with
  | none tokens => rfl
  | @next tokens between rest found others read _ ih =>
      obtain ⟨_, behind, _, read⟩ := (reads_bind_iff ..).mp read
      obtain ⟨none, _⟩ := reads_segment grammar inExpression _ _ _ read
        (plain found List.mem_cons_self)
      rw [List.flatMap_cons, none, List.nil_append]
      exact ih fun segment member => plain segment (List.mem_cons_of_mem _ member)

theorem writtenPath_of_path (tokens rest : Tokens) (found : PathRead)
    (read : (path grammar inExpression).Reads tokens found rest) (isPlain : found.isPlain = true) :
    ∃ path, tokens = path ++ rest ∧ WrittenPath found.toTree path := by
  simp only [Source.path, moreSegments, reads_bind_iff, reads_pure_iff] at read
  obtain ⟨rooted, between, leads, first, behind, one, more, _, others, rfl, rfl⟩ := read
  obtain ⟨inTurn, _⟩ := inTurn_of_many _ _ _ _ _ others
  have style : PathRead.style ⟨rooted, first :: more⟩ = .none := of_decide_eq_true isPlain
  obtain ⟨_, plain⟩ := none_of_style (first :: more) .none style
  obtain ⟨none, span, whole⟩ := reads_segment grammar inExpression _ _ _ one
    (plain first List.mem_cons_self)
  have plain : ∀ segment ∈ more, segment.style = .none := fun segment member =>
    plain segment (List.mem_cons_of_mem _ member)
  obtain ⟨written, front, spelled⟩ :=
    spelled_of_segments grammar inExpression more _ _ inTurn plain first.name span
  have arguments : (first :: more).flatMap Segment.arguments = [] := by
    rw [List.flatMap_cons, none, arguments_of_segments grammar inExpression more _ _ inTurn plain]
    rfl
  rw [PathRead.toTree, style, arguments]
  exact writtenPath_of_optionalMarks rooted _ _ _ _ _ leads (whole.trans front) spelled

theorem writtenPath_of_qualifiedPath (tokens rest : Tokens) (qualifier : Option Tree)
    (found : PathRead) (read : (qualifiedPath grammar inExpression).Reads tokens
      (qualifier, found) rest) (unqualified : qualifier.isNone = true)
    (isPlain : found.isPlain = true) :
    ∃ path, tokens = path ++ rest ∧ WrittenPath found.toTree path := by
  obtain ⟨opened, between, leads, read⟩ := (reads_bind_iff ..).mp read
  rcases reads_optionalMarks _ _ _ _ leads with ⟨rfl, _⟩ | ⟨rfl, rfl⟩
  · simp only [↓reduceIte, reads_bind_iff] at read
    obtain ⟨type, _, _, base, _, _, _, _, _, _, _, _, segments, _, _, read⟩ := read
    cases base with
    | none =>
        cases ((reads_pure_iff ..).mp read).1
        cases unqualified
    | some base =>
        cases ((reads_pure_iff ..).mp read).1
        cases unqualified
  · simp only [Bool.false_eq_true, ↓reduceIte, reads_bind_iff, reads_pure_iff,
      Prod.mk.injEq] at read
    obtain ⟨_, _, unopened, ⟨_, rfl⟩, rfl⟩ := read
    exact writtenPath_of_path grammar inExpression _ _ _ unopened isPlain

end Segments

/-! Macro calls -/

theorem reads_anyGroup_iff (tokens rest : Tokens) (found : Delimiter × Tokens) :
    anyGroup.Reads tokens found rest ↔ ∃ span, tokens = .group found.1 found.2 span :: rest := by
  simp only [anyGroup, reads_bind_iff, reads_next_iff]
  constructor
  · rintro ⟨token, _, rfl, read⟩
    cases token with
    | group delimiter inner span =>
        obtain ⟨rfl, rfl⟩ := (reads_pure_iff ..).mp read
        exact ⟨span, rfl⟩
    | word => exact (not_reads_failure _ _ _ read).elim
    | mark => exact (not_reads_failure _ _ _ read).elim
    | literal => exact (not_reads_failure _ _ _ read).elim
  · rintro ⟨span, rfl⟩
    exact ⟨_, _, rfl, (reads_pure_iff ..).mpr ⟨rfl, rfl⟩⟩

theorem reads_macroArguments (name : Tree) (tokens rest : Tokens) (found : Delimiter × Tree)
    (read : (macroArguments name).Reads tokens found rest) :
    ∃ arguments span, tokens = .group found.1 arguments span :: rest ∧
      found.2 = .call name arguments [] := by
  simp only [macroArguments, reads_bind_iff, reads_anyGroup_iff, reads_pure_iff] at read
  obtain ⟨⟨delimiter, arguments⟩, _, ⟨span, rfl⟩, rfl, rfl⟩ := read
  exact ⟨arguments, span, rfl, rfl⟩

theorem reads_macroCall (name : Tree) (tokens rest : Tokens) (found : Delimiter × Tree)
    (read : (macroCall name).Reads tokens found rest) :
    ∃ joint mark arguments span,
      tokens = .mark '!' joint mark :: .group found.1 arguments span :: rest ∧
      found.2 = .call name arguments [] := by
  obtain ⟨_, _, marked, grouped⟩ := (reads_bind_iff ..).mp read
  obtain ⟨joint, mark, rfl⟩ := reads_mark "!" '!' rfl _ _ _ marked
  obtain ⟨arguments, span, rfl, call⟩ := reads_macroArguments _ _ _ _ grouped
  exact ⟨joint, mark, arguments, span, rfl, call⟩

theorem faithful_anyGroup_bind {α : Type} [Holds α] (text : Tokens)
    (next : Delimiter × Tokens → Reader α) (others : ∀ delimiter tokens, Inside text tokens →
      Faithful text (next (delimiter, tokens))) : Faithful text (anyGroup >>= next) where
  faithful taken rest value inside read := by
    obtain ⟨⟨delimiter, tokens⟩, earlier, later, rfl, started, ended⟩ :=
      reads_bind_taken anyGroup next taken rest value read
    obtain ⟨span, whole⟩ := (reads_anyGroup_iff ..).mp started
    obtain rfl : earlier = [.group delimiter tokens span] :=
      List.append_cancel_right (whole.trans rfl)
    exact (others delimiter tokens (inside.inner List.mem_cons_self)).faithful later rest value
      (inside.of_infix (List.suffix_append ..).isInfix) ended

section Behind
variable {α β : Type} [Holds α] [Holds β] {text : Tokens}

/-- Faithful if certain tokens stand in front of those that are read. -/
def FaithfulBehind (text front : Tokens) (reader : Reader α) : Prop :=
  ∀ taken rest value, Inside text (front ++ taken) →
    reader.Reads (taken ++ rest) value rest → Stands text value

theorem faithfulBehind_of_faithful (front : Tokens) (reader : Reader α)
    [one : Faithful text reader] : FaithfulBehind text front reader :=
  fun taken rest value inside read =>
    one.faithful taken rest value (inside.of_infix (List.suffix_append ..).isInfix) read

theorem faithful_of_behind (first : Reader α) (next : α → Reader β) [one : Faithful text first]
    (others : ∀ found front behind, Stands text found →
      first.Reads (front ++ behind) found behind → FaithfulBehind text front (next found)) :
    Faithful text (first >>= next) where
  faithful taken rest value inside read := by
    obtain ⟨found, earlier, later, rfl, started, ended⟩ :=
      reads_bind_taken first next taken rest value read
    have stands := one.faithful earlier _ found
      (inside.of_infix (List.prefix_append ..).isInfix) started
    exact others found earlier _ stands started later rest value inside ended

theorem faithfulBehind_ahead (front : Tokens) (next : Tokens → Reader α)
    (others : ∀ tokens, FaithfulBehind text front (next tokens)) :
    FaithfulBehind text front (ahead >>= next) := by
  intro taken rest value inside read
  simp only [reads_bind_iff, reads_ahead_iff] at read
  obtain ⟨_, _, ⟨rfl, rfl⟩, read⟩ := read
  exact others _ taken rest value inside read

/-- What is read on behind a macro call, whose name and arguments are all that is in front. -/
theorem stands_behind_call (front middle behind taken rest arguments : Tokens) (name : Tree)
    (delimiter : Delimiter) (span : Span) (value : β) (next : Reader β)
    (inside : Inside text (front ++ taken))
    (whole : taken ++ rest = middle ++ .group delimiter arguments span :: behind)
    (written : WrittenCall name arguments (front ++ (middle ++ [.group delimiter arguments span])))
    (read : next.Reads behind value rest)
    (others : Stands text (Tree.call name arguments []) → Faithful text next) :
    Stands text value := by
  obtain ⟨left, rfl⟩ := read.suffix
  obtain rfl : taken = middle ++ [.group delimiter arguments span] ++ left :=
    List.append_cancel_right (whole.trans (by simp))
  rw [← List.append_assoc] at inside
  have stands : Stands text (Tree.call name arguments []) := (stands_tree_iff text _).mpr
    (.call _ _ _ (inside.of_infix (List.prefix_append ..).isInfix) written)
  exact (others stands).faithful left rest value
    (inside.of_infix (List.suffix_append ..).isInfix) read

theorem faithfulBehind_call (front : Tokens) (name : Tree) (named : WrittenPath name front)
    (next : Delimiter × Tree → Reader β)
    (others : ∀ found, Stands text found → Faithful text (next found)) :
    FaithfulBehind text front (macroCall name >>= next) := by
  intro taken rest value inside read
  obtain ⟨found, between, called, read⟩ := (reads_bind_iff ..).mp read
  obtain ⟨joint, mark, arguments, span, whole, call⟩ := reads_macroCall _ _ _ _ called
  refine stands_behind_call front [.mark '!' joint mark] between taken rest arguments name found.1
    span value (next found) inside whole (.plain joint mark span found.1 named) read fun stands => ?_
  rw [← call] at stands
  exact others found (stands_pair text found.1 found.2)

end Behind

/-! Attributes -/

section Attributes
variable (text : Tokens) (grammar : Grammar) [FaithfulGrammar text grammar]

instance faithful_attributeValue : Faithful text (attributeValue grammar) := by
  unfold attributeValue
  infer_instance

omit [FaithfulGrammar text grammar] in
theorem writtenPath_of_attributeName (tokens rest : Tokens) (name : Tree)
    (read : (do
      if ← optionalWord "unsafe" then return Tree.path false ["unsafe"] .none []
      else plainPath : Reader Tree).Reads tokens name rest) :
    ∃ path, tokens = path ++ rest ∧ WrittenPath name path := by
  obtain ⟨unchecked, between, first, named⟩ := (reads_bind_iff ..).mp read
  rcases reads_optionalWord _ _ _ _ first with ⟨rfl, span, rfl⟩ | ⟨rfl, rfl⟩
  · obtain ⟨rfl, rfl⟩ := (reads_pure_iff ..).mp named
    exact ⟨[.word "unsafe" span], rfl, .relative (.last "unsafe" span)⟩
  · exact writtenPath_of_plainPath _ _ _ named

theorem metadata_of_attributeContent (tokens : Tokens) (isDoc : Bool) (tree : Tree)
    (inside : Inside text tokens)
    (read : (attributeContent grammar).Reads tokens (isDoc, tree) []) :
    ∃ name value path behind, tree = .metadata name value ∧ tokens = path ++ behind ∧
      WrittenPath name path ∧ Stands text value := by
  obtain ⟨name, between, leads, further⟩ := (reads_bind_iff ..).mp read
  obtain ⟨path, rfl, named⟩ := writtenPath_of_attributeName _ _ _ leads
  have valued : ∃ value, tree = .metadata name value ∧ Stands text value := by
    simp only [reads_bind_iff, reads_test_iff] at further
    obtain ⟨grouped, _, ⟨_, rfl⟩, further⟩ := further
    cases grouped with
    | true =>
        simp only [↓reduceIte, reads_bind_iff, reads_pure_iff, Prod.mk.injEq] at further
        obtain ⟨_, _, _, ⟨_, rfl⟩, _⟩ := further
        exact ⟨[], rfl, stands_nil text⟩
    | false =>
        simp only [Bool.false_eq_true, ↓reduceIte, reads_bind_iff, reads_test_iff] at further
        obtain ⟨equals, _, ⟨_, rfl⟩, further⟩ := further
        cases equals with
        | true =>
            simp only [↓reduceIte, reads_bind_iff, reads_pure_iff, Prod.mk.injEq] at further
            obtain ⟨value, _, read, ⟨_, rfl⟩, rfl⟩ := further
            have := (faithful_attributeValue text grammar).faithful between [] value
              (inside.of_infix (List.suffix_append ..).isInfix) (by rwa [List.append_nil])
            exact ⟨[value], rfl, inferInstance⟩
        | false =>
            obtain ⟨made, _⟩ := (reads_pure_iff ..).mp further
            obtain ⟨_, rfl⟩ := Prod.mk.inj made
            exact ⟨[], rfl, stands_nil text⟩
  obtain ⟨value, rfl, stands⟩ := valued
  exact ⟨name, value, path, between, rfl, rfl, named, stands⟩

theorem stands_metadata (name : Tree) (value : List Tree) (written : Tokens)
    (inside : Inside text written) (leads : WrittenAttribute name written)
    (stands : Stands text value) : Stands text (Tree.metadata name value) :=
  (stands_tree_iff text _).mpr
    (.metadata name value written inside leads ((stands_trees_iff text value).mp stands))

theorem metadata_of_outerAttribute (taken rest : Tokens) (found : Attribute)
    (inside : Inside text taken)
    (read : (outerAttribute grammar).Reads (taken ++ rest) found rest) :
    ∃ name value, found.tree = .metadata name value ∧ WrittenAttribute name taken ∧
      Stands text value := by
  simp only [outerAttribute, reads_bind_iff, reads_ahead_iff, reads_within_iff,
    reads_pure_iff] at read
  obtain ⟨_, _, ⟨rfl, rfl⟩, _, between, marked, ⟨isDoc, tree⟩, _, ⟨tokens, place, rfl, content⟩,
    rfl, rfl⟩ := read
  obtain ⟨joint, mark, whole⟩ := reads_mark "#" '#' rfl _ _ _ marked
  obtain rfl : taken = [.mark '#' joint mark, .group .bracket tokens place] :=
    List.append_cancel_right (whole.trans rfl)
  obtain ⟨name, value, path, behind, rfl, rfl, named, stands⟩ := metadata_of_attributeContent
    text grammar _ _ _ (inside.inner (List.mem_cons_of_mem _ List.mem_cons_self)) content
  exact ⟨name, value, rfl, .outer joint mark place named, stands⟩

instance faithful_outerAttribute : Faithful text (outerAttribute grammar) where
  faithful taken rest found inside read := by
    obtain ⟨name, value, same, leads, stands⟩ :=
      metadata_of_outerAttribute text grammar taken rest found inside read
    have := stands_metadata text name value taken inside leads stands
    rw [← same] at this
    exact ⟨this.written⟩

instance faithful_outerAttributes : Faithful text (outerAttributes grammar) := by
  unfold outerAttributes
  infer_instance

instance faithful_outerTrees : Faithful text (outerTrees grammar) := by
  unfold outerTrees
  infer_instance

theorem faithful_innerAttribute : Faithful text (do
    marks "#"
    marks "!"
    return (← within .bracket (attributeContent grammar)).2 : Reader Tree) where
  faithful taken rest tree inside read := by
    simp only [reads_bind_iff, reads_within_iff, reads_pure_iff] at read
    obtain ⟨_, between, hash, _, behind, bang, ⟨isDoc, _⟩, _, ⟨tokens, place, rfl, content⟩,
      rfl, rfl⟩ := read
    obtain ⟨also, other, rfl⟩ := reads_mark "!" '!' rfl _ _ _ bang
    obtain ⟨joint, mark, whole⟩ := reads_mark "#" '#' rfl _ _ _ hash
    obtain rfl : taken
        = [.mark '#' joint mark, .mark '!' also other, .group .bracket tokens place] :=
      List.append_cancel_right (whole.trans rfl)
    obtain ⟨name, value, path, behind, rfl, rfl, named, stands⟩ := metadata_of_attributeContent
      text grammar _ _ _ (inside.inner (List.mem_of_getLast? rfl)) content
    exact stands_metadata text name value _ inside (.inner joint also mark other place named) stands

instance faithful_innerTrees : Faithful text (innerTrees grammar) := by
  have := faithful_innerAttribute text grammar
  unfold innerTrees
  infer_instance

end Attributes

end HttpBinding.Source
