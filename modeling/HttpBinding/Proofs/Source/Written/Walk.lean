import HttpBinding.Proofs.Source.Written.Items

/-!
The walk over an item. It meets every path before the arguments of the path, an attribute by
its name before its value, and a macro call by its name before what its arguments name: these
are walked if they read as expressions with commas between them. Calls nest only as deep as
brackets do, so that none is left out.
-/
namespace HttpBinding.Source

open Reader Tokens

/-! The walk -/

mutual

/-- The paths of a tree in the order in which they are met. -/
inductive Walk (expressions : Reader Tree) : Tokens → Tree → List PathUse → Prop where
  | path {text : Tokens} (rooted : Bool) (names : List String) (style : Arguments)
      {arguments : List Tree} {found : List PathUse}
      (others : WalkAll expressions text arguments found) :
      Walk expressions text (.path rooted names style arguments)
        (⟨rooted, names.headD "", names.length == 1⟩ :: found)
  | node {text : Tokens} (kind : Kind) {children : List Tree} {found : List PathUse}
      (others : WalkAll expressions text children found) :
      Walk expressions text (.node kind children) found
  | metadata {text written : Tokens} {name : Tree} {value : List Tree}
      {first found : List PathUse} (inside : Inside text written)
      (leads : WrittenAttribute name written) (named : Walk expressions text name first)
      (valued : WalkAll expressions text value found) :
      Walk expressions text (.metadata name value) (first ++ found)
  | followed {text written arguments : Tokens} {name tree : Tree} {first found : List PathUse}
      (inside : Inside text written) (stands : WrittenCall name arguments written)
      (named : Walk expressions text name first) (read : whole expressions arguments = some tree)
      (others : Walk expressions arguments tree found) :
      Walk expressions text (.call name arguments []) (first ++ found)
  | unread {text written arguments : Tokens} {name : Tree} {first : List PathUse}
      (inside : Inside text written) (stands : WrittenCall name arguments written)
      (named : Walk expressions text name first) (unread : whole expressions arguments = none) :
      Walk expressions text (.call name arguments []) first

inductive WalkAll (expressions : Reader Tree) : Tokens → List Tree → List PathUse → Prop where
  | nil (text : Tokens) : WalkAll expressions text [] []
  | cons {text : Tokens} {tree : Tree} {rest : List Tree} {first found : List PathUse}
      (one : Walk expressions text tree first) (others : WalkAll expressions text rest found) :
      WalkAll expressions text (tree :: rest) (first ++ found)

end

/-- A tree is walked in one way only. -/
theorem Walk.unique {expressions : Reader Tree} {text : Tokens} {tree : Tree}
    {found other : List PathUse} (walk : Walk expressions text tree found)
    (again : Walk expressions text tree other) : other = found := by
  refine @Walk.rec expressions
    (fun text tree found _ => ∀ other, Walk expressions text tree other → other = found)
    (fun text trees found _ => ∀ other, WalkAll expressions text trees other → other = found)
    ?path ?node ?metadata ?followed ?unread ?nil ?cons text tree found walk other again
  case path =>
    intro _ rooted names style _ _ _ ih other again
    cases again with
    | path _ _ _ others => rw [ih _ others]
  case node =>
    intro _ kind _ _ _ ih other again
    cases again with
    | node _ others => exact ih other others
  case metadata =>
    intro _ _ _ _ _ _ _ _ _ _ ih value other again
    cases again with
    | metadata _ _ named valued => rw [ih _ named, value _ valued]
  case followed =>
    intro _ _ _ _ _ _ _ _ _ _ read _ ih behind other again
    cases again with
    | followed _ _ named same others =>
        obtain rfl := Option.some.inj (read.symm.trans same)
        rw [ih _ named, behind _ others]
    | unread _ _ _ unread => simp [unread] at read
  case unread =>
    intro _ _ _ _ _ _ _ _ unread ih other again
    cases again with
    | followed _ _ _ read _ => simp [unread] at read
    | unread _ _ named _ => exact ih other named
  case nil =>
    intro _ other again
    cases again with
    | nil => rfl
  case cons =>
    intro _ _ _ _ _ _ _ ih rest other again
    cases again with
    | cons one others => rw [ih _ one, rest _ others]

/-! Depth -/

theorem tokenDepth_le_of_mem (token : Token) (tokens : Tokens) (member : token ∈ tokens) :
    tokenDepth token ≤ groupDepth tokens := by
  induction tokens with
  | nil => cases member
  | cons first rest ih =>
      rw [groupDepth]
      rcases List.mem_cons.mp member with rfl | later
      · exact Nat.le_max_left _ _
      · exact Nat.le_trans (ih later) (Nat.le_max_right _ _)

theorem groupDepth_le_of_subset (few tokens : Tokens) (fewer : few ⊆ tokens) :
    groupDepth few ≤ groupDepth tokens := by
  induction few with
  | nil => exact Nat.zero_le _
  | cons first rest ih =>
      rw [groupDepth]
      exact Nat.max_le.mpr ⟨tokenDepth_le_of_mem first tokens (fewer List.mem_cons_self),
        ih fun token member => fewer (List.mem_cons_of_mem first member)⟩

theorem groupDepth_lt_of_mem (tokens inner : Tokens) (delimiter : Delimiter) (span : Span)
    (member : .group delimiter inner span ∈ tokens) : groupDepth inner < groupDepth tokens := by
  have deep := tokenDepth_le_of_mem _ tokens member
  rwa [tokenDepth, Nat.add_one_le_iff] at deep

theorem groupDepth_le_of_inside (text part : Tokens) (inside : Inside text part) :
    groupDepth part ≤ groupDepth text := by
  induction inside with
  | here row => exact groupDepth_le_of_subset _ _ row.subset
  | deeper member _ ih => exact Nat.le_trans ih (Nat.le_of_lt (groupDepth_lt_of_mem _ _ _ _ member))

theorem groupDepth_lt_of_call (text written arguments : Tokens) (name : Tree)
    (inside : Inside text written) (stands : WrittenCall name arguments written) :
    groupDepth arguments < groupDepth text := by
  have member : ∃ delimiter span, .group delimiter arguments span ∈ written := by
    cases stands with
    | plain joint mark place delimiter named => exact ⟨delimiter, place, by simp⟩
    | defining joint mark between place defined delimiter named =>
        exact ⟨delimiter, place, by simp⟩
  obtain ⟨delimiter, span, member⟩ := member
  exact Nat.lt_of_lt_of_le (groupDepth_lt_of_mem written arguments delimiter span member)
    (groupDepth_le_of_inside text written inside)

/-! Following -/

section Following
variable (expressions : Reader Tree) (text : Tokens)

theorem walk_of_writtenPath (name : Tree) (path : Tokens) (named : WrittenPath name path) :
    Walk expressions text name name.paths := by
  cases named with
  | relative spelled => exact .path false _ .none (.nil text)
  | rooted first second joint spelled => exact .path true _ .none (.nil text)

theorem walkAll_follow (read? : Tokens → Option Tree) (trees : List Tree)
    (each : ∀ tree ∈ trees, Walk expressions text tree (tree.follow read?).paths) :
    WalkAll expressions text trees (Tree.allPaths (Tree.followAll read? trees)) := by
  induction trees with
  | nil => exact .nil text
  | cons tree rest ih =>
      exact .cons (each tree List.mem_cons_self)
        (ih fun tree member => each tree (List.mem_cons_of_mem _ member))

/-- The arguments of a call are read, and what is read from them has been followed. -/
def FollowsInto (read? : Tokens → Option Tree) (arguments : Tokens) : Prop :=
  match whole expressions arguments with
  | some tree => ∃ followed, read? arguments = some followed ∧
      Walk expressions arguments tree followed.paths
  | none => read? arguments = none

theorem walk_follow_of_written (read? : Tokens → Option Tree) (tree : Tree)
    (written : tree.WrittenIn text)
    (calls : ∀ arguments, groupDepth arguments < groupDepth text →
      FollowsInto expressions read? arguments) :
    Walk expressions text tree (tree.follow read?).paths := by
  induction written with
  | path rooted names style arguments _ ih =>
      exact .path rooted names style (walkAll_follow expressions text read? arguments ih)
  | node kind children _ ih => exact .node kind (walkAll_follow expressions text read? children ih)
  | metadata name value written inside leads _ ih =>
      refine .metadata inside leads ?_ (walkAll_follow expressions text read? value ih)
      cases leads with
      | outer _ _ _ named => exact walk_of_writtenPath expressions text name _ named
      | inner _ _ _ _ _ named => exact walk_of_writtenPath expressions text name _ named
  | call name arguments written inside stands =>
      have first : Walk expressions text name name.paths := by
        cases stands with
        | plain _ _ _ _ named => exact walk_of_writtenPath expressions text name _ named
        | defining _ _ _ _ _ _ named => exact walk_of_writtenPath expressions text name _ named
      have into := calls arguments (groupDepth_lt_of_call text written arguments name inside stands)
      rw [Tree.follow, Tree.paths]
      unfold FollowsInto at into
      split at into
      · rename_i tree read
        obtain ⟨followed, found, walk⟩ := into
        rw [found, Option.toList_some, Tree.allPaths, Tree.allPaths, List.append_nil]
        exact .followed inside stands first read walk
      · rename_i unread
        rw [into, Option.toList_none, Tree.allPaths, List.append_nil]
        exact .unread inside stands first unread

end Following

theorem walk_follow (expressions : Reader Tree) (faithful : ∀ text, Faithful text expressions)
    (depth : Nat) (text : Tokens) (tree : Tree) (written : tree.WrittenIn text)
    (deep : groupDepth text ≤ depth) :
    Walk expressions text tree (tree.follow (followed? expressions depth)).paths := by
  induction depth generalizing text tree with
  | zero =>
      exact walk_follow_of_written expressions text _ tree written fun arguments less => by omega
  | succ depth ih =>
      refine walk_follow_of_written expressions text _ tree written fun arguments less => ?_
      unfold FollowsInto
      rw [followed?]
      split
      · rename_i inner read
        rw [read]
        have stands := stands_of_whole arguments expressions arguments inner (.refl arguments) read
        exact ⟨_, rfl, ih arguments inner ((stands_tree_iff ..).mp stands) (by omega)⟩
      · rename_i unread
        rw [unread]
        rfl

/-! Items -/

/-- An item as it is read, and the walk over it: attributes in front of it come first. -/
structure Item.Walked (grammar : Grammar) (taken rest : Tokens) (item asRead : Item) : Prop where
  read : (itemAsRead grammar).Reads (taken ++ rest) asRead rest
  declared : item.declared = asRead.declared
  attributes : item.declared ≠ .other → ∃ attributes children behind,
    InTurn (outerAttribute grammar) (taken ++ rest) attributes behind ∧
    sees "#" behind = false ∧
    asRead.tree = .node .item (attributes.map Attribute.tree ++ children)
  walk : Walk (grammar .expressions) taken asRead.tree item.tree.paths

section Items
variable (grammar : Grammar) [faithful : ∀ text, FaithfulGrammar text grammar]
include faithful

theorem walked_of_reads (taken rest : Tokens) (found : Item)
    (read : (item grammar).Reads (taken ++ rest) found rest) :
    ∃ asRead, found.Walked grammar taken rest asRead := by
  simp only [item, reads_bind_iff, reads_ahead_iff, reads_pure_iff] at read
  obtain ⟨_, _, ⟨rfl, rfl⟩, asRead, _, read, rfl, rfl⟩ := read
  refine ⟨asRead, read, rfl, fun known => ?_, ?_⟩
  · simp only [itemAsRead, outerAttributes, reads_bind_iff, reads_ahead_iff, reads_pure_iff] at read
    obtain ⟨attributes, before, leading, _, _, ⟨rfl, rfl⟩, body, _, _, _, _, ⟨rfl, rfl⟩,
      rfl, _⟩ := read
    obtain ⟨inTurn, ended⟩ := inTurn_of_many _ _ _ _ _ leading
    cases body with
    | unread => exact (known rfl).elim
    | read declared children => exact ⟨attributes, children, before, inTurn, ended, rfl⟩
  · have stands := (faithful_itemAsRead taken grammar).faithful taken _ asRead (.refl taken) read
    have written := (stands_tree_iff ..).mp (stands_itemTree taken asRead)
    refine walk_follow (grammar .expressions) (fun text => inferInstance) _ taken asRead.tree written ?_
    exact groupDepth_le_of_subset _ _ (List.subset_append_left ..)

end Items

instance faithfulGrammar_grammarFor (text : Tokens) (source : List Char) :
    FaithfulGrammar text (grammarFor source) :=
  faithfulGrammar_grammarTo text _

end HttpBinding.Source
