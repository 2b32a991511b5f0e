import HttpBinding.Source.Excerpt
import Mathlib.Data.List.Induction
import Mathlib.Data.List.Nodup
import Mathlib.Logic.Relation

/-!
Breadth-first discovery. The order in which references are met is fixed by what each of
them uses: it lists what the root and its own members mention, each where it is mentioned
first, and what is nearer to the root comes first. The worklist of an excerpt keeps this
for the part that it has looked into, and its bound is enough for it to look into all.
-/
namespace HttpBinding.Source

variable {α : Type} [DecidableEq α]

/-! First mentions -/

theorem eraseDups_concat (items : List α) (item : α) :
    (items ++ [item]).eraseDups
      = if item ∈ items then items.eraseDups else items.eraseDups ++ [item] := by
  rw [List.eraseDups_append]
  by_cases met : item ∈ items
  · simp [List.removeAll, met]
  · simp [List.removeAll, met, List.eraseDups_cons]

theorem nodup_eraseDups (items : List α) : items.eraseDups.Nodup := by
  induction items using List.reverseRecOn with
  | nil => simp
  | append_singleton items item ih =>
      rw [eraseDups_concat]
      by_cases met : item ∈ items
      · rwa [if_pos met]
      · rw [if_neg met, ← List.concat_eq_append, List.nodup_concat]
        exact ⟨by simpa using met, ih⟩

theorem eraseDups_at_front (items more : List α) :
    items.eraseDups <+: (items ++ more).eraseDups :=
  ⟨_, List.eraseDups_append.symm⟩

/-! Breadth-first orders -/

section Orders
variable (uses : α → List α) (root : α)

omit [DecidableEq α] in
def Reachable : α → Prop := Relation.ReflTransGen (fun source target => target ∈ uses source) root

/-- Reached from the root in at most so many steps. -/
def Within : Nat → α → Prop
  | 0, target => target = root
  | steps + 1, target => target = root ∨ ∃ source, Within steps source ∧ target ∈ uses source

/-- What is reached in so many steps, in the order of first mention. -/
def rounds : Nat → List α
  | 0 => [root]
  | steps + 1 => (root :: (rounds steps).flatMap uses).eraseDups

/-- All that is reached, once each: nearer members first, and otherwise where the root
and the members mention them first. -/
structure BreadthFirst (order : List α) : Prop where
  distinct : order.Nodup
  mem_iff : ∀ target, target ∈ order ↔ Reachable uses root target
  nearer : ∀ steps, ∃ near, near <+: order ∧ ∀ target, target ∈ near ↔ Within uses root steps target
  mentioned : order = (root :: order.flatMap uses).eraseDups

omit [DecidableEq α] in
theorem reachable_iff_within (target : α) :
    Reachable uses root target ↔ ∃ steps, Within uses root steps target := by
  constructor
  · intro reached
    induction reached with
    | refl => exact ⟨0, rfl⟩
    | tail _ used ih =>
        obtain ⟨steps, within⟩ := ih
        exact ⟨steps + 1, .inr ⟨_, within, used⟩⟩
  · rintro ⟨steps, within⟩
    induction steps generalizing target with
    | zero => exact within ▸ .refl
    | succ steps ih =>
        rcases within with rfl | ⟨source, within, used⟩
        · exact .refl
        · exact (ih source within).tail used

omit [DecidableEq α] in
theorem within_mono (steps more : Nat) (target : α) (within : Within uses root steps target) :
    Within uses root (steps + more) target := by
  induction steps generalizing target with
  | zero =>
      cases more with
      | zero => exact within
      | succ more => exact .inl within
  | succ steps ih =>
      rw [Nat.succ_add]
      rcases within with rfl | ⟨source, within, used⟩
      · exact .inl rfl
      · exact .inr ⟨source, ih source within, used⟩

theorem mem_rounds_iff (steps : Nat) (target : α) :
    target ∈ rounds uses root steps ↔ Within uses root steps target := by
  induction steps generalizing target with
  | zero => simp [rounds, Within]
  | succ steps ih => simp [rounds, Within, ih]

variable (order : List α) (mentioned : order = (root :: order.flatMap uses).eraseDups)
include mentioned

theorem root_mem : root ∈ order := by
  rw [mentioned]
  simp

theorem uses_mem (source target : α) (met : source ∈ order) (used : target ∈ uses source) :
    target ∈ order := by
  rw [mentioned, List.mem_eraseDups]
  exact List.mem_cons_of_mem root (List.mem_flatMap.mpr ⟨source, met, used⟩)

theorem mem_of_reachable (target : α) (reached : Reachable uses root target) :
    target ∈ order := by
  induction reached with
  | refl => exact root_mem uses root order mentioned
  | tail _ used ih => exact uses_mem uses root order mentioned _ _ ih used

theorem rounds_at_front (steps : Nat) : rounds uses root steps <+: order := by
  induction steps with
  | zero =>
      rw [mentioned, List.eraseDups_cons]
      exact ⟨_, rfl⟩
  | succ steps ih =>
      obtain ⟨far, whole⟩ := ih
      -- What the members of a round mention is mentioned before all that the others do.
      have split : root :: order.flatMap uses
          = (root :: (rounds uses root steps).flatMap uses) ++ far.flatMap uses := by
        rw [← whole, List.flatMap_append, List.cons_append]
      rw [mentioned, split]
      exact eraseDups_at_front _ _

theorem breadthFirst_of_mentioned (reached : ∀ target ∈ order, Reachable uses root target) :
    BreadthFirst uses root order where
  distinct := mentioned ▸ nodup_eraseDups _
  mem_iff target := ⟨reached target, mem_of_reachable uses root order mentioned target⟩
  nearer steps := ⟨_, rounds_at_front uses root order mentioned steps, mem_rounds_iff uses root steps⟩
  mentioned := mentioned

end Orders

omit [DecidableEq α] in
theorem exists_common_steps (uses : α → List α) (root : α) (targets : List α)
    (reached : ∀ target ∈ targets, Reachable uses root target) :
    ∃ steps, ∀ target ∈ targets, Within uses root steps target := by
  induction targets with
  | nil => exact ⟨0, by simp⟩
  | cons target rest ih =>
      obtain ⟨steps, within⟩ :=
        (reachable_iff_within uses root target).mp (reached target List.mem_cons_self)
      obtain ⟨others, all⟩ := ih fun other member => reached other (List.mem_cons_of_mem target member)
      refine ⟨steps + others, List.forall_mem_cons.mpr ⟨within_mono uses root _ _ _ within, ?_⟩⟩
      intro other member
      rw [Nat.add_comm]
      exact within_mono uses root _ _ _ (all other member)

theorem rounds_eq_of_within (uses : α → List α) (root : α) (order : List α)
    (first : BreadthFirst uses root order) (steps : Nat)
    (all : ∀ target ∈ order, Within uses root steps target) : rounds uses root steps = order := by
  apply (rounds_at_front uses root order first.mentioned steps).eq_of_length_le
  apply first.distinct.length_le_of_subset
  exact fun target member => (mem_rounds_iff uses root steps target).mpr (all target member)

theorem BreadthFirst.unique {uses : α → List α} {root : α} {order other : List α}
    (first : BreadthFirst uses root order) (second : BreadthFirst uses root other) :
    order = other := by
  -- Both orders have the same members, so one round holds all of either.
  obtain ⟨steps, all⟩ := exists_common_steps uses root order fun target member =>
    (first.mem_iff target).mp member
  have also : ∀ target ∈ other, Within uses root steps target := fun target member =>
    all target ((first.mem_iff target).mpr ((second.mem_iff target).mp member))
  rw [← rounds_eq_of_within uses root order first steps all,
    rounds_eq_of_within uses root other second steps also]

/-- What stands outside the order may use anything. -/
theorem BreadthFirst.congr {uses other : α → List α} {root : α} {order : List α}
    (first : BreadthFirst uses root order)
    (same : ∀ source ∈ order, other source = uses source) : BreadthFirst other root order := by
  refine breadthFirst_of_mentioned other root order ?_ ?_
  · have targets : order.flatMap other = order.flatMap uses := List.flatMap_congr same
    rw [targets]
    exact first.mentioned
  · intro target member
    have reached := (first.mem_iff target).mp member
    clear member
    induction reached with
    | refl => exact .refl
    | tail reached used ih =>
        exact ih.tail (by rwa [same _ ((first.mem_iff _).mpr reached)])

/-! The worklist -/

section Worklist
variable (uses : Reference → List Reference) (root : Reference)

/-- What the worklist keeps while it goes on: all that has been met is met in order, what
is pending was met last, and `done` is what has been looked into. -/
structure Explored (done : List Reference) (discovery : Discovery) : Prop where
  found : discovery.found = (root :: done.flatMap uses).eraseDups
  split : discovery.found = done ++ discovery.pending
  reached : ∀ target ∈ discovery.found, Reachable uses root target

theorem meet_mentions (mentions done : List Reference) (target : Reference)
    (discovery : Discovery) (found : discovery.found = mentions.eraseDups)
    (split : discovery.found = done ++ discovery.pending) :
    (discovery.meet target).found = (mentions ++ [target]).eraseDups ∧
    (discovery.meet target).found = done ++ (discovery.meet target).pending := by
  rw [eraseDups_concat, Discovery.meet]
  by_cases met : target ∈ discovery.found
  · have mentioned : target ∈ mentions := by simpa [found] using met
    rw [if_pos met, if_pos mentioned]
    exact ⟨found, split⟩
  · -- What is new goes to the end of what is found and of what is pending.
    have fresh : target ∉ mentions := by simpa [found] using met
    rw [if_neg met, if_neg fresh, found]
    refine ⟨rfl, ?_⟩
    rw [← List.append_assoc, ← split, found]

theorem meetAll_mentions (mentions done targets : List Reference) (discovery : Discovery)
    (found : discovery.found = mentions.eraseDups)
    (split : discovery.found = done ++ discovery.pending) :
    (discovery.meetAll targets).found = (mentions ++ targets).eraseDups ∧
    (discovery.meetAll targets).found = done ++ (discovery.meetAll targets).pending := by
  induction targets generalizing mentions discovery with
  | nil => simpa [Discovery.meetAll] using ⟨found, split⟩
  | cons target rest ih =>
      obtain ⟨first, parts⟩ := meet_mentions mentions done target discovery found split
      have next := ih (mentions ++ [target]) (discovery.meet target) first parts
      rwa [List.append_assoc] at next

theorem explored_start : Explored uses root [] (.start root) := by
  refine ⟨by simp [Discovery.start, List.eraseDups_cons], rfl, ?_⟩
  intro target member
  rw [List.mem_singleton.mp member]
  exact .refl

theorem explored_step (done : List Reference) (source : Reference) (found rest : List Reference)
    (explored : Explored uses root done ⟨found, source :: rest⟩) :
    Explored uses root (done ++ [source])
      (Discovery.meetAll ⟨found, rest⟩ (uses source)) := by
  have split : found = done ++ [source] ++ rest := by simpa using explored.split
  obtain ⟨met, parts⟩ := meetAll_mentions (root :: done.flatMap uses) (done ++ [source])
    (uses source) ⟨found, rest⟩ explored.found split
  refine ⟨by simpa using met, parts, ?_⟩
  intro target member
  rw [met, List.mem_eraseDups, List.mem_append] at member
  rcases member with old | used
  · exact explored.reached target (by rwa [explored.found, List.mem_eraseDups])
  · exact (explored.reached source (by simp [split])).tail used

-- Each step looks into one reference, until none is pending.
theorem explored_run (fuel : Nat) (done : List Reference) (discovery : Discovery)
    (explored : Explored uses root done discovery) :
    ∃ more, Explored uses root more (discovery.run uses fuel) ∧
      ((discovery.run uses fuel).pending = [] ∨ more.length = done.length + fuel) := by
  induction fuel generalizing done discovery with
  | zero => exact ⟨done, explored, .inr rfl⟩
  | succ fuel ih =>
      obtain ⟨found, pending⟩ := discovery
      cases pending with
      | nil => exact ⟨done, explored, .inl rfl⟩
      | cons source rest =>
          obtain ⟨more, kept, ended⟩ := ih _ _ (explored_step uses root done source found rest explored)
          refine ⟨more, kept, ended.imp_right fun size => ?_⟩
          rw [size, List.length_append, List.length_singleton, Nat.add_assoc, Nat.add_comm 1]

/-- If no more references can be met than there are steps, all are looked into. -/
theorem breadthFirst_run (bound : List Reference) (fuel : Nat) (enough : bound.length ≤ fuel)
    (bounded : ∀ target, Reachable uses root target → target ∈ bound) :
    BreadthFirst uses root ((Discovery.start root).run uses fuel).found := by
  obtain ⟨done, explored, ended⟩ := explored_run uses root fuel [] (.start root)
    (explored_start uses root)
  have distinct : ((Discovery.start root).run uses fuel).found.Nodup :=
    explored.found ▸ nodup_eraseDups _
  have few := distinct.length_le_of_subset fun target member =>
    bounded target (explored.reached target member)
  -- Were one still pending, more would be found than the bound has.
  have empty : ((Discovery.start root).run uses fuel).pending = [] := by
    rcases ended with empty | size
    · exact empty
    · rw [explored.split, List.length_append, size, List.length_nil] at few
      exact List.length_eq_zero_iff.mp (by omega)
  have all : ((Discovery.start root).run uses fuel).found = done := by
    simpa [empty] using explored.split
  exact breadthFirst_of_mentioned uses root _ (all ▸ explored.found) explored.reached

end Worklist
end HttpBinding.Source
