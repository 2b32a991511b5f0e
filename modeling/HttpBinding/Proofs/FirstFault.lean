/-!
The first fault in a list. Checks that go through a list and stop at the first
failure report the member before which everything passes.
-/
namespace HttpBinding

/-- What is made exactly of what is accepted fails only where it is not accepted. -/
theorem not_of_error {ε α : Type} (outcome : Except ε α) (accepted : Prop) (made : α)
    (success : ∀ value, outcome = .ok value ↔ accepted ∧ value = made) (error : ε)
    (refused : outcome = .error error) : ¬ accepted := by
  intro passes
  rw [(success made).mpr ⟨passes, rfl⟩] at refused
  cases refused

variable {α : Type}

/-- Some member is at fault and all before it pass. The fault may depend on how many
stand before it. -/
def FirstFault (passes : α → Prop) (fault : Nat → α → Prop) (items : List α) : Prop :=
  ∃ before item after, items = before ++ item :: after ∧
    (∀ earlier ∈ before, passes earlier) ∧ fault before.length item

theorem not_firstFault_nil (passes : α → Prop) (fault : Nat → α → Prop) :
    ¬ FirstFault passes fault [] := by
  rintro ⟨before, item, after, whole, _⟩
  simp at whole

theorem firstFault_cons (passes : α → Prop) (fault : Nat → α → Prop) (item : α)
    (rest : List α) :
    FirstFault passes fault (item :: rest) ↔
      fault 0 item ∨
        passes item ∧ FirstFault passes (fun position => fault (position + 1)) rest := by
  constructor
  · rintro ⟨before, faulty, after, whole, passed, fails⟩
    cases before with
    | nil =>
        obtain ⟨rfl, rfl⟩ := List.cons.inj whole
        exact .inl fails
    | cons first before =>
        obtain ⟨rfl, behind⟩ := List.cons.inj whole
        exact .inr ⟨passed item List.mem_cons_self, before, faulty, after, behind,
          fun earlier member => passed earlier (List.mem_cons_of_mem item member), fails⟩
  · rintro (fails | ⟨passed, before, faulty, after, rfl, others, fails⟩)
    · exact ⟨[], item, rest, rfl, by simp, fails⟩
    · exact ⟨item :: before, faulty, after, rfl, List.forall_mem_cons.mpr ⟨passed, others⟩, fails⟩

theorem firstFault_append (passes : α → Prop) (fault : Nat → α → Prop) (items more : List α) :
    FirstFault passes fault (items ++ more) ↔
      FirstFault passes fault items ∨
        (∀ item ∈ items, passes item) ∧
          FirstFault passes (fun position => fault (items.length + position)) more := by
  induction items generalizing fault with
  | nil => simp [not_firstFault_nil]
  | cons item rest ih =>
      rw [List.cons_append, firstFault_cons, firstFault_cons, ih, List.forall_mem_cons]
      have shifted (position : Nat) :
          fault (rest.length + position + 1) = fault ((item :: rest).length + position) := by
        rw [List.length_cons, Nat.add_right_comm]
      simp only [shifted, and_or_left, or_assoc, and_assoc]

theorem firstFault_iff_getElem? (passes : α → Prop) (fault : Nat → α → Prop) (items : List α) :
    FirstFault passes fault items ↔
      ∃ index item, items[index]? = some item ∧ fault index item ∧
        ∀ earlier < index, ∀ other, items[earlier]? = some other → passes other := by
  constructor
  · rintro ⟨before, item, after, rfl, passed, fails⟩
    refine ⟨before.length, item, by simp, fails, ?_⟩
    intro earlier inFront other found
    rw [List.getElem?_append_left inFront] at found
    exact passed other (List.mem_of_getElem? found)
  · rintro ⟨index, item, found, fails, passed⟩
    obtain ⟨inside, rfl⟩ := List.getElem?_eq_some_iff.mp found
    refine ⟨items.take index, items[index], items.drop (index + 1), by simp, ?_, ?_⟩
    · intro other member
      obtain ⟨earlier, inFront, rfl⟩ := List.mem_take_iff_getElem.mp member
      exact passed earlier (by omega) _ (by simp)
    · rwa [List.length_take_of_le (Nat.le_of_lt inside)]

end HttpBinding
