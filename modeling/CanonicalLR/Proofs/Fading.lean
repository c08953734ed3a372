import Mathlib.Data.List.Basic

namespace CanonicalLR

variable {α : Type} {fades stays others : α → Prop} {part : α} {row first second : List α}

def OneStays (fades stays : α → Prop) (row : List α) : Prop :=
  ∃ before part after, row = before ++ part :: after ∧ stays part ∧
    (∀ other ∈ before, fades other) ∧ ∀ other ∈ after, fades other

theorem OneStays.imp (one : OneStays fades stays row) (weaker : ∀ part, stays part → others part) :
    OneStays fades others row := by
  obtain ⟨before, part, after, split, remains, fadesBefore, fadesAfter⟩ := one
  exact ⟨before, part, after, split, weaker part remains, fadesBefore, fadesAfter⟩

theorem OneStays.exists_mem (one : OneStays fades stays row) : ∃ part ∈ row, stays part := by
  obtain ⟨before, part, after, rfl, remains, _⟩ := one
  exact ⟨part, by simp, remains⟩

theorem not_oneStays_nil : ¬ OneStays fades stays [] := by
  rintro ⟨before, part, after, split, _⟩
  simp at split

theorem oneStays_singleton : OneStays fades stays [part] ↔ stays part := by
  constructor
  · intro one
    obtain ⟨_, member, remains⟩ := one.exists_mem
    rwa [List.mem_singleton.mp member] at remains
  · intro remains
    exact ⟨[], part, [], rfl, remains, nofun, nofun⟩

theorem OneStays.append_left (one : OneStays fades stays first)
    (fading : ∀ part ∈ second, fades part) : OneStays fades stays (first ++ second) := by
  obtain ⟨before, part, after, rfl, remains, fadesBefore, fadesAfter⟩ := one
  refine ⟨before, part, after ++ second, by simp, remains, fadesBefore, ?_⟩
  exact List.forall_mem_append.mpr ⟨fadesAfter, fading⟩

theorem OneStays.append_right (one : OneStays fades stays second)
    (fading : ∀ part ∈ first, fades part) : OneStays fades stays (first ++ second) := by
  obtain ⟨before, part, after, rfl, remains, fadesBefore, fadesAfter⟩ := one
  refine ⟨first ++ before, part, after, by simp, remains, ?_, fadesAfter⟩
  exact List.forall_mem_append.mpr ⟨fading, fadesBefore⟩

theorem oneStays_append : OneStays fades stays (first ++ second) ↔
    OneStays fades stays first ∧ (∀ part ∈ second, fades part) ∨
      (∀ part ∈ first, fades part) ∧ OneStays fades stays second := by
  constructor
  · rintro ⟨before, part, after, split, remains, fadesBefore, fadesAfter⟩
    rcases List.append_eq_append_iff.mp split with ⟨more, rfl, rfl⟩ | ⟨more, rfl, same⟩
    · obtain ⟨fadesFirst, fadesMore⟩ := List.forall_mem_append.mp fadesBefore
      exact .inr ⟨fadesFirst, more, part, after, rfl, remains, fadesMore, fadesAfter⟩
    · cases more with
      | nil =>
          rw [List.nil_append] at same
          rw [List.append_nil]
          exact .inr ⟨fadesBefore, [], part, after, same.symm, remains, nofun, fadesAfter⟩
      | cons head more =>
          cases same
          obtain ⟨fadesMore, fadesSecond⟩ := List.forall_mem_append.mp fadesAfter
          exact .inl ⟨⟨before, part, more, rfl, remains, fadesBefore, fadesMore⟩, fadesSecond⟩
  · rintro (⟨one, fading⟩ | ⟨fading, one⟩)
    · exact one.append_left fading
    · exact one.append_right fading

end CanonicalLR
