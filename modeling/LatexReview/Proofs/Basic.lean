import Mathlib

/-!
Lists as maps, and computations that may fail.
-/

namespace LatexReview

lemma bind_eq_ok {ε α β : Type} {x : Except ε α} {f : α → Except ε β} {b : β} :
    (x >>= f) = .ok b ↔ ∃ a, x = .ok a ∧ f a = .ok b := by
  cases x with
  | error e => simp [bind, Except.bind]
  | ok a => simp [bind, Except.bind]

lemma exists_of_mem_mapM {ε α β : Type} {f : α → Except ε β} {xs : List α} {ys : List β} {y : β}
    (h : xs.mapM f = .ok ys) (hy : y ∈ ys) : ∃ x ∈ xs, f x = .ok y := by
  induction xs generalizing ys with
  | nil =>
    obtain rfl : [] = ys := by simpa [pure, Except.pure] using h
    simp at hy
  | cons x xs ih =>
    rw [List.mapM_cons, bind_eq_ok] at h
    obtain ⟨first, hfirst, h⟩ := h
    obtain ⟨rest, hrest, h⟩ := bind_eq_ok.1 h
    obtain rfl : first :: rest = ys := by simpa [pure, Except.pure] using h
    rcases List.mem_cons.1 hy with rfl | hy
    · exact ⟨x, by simp, hfirst⟩
    · obtain ⟨x', hx', hf⟩ := ih hrest hy
      exact ⟨x', by simp [hx'], hf⟩

lemma exists_mapM_map {ε α β γ : Type} {f : β → Except ε γ} {g : α → β} {R : α → γ → Prop}
    {xs : List α} (h : ∀ x ∈ xs, ∃ z, f (g x) = .ok z ∧ R x z) :
    ∃ zs, (xs.map g).mapM f = .ok zs ∧ List.Forall₂ R xs zs := by
  induction xs with
  | nil => exact ⟨[], rfl, .nil⟩
  | cons x xs ih =>
    obtain ⟨z, hz, hR⟩ := h x (by simp)
    obtain ⟨zs, hzs, hall⟩ := ih fun y hy => h y (by simp [hy])
    exact ⟨z :: zs, by simp [List.mapM_cons, hz, hzs, bind, Except.bind, pure, Except.pure],
      .cons hR hall⟩

/-! ### Entries by their keys -/

variable {α β : Type} [DecidableEq α] [BEq α] [LawfulBEq α] {k key : α}

omit [DecidableEq α] in
lemma mem_of_lookup_eq_some {entries : List (α × β)} {value : β}
    (h : entries.lookup k = some value) : (k, value) ∈ entries := by
  obtain ⟨before, after, rfl, -⟩ := List.lookup_eq_some_iff.1 h
  simp

omit [DecidableEq α] in
lemma lookup_eq_some_iff_mem {entries : List (α × β)} {value : β}
    (h : (entries.map (·.1)).Nodup) : entries.lookup k = some value ↔ (k, value) ∈ entries := by
  refine ⟨mem_of_lookup_eq_some, fun hm => ?_⟩
  obtain ⟨before, after, rfl⟩ := List.append_of_mem hm
  refine List.lookup_eq_some_iff.2 ⟨before, after, rfl, fun entry hentry => ?_⟩
  rw [List.map_append, List.nodup_append] at h
  have hne : entry.1 ≠ k := h.2.2 _ (List.mem_map_of_mem hentry) _ (by simp)
  simpa using hne.symm

lemma lookup_filter_ne (entries : List (α × β)) :
    (entries.filter (·.1 ≠ key)).lookup k = if k = key then none else entries.lookup k := by
  induction entries with
  | nil => simp
  | cons entry entries ih =>
    obtain ⟨other, value⟩ := entry
    by_cases ho : other = key
    · rw [List.filter_cons_of_neg (by simpa using ho), ih]
      by_cases hk : k = key
      · simp [hk]
      · have hb : (k == other) = false := by simpa [ho] using hk
        simp [hk, List.lookup_cons, hb]
    · rw [List.filter_cons_of_pos (by simpa using ho), List.lookup_cons, List.lookup_cons, ih]
      by_cases hk : k = other
      · simp [hk, ho]
      · have hb : (k == other) = false := by simpa using hk
        simp [hb]

lemma lookup_put (entries : List (α × β)) (value : β) :
    ((key, value) :: entries.filter (·.1 ≠ key)).lookup k =
      if k = key then some value else entries.lookup k := by
  rw [List.lookup_cons, lookup_filter_ne]
  by_cases hk : k = key
  · simp [hk]
  · have hb : (k == key) = false := by simpa using hk
    simp [hk, hb]

end LatexReview
