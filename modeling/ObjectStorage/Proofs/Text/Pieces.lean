/-!
# Characters of a text and of its pieces

* `mem_piece_of_mem`, `not_mem_of_mem_splitOn`: a character of a text is the separator or stands in a piece, and
  never both.
* `splitOn_append_cons`: the first piece of a text.
* `mem_dropLast_or_getLast?`: an item of a list stands before the last place or in it.
* `not_mem_of_all`, `decide_ne_of_not_mem`: what a text does not hold.
-/

namespace ObjectStorage.Text

theorem mem_piece_of_mem (c : Char) {d : Char} {cs : List Char} (h : d ∈ cs) :
    d = c ∨ ∃ piece ∈ cs.splitOn c, d ∈ piece := by
  induction cs with
  | nil => cases h
  | cons x xs ih =>
    rw [List.splitOn_cons_eq_if_modifyHead]
    by_cases hx : (x == c) = true
    · rw [if_pos hx]
      rcases List.mem_cons.mp h with rfl | h
      · exact .inl (by simpa using hx)
      · rcases ih h with hd | ⟨piece, hpiece, hd⟩
        · exact .inl hd
        · exact .inr ⟨piece, List.mem_cons_of_mem _ hpiece, hd⟩
    · rw [if_neg hx]
      cases hpieces : xs.splitOn c with
      | nil => exact absurd hpieces (List.splitOn_ne_nil c xs)
      | cons first rest =>
        rw [List.modifyHead_cons]
        rcases List.mem_cons.mp h with rfl | h
        · exact .inr ⟨_, List.mem_cons_self, List.mem_cons_self⟩
        · rcases ih h with hd | ⟨piece, hpiece, hd⟩
          · exact .inl hd
          · rw [hpieces] at hpiece
            rcases List.mem_cons.mp hpiece with rfl | hpiece
            · exact .inr ⟨_, List.mem_cons_self, List.mem_cons_of_mem _ hd⟩
            · exact .inr ⟨piece, List.mem_cons_of_mem _ hpiece, hd⟩

/-- No piece of a text holds the separator. -/
theorem not_mem_of_mem_splitOn {c : Char} {xs ys : List Char} (h : ys ∈ xs.splitOn c) : c ∉ ys := by
  induction xs generalizing ys with
  | nil =>
    obtain rfl : ys = [] := by simpa using h
    exact List.not_mem_nil
  | cons x xs ih =>
    rw [List.splitOn_cons_eq_if_modifyHead] at h
    split at h
    · rcases List.mem_cons.mp h with rfl | h
      · exact List.not_mem_nil
      · exact ih h
    · next hx =>
      cases hpieces : xs.splitOn c with
      | nil => exact absurd hpieces (List.splitOn_ne_nil c xs)
      | cons first rest =>
        rw [hpieces, List.modifyHead_cons] at h
        rcases List.mem_cons.mp h with rfl | h
        · have hfirst : c ∉ first := ih (by simp [hpieces])
          have hne : ¬ c = x := fun hc => hx (by simp [hc])
          simp [hne, hfirst]
        · exact ih (by simp [hpieces, h])

/-- Without the separator in it, a text in front of one is the first piece. -/
theorem splitOn_append_cons {c : Char} {piece : List Char} (h : c ∉ piece) (cs : List Char) :
    (piece ++ c :: cs).splitOn c = piece :: cs.splitOn c := by
  have hsplit : (piece ++ c :: cs).splitOnP (· == c) = piece.splitOnP (· == c) ++ cs.splitOnP (· == c) :=
    List.splitOnP_append_cons piece cs (beq_self_eq_true c)
  simp only [← List.splitOn_eq_splitOnP, List.splitOn_eq_singleton h] at hsplit
  exact hsplit

theorem mem_dropLast_or_getLast? {α : Type} {x : α} {xs : List α} (h : x ∈ xs) :
    x ∈ xs.dropLast ∨ xs.getLast? = some x := by
  have hne : xs ≠ [] := List.ne_nil_of_mem h
  rw [← List.dropLast_concat_getLast hne, List.mem_append, List.mem_singleton] at h
  exact h.imp_right fun hx => by rw [List.getLast?_eq_some_getLast hne, ← hx]

theorem not_mem_of_all {p : Char → Bool} {c : Char} {cs : List Char}
    (hall : cs.all (!p ·) = true) (h : p c = true) : c ∉ cs := fun hc => by
  have hnot := List.all_eq_true.mp hall c hc
  rw [h] at hnot
  cases hnot

theorem decide_ne_of_not_mem {c : Char} {cs : List Char} (h : c ∉ cs) :
    ∀ d ∈ cs, decide (d ≠ c) = true :=
  fun _ hd => decide_eq_true fun heq => h (heq ▸ hd)

end ObjectStorage.Text
