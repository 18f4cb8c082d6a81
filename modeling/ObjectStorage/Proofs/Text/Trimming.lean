import Mathlib.Data.List.TakeWhile
import ObjectStorage.Text.Blank

/-!
# The ends of a text

* `IsCore p cs core`: `core` is what is left of `cs` without characters of the class `p` at its two ends.
* `trim_eq_iff`: trimming finds it, and there is no other.
* `trim_append_left`, `trim_append_right`: characters of the class in front and behind do not count.
* `trim_trim`: a trimmed text has nothing left to trim.
-/

namespace ObjectStorage.Text

variable {p : Char → Bool} {cs core front back : List Char} {c : Char}

/-- What is left of a text without the characters of a class at its two ends. -/
def IsCore (p : Char → Bool) (cs core : List Char) : Prop :=
  (∃ front back, cs = front ++ core ++ back ∧ ∀ c ∈ front ++ back, p c = true) ∧
    (∀ c ∈ core.head?, p c = false) ∧ ∀ c ∈ core.getLast?, p c = false

/-! ## What is left -/

theorem mem_of_mem_trim (h : c ∈ trim p cs) : c ∈ cs := by
  have hend : c ∈ (cs.dropWhile p).reverse.dropWhile p := List.mem_reverse.mp h
  have hfront : c ∈ cs.dropWhile p :=
    List.mem_reverse.mp ((List.dropWhile_sublist p).subset hend)
  exact (List.dropWhile_sublist p).subset hfront

theorem apply_of_mem_head?_dropWhile (h : c ∈ (cs.dropWhile p).head?) : p c = false := by
  have hnot := List.head?_dropWhile_not p cs
  rw [Option.mem_def.mp h] at hnot
  exact hnot

theorem apply_of_mem_getLast?_trim (h : c ∈ (trim p cs).getLast?) : p c = false := by
  unfold trim trimEnd at h
  rw [List.getLast?_reverse] at h
  exact apply_of_mem_head?_dropWhile h

theorem apply_of_mem_head?_trim (h : c ∈ (trim p cs).head?) : p c = false := by
  -- trimming the end keeps the first character, if any is left
  have hprefix : trimEnd p (cs.dropWhile p) <+: cs.dropWhile p := by
    have hsuffix : (cs.dropWhile p).reverse.dropWhile p <:+ (cs.dropWhile p).reverse :=
      List.dropWhile_suffix p
    simpa [trimEnd] using List.reverse_prefix.mpr hsuffix
  obtain ⟨rest, hrest⟩ := hprefix
  have hfirst : (trimEnd p (cs.dropWhile p)).head? = some c := h
  have hmem : c ∈ (cs.dropWhile p).head? := by
    rw [← hrest, List.head?_append, hfirst]
    rfl
  exact apply_of_mem_head?_dropWhile hmem

/-- A trimmed text has nothing left to trim. -/
theorem trim_trim (p : Char → Bool) (cs : List Char) : trim p (trim p cs) = trim p cs :=
  trim_eq_self (fun _ => apply_of_mem_head?_trim) (fun _ => apply_of_mem_getLast?_trim)

/-! ## What is trimmed -/

/-- Characters of the class in front do not count. -/
theorem trim_append_left (h : ∀ c ∈ front, p c = true) : trim p (front ++ cs) = trim p cs := by
  unfold trim
  rw [List.dropWhile_append_of_pos h]

theorem trimEnd_append (h : ∀ c ∈ back, p c = true) : trimEnd p (cs ++ back) = trimEnd p cs := by
  unfold trimEnd
  rw [List.reverse_append, List.dropWhile_append_of_pos fun c hc => h c (List.mem_reverse.mp hc)]

/-- Characters of the class behind do not count. -/
theorem trim_append_right (h : ∀ c ∈ back, p c = true) : trim p (cs ++ back) = trim p cs := by
  unfold trim
  rw [List.dropWhile_append]
  split
  · next hempty =>
    have hcs : cs.dropWhile p = [] := List.isEmpty_iff.mp hempty
    have hback : back.dropWhile p = [] := List.dropWhile_eq_nil_iff.mpr h
    rw [hcs, hback]
  · exact trimEnd_append h

theorem exists_append_trimEnd (p : Char → Bool) (cs : List Char) :
    ∃ back, cs = trimEnd p cs ++ back ∧ ∀ c ∈ back, p c = true := by
  refine ⟨(cs.reverse.takeWhile p).reverse, ?_, ?_⟩
  · unfold trimEnd
    rw [← List.reverse_append, List.takeWhile_append_dropWhile, List.reverse_reverse]
  · intro c hc
    exact List.mem_takeWhile_imp (List.mem_reverse.mp hc)

/-- Trimming finds what is left of a text, and there is no other. -/
theorem trim_eq_iff : trim p cs = core ↔ IsCore p cs core := by
  constructor
  · rintro rfl
    refine ⟨?_, fun _ => apply_of_mem_head?_trim, fun _ => apply_of_mem_getLast?_trim⟩
    obtain ⟨back, hback, hall⟩ := exists_append_trimEnd p (cs.dropWhile p)
    refine ⟨cs.takeWhile p, back, ?_, ?_⟩
    · rw [trim, List.append_assoc, ← hback, List.takeWhile_append_dropWhile]
    · intro c hc
      rcases List.mem_append.mp hc with hc | hc
      · exact List.mem_takeWhile_imp hc
      · exact hall c hc
  · rintro ⟨⟨front, back, rfl, hall⟩, hfirst, hlast⟩
    rw [trim_append_right fun c hc => hall c (List.mem_append_right _ hc),
      trim_append_left fun c hc => hall c (List.mem_append_left _ hc)]
    exact trim_eq_self hfirst hlast

end ObjectStorage.Text
