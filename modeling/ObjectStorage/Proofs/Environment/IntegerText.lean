import ObjectStorage.Proofs.Environment.Numeral
import ObjectStorage.Proofs.Text.Trimming

/-!
# Reading the integer in a text

* `grouped_bind_eq_some_iff`: digits and underscores are read as the number of the digits.
* `integer?_of_spaced`: so are digits spaced by underscores, with zeros in front or without.
* `read_of_isNumeral`: a numeral of an integer, if it has not too many digits, is read as that integer.
* `read_integer`: so is the decimal text of an integer; its sign is not counted.
* `integer?_eq_some`: digits and underscores alone are read, or a minus sign behind zeros, and the integer has at
  most `digitLimit` digits.
* `isPlain_or_isLate_of_read`: what is read as an integer is, less the blanks at its ends, plain or has a late minus
  sign; `length_digits_of_read`: how many digits the integer has.
-/

namespace ObjectStorage.IntegerText

open ObjectStorage.Text ObjectStorage.Text.Numeral

variable {cs ds body : List Char} {n : Int} {s : String}

/-! ## Digits and underscores -/

theorem grouped_of_spaced (h : Spaced cs ds) : grouped cs = some ds := by
  induction h with
  | one h => simp [grouped, h]
  | next h hs ih =>
    obtain ⟨d, rest, rfl, hd⟩ := hs.exists_cons
    -- two digits side by side are read by an equation that excludes an underscore
    have hgap : d ≠ '_' := ne_of_isDigit hd rfl
    simp [grouped, h, ih]
  | gap h hs ih => simp [grouped, h, ih]

theorem spaced_of_grouped (h : grouped cs = some ds) : Spaced cs ds := by
  fun_induction grouped cs generalizing ds with
  | case1 => cases h
  | case2 c hc =>
    obtain rfl := Option.some.inj h
    exact .one hc
  | case3 c hc => cases h
  | case4 c rest hc ih =>
    obtain ⟨tail, htail, rfl⟩ := Option.map_eq_some_iff.mp h
    exact .gap hc (ih htail)
  | case5 c rest hc => cases h
  | case6 c d rest hd hc ih =>
    obtain ⟨tail, htail, rfl⟩ := Option.map_eq_some_iff.mp h
    exact .next hc (ih htail)
  | case7 c d rest hd hc => cases h

/-- What is read from digits and underscores is the number of the digits, which are not too many. -/
theorem grouped_bind_eq_some_iff {m : Nat} : (grouped cs).bind bounded = some m ↔
    ∃ ds, Spaced cs ds ∧ ds.length ≤ digitLimit ∧ m = value ds := by
  constructor
  · intro h
    obtain ⟨ds, hds, hm⟩ := Option.bind_eq_some_iff.mp h
    unfold bounded at hm
    split at hm
    · next hlen => exact ⟨ds, spaced_of_grouped hds, hlen, (Option.some.inj hm).symm⟩
    · cases hm
  · rintro ⟨ds, hds, hlen, rfl⟩
    rw [grouped_of_spaced hds, Option.bind_some, bounded, if_pos hlen]

theorem isDigitText_of_grouped {m : Nat} (h : (grouped cs).bind bounded = some m) :
    IsDigitText cs ∧ m = value (cs.filter isDigit) ∧ (digits m).length ≤ digitLimit := by
  obtain ⟨ds, hds, hlen, rfl⟩ := grouped_bind_eq_some_iff.mp h
  exact ⟨hds.isDigitText, by rw [hds.filter_eq], Nat.le_trans hds.length_digits_le hlen⟩

/-- Less its leading zeros, a spaced text is empty or spaced again, and has the same number. -/
theorem Spaced.dropWhile_filler (h : Spaced cs ds) :
    (cs.dropWhile isFiller = [] ∧ value ds = 0) ∨
      ∃ ds', Spaced (cs.dropWhile isFiller) ds' ∧ value ds' = value ds ∧ ds'.length ≤ ds.length := by
  have hzero : isFiller '0' = true := rfl
  have hgap : isFiller '_' = true := rfl
  have hkept : ∀ {c}, Numeral.isDigit c = true → c ≠ '0' → isFiller c = false := by
    intro c hc hne
    refine Bool.eq_false_iff.mpr fun hfill => ?_
    rcases isFiller_iff.mp hfill with rfl | rfl
    · exact hne rfl
    · exact ne_of_isDigit hc rfl rfl
  induction h with
  | @one c h =>
    by_cases hc : c = '0'
    · subst hc
      exact .inl ⟨rfl, rfl⟩
    · refine .inr ⟨[c], ?_, rfl, Nat.le_refl _⟩
      rw [List.dropWhile_cons_of_neg (by simp [hkept h hc])]
      exact .one h
  | @next c cs ds h hs ih =>
    by_cases hc : c = '0'
    · subst hc
      rw [List.dropWhile_cons_of_pos hzero, value_zero_cons]
      refine ih.imp_right fun ⟨ds', hds', hvalue, hlen⟩ => ⟨ds', hds', hvalue, ?_⟩
      exact Nat.le_succ_of_le hlen
    · refine .inr ⟨c :: ds, ?_, rfl, Nat.le_refl _⟩
      rw [List.dropWhile_cons_of_neg (by simp [hkept h hc])]
      exact .next h hs
  | @gap c cs ds h hs ih =>
    by_cases hc : c = '0'
    · subst hc
      rw [List.dropWhile_cons_of_pos hzero, List.dropWhile_cons_of_pos hgap, value_zero_cons]
      refine ih.imp_right fun ⟨ds', hds', hvalue, hlen⟩ => ⟨ds', hds', hvalue, ?_⟩
      exact Nat.le_succ_of_le hlen
    · refine .inr ⟨c :: ds, ?_, rfl, Nat.le_refl _⟩
      rw [List.dropWhile_cons_of_neg (by simp [hkept h hc])]
      exact .gap h hs

/-- A spaced text, not too long, is read as its number. -/
theorem integer?_of_spaced (negative : Bool) (h : Spaced cs ds) (hlen : ds.length ≤ digitLimit) :
    integer? negative cs = some (if negative then -(value ds : Int) else value ds) := by
  obtain ⟨c, rest, rfl, hc⟩ := h.exists_cons
  by_cases hzero : c = '0'
  · subst hzero
    have hdrop : ('0' :: rest).dropWhile isFiller = rest.dropWhile isFiller :=
      List.dropWhile_cons_of_pos rfl
    have hcases := h.dropWhile_filler
    rw [hdrop] at hcases
    show afterZero negative rest = _
    rcases hcases with ⟨hnil, hvalue⟩ | ⟨ds', hds', hvalue, hlen'⟩
    · -- nothing but zeros, the last of which is no underscore
      have hlast : rest.getLast? ≠ some '_' := by
        intro hlast
        obtain ⟨d, hd, hdigit⟩ := h.isDigitText.last
        rw [List.getLast?_cons, hlast] at hd
        obtain rfl : '_' = d := by simpa using hd
        exact ne_of_isDigit hdigit rfl rfl
      simp [afterZero, hnil, hlast, hvalue]
    · have hread := grouped_bind_eq_some_iff.mpr ⟨ds', hds', Nat.le_trans hlen' hlen, rfl⟩
      obtain ⟨d, tail, hd, hdigit⟩ := hds'.exists_cons
      have hminus : d ≠ '-' := ne_of_isDigit hdigit rfl
      rw [hd] at hread
      simp [afterZero, hd, hminus, hread, hvalue]
  · have hread := grouped_bind_eq_some_iff.mpr ⟨ds, h, hlen, rfl⟩
    simp [integer?, hzero, hread]

/-! ## Signs and fractions -/

theorem exists_sign (cs : List Char) : ∃ sign, IsSign (signed cs).1 sign ∧ cs = sign ++ (signed cs).2 := by
  fun_cases signed cs with
  | case1 rest => exact ⟨_, .minus, rfl⟩
  | case2 rest => exact ⟨_, .plus, rfl⟩
  | case3 => exact ⟨_, .none, rfl⟩

theorem signed_append {negative : Bool} {sign : List Char} (h : IsSign negative sign)
    (hbody : ∃ c rest, body = c :: rest ∧ isDigit c = true) :
    signed (sign ++ body) = (negative, body) := by
  obtain ⟨c, rest, rfl, hc⟩ := hbody
  cases h with
  | minus => rfl
  | plus => rfl
  | none =>
    have hminus : c ≠ '-' := ne_of_isDigit hc rfl
    have hplus : c ≠ '+' := ne_of_isDigit hc rfl
    simp [signed, hminus, hplus]

/-- The whole part is the text less its fraction. -/
theorem wholePart_eq_some_iff :
    wholePart cs = some body ↔ ∃ fraction, cs = body ++ fraction ∧ '.' ∉ body ∧ IsFraction fraction := by
  constructor
  · intro h
    have happend : cs.takeWhile (· ≠ '.') ++ cs.dropWhile (· ≠ '.') = cs :=
      List.takeWhile_append_dropWhile
    have hwhole : '.' ∉ cs.takeWhile (· ≠ '.') := fun hmem => by
      have hne := List.mem_takeWhile_imp hmem
      simp at hne
    unfold wholePart at h
    cases hrest : cs.dropWhile (· ≠ '.') with
    | nil =>
      rw [hrest] at h happend
      obtain rfl := Option.some.inj h
      exact ⟨[], happend.symm, hwhole, .inl rfl⟩
    | cons c zeros =>
      have hpoint : c = '.' := by
        have hnot := List.head?_dropWhile_not (· ≠ '.') cs
        rw [hrest] at hnot
        simpa using hnot
      rw [hrest] at h happend
      dsimp only at h
      split at h
      · next hzeros =>
        obtain rfl := Option.some.inj h
        obtain ⟨hne, hall⟩ := Bool.and_eq_true_iff.mp hzeros
        have heq : zeros = List.replicate zeros.length '0' :=
          List.eq_replicate_iff.mpr ⟨rfl, fun d hd => beq_iff_eq.mp (List.all_eq_true.mp hall d hd)⟩
        have hpos : 0 < zeros.length := List.length_pos_iff.mpr (by simpa using hne)
        refine ⟨c :: zeros, happend.symm, hwhole, .inr ⟨zeros.length - 1, ?_⟩⟩
        rw [hpoint, Nat.sub_add_cancel hpos, ← heq]
      · cases h
  · rintro ⟨fraction, rfl, hbody, hfraction⟩
    have hall : ∀ c ∈ body, decide (c ≠ '.') = true := fun c hc =>
      decide_eq_true fun hpoint => hbody (hpoint ▸ hc)
    unfold wholePart
    rw [List.takeWhile_append_of_pos hall, List.dropWhile_append_of_pos hall]
    rcases hfraction with rfl | ⟨k, rfl⟩
    · simp
    · simp [List.replicate_succ]

/-! ## Numerals are read -/

/-- A text does not begin with too many digits if it has not too many in all. -/
theorem beginsTooLong_of_digits (h : (cs.filter isDigit).length ≤ digitLimit) :
    beginsTooLong cs = false := by
  have htake : ∀ {body : List Char}, body.Sublist cs →
      ¬ digitLimit < (body.takeWhile isDigit).length := by
    intro body hbody
    have hdigits : ((body.takeWhile isDigit).filter isDigit).Sublist (cs.filter isDigit) :=
      ((List.takeWhile_sublist _).trans hbody).filter _
    rw [List.filter_eq_self.mpr fun _ => List.mem_takeWhile_imp] at hdigits
    exact Nat.not_lt.mpr (Nat.le_trans hdigits.length_le h)
  unfold beginsTooLong
  split
  · next rest => simp [htake (List.sublist_cons_self '-' rest)]
  · simp [htake (List.Sublist.refl cs)]

/-- What is read from a text that does not begin with too many digits. -/
theorem read_eq_ok_iff : read s = .ok n ↔
    beginsTooLong s.toList = false ∧
      (wholePart (signed (trim isBlank s.toList)).2).bind
        (integer? (signed (trim isBlank s.toList)).1) = some n := by
  unfold read
  cases hlong : beginsTooLong s.toList with
  | true => simp
  | false =>
    cases hread : (wholePart (signed (trim isBlank s.toList)).2).bind
        (integer? (signed (trim isBlank s.toList)).1) <;> simp [hread]

/-- A numeral of an integer, if it has not too many digits, is read as that integer. Signs, blanks and
underscores are not counted. -/
theorem read_of_isNumeral (h : IsNumeral n s.toList)
    (hlen : (s.toList.filter isDigit).length ≤ digitLimit) : read s = .ok n := by
  refine read_eq_ok_iff.mpr ⟨beginsTooLong_of_digits hlen, ?_⟩
  obtain ⟨front, sign, body, fraction, back, k, hs, hblank, hsign, hbody, hfraction⟩ := h
  have hkept : trim isBlank (sign ++ (body ++ fraction)) = sign ++ (body ++ fraction) :=
    trim_eq_self
      (fun _ hc => isBlank_of_mem_numeral hsign hbody.isDigitText hfraction (List.mem_of_head? hc))
      (fun _ hc => isBlank_of_mem_numeral hsign hbody.isDigitText hfraction (List.mem_of_getLast? hc))
  have htrim : trim isBlank s.toList = sign ++ (body ++ fraction) := by
    rw [hs, trim_append_right fun c hc => hblank c (List.mem_append_right _ hc),
      trim_append_left fun c hc => hblank c (List.mem_append_left _ hc), hkept]
  have hsigned : signed (sign ++ (body ++ fraction)) = (decide (n < 0), body ++ fraction) := by
    obtain ⟨c, rest, hc, hdigit⟩ := hbody.exists_cons
    exact signed_append hsign ⟨c, rest ++ fraction, by rw [hc, List.cons_append], hdigit⟩
  have hpoint : '.' ∉ body := hbody.isDigitText.not_mem rfl (by decide)
  have hwhole : wholePart (body ++ fraction) = some body :=
    wholePart_eq_some_iff.mpr ⟨fraction, rfl, hpoint, hfraction⟩
  have hsize : (List.replicate k '0' ++ digits n.natAbs).length ≤ digitLimit := by
    rw [← hbody.filter_eq]
    refine Nat.le_trans ?_ hlen
    rw [hs]
    simp only [List.filter_append, List.length_append]
    omega
  rw [htrim, hsigned]
  show (wholePart (body ++ fraction)).bind (integer? (decide (n < 0))) = some n
  rw [hwhole, Option.bind_some, integer?_of_spaced _ hbody hsize, value_replicate_append, value_digits]
  simp only [decide_eq_true_eq]
  congr 1
  omega

/-- The digits of the decimal text of an integer. -/
theorem filter_integer (n : Int) : (integer n).filter isDigit = digits n.natAbs := by
  have hdigits (m : Nat) : (digits m).filter isDigit = digits m :=
    List.filter_eq_self.mpr fun _ => isDigit_of_mem_digits
  cases n with
  | ofNat n => exact hdigits n
  | negSucc n =>
    have hminus : isDigit '-' = false := by decide
    show ('-' :: digits (n + 1)).filter isDigit = digits (n + 1)
    rw [List.filter_cons_of_neg (by simp [hminus]), hdigits]

theorem length_digits_le (n : Int) : (digits n.natAbs).length ≤ (integer n).length := by
  rw [← filter_integer]
  exact List.length_filter_le _ _

/-- The decimal text of an integer of not too many digits is read as that integer, with a sign or without. -/
theorem read_integer {n : Int} (h : (digits n.natAbs).length ≤ digitLimit) :
    read (String.ofList (integer n)) = .ok n := by
  refine read_of_isNumeral ?_ ?_
  · rw [String.toList_ofList]
    exact isNumeral_integer n
  · rwa [String.toList_ofList, filter_integer]

/-! ## What is read -/

theorem length_digits_zero : (digits 0).length ≤ digitLimit := by decide

/-- What is read behind a minus sign that stands behind leading zeros. -/
theorem afterInnerMinus_eq_some {m : Nat} (h : afterInnerMinus cs = some m) :
    (digits m).length ≤ digitLimit ∧
      ∃ gap tail, cs = gap ++ tail ∧ (gap = [] ∨ gap = ['_']) ∧ IsDigitText tail ∧
        (tail = ['0'] ∨ tail.head? ≠ some '0') ∧ m = value (tail.filter isDigit) := by
  obtain ⟨tail, htail, hafter⟩ : ∃ tail, (cs = '_' :: tail ∨ cs = tail) ∧
      afterInnerMinus cs = if tail = ['0'] then some 0 else if tail.head? = some '0' then none
        else (grouped tail).bind bounded := by
    refine ⟨_, ?_, rfl⟩
    split
    · exact .inl rfl
    · exact .inr rfl
  obtain ⟨gap, hcs, hgap⟩ : ∃ gap, cs = gap ++ tail ∧ (gap = [] ∨ gap = ['_']) := by
    rcases htail with rfl | rfl
    · exact ⟨['_'], rfl, .inr rfl⟩
    · exact ⟨[], rfl, .inl rfl⟩
  rw [hafter] at h
  split at h
  · next hzero =>
    subst hzero
    obtain rfl := Option.some.inj h
    exact ⟨length_digits_zero, gap, _, hcs, hgap, (Spaced.one rfl).isDigitText, .inl rfl, rfl⟩
  · split at h
    · cases h
    · next hhead =>
      obtain ⟨hdigits, hm, hlen⟩ := isDigitText_of_grouped h
      exact ⟨hlen, gap, tail, hcs, hgap, hdigits, .inr hhead, hm⟩

/-- A text that is read as an integer has digits and underscores alone, or a minus sign behind zeros. -/
theorem integer?_eq_some {negative : Bool} (h : integer? negative cs = some n) :
    (digits n.natAbs).length ≤ digitLimit ∧
      ((IsDigitText cs ∧
        n = if negative then -(value (cs.filter isDigit) : Int) else value (cs.filter isDigit)) ∨
      (negative = false ∧ ∃ lead gap tail, cs = '0' :: lead ++ '-' :: (gap ++ tail) ∧
        (∀ c ∈ lead, c = '0' ∨ c = '_') ∧ (gap = [] ∨ gap = ['_']) ∧ IsDigitText tail ∧
        (tail = ['0'] ∨ tail.head? ≠ some '0') ∧ n = -(value (tail.filter isDigit) : Int))) := by
  have hgrouped : ∀ {cs}, ((grouped cs).bind bounded).map
      (fun m : Nat => if negative then -(m : Int) else m) = some n →
        (digits n.natAbs).length ≤ digitLimit ∧ IsDigitText cs ∧
          n = if negative then -(value (cs.filter isDigit) : Int) else value (cs.filter isDigit) := by
    intro cs h
    obtain ⟨m, hm, rfl⟩ := Option.map_eq_some_iff.mp h
    obtain ⟨hdigits, rfl, hlen⟩ := isDigitText_of_grouped hm
    refine ⟨?_, hdigits, rfl⟩
    cases negative <;> simpa using hlen
  unfold integer? at h
  split at h
  · next cs =>
    -- zeros and underscores, and what follows them
    have happend : cs.takeWhile isFiller ++ cs.dropWhile isFiller = cs :=
      List.takeWhile_append_dropWhile
    have hlead : ∀ c ∈ cs.takeWhile isFiller, isFiller c = true := fun _ => List.mem_takeWhile_imp
    have hzeros : ∀ c ∈ '0' :: cs.takeWhile isFiller, isFiller c = true :=
      List.forall_mem_cons.mpr ⟨rfl, hlead⟩
    unfold afterZero at h
    split at h
    · next hnil =>
      split at h
      · cases h
      · next hlast =>
        obtain rfl := Option.some.inj h
        rw [hnil, List.append_nil] at happend
        rw [happend] at hlead hzeros
        have hvalue : value (('0' :: cs).filter isDigit) = 0 := by
          rw [← List.append_nil ('0' :: cs), value_filter_append hzeros]
          rfl
        refine ⟨length_digits_zero, .inl ⟨isDigitText_zeros hlead hlast, ?_⟩⟩
        simp [hvalue]
    · next rest hrest =>
      split at h
      · cases h
      · next hneg =>
        obtain ⟨m, hm, rfl⟩ := Option.map_eq_some_iff.mp h
        obtain ⟨hlen, gap, tail, rfl, hgap, htail, hfirst, rfl⟩ := afterInnerMinus_eq_some hm
        rw [Int.natAbs_neg]
        refine ⟨hlen, .inr ⟨by simpa using hneg, cs.takeWhile isFiller, gap, tail, ?_,
          fun c hc => isFiller_iff.mp (hlead c hc), hgap, htail, hfirst, rfl⟩⟩
        rw [← hrest, List.cons_append, happend]
    · obtain ⟨hlen, hdigits, hn⟩ := hgrouped h
      have hcs : '0' :: cs = '0' :: cs.takeWhile isFiller ++ cs.dropWhile isFiller := by
        rw [List.cons_append, happend]
      rw [hcs]
      refine ⟨hlen, .inl ⟨hdigits.append_zeros hlead, ?_⟩⟩
      rw [value_filter_append hzeros]
      exact hn
  · obtain ⟨hlen, hform⟩ := hgrouped h
    exact ⟨hlen, .inl hform⟩

/-- What is read as an integer is, less the blanks at its ends, plain or has a late minus sign. -/
theorem isPlain_or_isLate_of_read (h : read s = .ok n) :
    ∃ core, IsCore isBlank s.toList core ∧ (IsPlain n core ∨ IsLate n core) := by
  obtain ⟨-, hbind⟩ := read_eq_ok_iff.mp h
  obtain ⟨body, hwhole, hinteger⟩ := Option.bind_eq_some_iff.mp hbind
  obtain ⟨sign, hsign, hcore⟩ := exists_sign (trim isBlank s.toList)
  obtain ⟨fraction, hfraction, -, hzeros⟩ := wholePart_eq_some_iff.mp hwhole
  rw [hfraction] at hcore
  refine ⟨_, trim_eq_iff.mp rfl, ?_⟩
  rcases (integer?_eq_some hinteger).2 with
    ⟨hbody, hn⟩ | ⟨hneg, lead, gap, tail, rfl, hlead, hgap, htail, hfirst, hn⟩
  · exact .inl ⟨_, sign, body, fraction, hcore, hsign, hbody, hzeros, hn⟩
  · rw [hneg] at hsign
    exact .inr ⟨sign, lead, gap, tail, fraction, hcore, hsign, hlead, hgap, htail, hfirst, hzeros, hn⟩

/-- An integer that is read from a text has at most `digitLimit` digits. -/
theorem length_digits_of_read {s : String} {n : Int} (h : read s = .ok n) :
    (digits n.natAbs).length ≤ digitLimit := by
  obtain ⟨-, hbind⟩ := read_eq_ok_iff.mp h
  obtain ⟨body, -, hinteger⟩ := Option.bind_eq_some_iff.mp hbind
  exact (integer?_eq_some hinteger).1

end ObjectStorage.IntegerText
