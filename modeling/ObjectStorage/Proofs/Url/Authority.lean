import Mathlib.Data.List.TakeWhile
import ObjectStorage.Proofs.Text.Pieces
import ObjectStorage.Url.Authority

/-!
# What stands where in a URL

* `marks`: the characters that end or divide an authority, or look like one that does.
* `marked`: a part that may be missing, with the mark behind it.
* `exists_scheme`, `withoutScheme_marked`: a scheme is found in a URL, and taken off one.
* `exists_authority`, `authority_marked`: the authority of a URL stands behind two slashes, up to a character
  that ends it.
* `append_before_after`, `before_append`, `after_append`: a text around the first occurrence of a character.
* `exists_user`, `withoutUser_marked`: a user is found in an authority, and taken off one.
-/

namespace ObjectStorage.Url

open ObjectStorage.Text

variable {c : Char} {cs scheme place authority : List Char}

/-! ## Marks -/

/-- The characters that end an authority, end its user or are taken out of it, and those that look like
a delimiter. -/
def marks : List Char := ['/', '?', '#', '@', '\t', '\r', '\n'] ++ lookAlikes

theorem not_isBreak_of_not_mem_marks (h : c ∉ marks) : isBreak c = false := by
  simp only [marks, List.cons_append, List.mem_cons, not_or] at h
  simp [isBreak, h]

theorem not_endsAuthority_of_not_mem_marks (h : c ∉ marks) : endsAuthority c = false := by
  simp only [marks, List.cons_append, List.mem_cons, not_or] at h
  simp [endsAuthority, h]

theorem not_mem_lookAlikes_of_not_mem_marks (hp : ∀ c ∈ cs, c ∉ marks) : ∀ c ∈ cs, c ∉ lookAlikes :=
  fun c hc hlook => hp c hc (List.mem_append_right _ hlook)

theorem not_mem_marks_bracketed {host behind : List Char} (hhost : ∀ c ∈ host, c ∉ marks)
    (hbehind : ∀ c ∈ behind, c ∉ marks) : ∀ c ∈ '[' :: (host ++ ']' :: behind), c ∉ marks := by
  intro c hc
  simp only [List.mem_cons, List.mem_append] at hc
  rcases hc with rfl | hc | rfl | hc
  · decide
  · exact hhost c hc
  · decide
  · exact hbehind c hc

theorem endsAuthority_iff : endsAuthority c = true ↔ c ∈ ['/', '?', '#'] := by
  simp [endsAuthority, or_assoc]

theorem endsAuthority_eq_false_iff : endsAuthority c = false ↔ c ∉ ['/', '?', '#'] := by
  rw [← endsAuthority_iff, Bool.not_eq_true]

theorem ne_of_isSchemeChar (h : isSchemeChar c = true) : c ≠ ':' ∧ c ∉ marks := by
  have hnot : c ∉ ':' :: marks := not_mem_of_all (by decide) h
  exact not_or.mp (mt List.mem_cons.mpr hnot)

/-- A part that may be missing, with the mark behind it. -/
def marked (mark : Char) : Option (List Char) → List Char
  | none => []
  | some part => part ++ [mark]

/-! ## Around one character -/

theorem before_of_not_mem (h : c ∉ cs) : before c cs = cs :=
  List.takeWhile_eq_self_iff.mpr (decide_ne_of_not_mem h)

theorem after_of_not_mem (h : c ∉ cs) : after c cs = [] := by
  rw [after, List.dropWhile_eq_nil_iff.mpr (decide_ne_of_not_mem h), List.tail_nil]

theorem before_append (h : c ∉ cs) (rest : List Char) : before c (cs ++ c :: rest) = cs := by
  rw [before, List.takeWhile_append_of_pos (decide_ne_of_not_mem h)]
  simp

theorem after_append (h : c ∉ cs) (rest : List Char) : after c (cs ++ c :: rest) = rest := by
  rw [after, List.dropWhile_append_of_pos (decide_ne_of_not_mem h)]
  simp

theorem after_cons (c : Char) (cs : List Char) : after c (c :: cs) = cs :=
  after_append List.not_mem_nil cs

/-- A text around the first occurrence of a character. -/
theorem append_before_after (h : c ∈ cs) : before c cs ++ c :: after c cs = cs := by
  have hparts : before c cs ++ cs.dropWhile (· ≠ c) = cs := List.takeWhile_append_dropWhile
  cases hdrop : cs.dropWhile (· ≠ c) with
  | nil =>
    have hnot := List.dropWhile_eq_nil_iff.mp hdrop c h
    simp at hnot
  | cons d rest =>
    have hd : d = c := by
      have hhead := List.head?_dropWhile_not (fun x => decide (x ≠ c)) cs
      rw [hdrop] at hhead
      simpa using hhead
    have hafter : after c cs = rest := by rw [after, hdrop, List.tail_cons]
    rw [hdrop, hd] at hparts
    rw [hafter, hparts]

theorem not_mem_before : c ∉ before c cs := by
  intro h
  have hne := List.mem_takeWhile_imp h
  simp at hne

theorem exists_before_append (c : Char) (cs : List Char) :
    ∃ behind, before c cs ++ behind = cs ∧ (behind ≠ [] → behind.head? = some c) := by
  by_cases h : c ∈ cs
  · exact ⟨c :: after c cs, append_before_after h, fun _ => rfl⟩
  · refine ⟨[], ?_, fun hne => absurd rfl hne⟩
    rw [before_of_not_mem h, List.append_nil]

theorem before_append_of_head? {behind : List Char} (h : c ∉ cs)
    (hbehind : behind ≠ [] → behind.head? = some c) : before c (cs ++ behind) = cs := by
  by_cases hne : behind = []
  · rw [hne, List.append_nil, before_of_not_mem h]
  · obtain ⟨rest, rfl⟩ := List.head?_eq_some_iff.mp (hbehind hne)
    exact before_append h rest

/-! ## Schemes -/

theorem not_le_blank_of_isLetter (h : isLetter c = true) : ¬ c.toNat ≤ 0x20 := by
  intro hblank
  have hall : ∀ n ≤ 0x20, isLetter (Char.ofNat n) = false := by decide
  have hnot := hall c.toNat hblank
  rw [Char.ofNat_toNat, h] at hnot
  cases hnot

theorem isSchemeChar_of_isScheme (h : isScheme scheme = true) :
    ∀ c ∈ scheme, isSchemeChar c = true := by
  cases scheme with
  | nil => intro c hc; cases hc
  | cons s rest =>
    obtain ⟨hletter, hrest⟩ := Bool.and_eq_true_iff.mp h
    intro c hc
    rcases List.mem_cons.mp hc with rfl | hc
    · simp [isSchemeChar, hletter]
    · exact List.all_eq_true.mp hrest c hc

theorem colon_not_mem_of_isScheme (h : isScheme scheme = true) : ':' ∉ scheme := fun hmem =>
  (ne_of_isSchemeChar (isSchemeChar_of_isScheme h _ hmem)).1 rfl

/-- A scheme is taken off a URL with the colon behind it. -/
theorem withoutScheme_append (hs : isScheme scheme = true) (rest : List Char) :
    withoutScheme (scheme ++ ':' :: rest) = rest := by
  have hcolon := decide_ne_of_not_mem (colon_not_mem_of_isScheme hs)
  unfold withoutScheme
  rw [List.dropWhile_append_of_pos hcolon, List.takeWhile_append_of_pos hcolon]
  simp [hs]

/-- What begins with a slash has no scheme. -/
theorem withoutScheme_slash (rest : List Char) : withoutScheme ('/' :: rest) = '/' :: rest := by
  have hnot : isScheme (('/' :: rest).takeWhile (· ≠ ':')) = false := by
    rw [List.takeWhile_cons_of_pos (by decide)]
    rfl
  unfold withoutScheme
  split
  · rw [hnot]
    rfl
  · rfl

theorem withoutScheme_marked {scheme : Option (List Char)}
    (hs : ∀ s, scheme = some s → isScheme s = true) (rest : List Char) :
    withoutScheme (marked ':' scheme ++ '/' :: rest) = '/' :: rest := by
  cases scheme with
  | none => exact withoutScheme_slash rest
  | some s =>
    have htext : marked ':' (some s) ++ '/' :: rest = s ++ ':' :: '/' :: rest := by simp [marked]
    rw [htext]
    exact withoutScheme_append (hs s rfl) _

/-- A URL is what it is without its scheme, perhaps behind a scheme and a colon. -/
theorem exists_scheme (url : List Char) : ∃ scheme : Option (List Char),
    (∀ s, scheme = some s → isScheme s = true) ∧ url = marked ':' scheme ++ withoutScheme url := by
  have hparts : url.takeWhile (· ≠ ':') ++ url.dropWhile (· ≠ ':') = url :=
    List.takeWhile_append_dropWhile
  unfold withoutScheme
  split
  · next rest hdrop =>
    split
    · next hscheme =>
      rw [hdrop] at hparts
      refine ⟨some (url.takeWhile (· ≠ ':')), fun s hs => Option.some.inj hs ▸ hscheme, ?_⟩
      simpa [marked] using hparts.symm
    · exact ⟨none, fun s hs => (Option.some_ne_none s hs.symm).elim, rfl⟩
  · exact ⟨none, fun s hs => (Option.some_ne_none s hs.symm).elim, rfl⟩

/-! ## Clean URLs -/

theorem isUnbroken_iff : isUnbroken cs = true ↔ ∀ c ∈ cs, c ∉ ['\t', '\r', '\n'] := by
  simp [isUnbroken, isBreak, and_assoc]

/-- Of a URL without breaks, that does not begin with a blank, every character counts. -/
theorem clean_eq_self (hbreak : isUnbroken cs = true)
    (hfront : ∀ c, cs.head? = some c → 0x20 < c.toNat) : clean cs = cs := by
  have hdrop : cs.dropWhile (fun c => c.toNat ≤ 0x20) = cs := by
    by_cases hnil : cs = []
    · rw [hnil]
      rfl
    · obtain ⟨c, rest, rfl⟩ := List.exists_cons_of_ne_nil hnil
      have hlarge : ¬ c.toNat ≤ 0x20 := Nat.not_le.mpr (hfront c rfl)
      exact List.dropWhile_cons_of_neg (by simpa using hlarge)
  rw [clean, hdrop]
  exact List.filter_eq_self.mpr (List.all_eq_true.mp hbreak)

theorem mem_of_mem_clean (h : c ∈ clean cs) : c ∈ cs :=
  (List.dropWhile_sublist _).subset (List.mem_filter.mp h).1

theorem lt_of_head?_scheme (hs : isScheme scheme = true) {rest : List Char} :
    ∀ c, (scheme ++ rest).head? = some c → 0x20 < c.toNat := by
  obtain _ | ⟨s, cs⟩ := scheme
  · cases hs
  · rintro c ⟨rfl⟩
    exact Nat.not_le.mp (not_le_blank_of_isLetter (Bool.and_eq_true_iff.mp hs).1)

theorem isUnbroken_append (hs : isScheme scheme = true) (hp : ∀ c ∈ place, c ∉ marks) :
    isUnbroken (scheme ++ ':' :: '/' :: '/' :: place) = true := by
  refine List.all_eq_true.mpr fun c hc => ?_
  have hunbroken : isBreak c = false := by
    rcases List.mem_append.mp hc with hc | hc
    · exact not_isBreak_of_not_mem_marks (ne_of_isSchemeChar (isSchemeChar_of_isScheme hs c hc)).2
    · simp only [List.mem_cons] at hc
      rcases hc with rfl | rfl | rfl | hc
      · decide
      · decide
      · decide
      · exact not_isBreak_of_not_mem_marks (hp c hc)
  simp [hunbroken]

/-- A URL that begins with a scheme has no blanks in front. -/
theorem clean_append (hs : isScheme scheme = true) (hp : ∀ c ∈ place, c ∉ marks) :
    clean (scheme ++ ':' :: '/' :: '/' :: place) = scheme ++ ':' :: '/' :: '/' :: place :=
  clean_eq_self (isUnbroken_append hs hp) (lt_of_head?_scheme hs)

/-! ## Authorities -/

/-- The authority of a URL stands behind two slashes, up to a character that ends it. -/
theorem authority_marked {url : List Char} {scheme : Option (List Char)} {tail : List Char}
    (hs : ∀ s, scheme = some s → isScheme s = true)
    (hplace : ∀ c ∈ authority, endsAuthority c = false)
    (htail : ∀ c, tail.head? = some c → endsAuthority c = true)
    (hurl : clean url = marked ':' scheme ++ '/' :: '/' :: (authority ++ tail)) :
    Url.authority url = authority := by
  have hends : ∀ c ∈ authority, (!endsAuthority c) = true := by
    intro c hc
    simp [hplace c hc]
  have htake : tail.takeWhile (!endsAuthority ·) = [] := by
    cases tail with
    | nil => rfl
    | cons c cs =>
      have hc : ¬ (!endsAuthority c) = true := by simp [htail c rfl]
      exact List.takeWhile_cons_of_neg hc
  unfold Url.authority
  rw [hurl, withoutScheme_marked hs]
  show (authority ++ tail).takeWhile (!endsAuthority ·) = authority
  rw [List.takeWhile_append_of_pos hends, htake, List.append_nil]

/-- Around an authority that is not empty stand a scheme, two slashes and what ends the authority. -/
theorem exists_authority {url : List Char} (h : Url.authority url ≠ []) :
    ∃ (scheme : Option (List Char)) (tail : List Char),
      (∀ s, scheme = some s → isScheme s = true) ∧
      (∀ c ∈ Url.authority url, endsAuthority c = false) ∧
      (∀ c, tail.head? = some c → endsAuthority c = true) ∧
      clean url = marked ':' scheme ++ '/' :: '/' :: (Url.authority url ++ tail) := by
  obtain ⟨scheme, hscheme, hurl⟩ := exists_scheme (clean url)
  unfold Url.authority at h ⊢
  split at h
  · next rest hrest =>
    rw [hrest] at hurl
    refine ⟨scheme, rest.dropWhile (!endsAuthority ·), hscheme, ?_, ?_, ?_⟩
    · intro c hc
      simpa using List.mem_takeWhile_imp hc
    · intro c hc
      have hnot := List.head?_dropWhile_not (!endsAuthority ·) rest
      simpa [hc] using hnot
    · show clean url = marked ':' scheme ++ '/' :: '/' ::
        (rest.takeWhile (!endsAuthority ·) ++ rest.dropWhile (!endsAuthority ·))
      rw [List.takeWhile_append_dropWhile, hurl]
  · exact absurd rfl h

theorem mem_of_mem_authority {url : List Char} (h : c ∈ Url.authority url) : c ∈ url := by
  obtain ⟨scheme, tail, -, -, -, hurl⟩ := exists_authority (List.ne_nil_of_mem h)
  refine mem_of_mem_clean ?_
  rw [hurl]
  simp [h]

/-- The authority of a URL is what stands behind its scheme. -/
theorem authority_append (hs : isScheme scheme = true) (hp : ∀ c ∈ place, c ∉ marks) :
    Url.authority (scheme ++ ':' :: '/' :: '/' :: place) = place := by
  have hscheme : ∀ s, some scheme = some s → isScheme s = true := fun s h => Option.some.inj h ▸ hs
  have hends : ∀ c ∈ place, endsAuthority c = false := fun c hc =>
    not_endsAuthority_of_not_mem_marks (hp c hc)
  have htail : ∀ c, ([] : List Char).head? = some c → endsAuthority c = true := by
    intro c hc
    cases hc
  refine authority_marked hscheme hends htail ?_
  rw [clean_append hs hp]
  simp [marked]

/-! ## Users -/

theorem withoutUser_of_not_mem (h : '@' ∉ cs) : withoutUser cs = cs := by
  have hall := decide_ne_of_not_mem (mt List.mem_reverse.mp h)
  rw [withoutUser, List.takeWhile_eq_self_iff.mpr hall, List.reverse_reverse]

theorem withoutUser_marked (h : '@' ∉ place) (user : Option (List Char)) :
    withoutUser (marked '@' user ++ place) = place := by
  cases user with
  | none => exact withoutUser_of_not_mem h
  | some user =>
    have hall := decide_ne_of_not_mem (mt List.mem_reverse.mp h)
    have hreverse : (marked '@' (some user) ++ place).reverse = place.reverse ++ '@' :: user.reverse := by
      simp [marked]
    rw [withoutUser, hreverse, List.takeWhile_append_of_pos hall]
    simp

theorem not_mem_withoutUser (authority : List Char) : '@' ∉ withoutUser authority := by
  intro h
  have hne := List.mem_takeWhile_imp (List.mem_reverse.mp h)
  simp at hne

/-- An authority is what it is without its user, perhaps behind a user and an `@`. -/
theorem exists_user (authority : List Char) : ∃ user : Option (List Char),
    authority = marked '@' user ++ withoutUser authority := by
  by_cases h : '@' ∈ authority
  · have hparts := append_before_after (List.mem_reverse.mpr h)
    refine ⟨some (after '@' authority.reverse).reverse, ?_⟩
    calc authority
        = (before '@' authority.reverse ++ '@' :: after '@' authority.reverse).reverse := by
          rw [hparts, List.reverse_reverse]
      _ = marked '@' (some (after '@' authority.reverse).reverse) ++ withoutUser authority := by
          simp [marked, withoutUser, before]
  · exact ⟨none, (withoutUser_of_not_mem h).symm⟩

/-! ## Hosts and ports -/

theorem hostAndPort_of_mem (hopen : '[' ∈ withoutUser authority) :
    hostAndPort authority = (before ']' (after '[' (withoutUser authority)),
      after ':' (after ']' (after '[' (withoutUser authority)))) := by
  rw [hostAndPort, if_pos (List.contains_iff_mem.mpr hopen)]

theorem hostAndPort_of_not_mem (hopen : '[' ∉ withoutUser authority) :
    hostAndPort authority =
      (before ':' (withoutUser authority), after ':' (withoutUser authority)) := by
  rw [hostAndPort, if_neg (mt List.contains_iff_mem.mp hopen)]

/-- A host in brackets stands between them, a port behind a colon after them. -/
theorem hostAndPort_bracketed {host behind : List Char} (hclose : ']' ∉ host)
    (hat : '@' ∉ '[' :: (host ++ ']' :: behind)) :
    hostAndPort ('[' :: (host ++ ']' :: behind)) = (host, after ':' behind) := by
  have huser := withoutUser_of_not_mem hat
  have hopen : '[' ∈ withoutUser ('[' :: (host ++ ']' :: behind)) := by
    rw [huser]
    exact List.mem_cons_self
  rw [hostAndPort_of_mem hopen, huser, after_cons, before_append hclose, after_append hclose]

end ObjectStorage.Url
