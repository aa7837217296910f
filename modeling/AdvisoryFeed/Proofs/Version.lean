import AdvisoryFeed.Proofs.Decimal.Grammar
import AdvisoryFeed.Version

/-!
# Which versions are accepted

`IsRpmVersion` is the grammar of the versions of RPM packages: an epoch before the first colon, if
there is a colon, and behind it characters of a small set, of which the first is no hyphen. The
greatest and the least version are written in a way of their own. Versions are checked in the parts
before and behind the first hyphen, but the parts make no difference to what is accepted, since a
hyphen may stand anywhere but in front (`checkRest_eq_ok_iff`).

`RefusedAs` says for each error what is wrong with a version that is refused so. Every text either
follows the grammar and is accepted, or is refused with an error that names a fault of it
(`checkRpm_follows_grammar`).
-/

namespace AdvisoryFeed

open AdvisoryFeed.Text AdvisoryFeed.Decimal

/-! ## The grammar -/

/-- The symbols that may stand in a version. -/
def versionSymbols : List Char := ['.', '-', '+', '~', ':', '_']

/-- What may stand behind the epoch. -/
structure IsVersionRest (rest : List Char) : Prop where
  ne_nil : rest ≠ []
  noHyphen : rest.head? ≠ some '-'
  chars : ∀ c ∈ rest, isLetter c = true ∨ isDigit c = true ∨ c ∈ versionSymbols

/-- What may stand before the first colon: a number that is not negative. -/
def IsEpoch (front : List Char) : Prop :=
  ∃ numeral : Numeral, numeral.text = front ∧ 0 ≤ numeral.value

/-- The versions of RPM packages, without blanks around them. -/
inductive IsRpmVersion : List Char → Prop
  | greatest : IsRpmVersion "#MAXV#".toList
  | least : IsRpmVersion "#MINV#".toList
  | plain {rest : List Char} (noColon : ':' ∉ rest) (follows : IsVersionRest rest) :
      IsRpmVersion rest
  | epoch {front rest : List Char} (noColon : ':' ∉ front) (number : IsEpoch front)
      (follows : IsVersionRest rest) : IsRpmVersion (front ++ ':' :: rest)

/-- The text stands behind the epoch of a version, if it has one. -/
inductive BehindEpoch (rest : List Char) : List Char → Prop
  | plain (noColon : ':' ∉ rest) : BehindEpoch rest rest
  | epoch {front : List Char} (noColon : ':' ∉ front) (number : IsEpoch front) :
      BehindEpoch rest (front ++ ':' :: rest)

/-- The error names a fault of the version, of which `value` is left without blanks around it. -/
inductive RefusedAs (version : String) (value : List Char) : VersionError → Prop
  | blank (empty : value = []) : RefusedAs version value .blank
  | epochMalformed {front rest : List Char} (cut : value = front ++ ':' :: rest)
      (noColon : ':' ∉ front) (noNumber : ∀ numeral : Numeral, numeral.text ≠ front) :
      RefusedAs version value (.epochMalformed version)
  | epochNegative {numeral : Numeral} {rest : List Char}
      (cut : value = numeral.text ++ ':' :: rest) (noColon : ':' ∉ numeral.text)
      (negative : numeral.value < 0) : RefusedAs version value (.epochNegative version)
  | missing {rest : List Char} (behind : BehindEpoch rest value)
      (nothing : rest = [] ∨ rest.head? = some '-') : RefusedAs version value (.missing version)
  /-- The first character that may not stand in a version. It stands in the release when there is a
  hyphen before it. -/
  | badCharacter {before after : List Char} {c : Char}
      (behind : BehindEpoch (before ++ c :: after) value)
      (sound : ∀ d ∈ before, isVersionChar d = true) (bad : isVersionChar c = false) :
      RefusedAs version value
        (.badCharacter c (if '-' ∈ before then "release" else "version") version)

/-! ## Parts -/

theorem isVersionChar_iff {c : Char} :
    isVersionChar c = true ↔ isLetter c = true ∨ isDigit c = true ∨ c ∈ versionSymbols := by
  simp only [isVersionChar, versionSymbols, Bool.or_eq_true, beq_iff_eq, List.mem_cons,
    List.not_mem_nil, or_false]
  tauto

theorem isVersionChar_hyphen : isVersionChar '-' = true :=
  isVersionChar_iff.2 (Or.inr (Or.inr (by decide)))

/-- A part is accepted, or refused for its first character that may not stand in it. -/
theorem checkPart_cases (label version : String) (part : List Char) :
    (checkPart label version part = .ok () ∧ ∀ c ∈ part, isVersionChar c = true) ∨
      ∃ before c after, part = before ++ c :: after ∧ (∀ d ∈ before, isVersionChar d = true) ∧
        isVersionChar c = false ∧
        checkPart label version part = .error (.badCharacter c label version) := by
  rw [checkPart]
  cases hfind : part.find? fun c => !isVersionChar c with
  | none =>
    refine Or.inl ⟨rfl, fun c hc => ?_⟩
    simpa using List.find?_eq_none.1 hfind c hc
  | some c =>
    obtain ⟨hc, before, after, hpart, hbefore⟩ := List.find?_eq_some_iff_append.1 hfind
    refine Or.inr ⟨before, c, after, hpart, fun d hd => ?_, by simpa using hc, rfl⟩
    simpa using hbefore d hd

theorem ne_hyphen_of_not_mem {s : List Char} (h : '-' ∉ s) : ∀ c ∈ s, (c != '-') = true := by
  intro c hc
  rw [bne_iff_ne]
  rintro rfl
  exact h hc

section Rest

variable {version : String} {rest : List Char}

/-- Without a hyphen all that stands behind the epoch is the version. -/
theorem checkRest_noHyphen (h : '-' ∉ rest) (hne : rest ≠ []) :
    checkRest version rest = checkPart "version" version rest := by
  obtain ⟨htake, hdrop⟩ := span_append (t := []) (ne_hyphen_of_not_mem h) (by simp)
  rw [List.append_nil] at htake hdrop
  rw [checkRest, htake, hdrop]
  rw [if_neg (by simpa using hne)]
  cases checkPart "version" version rest with
  | error error => rfl
  | ok _ => rfl

/-- The version stands before the first hyphen and the release behind it. -/
theorem checkRest_hyphen {main release : List Char} (h : '-' ∉ main) (hne : main ≠ []) :
    checkRest version (main ++ '-' :: release) =
      (checkPart "version" version main).bind fun _ => checkPart "release" version release := by
  obtain ⟨htake, hdrop⟩ := span_append (t := '-' :: release) (ne_hyphen_of_not_mem h) (by simp)
  rw [checkRest, htake, hdrop]
  rw [if_neg (by simpa using hne)]
  rfl

theorem checkRest_missing (h : rest = [] ∨ rest.head? = some '-') :
    checkRest version rest = .error (.missing version) := by
  have hnone : rest.takeWhile (· != '-') = [] := by
    rcases h with rfl | hhead
    · rfl
    · obtain ⟨release, rfl⟩ := List.head?_eq_some_iff.1 hhead
      exact List.takeWhile_cons_of_neg (by simp)
  rw [checkRest, hnone]
  rfl

/-- What stands behind the epoch is checked as a whole: the two parts are checked one after the
other, and the hyphen between them may stand in a version. -/
theorem checkRest_cases (version : String) (rest : List Char) :
    (IsVersionRest rest ∧ checkRest version rest = .ok ()) ∨
      ((rest = [] ∨ rest.head? = some '-') ∧
        checkRest version rest = .error (.missing version)) ∨
      ∃ before c after, rest = before ++ c :: after ∧ (∀ d ∈ before, isVersionChar d = true) ∧
        isVersionChar c = false ∧ checkRest version rest =
          .error (.badCharacter c (if '-' ∈ before then "release" else "version") version) := by
  by_cases hnothing : rest = [] ∨ rest.head? = some '-'
  · exact Or.inr (Or.inl ⟨hnothing, checkRest_missing hnothing⟩)
  · rw [not_or] at hnothing
    obtain ⟨hne, hhead⟩ := hnothing
    by_cases hhyphen : '-' ∈ rest
    · obtain ⟨main, release, rfl, hmain⟩ := List.eq_append_cons_of_mem hhyphen
      have hmainNe : main ≠ [] := by
        rintro rfl
        exact hhead rfl
      rw [checkRest_hyphen hmain hmainNe]
      rcases checkPart_cases "version" version main with
        ⟨hok, hchars⟩ | ⟨before, c, after, rfl, hbefore, hc, herror⟩
      · rw [hok]
        rcases checkPart_cases "release" version release with
          ⟨hokRelease, hcharsRelease⟩ | ⟨before, c, after, rfl, hbefore, hc, herror⟩
        · refine Or.inl ⟨⟨hne, hhead, fun c hc => isVersionChar_iff.1 ?_⟩, hokRelease⟩
          rcases List.mem_append.1 hc with hc | hc
          · exact hchars c hc
          · rcases List.mem_cons.1 hc with rfl | hc
            · exact isVersionChar_hyphen
            · exact hcharsRelease c hc
        · refine Or.inr (Or.inr ⟨main ++ '-' :: before, c, after, by simp, ?_, hc, ?_⟩)
          · intro d hd
            rcases List.mem_append.1 hd with hd | hd
            · exact hchars d hd
            · rcases List.mem_cons.1 hd with rfl | hd
              · exact isVersionChar_hyphen
              · exact hbefore d hd
          · rw [if_pos (by simp)]
            exact herror
      · refine Or.inr (Or.inr ⟨before, c, after ++ '-' :: release, by simp, hbefore, hc, ?_⟩)
        rw [if_neg fun hmem => hmain (List.mem_append_left _ hmem), herror]
        rfl
    · rw [checkRest_noHyphen hhyphen hne]
      rcases checkPart_cases "version" version rest with
        ⟨hok, hchars⟩ | ⟨before, c, after, rfl, hbefore, hc, herror⟩
      · exact Or.inl ⟨⟨hne, hhead, fun c hc => isVersionChar_iff.1 (hchars c hc)⟩, hok⟩
      · refine Or.inr (Or.inr ⟨before, c, after, rfl, hbefore, hc, ?_⟩)
        rw [if_neg fun hmem => hhyphen (List.mem_append_left _ hmem), herror]

theorem checkRest_eq_ok_iff : checkRest version rest = .ok () ↔ IsVersionRest rest := by
  rcases checkRest_cases version rest with
    ⟨hrest, hok⟩ | ⟨hnothing, herror⟩ | ⟨before, c, after, rfl, -, hc, herror⟩
  · exact iff_of_true hok hrest
  · refine iff_of_false (by simp [herror]) fun hrest => ?_
    exact hnothing.elim hrest.ne_nil hrest.noHyphen
  · refine iff_of_false (by simp [herror]) fun hrest => ?_
    rw [isVersionChar_iff.2 (hrest.chars c (by simp))] at hc
    exact absurd hc (by simp)

/-- A text behind an epoch is refused for a fault of it. -/
theorem refusedAs_of_checkRest {value : List Char} {error : VersionError}
    (hbehind : BehindEpoch rest value) (h : checkRest version rest = .error error) :
    RefusedAs version value error := by
  rcases checkRest_cases version rest with
    ⟨-, hok⟩ | ⟨hnothing, herror⟩ | ⟨before, c, after, rfl, hbefore, hc, herror⟩
  · rw [hok] at h
    exact absurd h (by simp)
  · rw [herror] at h
    obtain rfl := Except.error.inj h
    exact .missing hbehind hnothing
  · rw [herror] at h
    obtain rfl := Except.error.inj h
    exact .badCharacter hbehind hbefore hc

end Rest

/-! ## Epochs -/

section Epoch

variable {version : String} {front : List Char}

/-- An epoch is accepted, or it is no number, or a negative one. -/
theorem checkEpoch_cases (version : String) (front : List Char) :
    (IsEpoch front ∧ checkEpoch version front = .ok ()) ∨
      ((∀ numeral : Numeral, numeral.text ≠ front) ∧
        checkEpoch version front = .error (.epochMalformed version)) ∨
      ∃ numeral : Numeral, numeral.text = front ∧ numeral.value < 0 ∧
        checkEpoch version front = .error (.epochNegative version) := by
  rw [checkEpoch]
  cases hread : readInt (String.ofList front) with
  | error error =>
    refine Or.inr (Or.inl ⟨?_, rfl⟩)
    rintro numeral rfl
    rw [numeral.readInt_text] at hread
    exact absurd hread (by simp)
  | ok n =>
    obtain ⟨numeral, htext, rfl⟩ := readInt_eq_ok_iff.1 hread
    rw [String.toList_ofList] at htext
    dsimp only
    split
    · next hnegative => exact Or.inr (Or.inr ⟨numeral, htext, hnegative, rfl⟩)
    · next hpositive => exact Or.inl ⟨⟨numeral, htext, by omega⟩, rfl⟩

theorem checkEpoch_of_isEpoch (h : IsEpoch front) : checkEpoch version front = .ok () := by
  obtain ⟨numeral, rfl, hvalue⟩ := h
  rw [checkEpoch, numeral.readInt_text]
  exact if_neg (by omega)

end Epoch

/-! ## Versions -/

section Versions

variable {version : String}

/-- A version of the grammar is accepted. -/
theorem checkRpm_of_isRpmVersion (h : IsRpmVersion (strip version.toList)) :
    checkRpm version = .ok () := by
  rw [checkRpm]
  generalize strip version.toList = value at h
  cases h with
  | greatest => rfl
  | least => rfl
  | plain noColon follows =>
    rw [if_neg (by simpa using follows.ne_nil), splitFirst_singleton_eq_none_iff.2 noColon]
    split
    · rfl
    · exact checkRest_eq_ok_iff.2 follows
  | epoch noColon number follows =>
    rw [if_neg (by simp), splitFirst_singleton_eq_some_iff.2 ⟨rfl, noColon⟩]
    split
    · rfl
    · dsimp only
      rw [checkEpoch_of_isEpoch number]
      exact checkRest_eq_ok_iff.2 follows

/-- A version is accepted and follows the grammar, or is refused for a fault of it. -/
theorem checkRpm_cases (version : String) :
    (checkRpm version = .ok () ∧ IsRpmVersion (strip version.toList)) ∨
      ∃ error, checkRpm version = .error error ∧
        RefusedAs version (strip version.toList) error := by
  rw [checkRpm]
  generalize strip version.toList = value
  split
  · next hempty => exact Or.inr ⟨_, rfl, .blank (List.isEmpty_iff.1 hempty)⟩
  · split
    · next hends =>
      rw [Bool.or_eq_true, decide_eq_true_eq, decide_eq_true_eq] at hends
      rcases hends with rfl | rfl
      · exact Or.inl ⟨rfl, .greatest⟩
      · exact Or.inl ⟨rfl, .least⟩
    · cases hcut : splitFirst [':'] value with
      | none =>
        rw [splitFirst_singleton_eq_none_iff] at hcut
        dsimp only
        cases hrest : checkRest version value with
        | ok _ => exact Or.inl ⟨rfl, .plain hcut (checkRest_eq_ok_iff.1 hrest)⟩
        | error error => exact Or.inr ⟨error, rfl, refusedAs_of_checkRest (.plain hcut) hrest⟩
      | some parts =>
        obtain ⟨front, rest⟩ := parts
        obtain ⟨rfl, hcolon⟩ := splitFirst_singleton_eq_some_iff.1 hcut
        dsimp only
        rcases checkEpoch_cases version front with
          ⟨hepoch, hok⟩ | ⟨hnumber, herror⟩ | ⟨numeral, rfl, hnegative, herror⟩
        · rw [hok]
          change (checkRest version rest = _ ∧ _) ∨ ∃ error, checkRest version rest = _ ∧ _
          cases hrest : checkRest version rest with
          | ok _ => exact Or.inl ⟨rfl, .epoch hcolon hepoch (checkRest_eq_ok_iff.1 hrest)⟩
          | error error =>
            exact Or.inr ⟨error, rfl, refusedAs_of_checkRest (.epoch hcolon hepoch) hrest⟩
        · rw [herror]
          exact Or.inr ⟨_, rfl, .epochMalformed rfl hcolon hnumber⟩
        · rw [herror]
          exact Or.inr ⟨_, rfl, .epochNegative rfl hcolon hnegative⟩

/-- A text is accepted as a version exactly when it follows the grammar, blanks around it aside.
Every other text is refused, with an error that names a fault of it. -/
theorem checkRpm_follows_grammar (version : String) :
    (checkRpm version = .ok () ↔ IsRpmVersion (strip version.toList)) ∧
      (¬ IsRpmVersion (strip version.toList) → ∃ error, checkRpm version = .error error ∧
        RefusedAs version (strip version.toList) error) := by
  rcases checkRpm_cases version with ⟨hok, hversion⟩ | ⟨error, herror, hrefused⟩
  · exact ⟨iff_of_true hok hversion, fun hnot => absurd hversion hnot⟩
  · refine ⟨iff_of_false (by simp [herror]) fun hversion => ?_, fun _ => ⟨error, herror, hrefused⟩⟩
    rw [checkRpm_of_isRpmVersion hversion] at herror
    exact absurd herror (by simp)

end Versions

/-- A sign, a lone underscore and blanks may stand in an epoch, and hyphens and colons behind it. -/
example : checkRpm " + 1:2" = .error (.epochMalformed " + 1:2") ∧
    checkRpm " +1_0 :2:-~" = .ok () ∧ checkRpm "-0:2" = .ok () ∧
    checkRpm "1:-2" = .error (.missing "1:-2") := by
  decide +kernel

end AdvisoryFeed
