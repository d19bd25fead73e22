import Mathlib.Algebra.Ring.Nat
import Mathlib.Data.List.TakeWhile
import Shopfront.Number.Integer

/-! Integers and their numerals. Every integer has one text, and of the many numerals that stand for
it this is the one that is written. Main statements: the text of an integer reads back as the
integer unless it has too many digits (`read?_text`), no other integer has it (`text_inj`), and a
numeral that can be read stands for an integer whose text can be read (`digitCount_of_read?`). -/

namespace Shopfront.Integer

open Text (digitValue? digitOver zeroDigits isBlank blankCodes)

/-! ## Characters of a numeral -/

theorem digitValue?_of_isDigit {c : Char} (h : c.isDigit = true) :
    digitValue? c = some (c.toNat - 48) := by
  have hc : 48 ≤ c.toNat ∧ c.toNat ≤ 57 := Char.isDigit_iff_toNat.mp h
  have hrange : 48 ≤ c.toNat ∧ c.toNat < 48 + 10 := by omega
  rw [digitValue?, zeroDigits, digitOver, if_pos hrange]

theorem isBlank_of_isDigit {c : Char} (h : c.isDigit = true) : isBlank c = false := by
  have hc : 48 ≤ c.toNat ∧ c.toNat ≤ 57 := Char.isDigit_iff_toNat.mp h
  simp only [isBlank, blankCodes, List.contains_eq_mem, List.mem_cons, List.not_mem_nil, or_false,
    decide_eq_false_iff_not]
  omega

theorem isDigit_of_mem_digits {n : Nat} {c : Char} (h : c ∈ digits n) : c.isDigit = true :=
  Nat.isDigit_of_mem_toDigits (by decide) (by decide) h

theorem isBlank_of_mem_chars {n : Int} {c : Char} (h : c ∈ chars n) : isBlank c = false := by
  cases n with
  | ofNat n => exact isBlank_of_isDigit (isDigit_of_mem_digits h)
  | negSucc n =>
    rcases List.mem_cons.mp h with rfl | h
    · decide
    · exact isBlank_of_isDigit (isDigit_of_mem_digits h)

theorem isMargin_of_mem_chars {n : Int} {c : Char} (h : c ∈ chars n) : isMargin c = false := by
  rw [isMargin, isBlank_of_mem_chars h, Bool.false_and]

/-! ## Parts of a numeral -/

theorem dropWhile_of_forall {p : Char → Bool} {cs : List Char} (h : ∀ c ∈ cs, p c = false) :
    cs.dropWhile p = cs := by
  cases cs with
  | nil => rfl
  | cons c cs => rw [List.dropWhile_cons_of_neg (by simp [h c List.mem_cons_self])]

/-- What stands at either end and is to be dropped is dropped, and nothing between. -/
theorem dropEnds_append {p : Char → Bool} {left cs right : List Char}
    (hleft : ∀ c ∈ left, p c = true) (hright : ∀ c ∈ right, p c = true)
    (h : ∀ c ∈ cs, p c = false) :
    (((left ++ (cs ++ right)).dropWhile p).reverse.dropWhile p).reverse = cs := by
  rw [List.dropWhile_append_of_pos hleft]
  cases cs with
  | nil =>
    rw [List.nil_append, List.dropWhile_eq_nil_iff.mpr hright]
    rfl
  | cons c cs =>
    have hfirst : (c :: cs ++ right).dropWhile p = c :: cs ++ right :=
      List.dropWhile_cons_of_neg (by simp [h c List.mem_cons_self])
    rw [hfirst, List.reverse_append,
      List.dropWhile_append_of_pos fun c hc => hright c (List.mem_reverse.mp hc),
      dropWhile_of_forall fun c hc => h c (List.mem_reverse.mp hc), List.reverse_reverse]

/-- Where nothing is to be dropped, nothing is dropped from either end. -/
theorem dropEnds_of_forall {p : Char → Bool} {cs : List Char} (h : ∀ c ∈ cs, p c = false) :
    ((cs.dropWhile p).reverse.dropWhile p).reverse = cs := by
  rw [dropWhile_of_forall h, dropWhile_of_forall fun c hc => h c (List.mem_reverse.mp hc),
    List.reverse_reverse]

theorem trimMargin_of_forall {cs : List Char} (h : ∀ c ∈ cs, isMargin c = false) :
    trimMargin cs = cs := dropEnds_of_forall h

/-- The text of an integer has no blanks around it. -/
theorem trim_text (n : Int) : Text.trim (text n) = text n := by
  rw [Text.trim, text, String.toList_ofList, Text.trimChars,
    dropEnds_of_forall fun c => isBlank_of_mem_chars]

/-- Blanks around the text of an integer are trimmed. -/
theorem trim_blanks_around {left right : String} (hleft : ∀ c ∈ left.toList, isBlank c = true)
    (hright : ∀ c ∈ right.toList, isBlank c = true) (n : Int) :
    Text.trim (left ++ text n ++ right) = text n := by
  have hsplit : (left ++ text n ++ right).toList = left.toList ++ (chars n ++ right.toList) := by
    rw [String.toList_append, String.toList_append, List.append_assoc, text, String.toList_ofList]
  rw [Text.trim, Text.trimChars, hsplit,
    dropEnds_append hleft hright fun c => isBlank_of_mem_chars, text]

theorem digitTail_of_isDigit {cs : List Char} (h : ∀ c ∈ cs, c.isDigit = true) :
    digitTail cs = (cs.map fun c => c.toNat - 48, []) := by
  induction cs with
  | nil => rfl
  | cons c cs ih =>
    obtain ⟨hc, hcs⟩ := List.forall_mem_cons.mp h
    rw [digitTail.eq_def]
    simp only [digitValue?_of_isDigit hc, ih hcs, List.map_cons]

theorem takeDigits_of_isDigit {cs : List Char} (h : ∀ c ∈ cs, c.isDigit = true) :
    takeDigits cs = (cs.map fun c => c.toNat - 48, []) := by
  cases cs with
  | nil => rfl
  | cons c cs =>
    rw [takeDigits, digitValue?_of_isDigit (h c List.mem_cons_self), Option.isSome_some, if_pos rfl,
      digitTail_of_isDigit h]

theorem takeSign_of_isDigit {cs : List Char} (h : ∀ c ∈ cs, c.isDigit = true) :
    takeSign cs = (false, cs) := by
  unfold takeSign
  split
  · exact absurd (h '-' List.mem_cons_self) (by decide)
  · exact absurd (h '+' List.mem_cons_self) (by decide)
  · rfl

/-! ## Values -/

theorem ofDigits_digits (n : Nat) : ofDigits ((digits n).map fun c => c.toNat - 48) = n := by
  rw [ofDigits, List.foldl_map]
  exact Nat.ofDigitChars_ten_toDigits

theorem ofDigits_concat (ds : List Nat) (d : Nat) : ofDigits (ds ++ [d]) = 10 * ofDigits ds + d :=
  List.foldl_append ..

theorem ofDigits_lt {ds : List Nat} (h : ∀ d ∈ ds, d < 10) : ofDigits ds < 10 ^ ds.length := by
  suffices hrev : ∀ ds : List Nat, (∀ d ∈ ds, d < 10) →
      ofDigits ds.reverse < 10 ^ ds.length by
    have hds := hrev ds.reverse fun d hd => h d (List.mem_reverse.mp hd)
    rwa [List.reverse_reverse, List.length_reverse] at hds
  intro ds h
  induction ds with
  | nil => decide
  | cons d ds ih =>
    obtain ⟨hd, hds⟩ := List.forall_mem_cons.mp h
    have hrest := ih hds
    rw [List.reverse_cons, ofDigits_concat, List.length_cons, Nat.pow_succ]
    omega

theorem mem_digitTail {cs : List Char} {d : Nat} (h : d ∈ (digitTail cs).1) : d < 10 := by
  fun_induction digitTail cs with
  | case1 => cases h
  | case2 c rest v hv ih =>
    rcases List.mem_cons.mp h with rfl | h
    · exact Text.digitValue?_lt hv
    · exact ih h
  | case3 => cases h
  | case4 c' rest' v hv hc ih =>
    rcases List.mem_cons.mp h with rfl | h
    · exact Text.digitValue?_lt hv
    · exact ih h
  | case5 => cases h
  | case6 => cases h

theorem mem_takeDigits {cs : List Char} {d : Nat} (h : d ∈ (takeDigits cs).1) : d < 10 := by
  cases cs with
  | nil => cases h
  | cons c cs =>
    rw [takeDigits] at h
    split at h
    · exact mem_digitTail h
    · cases h

/-! ## Reading -/

theorem natAbs_signed (negative : Bool) (n : Nat) : (signed negative n).natAbs = n := by
  cases negative <;> simp [signed]

/-- What is read of a numeral in digits with a sign before them. -/
theorem read_of_digits {s : String} {negative : Bool} {n : Nat}
    (hsign : takeSign (trimMargin s.toList) = (negative, digits n)) :
    read s = if digitLimit < digitCount n then .error (.tooLong (digitCount n))
      else .ok (signed negative n) := by
  have htake := takeDigits_of_isDigit fun c => isDigit_of_mem_digits (n := n)
  have hne : digits n ≠ [] := Nat.toDigits_ne_nil
  unfold read
  simp only [hsign, htake, List.isEmpty_iff, List.map_eq_nil_iff, hne, List.head?_nil, reduceCtorEq,
    or_self, if_false, List.length_map, ofDigits_digits, if_true]
  rfl

theorem signed_chars (n : Int) :
    ∃ negative, takeSign (chars n) = (negative, digits n.natAbs) ∧
      signed negative n.natAbs = n := by
  cases n with
  | ofNat n => exact ⟨false, takeSign_of_isDigit fun c => isDigit_of_mem_digits, rfl⟩
  | negSucc n => exact ⟨true, rfl, rfl⟩

theorem read_text (n : Int) :
    read (text n) = if digitLimit < digitCount n.natAbs then .error (.tooLong (digitCount n.natAbs))
      else .ok n := by
  obtain ⟨negative, hsign, hsigned⟩ := signed_chars n
  have htrim : takeSign (trimMargin (text n).toList) = (negative, digits n.natAbs) := by
    rw [text, String.toList_ofList, trimMargin_of_forall fun c => isMargin_of_mem_chars, hsign]
  rw [read_of_digits htrim, hsigned]

/-- The text of an integer reads back as the integer, unless it has too many digits to be read. -/
theorem read?_text (n : Int) :
    read? (text n) = if digitCount n.natAbs ≤ digitLimit then some n else none := by
  rw [read?, read_text]
  by_cases h : digitCount n.natAbs ≤ digitLimit
  · rw [if_neg (Nat.not_lt.mpr h), if_pos h]
    rfl
  · rw [if_pos (Nat.not_le.mp h), if_neg h]
    rfl

theorem text_inj {m n : Int} (h : text m = text n) : m = n := by
  obtain ⟨negative, hm, hm'⟩ := signed_chars m
  obtain ⟨negative', hn, hn'⟩ := signed_chars n
  have hchars : chars m = chars n := String.ofList_injective h
  rw [hchars, hn] at hm
  obtain ⟨rfl, hdigits⟩ := Prod.mk.inj hm
  have habs : n.natAbs = m.natAbs := by
    rw [← ofDigits_digits n.natAbs, hdigits, ofDigits_digits]
  rw [← hm', ← hn', habs]

/-- An integer that has been read has no more digits than a numeral may have. -/
theorem digitCount_of_read? {s : String} {n : Int} (h : read? s = some n) :
    digitCount n.natAbs ≤ digitLimit := by
  have hread : read s = .ok n := by
    unfold read? at h
    cases hr : read s with
    | error cause => simp [hr, Except.toOption] at h
    | ok m => simpa [hr, Except.toOption] using h
  unfold read at hread
  simp only at hread
  split at hread
  · cases hread
  split at hread
  · cases hread
  split at hread
  · next hlen _ =>
    obtain rfl := Except.ok.inj hread
    have hten : ∀ d ∈ (takeDigits (takeSign (trimMargin s.toList)).2).1, d < 10 :=
      fun _ => mem_takeDigits
    have hlt := ofDigits_lt hten
    have hpow := Nat.pow_le_pow_right (n := 10) (by decide) (Nat.not_lt.mp hlen)
    rw [natAbs_signed]
    exact (Nat.length_toDigits_le_iff (by decide) (by decide)).mpr (Nat.lt_of_lt_of_le hlt hpow)
  · cases hread

end Shopfront.Integer
