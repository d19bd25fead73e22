import Shopfront.Payload.Price
import Shopfront.Proofs.Number.Integer

/-! Decimals and their texts. The text of a finite decimal is its digits, with a point among them or
zeros in front where the exponent is near, and with an exponent after them otherwise. Main
statements: the text reads back as the decimal, digit for digit, if its exponent is in range
(`readChars_chars`), and so prices are kept as they are (`price_kept`). -/

namespace Shopfront.Decimal

open Integer (digits digitCount ofDigits ofDigits_digits isDigit_of_mem_digits takeSign signed
  isBlank_of_isDigit dropEnds_of_forall)
open Text (isBlank trimChars)

/-! ## Characters -/

/-- What the text of a finite decimal consists of. -/
def isMark (c : Char) : Bool := c.isDigit || ['.', 'E', '+', '-'].contains c

theorem isMark_of_isDigit {c : Char} (h : c.isDigit = true) : isMark c = true := by
  rw [isMark, h, Bool.true_or]

theorem isMark_cases {c : Char} (h : isMark c = true) :
    c.isDigit = true ∨ c = '.' ∨ c = 'E' ∨ c = '+' ∨ c = '-' := by
  simpa [isMark] using h

theorem isBlank_of_isMark {c : Char} (h : isMark c = true) : isBlank c = false := by
  rcases isMark_cases h with h | rfl | rfl | rfl | rfl
  · exact isBlank_of_isDigit h
  all_goals decide

theorem asciiChar?_of_isMark {c : Char} (h : isMark c = true) : asciiChar? c = some c := by
  have hrange : 0 < c.toNat ∧ c.toNat < 0x80 := by
    rcases isMark_cases h with h | rfl | rfl | rfl | rfl
    · have hc : 48 ≤ c.toNat ∧ c.toNat ≤ 57 := Char.isDigit_iff_toNat.mp h
      omega
    all_goals decide
  exact if_pos hrange

theorem ne_underscore_of_isMark {c : Char} (h : isMark c = true) : c ≠ '_' := by
  rintro rfl
  exact absurd h (by decide)

theorem trimChars_of_isMark {cs : List Char} (h : ∀ c ∈ cs, isMark c = true) : trimChars cs = cs :=
  dropEnds_of_forall fun c hc => isBlank_of_isMark (h c hc)

theorem mapM_asciiChar?_of_isMark {cs : List Char} (h : ∀ c ∈ cs, isMark c = true) :
    cs.mapM asciiChar? = some cs := by
  induction cs with
  | nil => rfl
  | cons c cs ih =>
    obtain ⟨hc, hcs⟩ := List.forall_mem_cons.mp h
    rw [List.mapM_cons, asciiChar?_of_isMark hc, ih hcs]
    rfl

theorem asciiChars?_of_isMark {cs : List Char} (h : ∀ c ∈ cs, isMark c = true) :
    asciiChars? cs = some cs := by
  have hkept : cs.filter (· ≠ '_') = cs :=
    List.filter_eq_self.mpr fun c hc => decide_eq_true (ne_underscore_of_isMark (h c hc))
  rw [asciiChars?, trimChars_of_isMark h, hkept, mapM_asciiChar?_of_isMark h]

/-! ## The parts of a text -/

theorem ofDigits_digitValues_digits (n : Nat) : ofDigits (digitValues (digits n)) = n :=
  ofDigits_digits n

theorem digits_ne_nil (n : Nat) : digits n ≠ [] := Nat.toDigits_ne_nil

/-- What ends a row of digits: nothing, or an exponent. -/
inductive Tail : List Char → Int → Prop
  | none : Tail [] 0
  | exponent (e) : Tail (exponentChars e) e

theorem wholeNumber?_digits (n : Nat) : wholeNumber? (digits n) = some n := by
  have hall : (digits n).all Char.isDigit = true :=
    List.all_eq_true.mpr fun c hc => isDigit_of_mem_digits hc
  rw [wholeNumber?, if_pos ⟨digits_ne_nil n, hall⟩, ofDigits_digitValues_digits]

theorem exponentPart?_of_tail {cs : List Char} {e : Int} (h : Tail cs e) :
    exponentPart? cs = some e := by
  cases h with
  | none => rfl
  | exponent =>
    have hwhole := wholeNumber?_digits e.natAbs
    by_cases hneg : e < 0
    · have hsigned : signed true e.natAbs = e := by
        show -(e.natAbs : Int) = e
        omega
      simp [exponentChars, exponentPart?, takeSign, hneg, hwhole, hsigned]
    · have hsigned : signed false e.natAbs = e := by
        show (e.natAbs : Int) = e
        omega
      simp [exponentChars, exponentPart?, takeSign, hneg, hwhole, hsigned]

/-- A tail has no digit and no point in front. -/
theorem Tail.head {cs : List Char} {e : Int} (h : Tail cs e) :
    cs = [] ∨ ∃ rest, cs = 'E' :: rest := by
  cases h with
  | none => exact .inl rfl
  | exponent => exact .inr ⟨_, rfl⟩

theorem Tail.isMark {cs : List Char} {e : Int} (h : Tail cs e) : ∀ c ∈ cs, isMark c = true := by
  cases h with
  | none => exact fun c hc => nomatch hc
  | exponent =>
    intro c hc
    rcases List.mem_cons.mp hc with rfl | hc
    · decide
    rcases List.mem_cons.mp hc with rfl | hc
    · split <;> decide
    · exact isMark_of_isDigit (isDigit_of_mem_digits hc)

theorem takeWhile_digits {ds rest : List Char} (hds : ∀ c ∈ ds, c.isDigit = true)
    (hrest : ∀ c ∈ rest.head?, c.isDigit = false) :
    (ds ++ rest).takeWhile Char.isDigit = ds ∧ (ds ++ rest).dropWhile Char.isDigit = rest := by
  rw [List.takeWhile_append_of_pos hds, List.dropWhile_append_of_pos hds]
  cases rest with
  | nil => exact ⟨List.append_nil ds, rfl⟩
  | cons c rest =>
    have hc : c.isDigit = false := hrest c rfl
    simp [hc]

theorem Tail.not_isDigit {cs : List Char} {e : Int} (h : Tail cs e) :
    ∀ c ∈ cs.head?, c.isDigit = false := by
  rcases h.head with rfl | ⟨rest, rfl⟩
  · exact fun c hc => nomatch hc
  · rintro c ⟨⟩
    decide

/-- Digits without a point. -/
theorem finitePart?_whole {ds tail : List Char} {e : Int} (hne : ds ≠ [])
    (hds : ∀ c ∈ ds, c.isDigit = true) (htail : Tail tail e) :
    finitePart? (ds ++ tail) = some (ofDigits (digitValues ds), e) := by
  obtain ⟨hwhole, hrest⟩ := takeWhile_digits hds htail.not_isDigit
  have hexponent := exponentPart?_of_tail htail
  unfold finitePart?
  rcases htail.head with rfl | ⟨rest, rfl⟩
  · simp only [hwhole, hrest]
    simp [hne, hexponent]
  · simp only [hwhole, hrest]
    simp [hne, hexponent]

/-- Digits with a point among them. -/
theorem finitePart?_point {whole fraction tail : List Char} {e : Int} (hne : whole ≠ [])
    (hwhole : ∀ c ∈ whole, c.isDigit = true) (hfraction : ∀ c ∈ fraction, c.isDigit = true)
    (htail : Tail tail e) :
    finitePart? (whole ++ '.' :: (fraction ++ tail)) =
      some (ofDigits (digitValues (whole ++ fraction)), e - fraction.length) := by
  have hpoint : ∀ c ∈ ('.' :: (fraction ++ tail)).head?, c.isDigit = false := by
    rintro c ⟨⟩
    decide
  obtain ⟨hbefore, hbehind⟩ := takeWhile_digits hwhole hpoint
  obtain ⟨hdigits, hrest⟩ := takeWhile_digits hfraction htail.not_isDigit
  unfold finitePart?
  simp only [hbefore, hbehind, hdigits, hrest]
  simp [hne, exponentPart?_of_tail htail]

/-! ## Finite decimals -/

/-- How the digits of a coefficient are laid out at an exponent: in one row, or with a point among
them and perhaps with zeros in front. -/
inductive Layout (c : Nat) (e : Int) : List Char → Prop
  | whole {tail} : Tail tail e → Layout c e (digits c ++ tail)
  | point {whole fraction tail} : whole ≠ [] → (∀ d ∈ whole ++ fraction, d.isDigit = true) →
      ofDigits (digitValues (whole ++ fraction)) = c → Tail tail (e + fraction.length) →
      Layout c e (whole ++ '.' :: (fraction ++ tail))

theorem ofDigits_zeros (n : Nat) (ds : List Char) :
    ofDigits (digitValues (List.replicate n '0' ++ ds)) = ofDigits (digitValues ds) := by
  induction n with
  | zero => rfl
  | succ n ih => exact ih

theorem layout_pointChars (c places : Nat) : Layout c (-places) (pointChars (digits c) places) := by
  have hdigits : ∀ d ∈ digits c, d.isDigit = true := fun d => isDigit_of_mem_digits
  unfold pointChars
  split
  · next h =>
    subst h
    have hwhole : Layout c 0 (digits c ++ []) := .whole .none
    simpa using hwhole
  split
  · next h hlt =>
    have hlength : ((digits c).drop ((digits c).length - places)).length = places := by
      rw [List.length_drop]
      omega
    have hpoint : Layout c (-places) ((digits c).take ((digits c).length - places) ++
        '.' :: ((digits c).drop ((digits c).length - places) ++ [])) := by
      refine .point (fun hnil => ?_) ?_ ?_ ?_
      · rcases List.take_eq_nil_iff.mp hnil with hzero | hnil
        · omega
        · exact digits_ne_nil c hnil
      · rwa [List.take_append_drop]
      · rw [List.take_append_drop, ofDigits_digitValues_digits]
      · rw [hlength, Int.add_left_neg]
        exact .none
    simpa using hpoint
  · next h hge =>
    have hlength : (List.replicate (places - (digits c).length) '0' ++ digits c).length = places := by
      rw [List.length_append, List.length_replicate]
      omega
    have hpoint : Layout c (-places)
        (['0'] ++ '.' :: ((List.replicate (places - (digits c).length) '0' ++ digits c) ++ [])) := by
      refine .point (List.cons_ne_nil _ _) ?_ ?_ ?_
      · intro d hd
        rcases List.mem_append.mp hd with hd | hd
        · rw [List.mem_singleton.mp hd]
          decide
        rcases List.mem_append.mp hd with hd | hd
        · rw [List.eq_of_mem_replicate hd]
          decide
        · exact hdigits d hd
      · exact (ofDigits_zeros (_ + 1) _).trans (ofDigits_digitValues_digits c)
      · rw [hlength, Int.add_left_neg]
        exact .none
    simpa using hpoint

theorem layout_finiteChars (c : Nat) (e : Int) : Layout c e (finiteChars c e) := by
  have hdigits : ∀ d ∈ digits c, d.isDigit = true := fun d => isDigit_of_mem_digits
  have hvalue := ofDigits_digitValues_digits c
  simp only [finiteChars]
  split
  · next h =>
    have he : -(e.natAbs : Int) = e := by omega
    have hpoint := layout_pointChars c e.natAbs
    rwa [he] at hpoint
  · cases hds : digits c with
    | nil => exact absurd hds (digits_ne_nil c)
    | cons d rest =>
      have hcount : adjusted c e = e + rest.length := by
        rw [adjusted, digitCount, hds, List.length_cons, Nat.add_sub_cancel]
      rw [hds] at hdigits hvalue
      cases rest with
      | nil =>
        have hwhole : Layout c e (digits c ++ exponentChars e) := .whole (.exponent e)
        rw [hds] at hwhole
        rw [hcount]
        simpa using hwhole
      | cons d' rest =>
        have hpoint : Layout c e ([d] ++ '.' :: (d' :: rest ++ exponentChars (adjusted c e))) := by
          refine .point (List.cons_ne_nil _ _) hdigits hvalue ?_
          rw [← hcount]
          exact .exponent _
        simpa using hpoint

namespace Layout

variable {c : Nat} {e : Int} {cs : List Char}

theorem finitePart?_eq (h : Layout c e cs) : finitePart? cs = some (c, e) := by
  cases h with
  | whole htail =>
    rw [finitePart?_whole (digits_ne_nil c) (fun d => isDigit_of_mem_digits) htail,
      ofDigits_digitValues_digits]
  | point hne hdigits hvalue htail =>
    obtain ⟨hwhole, hfraction⟩ := List.forall_mem_append.mp hdigits
    rw [finitePart?_point hne hwhole hfraction htail, hvalue, Int.add_sub_cancel]

theorem forall_isMark (h : Layout c e cs) : ∀ d ∈ cs, isMark d = true := by
  cases h with
  | whole htail =>
    refine List.forall_mem_append.mpr ⟨fun d hd => ?_, htail.isMark⟩
    exact isMark_of_isDigit (isDigit_of_mem_digits hd)
  | point _ hdigits _ htail =>
    obtain ⟨hwhole, hfraction⟩ := List.forall_mem_append.mp hdigits
    refine List.forall_mem_append.mpr ⟨fun d hd => isMark_of_isDigit (hwhole d hd), ?_⟩
    refine List.forall_mem_cons.mpr ⟨by decide, List.forall_mem_append.mpr ⟨?_, htail.isMark⟩⟩
    exact fun d hd => isMark_of_isDigit (hfraction d hd)

/-- A digit is in front. -/
theorem exists_cons (h : Layout c e cs) : ∃ d rest, cs = d :: rest ∧ d.isDigit = true := by
  cases h with
  | whole _ =>
    cases hds : digits c with
    | nil => exact absurd hds (digits_ne_nil c)
    | cons d rest =>
      have hd : d ∈ digits c := by
        rw [hds]
        exact List.mem_cons_self
      exact ⟨d, _, rfl, isDigit_of_mem_digits hd⟩
  | @point whole _ _ hne hdigits _ _ =>
    cases whole with
    | nil => exact absurd rfl hne
    | cons d rest => exact ⟨d, _, rfl, hdigits d List.mem_cons_self⟩

end Layout

/-! ## Reading -/

theorem takeSign_of_cons {d : Char} (h : d.isDigit = true) (rest : List Char) :
    takeSign (d :: rest) = (false, d :: rest) := by
  unfold takeSign
  split
  · next he =>
    cases he
    exact absurd h (by decide)
  · next he =>
    cases he
    exact absurd h (by decide)
  · rfl

theorem toLower_of_isDigit {d : Char} (h : d.isDigit = true) : d.toLower = d := by
  have hd : 48 ≤ d.toNat ∧ d.toNat ≤ 57 := Char.isDigit_iff_toNat.mp h
  unfold Char.toLower
  split
  · next hupper =>
    have hupper : 65 ≤ d.toNat := UInt32.le_iff_toNat_le.mp hupper.1
    omega
  · rfl

/-- What has a digit in front is neither infinite nor a NaN. -/
theorem special?_of_cons {d : Char} (h : d.isDigit = true) (negative : Bool) (rest : List Char) :
    special? negative (d :: rest) = none := by
  have hne : ∀ letter : Char, letter.isDigit = false → d ≠ letter := by
    rintro letter hletter rfl
    rw [h] at hletter
    cases hletter
  have hinfinity : infinity? negative (d :: rest) = none := by
    have hi := hne 'i' (by decide)
    simp [infinity?, toLower_of_isDigit h, hi]
  have hnan : nan? negative (d :: rest) = none := by
    unfold nan?
    rw [List.map_cons, toLower_of_isDigit h]
    split
    · next he => exact absurd (List.cons.inj he).1 (hne 'n' (by decide))
    · next he => exact absurd (List.cons.inj he).1 (hne 's' (by decide))
    · rfl
  rw [special?, hinfinity, hnan]
  rfl

theorem readAscii_chars (negative : Bool) (c : Nat) (e : Int) :
    readAscii (chars (.finite negative c e)) =
      if inRange c e = true then .ok (.finite negative c e) else .error .invalidOperation := by
  have hlayout := layout_finiteChars c e
  obtain ⟨d, rest, hcons, hd⟩ := hlayout.exists_cons
  have hsign : takeSign (chars (.finite negative c e)) = (negative, finiteChars c e) := by
    cases negative with
    | true => rfl
    | false =>
      show takeSign (finiteChars c e) = (false, finiteChars c e)
      rw [hcons, takeSign_of_cons hd]
  have hspecial : special? negative (finiteChars c e) = none := by
    rw [hcons, special?_of_cons hd]
  unfold readAscii
  simp only [hsign, hspecial, hlayout.finitePart?_eq]

theorem isMark_of_mem_chars {negative : Bool} {c : Nat} {e : Int} :
    ∀ x ∈ chars (.finite negative c e), isMark x = true := by
  refine List.forall_mem_append.mpr ⟨?_, (layout_finiteChars c e).forall_isMark⟩
  cases negative with
  | false => exact fun x hx => nomatch hx
  | true => exact List.forall_mem_singleton.mpr (by decide)

/-- The text of a finite decimal reads back as the decimal if its exponent is in range. -/
theorem readChars_chars (negative : Bool) (c : Nat) (e : Int) :
    readChars (chars (.finite negative c e)) =
      if inRange c e = true then .ok (.finite negative c e) else .error .invalidOperation := by
  rw [readChars, asciiChars?_of_isMark isMark_of_mem_chars]
  exact readAscii_chars negative c e

/-! ## Prices -/

theorem isFinite_of_special? {negative : Bool} {cs : List Char} {d : Decimal}
    (h : special? negative cs = some d) : d.isFinite = false := by
  rcases Option.or_eq_some_iff.mp h with h | ⟨_, h⟩
  · unfold infinity? at h
    split at h
    · rw [← Option.some.inj h]
      rfl
    · cases h
  · unfold nan? at h
    split at h
    · obtain ⟨n, _, rfl⟩ := Option.map_eq_some_iff.mp h
      rfl
    · obtain ⟨n, _, rfl⟩ := Option.map_eq_some_iff.mp h
      rfl
    · cases h

/-- A finite decimal that has been read is in range. -/
theorem inRange_of_readAscii {cs : List Char} {negative : Bool} {c : Nat} {e : Int}
    (h : readAscii cs = .ok (.finite negative c e)) : inRange c e = true := by
  unfold readAscii at h
  simp only at h
  split at h
  · next d hspecial =>
    have hfinite := isFinite_of_special? hspecial
    rw [Except.ok.inj h] at hfinite
    cases hfinite
  split at h
  · cases h
  split at h
  · next hrange =>
    cases h
    exact hrange
  · cases h

theorem exists_of_priceOfChars? {cs : List Char} {d : Decimal} (h : priceOfChars? cs = some d) :
    ∃ negative c e, d = .finite negative c e ∧ inRange c e = true := by
  have hprice := isPrice_of_priceOfChars? h
  have hread : readChars (trimChars cs) = .ok d := by
    unfold priceOfChars? at h
    split at h
    · next d' hread =>
      split at h
      · rw [← Option.some.inj h]
        exact hread
      · cases h
    · cases h
  cases d with
  | infinite | nan => cases hprice
  | finite negative c e =>
    refine ⟨negative, c, e, rfl, ?_⟩
    unfold readChars at hread
    split at hread
    · cases hread
    · exact inRange_of_readAscii hread

/-- The price that a payload states is a finite decimal in range. -/
theorem exists_of_price? {v : Payload} {d : Decimal} (h : v.price? = some d) :
    ∃ negative c e, d = .finite negative c e ∧ inRange c e = true := by
  unfold Payload.price? at h
  split at h
  · cases h
  · cases h
  · unfold priceOfInt? at h
    split at h
    · cases h
    · exact exists_of_priceOfChars? h
  · exact exists_of_priceOfChars? h

theorem price?_of_isPrice {negative : Bool} {c : Nat} {e : Int}
    (h : isPrice (.finite negative c e) = true) :
    price? (.finite negative c e) =
      if inRange c e = true then some (.finite negative c e) else none := by
  rw [price?, priceOfChars?, trimChars_of_isMark isMark_of_mem_chars, readChars_chars]
  by_cases hrange : inRange c e = true
  · simp [hrange, h]
  · simp [hrange]

theorem price?_text (d : Decimal) : (Payload.text d.text).price? = d.price? := by
  show priceOfChars? d.text.toList = priceOfChars? d.chars
  rw [text, String.toList_ofList]

/-- **Prices are kept digit for digit.** What a payload states as a price is finite and not below
zero. A finite decimal in range that is not below zero, such as a zero of either sign, is its own
price with its sign, its coefficient and its exponent, and so is what its text states, however many
digits it has. So the price of a price is the price itself. -/
theorem price_kept :
    (∀ (v : Payload), ∀ d ∈ v.price?, d.isFinite = true ∧ d.isBelowZero = false) ∧
      (∀ (negative : Bool) (c : Nat) (e : Int), isBelowZero (.finite negative c e) = false →
        inRange c e = true →
          price? (.finite negative c e) = some (.finite negative c e) ∧
          (Payload.text (text (.finite negative c e))).price? = some (.finite negative c e)) ∧
      ∀ (v : Payload), ∀ d ∈ v.price?, d.price? = some d := by
  have hprice : ∀ {v : Payload} {d : Decimal}, d ∈ v.price? →
      d.isFinite = true ∧ d.isBelowZero = false := by
    intro v d hd
    simpa [isPrice] using isPrice_of_price? hd
  have hkept : ∀ {negative : Bool} {c : Nat} {e : Int}, isBelowZero (.finite negative c e) = false →
      inRange c e = true → price? (.finite negative c e) = some (.finite negative c e) := by
    intro negative c e hbelow hrange
    have hisPrice : isPrice (.finite negative c e) = true := by
      rw [isPrice, hbelow]
      rfl
    rw [price?_of_isPrice hisPrice, if_pos hrange]
  refine ⟨fun v d hd => hprice hd, fun negative c e hbelow hrange => ?_, fun v d hd => ?_⟩
  · exact ⟨hkept hbelow hrange, (price?_text _).trans (hkept hbelow hrange)⟩
  · obtain ⟨negative, c, e, rfl, hrange⟩ := exists_of_price? hd
    exact hkept (hprice hd).2 hrange

/-- A negative zero with two places, and a number of forty digits with an exponent. -/
theorem price_kept_long :
    (isBelowZero (.finite true 0 (-2)) = false ∧ inRange 0 (-2) = true ∧
      price? (.finite true 0 (-2)) = some (.finite true 0 (-2))) ∧
    (text (.finite false 1234567890123456789012345678901234567890 (-99)) =
        "1.234567890123456789012345678901234567890E-60" ∧
      (Payload.text "1.234567890123456789012345678901234567890E-60").price? =
        some (.finite false 1234567890123456789012345678901234567890 (-99))) := by
  obtain ⟨_, hkept, _⟩ := price_kept
  have hzero : isBelowZero (.finite true 0 (-2)) = false ∧ inRange 0 (-2) = true := by decide
  have hlong : isBelowZero (.finite false 1234567890123456789012345678901234567890 (-99)) = false ∧
      inRange 1234567890123456789012345678901234567890 (-99) = true := by decide +kernel
  have htext : text (.finite false 1234567890123456789012345678901234567890 (-99)) =
      "1.234567890123456789012345678901234567890E-60" := by decide +kernel
  refine ⟨⟨hzero.1, hzero.2, (hkept true 0 (-2) hzero.1 hzero.2).1⟩, htext, ?_⟩
  have hlongPrice := (hkept _ _ _ hlong.1 hlong.2).2
  rwa [htext] at hlongPrice

end Shopfront.Decimal
