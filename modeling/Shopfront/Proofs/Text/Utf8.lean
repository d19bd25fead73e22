import Shopfront.Text.Utf8

/-! UTF-8, both ways. Main statement: decoding accepts the encodings of texts and nothing else, and
gives the text back (`decodeUtf8?_eq_some_iff`). -/

namespace Shopfront.Text

/-- The bytes of a text. -/
def encodeUtf8 (cs : List Char) : List UInt8 := cs.flatMap String.utf8EncodeChar

/-! ## Characters and continuation bytes -/

theorem toNat_ofNat_of_valid {n : Nat} (h : n.isValidChar) : (Char.ofNat n).toNat = n := by
  unfold Char.ofNat
  rw [dif_pos h]
  rfl

theorem scalar?_eq_some_iff {n : Nat} {c : Char} : scalar? n = some c ↔ c.toNat = n := by
  constructor
  · intro h
    unfold scalar? at h
    split at h
    · next hn =>
      rw [← Option.some.inj h]
      exact toNat_ofNat_of_valid (by unfold Nat.isValidChar; omega)
    · cases h
  · rintro rfl
    have hvalid : c.toNat < 0xD800 ∨ 0xDFFF < c.toNat ∧ c.toNat < 0x110000 := c.valid
    rw [scalar?, if_pos (by omega), Char.ofNat_toNat]

theorem continuationBits?_eq_some_iff {b : UInt8} {n : Nat} :
    continuationBits? b = some n ↔ n < 64 ∧ b = UInt8.ofNat (n + 128) := by
  have hb := b.toNat_lt
  rw [← UInt8.toNat_inj, UInt8.toNat_ofNat']
  unfold continuationBits?
  split
  · rw [Option.some_inj]
    omega
  · constructor
    · intro h
      cases h
    · omega

/-! ## One character -/

/-- The bytes of a character by its size. The first byte has the highest bits, the others have six
bits each. -/
inductive Encodes (c : Char) : List UInt8 → Prop
  | one {a} : c.toNat < 0x80 → a.toNat = c.toNat → Encodes c [a]
  | two {a b} : 0x80 ≤ c.toNat → c.toNat < 0x800 → a.toNat = 0xC0 + c.toNat / 64 →
      continuationBits? b = some (c.toNat % 64) → Encodes c [a, b]
  | three {a b d} : 0x800 ≤ c.toNat → c.toNat < 0x10000 → a.toNat = 0xE0 + c.toNat / 4096 →
      continuationBits? b = some (c.toNat / 64 % 64) → continuationBits? d = some (c.toNat % 64) →
      Encodes c [a, b, d]
  | four {a b d e} : 0x10000 ≤ c.toNat → a.toNat = 0xF0 + c.toNat / 262144 →
      continuationBits? b = some (c.toNat / 4096 % 64) →
      continuationBits? d = some (c.toNat / 64 % 64) → continuationBits? e = some (c.toNat % 64) →
      Encodes c [a, b, d, e]

theorem toNat_lt (c : Char) : c.toNat < 0x110000 := by
  have hvalid : c.toNat < 0xD800 ∨ 0xDFFF < c.toNat ∧ c.toNat < 0x110000 := c.valid
  omega

theorem toNat_ofNat_of_lt {n : Nat} (h : n < 256) : (UInt8.ofNat n).toNat = n := by
  rw [UInt8.toNat_ofNat']
  omega

theorem continuationBits?_ofNat (n : Nat) :
    continuationBits? (UInt8.ofNat (n % 64 + 128)) = some (n % 64) :=
  continuationBits?_eq_some_iff.mpr ⟨Nat.mod_lt _ (by decide), rfl⟩

theorem encodes_utf8EncodeChar (c : Char) : Encodes c (String.utf8EncodeChar c) := by
  have hlt := toNat_lt c
  have hn : c.val.toNat = c.toNat := rfl
  simp only [String.utf8EncodeChar, hn]
  split
  · exact .one (by omega) (toNat_ofNat_of_lt (by omega))
  split
  · refine .two (by omega) (by omega) ?_ (continuationBits?_ofNat _)
    rw [toNat_ofNat_of_lt (by omega)]
    omega
  split
  · refine .three (by omega) (by omega) ?_ (continuationBits?_ofNat _) (continuationBits?_ofNat _)
    rw [toNat_ofNat_of_lt (by omega)]
    omega
  · refine .four (by omega) ?_ (continuationBits?_ofNat _) (continuationBits?_ofNat _)
      (continuationBits?_ofNat _)
    rw [toNat_ofNat_of_lt (by omega)]
    omega

theorem eq_of_continuationBits? {b b' : UInt8} {n : Nat} (h : continuationBits? b = some n)
    (h' : continuationBits? b' = some n) : b = b' :=
  (continuationBits?_eq_some_iff.mp h).2.trans (continuationBits?_eq_some_iff.mp h').2.symm

theorem eq_of_toNat {a a' : UInt8} {n : Nat} (h : a.toNat = n) (h' : a'.toNat = n) : a = a' :=
  UInt8.toNat_inj.mp (h.trans h'.symm)

/-- A character has one encoding. -/
theorem Encodes.unique {c : Char} {bs bs' : List UInt8} (h : Encodes c bs) (h' : Encodes c bs') :
    bs = bs' := by
  cases h with
  | one hsize ha =>
    cases h' with
    | one _ ha' => rw [eq_of_toNat ha ha']
    | two | three | four => omega
  | two hlow hhigh ha hb =>
    cases h' with
    | two _ _ ha' hb' => rw [eq_of_toNat ha ha', eq_of_continuationBits? hb hb']
    | one | three | four => omega
  | three hlow hhigh ha hb hd =>
    cases h' with
    | three _ _ ha' hb' hd' =>
      rw [eq_of_toNat ha ha', eq_of_continuationBits? hb hb', eq_of_continuationBits? hd hd']
    | one | two | four => omega
  | four hlow ha hb hd he =>
    cases h' with
    | four _ ha' hb' hd' he' =>
      rw [eq_of_toNat ha ha', eq_of_continuationBits? hb hb', eq_of_continuationBits? hd hd',
        eq_of_continuationBits? he he']
    | one | two | three => omega

theorem encodes_iff {c : Char} {bs : List UInt8} : Encodes c bs ↔ String.utf8EncodeChar c = bs :=
  ⟨(encodes_utf8EncodeChar c).unique, fun h => h ▸ encodes_utf8EncodeChar c⟩

/-! ## Decoding -/

theorem encodes_of_twoByte? {a b : UInt8} {c : Char} (ha : 0xC2 ≤ a.toNat ∧ a.toNat ≤ 0xDF)
    (h : twoByte? a b = some c) : Encodes c [a, b] := by
  obtain ⟨x, hx, hc⟩ := Option.bind_eq_some_iff.mp h
  have hc := scalar?_eq_some_iff.mp hc
  have hlt := (continuationBits?_eq_some_iff.mp hx).1
  refine .two (by omega) (by omega) (by omega) ?_
  rw [hx, Option.some_inj]
  omega

theorem encodes_of_threeByte? {a b d : UInt8} {c : Char} (ha : 0xE0 ≤ a.toNat ∧ a.toNat ≤ 0xEF)
    (h : threeByte? a b d = some c) : Encodes c [a, b, d] := by
  obtain ⟨x, hx, h⟩ := Option.bind_eq_some_iff.mp h
  obtain ⟨y, hy, h⟩ := Option.bind_eq_some_iff.mp h
  have hxlt := (continuationBits?_eq_some_iff.mp hx).1
  have hylt := (continuationBits?_eq_some_iff.mp hy).1
  simp only at h
  split at h
  · cases h
  have hc := scalar?_eq_some_iff.mp h
  refine .three (by omega) (by omega) (by omega) ?_ ?_
  · rw [hx, Option.some_inj]
    omega
  · rw [hy, Option.some_inj]
    omega

theorem encodes_of_fourByte? {a b d e : UInt8} {c : Char} (ha : 0xF0 ≤ a.toNat ∧ a.toNat ≤ 0xF4)
    (h : fourByte? a b d e = some c) : Encodes c [a, b, d, e] := by
  obtain ⟨x, hx, h⟩ := Option.bind_eq_some_iff.mp h
  obtain ⟨y, hy, h⟩ := Option.bind_eq_some_iff.mp h
  obtain ⟨z, hz, h⟩ := Option.bind_eq_some_iff.mp h
  have hxlt := (continuationBits?_eq_some_iff.mp hx).1
  have hylt := (continuationBits?_eq_some_iff.mp hy).1
  have hzlt := (continuationBits?_eq_some_iff.mp hz).1
  simp only at h
  split at h
  · cases h
  have hc := scalar?_eq_some_iff.mp h
  refine .four (by omega) (by omega) ?_ ?_ ?_
  · rw [hx, Option.some_inj]
    omega
  · rw [hy, Option.some_inj]
    omega
  · rw [hz, Option.some_inj]
    omega

/-- A character is decoded from its encoding, whatever follows. -/
theorem Encodes.decode {c : Char} {bs : List UInt8} (h : Encodes c bs) (rest : List UInt8) :
    decodeUtf8? (bs ++ rest) = (decodeUtf8? rest).map (c :: ·) := by
  have hlt := toNat_lt c
  cases h with
  | @one a hsize ha =>
    show decodeUtf8? (a :: rest) = _
    rw [decodeUtf8?.eq_def]
    simp only [ha, if_pos hsize, Char.ofNat_toNat]
  | @two a b hlow hhigh ha hb =>
    have hc : twoByte? a b = some c := by
      refine Option.bind_eq_some_iff.mpr ⟨_, hb, ?_⟩
      rw [scalar?_eq_some_iff]
      omega
    show decodeUtf8? (a :: b :: rest) = _
    rw [decodeUtf8?.eq_def]
    simp only
    rw [if_neg (by omega), if_pos (by omega), hc]
    rfl
  | @three a b d hlow hhigh ha hb hd =>
    have hc : threeByte? a b d = some c := by
      refine Option.bind_eq_some_iff.mpr ⟨_, hb, Option.bind_eq_some_iff.mpr ⟨_, hd, ?_⟩⟩
      simp only
      rw [if_neg (by omega), scalar?_eq_some_iff]
      omega
    show decodeUtf8? (a :: b :: d :: rest) = _
    rw [decodeUtf8?.eq_def]
    simp only
    rw [if_neg (by omega), if_neg (by omega), if_pos (by omega), hc]
    rfl
  | @four a b d e hlow ha hb hd he =>
    have hc : fourByte? a b d e = some c := by
      refine Option.bind_eq_some_iff.mpr ⟨_, hb, Option.bind_eq_some_iff.mpr ⟨_, hd, ?_⟩⟩
      refine Option.bind_eq_some_iff.mpr ⟨_, he, ?_⟩
      simp only
      rw [if_neg (by omega), scalar?_eq_some_iff]
      omega
    show decodeUtf8? (a :: b :: d :: e :: rest) = _
    rw [decodeUtf8?.eq_def]
    simp only
    rw [if_neg (by omega), if_neg (by omega), if_neg (by omega), if_pos (by omega), hc]
    rfl

theorem decodeUtf8?_encodeUtf8 (cs : List Char) : decodeUtf8? (encodeUtf8 cs) = some cs := by
  induction cs with
  | nil => rfl
  | cons c cs ih =>
    rw [encodeUtf8, List.flatMap_cons, (encodes_utf8EncodeChar c).decode]
    rw [encodeUtf8] at ih
    rw [ih]
    rfl

theorem eq_encodeUtf8_cons {c : Char} {bs rest : List UInt8} {cs : List Char} (h : Encodes c bs)
    (hrest : rest = encodeUtf8 cs) : bs ++ rest = encodeUtf8 (c :: cs) := by
  rw [encodeUtf8, List.flatMap_cons, encodes_iff.mp h, hrest, encodeUtf8]

theorem eq_encodeUtf8_of_decodeUtf8? {bytes : List UInt8} {cs : List Char}
    (h : decodeUtf8? bytes = some cs) : bytes = encodeUtf8 cs := by
  -- a case for each length of the first character, and the cases that refuse the bytes
  fun_induction decodeUtf8? bytes generalizing cs with
  | case1 =>
    cases h
    rfl
  | case2 a r ha ih =>
    obtain ⟨cs, hcs, rfl⟩ := Option.map_eq_some_iff.mp h
    have hnat : (Char.ofNat a.toNat).toNat = a.toNat :=
      toNat_ofNat_of_valid (by unfold Nat.isValidChar; omega)
    exact eq_encodeUtf8_cons (.one (by omega) hnat.symm) (ih hcs)
  | case4 a _ b r ha ih =>
    obtain ⟨c, hc, h⟩ := Option.bind_eq_some_iff.mp h
    obtain ⟨cs, hcs, rfl⟩ := Option.map_eq_some_iff.mp h
    exact eq_encodeUtf8_cons (encodes_of_twoByte? ha hc) (ih hcs)
  | case6 a _ b _ d r ha ih =>
    obtain ⟨c, hc, h⟩ := Option.bind_eq_some_iff.mp h
    obtain ⟨cs, hcs, rfl⟩ := Option.map_eq_some_iff.mp h
    exact eq_encodeUtf8_cons (encodes_of_threeByte? ha hc) (ih hcs)
  | case8 a _ b _ d _ e r ha ih =>
    obtain ⟨c, hc, h⟩ := Option.bind_eq_some_iff.mp h
    obtain ⟨cs, hcs, rfl⟩ := Option.map_eq_some_iff.mp h
    exact eq_encodeUtf8_cons (encodes_of_fourByte? ha hc) (ih hcs)
  | case3 | case5 | case7 | case9 => cases h

/-- Decoding accepts the encodings of texts and nothing else. -/
theorem decodeUtf8?_eq_some_iff {bytes : List UInt8} {cs : List Char} :
    decodeUtf8? bytes = some cs ↔ bytes = encodeUtf8 cs :=
  ⟨eq_encodeUtf8_of_decodeUtf8?, fun h => h ▸ decodeUtf8?_encodeUtf8 cs⟩

end Shopfront.Text
