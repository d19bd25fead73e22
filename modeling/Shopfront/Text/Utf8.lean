/-! Strict UTF-8 decoding and line ends. Overlong forms, surrogates, code points above U+10FFFF and
truncated sequences are refused. -/

namespace Shopfront.Text

/-- The six payload bits of a continuation byte. -/
def continuationBits? (b : UInt8) : Option Nat :=
  if 0x80 ≤ b.toNat ∧ b.toNat ≤ 0xBF then some (b.toNat - 0x80) else none

def scalar? (n : Nat) : Option Char :=
  if n < 0xD800 ∨ (0xE000 ≤ n ∧ n < 0x110000) then some (Char.ofNat n) else none

def twoByte? (a b : UInt8) : Option Char := do
  let x ← continuationBits? b
  scalar? ((a.toNat - 0xC0) * 64 + x)

def threeByte? (a b c : UInt8) : Option Char := do
  let x ← continuationBits? b
  let y ← continuationBits? c
  let n := (a.toNat - 0xE0) * 4096 + x * 64 + y
  if n < 0x800 then none else scalar? n

def fourByte? (a b c d : UInt8) : Option Char := do
  let x ← continuationBits? b
  let y ← continuationBits? c
  let z ← continuationBits? d
  let n := (a.toNat - 0xF0) * 262144 + x * 4096 + y * 64 + z
  if n < 0x10000 then none else scalar? n

def decodeUtf8? : List UInt8 → Option (List Char)
  | [] => some []
  | a :: r₁ =>
    if a.toNat < 0x80 then (decodeUtf8? r₁).map (Char.ofNat a.toNat :: ·)
    else
      match r₁ with
      | [] => none
      | b :: r₂ =>
        if 0xC2 ≤ a.toNat ∧ a.toNat ≤ 0xDF then do
          let ch ← twoByte? a b
          (decodeUtf8? r₂).map (ch :: ·)
        else
          match r₂ with
          | [] => none
          | c :: r₃ =>
            if 0xE0 ≤ a.toNat ∧ a.toNat ≤ 0xEF then do
              let ch ← threeByte? a b c
              (decodeUtf8? r₃).map (ch :: ·)
            else
              match r₃ with
              | [] => none
              | d :: r₄ =>
                if 0xF0 ≤ a.toNat ∧ a.toNat ≤ 0xF4 then do
                  let ch ← fourByte? a b c d
                  (decodeUtf8? r₄).map (ch :: ·)
                else none

/-- Every line end becomes one line feed. -/
def unifyNewlines : List Char → List Char
  | [] => []
  | '\r' :: '\n' :: rest => '\n' :: unifyNewlines rest
  | '\r' :: rest => '\n' :: unifyNewlines rest
  | c :: rest => c :: unifyNewlines rest

example : decodeUtf8? [0xC3, 0xA9] = some ['é'] ∧ decodeUtf8? [0xC0, 0x80] = none ∧
    decodeUtf8? [0xED, 0xA0, 0x80] = none ∧ decodeUtf8? [0xE2, 0x82] = none := by decide

end Shopfront.Text
