/-!
# Reading UTF-8

Every byte sequence reads as a text: each longest beginning of a character that
is not continued as it must be, and each byte that begins none, reads as U+FFFD.
-/

namespace RefactorAudit.Text.Utf8

def replacement : Char := '\ufffd'

/-- A character of which some bytes have been read: `owed` more are due, the next
one between `least` and `most`, and the bits read so far are `bits`. -/
structure Open where
  owed : Nat
  least : Nat
  most : Nat
  bits : Nat

/-- What a byte means between two characters. -/
inductive Lead where
  | char (c : Char)
  | opens (o : Open)
  | invalid

def lead (b : Nat) : Lead :=
  if b < 0x80 then .char (Char.ofNat b)
  else if b < 0xC2 then .invalid
  else if b < 0xE0 then .opens ⟨1, 0x80, 0xBF, b - 0xC0⟩
  else if b < 0xF0 then
    .opens ⟨2, if b = 0xE0 then 0xA0 else 0x80, if b = 0xED then 0x9F else 0xBF, b - 0xE0⟩
  else if b < 0xF5 then
    .opens ⟨3, if b = 0xF0 then 0x90 else 0x80, if b = 0xF4 then 0x8F else 0xBF, b - 0xF0⟩
  else .invalid

/-- Reads bytes after the characters `done` (last first) and the beginning `open?`
of a character. -/
def decodeFrom (done : List Char) (open? : Option Open) : List UInt8 → List Char
  | [] => (if open?.isSome then replacement :: done else done).reverse
  | b :: rest =>
    let fresh (done : List Char) : List Char × Option Open :=
      match lead b.toNat with
      | .char c => (c :: done, none)
      | .opens o => (done, some o)
      | .invalid => (replacement :: done, none)
    let next : List Char × Option Open :=
      match open? with
      | none => fresh done
      | some o =>
        if o.least ≤ b.toNat ∧ b.toNat ≤ o.most then
          let bits := o.bits * 64 + (b.toNat - 0x80)
          if o.owed = 1 then (Char.ofNat bits :: done, none)
          else (done, some ⟨o.owed - 1, 0x80, 0xBF, bits⟩)
        else fresh (replacement :: done)
    decodeFrom next.1 next.2 rest

def decode (bytes : List UInt8) : String := String.ofList (decodeFrom [] none bytes)

end RefactorAudit.Text.Utf8
