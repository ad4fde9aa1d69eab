/-
Reading UTF-8.

`Utf8.decode` turns bytes into characters and reports each ill-formed part,
the longest start of a character that the next byte does not continue, as one
`none`.  From it come the two ways to read a file:

* `Utf8.decodeLossy` — every ill-formed part becomes U+FFFD;
* `Utf8.decode?` — a text only if there is no ill-formed part.
-/
import DocTree.Text.Basic

namespace DocTree.Utf8

/-- A character of which some bytes have been read: how many are to come after
the next one, the range in which the next one lies, and the bits so far. -/
structure Pending where
  more : Nat
  lo : Nat
  hi : Nat
  bits : Nat

/-- What a byte that starts a character gives. -/
inductive Start where
  | char (c : Char)
  | pending (p : Pending)
  | illFormed

/-- Reads the first byte of a character.  The range of the second byte excludes
overlong forms, surrogates and code points beyond U+10FFFF. -/
def start (b : Nat) : Start :=
  if b < 0x80 then .char (Char.ofNat b)
  else if b < 0xC2 then .illFormed
  else if b < 0xE0 then .pending ⟨0, 0x80, 0xBF, b % 0x20⟩
  else if b < 0xF0 then
    .pending ⟨1, if b = 0xE0 then 0xA0 else 0x80, if b = 0xED then 0x9F else 0xBF, b % 0x10⟩
  else if b < 0xF5 then
    .pending ⟨2, if b = 0xF0 then 0x90 else 0x80, if b = 0xF4 then 0x8F else 0xBF, b % 0x08⟩
  else .illFormed

/-- Decodes bytes, where a character may already have been begun. -/
def decodeFrom : Option Pending → List UInt8 → List (Option Char)
  | none, [] => []
  | some _, [] => [none]
  | none, b :: rest =>
    match start b.toNat with
    | .char c => some c :: decodeFrom none rest
    | .pending p => decodeFrom (some p) rest
    | .illFormed => none :: decodeFrom none rest
  | some p, b :: rest =>
    if p.lo ≤ b.toNat ∧ b.toNat ≤ p.hi then
      let bits := p.bits * 0x40 + b.toNat % 0x40
      match p.more with
      | 0 => some (Char.ofNat bits) :: decodeFrom none rest
      | more + 1 => decodeFrom (some ⟨more, 0x80, 0xBF, bits⟩) rest
    else
      -- the begun character is ill-formed, and the byte starts anew
      none ::
        match start b.toNat with
        | .char c => some c :: decodeFrom none rest
        | .pending q => decodeFrom (some q) rest
        | .illFormed => none :: decodeFrom none rest

/-- The characters of a byte string, `none` for each ill-formed part. -/
def decode (bytes : List UInt8) : List (Option Char) := decodeFrom none bytes

/-- The text of a byte string, with U+FFFD for each ill-formed part. -/
def decodeLossy (bytes : List UInt8) : Text :=
  (decode bytes).map fun c => c.getD '\ufffd'

/-- The text of a byte string that has no ill-formed part. -/
def decode? (bytes : List UInt8) : Option Text := (decode bytes).mapM id

/-- Bytes below 0x80 stand for themselves. -/
theorem decode_ascii (bytes : List UInt8) (h : ∀ b ∈ bytes, b.toNat < 0x80) :
    decode bytes = bytes.map fun b => some (Char.ofNat b.toNat) := by
  unfold decode
  induction bytes with
  | nil => rfl
  | cons b rest ih =>
    have hb := h b (by simp)
    simp only [decodeFrom, start, hb, if_true, List.map_cons]
    rw [ih fun x hx => h x (by simp [hx])]

end DocTree.Utf8
