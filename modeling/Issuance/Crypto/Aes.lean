import Issuance.Bytes.Basic

/-!
# Issuance.Crypto.Aes

**AES** with keys of 256 bits, in the forward direction, which is all that counter modes need.
A state is its sixteen bytes column by column. The substitution is computed from its definition:
the inverse in the field of 256 elements, then an affine map.
-/

namespace Issuance

namespace Aes

/-- Doubling in the field. -/
def double (b : UInt8) : UInt8 := if b < 0x80 then b <<< 1 else (b <<< 1) ^^^ 0x1B

/-- The product in the field, by the bits of the second factor. -/
def mul (a b : UInt8) : UInt8 :=
  (List.range 8).reverse.foldl (fun p i =>
    if (b >>> UInt8.ofNat i) &&& 1 = 1 then double p ^^^ a else double p) 0

/-- The inverse in the field, and zero for zero: the power with exponent 254. -/
def inverse (a : UInt8) : UInt8 :=
  let sq (x : UInt8) : UInt8 := mul x x
  (List.range 7).foldl (fun acc _ => mul (sq acc) a) 1 |> sq

/-- A byte turned to the left. -/
def rotate (b : UInt8) (n : UInt8) : UInt8 := (b <<< n) ||| (b >>> (8 - n))

/-- The substitution of a byte, computed. -/
def substituted (a : UInt8) : UInt8 :=
  let b := inverse a
  b ^^^ rotate b 1 ^^^ rotate b 2 ^^^ rotate b 3 ^^^ rotate b 4 ^^^ 0x63

/-- The substitution of every byte. -/
def box : Array UInt8 := Array.ofFn fun (i : Fin 256) => substituted (UInt8.ofNat i)

/-- The substitution of a byte, looked up. -/
def substitute (a : UInt8) : UInt8 := box.getD a.toNat 0

/-- The next eight words of a key schedule after eight words, with a constant for the first. -/
def nextWords (constant : UInt8) (words : List Bytes) : List Bytes :=
  let last := words.getLastD []
  let first := match last with
    | a :: rest => match (rest ++ [a]).map substitute with
      | b :: bs => (b ^^^ constant) :: bs
      | [] => []
    | [] => []
  go 0 first words
where
  /-- Each word is the exclusive or of the one eight places before and the one just before; the
  fifth goes through the substitution first. -/
  go (i : Nat) (carry : Bytes) : List Bytes → List Bytes
    | [] => []
    | w :: ws =>
      let carry := if i = 4 then carry.map substitute else carry
      let next := Bytes.xor w carry
      next :: go (i + 1) next ws

/-- The words of the schedule from eight words on. -/
def expand : Nat → UInt8 → List Bytes → List Bytes
  | 0, _, words => words
  | steps + 1, constant, words =>
    words ++ expand steps (double constant) (nextWords constant words)

/-- The fifteen round keys of a key of 32 bytes. -/
def roundKeys (key : Bytes) : List Bytes :=
  (Bytes.blocks 16 ((expand 7 1 (Bytes.blocks 4 key)).flatten)).take 15

/-- Row `r` of the state moves `r` columns to the left. -/
def shiftRows (state : Bytes) : Bytes :=
  let a := state.toArray
  (List.range 16).map fun i => a.getD ((i + 4 * (i % 4)) % 16) 0

/-- A column times the matrix of the cipher. -/
def mixColumn : Bytes → Bytes
  | [a, b, c, d] =>
    let all := a ^^^ b ^^^ c ^^^ d
    [a ^^^ all ^^^ double (a ^^^ b), b ^^^ all ^^^ double (b ^^^ c),
      c ^^^ all ^^^ double (c ^^^ d), d ^^^ all ^^^ double (d ^^^ a)]
  | column => column

/-- All columns mixed. -/
def mixColumns (state : Bytes) : Bytes := (Bytes.blocks 4 state).flatMap mixColumn

/-- The rounds after the first key. The last does not mix the columns. -/
def rounds : List Bytes → Bytes → Bytes
  | [], state => state
  | [key], state => Bytes.xor (shiftRows (state.map substitute)) key
  | key :: next :: keys, state =>
    rounds (next :: keys) (Bytes.xor (mixColumns (shiftRows (state.map substitute))) key)

/-- A block of sixteen bytes enciphered under round keys. -/
def encipher (keys : List Bytes) (block : Bytes) : Bytes :=
  match keys with
  | [] => block
  | key :: keys => rounds keys (Bytes.xor block key)

end Aes

end Issuance
