import Issuance.Bytes.Basic

/-!
# Issuance.Crypto.Hash

A **hash function** with the sizes that constructions on top of it need, and the two that need
no more than that: the keyed hash **HMAC** and the mask generation function **MGF1**.
-/

namespace Issuance

/-- A hash function of messages of bytes. -/
structure Hash where
  digest : Bytes → Bytes
  /-- Bytes of a digest. -/
  digestSize : Nat
  /-- Bytes that one step of the function takes in. -/
  blockSize : Nat

namespace Hash

/-- The key of a keyed hash, brought to the size of a block. -/
def blockKey (h : Hash) (key : Bytes) : Bytes :=
  let k := if h.blockSize < key.length then h.digest key else key
  k ++ List.replicate (h.blockSize - k.length) 0

/-- HMAC. -/
def hmac (h : Hash) (key message : Bytes) : Bytes :=
  let k := h.blockKey key
  let inner := h.digest (k.map (· ^^^ 0x36) ++ message)
  h.digest (k.map (· ^^^ 0x5C) ++ inner)

/-- The first `length` bytes of the digests of a seed with a counter. -/
def mask (h : Hash) (seed : Bytes) (length : Nat) : Bytes :=
  let count := (length + h.digestSize - 1) / h.digestSize
  ((List.range count).flatMap fun i => h.digest (seed ++ Bytes.ofNat 4 i)).take length

end Hash

end Issuance
