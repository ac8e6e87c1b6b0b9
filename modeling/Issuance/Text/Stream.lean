import Issuance.Text.Blank
import Issuance.Text.Utf8

/-!
# Issuance.Text.Stream

**Reading text in blocks.** A reader that takes lines from a file of UTF-8 decodes it block by
block. Where the file is not UTF-8, `Stream.linesBeforeFault` are the lines that it hands out
before it comes upon the fault: those that end in blocks before the one in which the fault
shows, or all that end at all if the file only breaks off inside a sequence.
-/

namespace Issuance

namespace Stream

/-- Bytes of a block. -/
def blockSize : Nat := 8192

/-- Where decoding goes wrong: the text before, and how many bytes are left from the byte that
does not fit on. None are left if the bytes break off inside a sequence, or do not go wrong. -/
def untilFault : Bytes → Text × Nat
  | [] => ([], 0)
  | b :: bs =>
    match (Utf8.scalar? false b bs).1 with
    | some n =>
      let after := untilFault (Utf8.scalar? false b bs).2
      (CodePoint.ofNat n :: after.1, after.2)
    | none =>
      if (Utf8.lead? false b).isSome then ([], (Utf8.scalar? false b bs).2.length)
      else ([], bs.length + 1)
  termination_by bs => bs.length
  decreasing_by exact Nat.lt_succ_of_le (Utf8.length_scalar?_le ..)

/-- The text that is decoded before the fault shows. -/
def textBeforeFault (bs : Bytes) : Text :=
  let (t, left) := untilFault bs
  if left = 0 then t
  else (untilFault (bs.take ((bs.length - left) / blockSize * blockSize))).1

/-- The lines of a text that a line break ends. A carriage return at the very end does not end a
line yet, since a line feed may follow. -/
def endedLines (t : Text) : List Text :=
  let settled := if t.getLast? = some (CodePoint.ofNat 0x0D) then t.dropLast else t
  (Text.lines settled).dropLast

/-- The lines that are handed out before the fault. -/
def linesBeforeFault (bs : Bytes) : List Text := endedLines (textBeforeFault bs)

end Stream

end Issuance
