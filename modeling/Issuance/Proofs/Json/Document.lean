import Issuance.Json.Encoded
import Issuance.Proofs.Json.RoundTrip
import Issuance.Proofs.Text.Ascii

/-!
# Issuance.Proofs.Json.Document

JSON objects in ASCII. Such a document begins with a brace and has no zero bytes, so it is taken
for UTF-8, and its text is what was written. Inside it a string of plain characters is written as it
stands (`writeString_of_isPlain`), and an object of such strings has them for its members
(`read?_objectText`).
-/

namespace Issuance

namespace Json

/-- ASCII text without the null character. -/
def IsPlainDocument (t : Text) : Prop := ∀ c ∈ t, c.isAscii = true ∧ c.value ≠ 0

instance : DecidablePred IsPlainDocument := fun t =>
  inferInstanceAs (Decidable (∀ c ∈ t, c.isAscii = true ∧ c.value ≠ 0))

theorem IsPlainDocument.isAscii {t : Text} (h : IsPlainDocument t) : Text.isAscii t = true :=
  Text.isAscii_iff.2 fun c hc => (h c hc).1

/-- The bytes of such a text are not zero. -/
theorem IsPlainDocument.byte {t : Text} (h : IsPlainDocument t) {b : UInt8}
    (hb : b ∈ Bytes.ofAscii t) : b ≠ 0 := by
  obtain ⟨c, hc, rfl⟩ := List.mem_map.1 hb
  obtain ⟨hascii, hne⟩ := h c hc
  have hnat := CodePoint.toNat_ofNat_value hascii
  intro heq
  rw [heq] at hnat
  exact hne hnat.symm

/-- Bytes that begin with a brace and have no zero among them are taken for UTF-8. -/
theorem documentText?_brace {bs : Bytes} (h : ∀ b ∈ bs, b ≠ 0) :
    documentText? (0x7B :: bs) = Utf8.decodeWide? (0x7B :: bs) := by
  match bs, h with
  | [], _ => rfl
  | [b], h =>
    show (if (0x7B : UInt8) = 0 then Utf16.decode? .bigEndian [0x7B, b]
      else if b = 0 then Utf16.decode? .littleEndian [0x7B, b]
      else Utf8.decodeWide? [0x7B, b]) = _
    rw [if_neg (by decide), if_neg (h b (by simp))]
  | [b, c], _ => rfl
  | b :: c :: d :: rest, h =>
    show (if (0x7B : UInt8) = 0 then
        if b = 0 then Utf32.decode? .bigEndian (0x7B :: b :: c :: d :: rest)
        else Utf16.decode? .bigEndian (0x7B :: b :: c :: d :: rest)
      else if b = 0 then
        if c = 0 ∧ d = 0 then Utf32.decode? .littleEndian (0x7B :: b :: c :: d :: rest)
        else Utf16.decode? .littleEndian (0x7B :: b :: c :: d :: rest)
      else Utf8.decodeWide? (0x7B :: b :: c :: d :: rest)) = _
    rw [if_neg (by decide), if_neg (h b (by simp))]

/-- A document in ASCII that begins with a brace has the value of its text. -/
theorem ofBytes_ascii {t : Text} (h : IsPlainDocument t) (hbrace : t.head? = some '{') {v : Json}
    (hv : read? t = some v) : ofBytes (Bytes.ofAscii t) = .ok v := by
  obtain ⟨rest, rfl⟩ := List.head?_eq_some_iff.1 hbrace
  have hbytes : Bytes.ofAscii (('{' : CodePoint) :: rest) = 0x7B :: Bytes.ofAscii rest := rfl
  have htext : documentText? (Bytes.ofAscii (('{' : CodePoint) :: rest)) =
      some (('{' : CodePoint) :: rest) := by
    rw [hbytes, documentText?_brace, ← hbytes, Utf8.decodeWide?_ascii h.isAscii]
    exact fun b hb => h.byte (List.mem_cons_of_mem _ hb)
  unfold ofBytes
  rw [htext]
  dsimp only
  rw [hv]

/-! ### Objects of plain strings -/

/-- A character that stands for itself in a string. -/
def isPlain (c : CodePoint) : Bool := c ≠ '"' && c ≠ '\\' && 0x20 ≤ c.value

/-- A member as it is written, name and value being plain. -/
def memberText (m : Text × Text) : Text :=
  ('"' : CodePoint) :: (m.1 ++ ('"' : CodePoint) :: ':' :: '"' :: (m.2 ++ [('"' : CodePoint)]))

/-- An object as it is written without spaces. -/
def objectText (members : List (Text × Text)) : Text :=
  ('{' : CodePoint) :: (Text.joined "," (members.map memberText) ++ [('}' : CodePoint)])

/-- The members with their values. -/
def stringMembers (members : List (Text × Text)) : List (Text × Json) :=
  members.foldl (fun done m => Entries.set m.1 (.str m.2) done) []

/-- A name and a value that stand for themselves. -/
def IsPlainMember (m : Text × Text) : Prop :=
  (∀ c ∈ m.1, isPlain c = true) ∧ ∀ c ∈ m.2, isPlain c = true

instance : DecidablePred IsPlainMember := fun m =>
  inferInstanceAs (Decidable ((∀ c ∈ m.1, isPlain c = true) ∧ ∀ c ∈ m.2, isPlain c = true))

theorem writePoint_of_isPlain {c : CodePoint} (h : isPlain c = true) : writePoint false c = [c] := by
  simp only [isPlain, Bool.and_eq_true, decide_eq_true_eq] at h
  obtain ⟨⟨hquote, hescape⟩, hcontrol⟩ := h
  unfold writePoint shortEscape?
  rw [if_neg hquote, if_neg hescape, if_neg (by omega), if_neg (by omega), if_neg (by omega),
    if_neg (by omega), if_neg (by omega)]
  dsimp only
  rw [if_neg (by omega), if_pos (by rfl)]

theorem writeString_of_isPlain {t : Text} (h : ∀ c ∈ t, isPlain c = true) :
    writeString false t = ('"' : CodePoint) :: (t ++ [('"' : CodePoint)]) := by
  have hbody : t.flatMap (writePoint false) = t := by
    induction t with
    | nil => rfl
    | cons c t ih =>
      rw [List.flatMap_cons, writePoint_of_isPlain (h c List.mem_cons_self),
        ih fun d hd => h d (List.mem_cons_of_mem c hd)]
      rfl
  unfold writeString
  rw [hbody]
  rfl

/-- An object of plain strings, as it is written. -/
theorem objectText_eq {members : List (Text × Text)} (h : ∀ m ∈ members, IsPlainMember m) :
    objectText members = write .inOrder (.obj (members.map fun m => (m.1, .str m.2))) := by
  have hmembers : members.map memberText =
      (members.map fun m => (m.1, Json.str m.2)).map memberOf := by
    rw [List.map_map]
    refine List.map_congr_left fun m hm => ?_
    obtain ⟨hkey, hvalue⟩ := h m hm
    show memberText m = writeString false m.1 ++ ":" ++ write .inOrder (.str m.2)
    rw [write, writeString_of_isPlain hkey]
    show _ = _ ++ _ ++ writeString false m.2
    rw [writeString_of_isPlain hvalue]
    simp only [memberText, List.cons_append, List.append_assoc]
    rfl
  unfold objectText
  rw [hmembers, write_obj]
  simp only [List.append_assoc]
  rfl

/-- Distinct names are appended one after the other. -/
theorem stringMembers_of_nodup {members : List (Text × Text)}
    (hnodup : (members.map Prod.fst).Nodup) :
    stringMembers members = members.map fun m => (m.1, .str m.2) := by
  have hfold : ∀ done : List (Text × Json), (Entries.keys done ++ members.map Prod.fst).Nodup →
      members.foldl (fun done m => Entries.set m.1 (.str m.2) done) done =
        done ++ members.map fun m => (m.1, .str m.2) := by
    clear hnodup
    induction members with
    | nil => exact fun done _ => (List.append_nil done).symm
    | cons m members ih =>
      intro done hnodup
      have hset : Entries.set m.1 (.str m.2) done = done ++ [(m.1, .str m.2)] :=
        Entries.set_of_nodup hnodup (.str m.2)
      rw [List.foldl_cons, hset, ih]
      · rw [List.append_assoc]
        rfl
      · unfold Entries.keys at hnodup ⊢
        simpa using hnodup
  exact hfold [] hnodup

/-- **An object of plain strings is read as it is written.** -/
theorem read?_objectText {members : List (Text × Text)} (hnodup : (members.map Prod.fst).Nodup)
    (h : ∀ m ∈ members, IsPlainMember m) :
    read? (objectText members) = some (.obj (stringMembers members)) := by
  have hdistinct : HasDistinctKeys (.obj (members.map fun m => (m.1, .str m.2))) := by
    refine .obj ?_ fun m hm => ?_
    · unfold Entries.keys
      rw [List.map_map]
      exact hnodup
    · obtain ⟨n, -, rfl⟩ := List.mem_map.1 hm
      exact .str n.2
  rw [objectText_eq h, read?_write hdistinct, stringMembers_of_nodup hnodup]

end Json

end Issuance
