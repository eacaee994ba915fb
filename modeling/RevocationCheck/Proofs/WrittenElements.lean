import RevocationCheck.Oid
import RevocationCheck.Proofs.Locality
import RevocationCheck.Proofs.OctetNumbers

/-!
# Elements in writing

The distinguished encoding of an element: its tag in the identifier octets, the length of its
content in the fewest octets, and the content.  The readers take back what has been written, with
any octets behind it (`Takes`):

* `takes_encode`: the reader of elements, if tag and content are of a size that it knows;
* `takes_constructed` and `readSerial_encode`: the readers of contents;
* `tiled_flatMap`: repeated reading, where each item is taken back.

No content of more than 2^64 octets can be read.  The encodings that fit (`Fits`) have parts that
do, so it is enough to ask it of the whole.
-/

namespace RevocationCheck

namespace Octets

/-- The octets are few enough for their number to be written as a length. -/
def Fits (bs : Octets) : Prop := bs.length < Word.bound

instance (bs : Octets) : Decidable (Fits bs) := inferInstanceAs (Decidable (_ < _))

theorem Fits.of_le {bs part : Octets} (h : Fits bs) (hle : part.length ≤ bs.length) :
    Fits part :=
  Nat.lt_of_le_of_lt hle h

theorem Fits.left {bs cs : Octets} (h : Fits (bs ++ cs)) : Fits bs :=
  h.of_le (by simp)

theorem Fits.right {bs cs : Octets} (h : Fits (bs ++ cs)) : Fits cs :=
  h.of_le (by simp)

theorem Fits.mem_flatMap {α : Type} {xs : List α} {f : α → Octets} (h : Fits (xs.flatMap f))
    {x : α} (hx : x ∈ xs) : Fits (f x) := by
  obtain ⟨before, behind, rfl⟩ := List.append_of_mem hx
  rw [List.flatMap_append, List.flatMap_cons] at h
  exact h.right.left

end Octets

namespace Der

open Octets (Fits)

/-! ### Writing -/

/-- The number of a class in the two high bits of an identifier octet. -/
def TagClass.number : TagClass → Nat
  | .universal => 0
  | .application => 1
  | .contextSpecific => 2
  | .privateUse => 3

/-- The identifier octets; a tag above 30 stands behind the first of them. -/
def Element.identifier (e : Element) : Octets :=
  let form := 64 * e.tagClass.number + if e.constructed then 32 else 0
  if e.tag < 31 then [UInt8.ofNat (form + e.tag)]
  else UInt8.ofNat (form + 31) :: Oid.arcOctets e.tag

/-- The fewest octets in which a number above zero can be written. -/
def octetCount (n : Nat) : Nat := Nat.log2 n / 8 + 1

/-- A length in the fewest octets. -/
def encodeLength (n : Nat) : Octets :=
  if n < 128 then [UInt8.ofNat n]
  else UInt8.ofNat (128 + octetCount n) :: Octets.ofNat (octetCount n) n

/-- The encoding of an element. -/
def Element.encode (e : Element) : Octets :=
  e.identifier ++ (encodeLength e.content.length ++ e.content)

/-- An element of a universal type that contains others. -/
def constructed (tag : Nat) (content : Octets) : Element := ⟨.universal, true, tag, content⟩

/-- An element of a universal type that contains no others. -/
def primitive (tag : Nat) (content : Octets) : Element := ⟨.universal, false, tag, content⟩

/-- The encoding of an element that may be left out. -/
def encodeOption : Option Element → Octets
  | none => []
  | some e => e.encode

example : (constructed tagSequence [5, 0]).encode = [0x30, 2, 5, 0] := by decide
example : encodeLength 200 = [0x81, 200] := by decide
example : encodeLength 256 = [0x82, 1, 0] := by decide

/-! ### Lengths -/

theorem lt_pow_octetCount (n : Nat) : n < 256 ^ octetCount n := by
  have hlog : n < 2 ^ (n.log2 + 1) := Nat.lt_log2_self
  calc n < 2 ^ (n.log2 + 1) := hlog
    _ ≤ 2 ^ (8 * octetCount n) := Nat.pow_le_pow_right (by decide) (by unfold octetCount; omega)
    _ = 256 ^ octetCount n := Nat.pow_mul 2 8 (octetCount n)

/-- No number of octets that is enough for a number is less than the count. -/
theorem octetCount_le {n k : Nat} (hpos : 0 < n) (h : n < 256 ^ k) : octetCount n ≤ k := by
  have hbits : n < 2 ^ (8 * k) := by
    rw [Nat.pow_mul]
    exact h
  have hlog : n.log2 < 8 * k := (Nat.log2_lt (by omega)).mpr hbits
  unfold octetCount
  omega

theorem takes_encodeLength {n : Nat} (h : n < Word.bound) :
    Takes readLength (encodeLength n) (some n) := by
  intro rest
  unfold encodeLength
  split
  · rename_i hshort
    have hfirst : (UInt8.ofNat n).toNat = n := by
      rw [UInt8.toNat_ofNat']
      omega
    simp [readLength, hfirst, hshort]
  · -- At most eight digits follow, so that the first octet is none of the reserved ones.
    have hcount : octetCount n ≤ 8 := octetCount_le (by omega) h
    have hpositive : 0 < octetCount n := Nat.succ_pos _
    have hfirst : (UInt8.ofNat (128 + octetCount n)).toNat = 128 + octetCount n := by
      rw [UInt8.toNat_ofNat']
      omega
    have hsplit : Octets.split? (octetCount n) (Octets.ofNat (octetCount n) n ++ rest) =
        some (Octets.ofNat (octetCount n) n, rest) := by
      have hlength := Octets.length_ofNat (octetCount n) n
      rw [show Octets.split? (octetCount n) = Octets.split? (Octets.ofNat (octetCount n) n).length
        from congrArg _ hlength.symm]
      exact Octets.split?_append
    rw [List.cons_append, readLength]
    simp only [hfirst, Nat.add_sub_cancel_left, hsplit, Octets.toNat_ofNat (lt_pow_octetCount n)]
    rw [if_neg (by omega), if_neg (by omega), if_neg (by omega), if_pos h]

/-! ### Tags -/

theorem two_pow_32 : Nat.pow 2 32 = 4294967296 := rfl

theorem length_leading {k n : Nat} (h : n < 128 ^ k) : (Oid.arcOctets.leading n).length ≤ k := by
  induction k generalizing n with
  | zero =>
      have hzero : n = 0 := by simpa using h
      rw [hzero, Oid.arcOctets.leading]
      simp
  | succ k ih =>
      rw [Oid.arcOctets.leading]
      split
      · simp
      · have hhigh : n / 128 < 128 ^ k := by
          rw [Nat.div_lt_iff_lt_mul (by decide), ← Nat.pow_succ]
          exact h
        have := ih hhigh
        simp only [List.length_append, List.length_singleton]
        omega

/-- The groups that others follow are read as the number that they spell. -/
theorem readLongTag_leading (n limit : Nat) (h : n < 2 ^ 32) (rest : Octets) :
    readLongTag 0 ((Oid.arcOctets.leading n).length + limit) (Oid.arcOctets.leading n ++ rest) =
      readLongTag n limit rest := by
  -- All groups but the last spell `n / 128`; one more octet makes `n` of it.
  induction n using Nat.strongRecOn generalizing limit rest with
  | ind n ih =>
      rw [Oid.arcOctets.leading]
      split
      · rename_i hzero
        simp [hzero]
      · have hhigh : n / 128 < n := by omega
        have hgroup : (UInt8.ofNat (128 + n % 128)).toNat = 128 + n % 128 := by
          rw [UInt8.toNat_ofNat']
          omega
        have hvalue : (128 * (n / 128) + (128 + n % 128) % 128) % Nat.pow 2 32 = n := by
          rw [two_pow_32]
          omega
        have hstep := ih (n / 128) hhigh (limit + 1) (by omega)
          (UInt8.ofNat (128 + n % 128) :: rest)
        rw [readLongTag] at hstep
        simp only [hgroup, hvalue] at hstep
        rw [if_neg (by omega)] at hstep
        rw [← hstep]
        simp [Nat.add_assoc, Nat.add_comm]

theorem takes_arcOctets {tag : Nat} (h : tag < 2 ^ 32) :
    Takes (readLongTag 0 5) (Oid.arcOctets tag) tag := by
  intro rest
  unfold Oid.arcOctets
  split
  · have hlast : (UInt8.ofNat tag).toNat = tag := by
      rw [UInt8.toNat_ofNat']
      omega
    rw [List.singleton_append, readLongTag]
    simp only [hlast, two_pow_32]
    rw [if_pos (by omega), Except.ok.injEq, Prod.mk.injEq]
    exact ⟨by omega, rfl⟩
  · have hlast : (UInt8.ofNat (tag % 128)).toNat = tag % 128 := by
      rw [UInt8.toNat_ofNat']
      omega
    -- With the last group there are five octets at most, which is what the reader allows.
    have hcount : (Oid.arcOctets.leading (tag / 128)).length ≤ 4 := length_leading (by omega)
    obtain ⟨spare, hspare⟩ : ∃ spare,
        5 = (Oid.arcOctets.leading (tag / 128)).length + (spare + 1) :=
      ⟨4 - (Oid.arcOctets.leading (tag / 128)).length, by omega⟩
    rw [hspare, List.append_assoc, readLongTag_leading _ _ (by omega), List.singleton_append,
      readLongTag]
    simp only [hlast, two_pow_32]
    rw [if_pos (by omega), Except.ok.injEq, Prod.mk.injEq]
    exact ⟨by omega, rfl⟩

/-! ### Elements -/

/-- What an identifier octet says of class, form and tag. -/
theorem identifier_octet (tagClass : TagClass) (form : Bool) (low : Nat) (h : low < 32) :
    let b := UInt8.ofNat (64 * tagClass.number + (if form then 32 else 0) + low)
    TagClass.ofOctet b = tagClass ∧ decide (b.toNat / 32 % 2 = 1) = form ∧ b.toNat % 32 = low := by
  intro b
  have hb : b.toNat = 64 * tagClass.number + (if form then 32 else 0) + low := by
    have hclass : tagClass.number ≤ 3 := by cases tagClass <;> decide
    rw [UInt8.toNat_ofNat']
    split <;> omega
  have hclass : b.toNat / 64 = tagClass.number := by
    rw [hb]
    split <;> omega
  refine ⟨?_, ?_, ?_⟩
  · unfold TagClass.ofOctet
    rw [hclass]
    cases tagClass <;> rfl
  · rw [hb]
    cases form <;> simp <;> omega
  · rw [hb]
    split <;> omega

theorem takes_header {e : Element} (htag : e.tag < 2 ^ 32) (hfits : Fits e.content) :
    Takes Header.read (e.identifier ++ encodeLength e.content.length)
      ⟨e.tagClass, e.constructed, e.tag, some e.content.length⟩ := by
  intro rest
  have hlength := takes_encodeLength hfits rest
  rw [List.append_assoc]
  unfold Element.identifier
  dsimp only
  split
  · rename_i hlow
    obtain ⟨hclass, hform, hnumber⟩ := identifier_octet e.tagClass e.constructed e.tag
      (by omega)
    rw [List.singleton_append, Header.read, if_neg (by omega)]
    simp only [hclass, hform, hnumber]
    change (readLength _ >>= _) = _
    rw [hlength]
    rfl
  · obtain ⟨hclass, hform, hnumber⟩ := identifier_octet e.tagClass e.constructed 31
      (by decide)
    rw [List.cons_append, Header.read, if_pos hnumber]
    simp only [hclass, hform]
    rw [takes_arcOctets htag]
    change (readLength _ >>= _) = _
    rw [hlength]
    rfl

theorem readContent_append (content rest : Octets) :
    readContent content.length (content ++ rest) = .ok (content, rest) := by
  rw [readContent, Octets.split?_append]

/-- An element is read as it was written. -/
theorem takes_encode {e : Element} (htag : e.tag < 2 ^ 32) (hfits : Fits e.content) :
    Takes Element.read e.encode e := by
  intro rest
  have hheader := takes_header htag hfits (e.content ++ rest)
  rw [Element.encode, ← List.append_assoc, List.append_assoc]
  exact read_eq_ok_iff.mpr ⟨_, e.content.length, e.content ++ rest, e.content,
    readDefinite_eq_ok_iff.mpr ⟨hheader, rfl⟩, readContent_append _ _, rfl⟩

theorem encode_ne_nil (e : Element) : e.encode ≠ [] := by
  unfold Element.encode Element.identifier
  dsimp only
  split <;> simp

theorem isEmpty_encode_append (e : Element) (rest : Octets) :
    (e.encode ++ rest).isEmpty = false := by
  simp [encode_ne_nil]

theorem fits_content {e : Element} (h : Fits e.encode) : Fits e.content :=
  h.right.right

section Contents

variable {e : Element} (htag : e.tag < 2 ^ 32) (hfits : Fits e.encode) (rest : Octets)
include htag hfits

theorem read_encode : Element.read (e.encode ++ rest) = .ok (e, rest) :=
  takes_encode htag (fits_content hfits) rest

theorem readDefinite_encode :
    Header.readDefinite (e.encode ++ rest) =
      .ok (⟨e.tagClass, e.constructed, e.tag, some e.content.length⟩, e.content.length,
        e.content ++ rest) := by
  have hheader := takes_header htag (fits_content hfits) (e.content ++ rest)
  rw [Element.encode, ← List.append_assoc, List.append_assoc]
  exact readDefinite_eq_ok_iff.mpr ⟨hheader, rfl⟩

theorem readTagged_encode : readTagged e.tag (e.encode ++ rest) = .ok (e.content, rest) :=
  readTagged_eq_ok_iff.mpr ⟨e, read_encode htag hfits rest, rfl, rfl⟩

/-- The readers of a certain tag do not take an element with another one. -/
theorem readTagged_encode_ne {tag : Nat} (hne : e.tag ≠ tag) :
    readTagged tag (e.encode ++ rest) = .error .unexpectedTag := by
  rw [readTagged, readDefinite_encode htag hfits]
  exact if_neg hne

end Contents

theorem takes_constructed (tag : Nat) {content : Octets} (htag : tag < 2 ^ 32)
    (hfits : Fits (constructed tag content).encode) :
    Takes (readTagged tag) (constructed tag content).encode content :=
  readTagged_encode (e := constructed tag content) htag hfits

theorem takes_primitive (tag : Nat) {content : Octets} (htag : tag < 2 ^ 32)
    (hfits : Fits (primitive tag content).encode) :
    Takes Element.read (primitive tag content).encode (primitive tag content) :=
  read_encode (e := primitive tag content) htag hfits

theorem readSerial_encode {serial rest : Octets}
    (hfits : Fits (primitive tagInteger serial).encode) :
    readSerial ((primitive tagInteger serial).encode ++ rest) = .ok (serial, rest) :=
  (readSerial_of_read (takes_primitive tagInteger (by decide) hfits rest)).mpr ⟨rfl, rfl, rfl⟩

/-! ### Repeated reading -/

/-- Items in writing, one behind the other, are read one after the other. -/
theorem tiled_flatMap {α β ε : Type} {item : Octets → Except ε (β × Octets)}
    {encode : α → Octets} {value : α → β} {xs : List α}
    (hitem : ∀ x ∈ xs, Takes item (encode x) (value x)) (hne : ∀ x ∈ xs, encode x ≠ []) :
    Tiled item (xs.flatMap encode) (xs.map value) := by
  induction xs with
  | nil => exact .nil
  | cons x xs ih =>
      -- Reading goes on only where octets have been taken.
      have hpos : 0 < (encode x).length := List.length_pos_iff.mpr (hne x List.mem_cons_self)
      have hshorter : (xs.flatMap encode).length < (encode x ++ xs.flatMap encode).length := by
        rw [List.length_append]
        omega
      refine .cons (hitem x List.mem_cons_self _) hshorter (ih ?_ ?_)
      · exact fun y hy => hitem y (List.mem_cons_of_mem _ hy)
      · exact fun y hy => hne y (List.mem_cons_of_mem _ hy)

end Der

end RevocationCheck
