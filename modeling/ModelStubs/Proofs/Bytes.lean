import Mathlib
import ModelStubs.Proofs.Path
import ModelStubs.Text.Encoding

/-!
# Offsets in bytes

A text can be taken apart by offsets into its UTF-8 bytes, if each offset is a cut: it is not past the end, and the byte
that stands there opens a character (`IsCut`). An offset that is no cut is a fault, and so is one below zero.

What is counted on bytes comes out as what is counted on characters. No byte of a character beyond ASCII is that of a
letter (`isLetterByte_of_mem`), so the letters that open or end a text are found on its bytes (`letterBytesAtStart_eq`,
`letterBytesAtEnd_eq`), and the length of any first part is a cut (`isCut_append`).
-/

namespace ModelStubs.Text

/-- The UTF-8 bytes of a text, one by one. -/
def bytes (t : Text) : List UInt8 := t.flatMap String.utf8EncodeChar

@[simp] theorem bytes_nil : bytes [] = [] := rfl

@[simp] theorem bytes_cons (c : Char) (t : Text) : bytes (c :: t) = String.utf8EncodeChar c ++ bytes t := rfl

@[simp] theorem bytes_append (a b : Text) : bytes (a ++ b) = bytes a ++ bytes b := List.flatMap_append

/-- A text has as many bytes as are counted for it. -/
@[simp] theorem length_bytes (t : Text) : (bytes t).length = byteLength t := by
  induction t with
  | nil => rfl
  | cons c t ih => rw [bytes_cons, List.length_append, String.length_utf8EncodeChar, ih, byteLength]

/-- The bytes of a text are decoded as that text. -/
@[simp] theorem decode?_bytes (t : Text) : decode? (bytes t).toByteArray = some t := by
  have h : (bytes t).toByteArray = encode t := rfl
  rw [h, decode?_encode]

theorem length_utf8EncodeChar_pos (c : Char) : 0 < (String.utf8EncodeChar c).length := by
  rw [String.length_utf8EncodeChar]
  exact Char.utf8Size_pos c

/-! ## Cuts -/

/-- The offset lies within the text, and the byte that stands there, if there is one, opens a character. -/
structure IsCut (t : Text) (n : Nat) : Prop where
  le : n ≤ byteLength t
  boundary : ∀ b ∈ (bytes t)[n]?, b.IsUTF8FirstByte

instance decIsCut (t : Text) (n : Nat) : Decidable (IsCut t n) :=
  decidable_of_iff (n ≤ byteLength t ∧ ∀ b ∈ (bytes t)[n]?, b.IsUTF8FirstByte)
    ⟨fun h => ⟨h.1, h.2⟩, fun h => ⟨h.le, h.boundary⟩⟩

/-- The number of bytes of a first part of a text is a cut of it. -/
theorem isCut_append (a b : Text) : IsCut (a ++ b) (byteLength a) where
  le := by
    rw [byteLength_append]
    exact Nat.le_add_right _ _
  boundary := by
    rw [bytes_append, List.getElem?_append_right (by rw [length_bytes]), length_bytes, Nat.sub_self]
    cases b with
    | nil => simp
    | cons c b =>
      have hc := length_utf8EncodeChar_pos c
      rw [bytes_cons, List.getElem?_append_left hc, List.getElem?_eq_getElem hc]
      rintro _ ⟨⟩
      exact UInt8.isUTF8FirstByte_getElem_zero_utf8EncodeChar

/-- A letter of two bytes and one of one: three offsets are cuts. -/
example : (List.range 5).filter (fun n => IsCut ['é', 'a'] n) = [0, 2, 3] := by decide +kernel

/-- What goes wrong with an offset. -/
inductive OffsetFault
  /-- It is no cut of the text that is taken apart. -/
  | notCut
  /-- It is below zero. -/
  | underflow
  deriving DecidableEq, Repr

/-- The bytes of a text from an offset on, as a text. -/
def sliceFrom (t : Text) (n : Nat) : Except OffsetFault Text :=
  if IsCut t n then (decode? ((bytes t).drop n).toByteArray).elim (.error .notCut) .ok else .error .notCut

/-- The bytes of a text up to an offset, as a text. -/
def sliceTo (t : Text) (n : Nat) : Except OffsetFault Text :=
  if IsCut t n then (decode? ((bytes t).take n).toByteArray).elim (.error .notCut) .ok else .error .notCut

/-- An offset that lies some bytes before another. -/
def offsetBefore (n m : Nat) : Except OffsetFault Nat := if m ≤ n then .ok (n - m) else .error .underflow

/-- From the number of bytes of a first part on there is the rest. -/
@[simp] theorem sliceFrom_append (a b : Text) : sliceFrom (a ++ b) (byteLength a) = .ok b := by
  rw [sliceFrom, if_pos (isCut_append a b), bytes_append, List.drop_left' (length_bytes a), decode?_bytes,
    Option.elim_some]

/-- Up to the number of bytes of a first part there is that part. -/
@[simp] theorem sliceTo_append (a b : Text) : sliceTo (a ++ b) (byteLength a) = .ok a := by
  rw [sliceTo, if_pos (isCut_append a b), bytes_append, List.take_left' (length_bytes a), decode?_bytes,
    Option.elim_some]

/-- One more character at the end of a text adds its bytes. -/
theorem byteLength_concat (a : Text) (c : Char) : byteLength (a ++ [c]) = byteLength a + c.utf8Size := by
  rw [byteLength_append]
  rfl

/-- A character is passed by its own number of bytes. -/
theorem isCut_behind (a b : Text) (c : Char) : IsCut (a ++ c :: b) (byteLength a + c.utf8Size) := by
  have h := isCut_append (a ++ [c]) b
  rwa [byteLength_concat, List.append_assoc, List.singleton_append] at h

/-- From the offset behind a character on there is what stands behind it. -/
theorem sliceFrom_behind (a b : Text) (c : Char) : sliceFrom (a ++ c :: b) (byteLength a + c.utf8Size) = .ok b := by
  have h := sliceFrom_append (a ++ [c]) b
  rwa [byteLength_concat, List.append_assoc, List.singleton_append] at h

/-! ## Letters among the bytes -/

/-- Whether a byte is that of a letter from A to Z, in either case. -/
def isLetterByte (b : UInt8) : Bool := (65 ≤ b && b ≤ 90) || (97 ≤ b && b ≤ 122)

/-- The number of letter bytes that end a text. -/
def letterBytesAtEnd (t : Text) : Nat := ((bytes t).reverse.takeWhile isLetterByte).length

/-- The number of letter bytes that open a text. -/
def letterBytesAtStart (t : Text) : Nat := ((bytes t).takeWhile isLetterByte).length

/-- The bytes of letters are those from 65 to 90 and from 97 to 122. -/
theorem isLetterByte_iff (b : UInt8) :
    isLetterByte b = true ↔ 65 ≤ b.toNat ∧ b.toNat ≤ 90 ∨ 97 ≤ b.toNat ∧ b.toNat ≤ 122 := by
  simp only [isLetterByte, Bool.or_eq_true, Bool.and_eq_true, decide_eq_true_eq, UInt8.le_iff_toNat_le]
  rfl

/-- A character of ASCII is one byte, its code. -/
theorem toNat_of_mem_utf8EncodeChar {c : Char} {b : UInt8} (h : c.toNat < 128) (hb : b ∈ String.utf8EncodeChar c) :
    b.toNat = c.toNat := by
  have hv : c.toNat = c.val.toNat := rfl
  rw [String.utf8EncodeChar, if_pos (by omega), List.mem_singleton] at hb
  rw [hb, UInt8.toNat_ofNat', Nat.mod_eq_of_lt (by omega), hv]

/-- Every byte of a character beyond ASCII is beyond ASCII: each of its two, three or four bytes is a mark plus some bits of
the code. -/
theorem le_of_mem_utf8EncodeChar {c : Char} {b : UInt8} (h : 128 ≤ c.toNat) (hb : b ∈ String.utf8EncodeChar c) :
    128 ≤ b.toNat := by
  have hv : c.toNat = c.val.toNat := rfl
  have hbyte : ∀ n, 128 ≤ n → n < 256 → 128 ≤ (UInt8.ofNat n).toNat := by
    intro n hn hlt
    rwa [UInt8.toNat_ofNat', Nat.mod_eq_of_lt hlt]
  rw [String.utf8EncodeChar, if_neg (by omega)] at hb
  split_ifs at hb
  all_goals
    simp only [List.mem_cons, List.not_mem_nil, or_false] at hb
    rcases hb with rfl | rfl | rfl | rfl <;> apply hbyte <;> omega

/-- Each byte of a character tells whether the character is a letter. -/
theorem isLetterByte_of_mem {c : Char} {b : UInt8} (h : b ∈ String.utf8EncodeChar c) : isLetterByte b = isLetter c := by
  rw [Bool.eq_iff_iff, isLetterByte_iff, isLetter_iff]
  by_cases hc : c.toNat < 128
  · rw [toNat_of_mem_utf8EncodeChar hc h]
  · have hb := le_of_mem_utf8EncodeChar (Nat.le_of_not_lt hc) h
    omega

variable {α β : Type} {f : α → List β} {p : α → Bool} {q : β → Bool}

/-- What opens a list of pieces is looked for piece by piece, if all parts of a piece agree on the property. -/
theorem takeWhile_flatMap (h : ∀ a, ∀ b ∈ f a, q b = p a) (hne : ∀ a, f a ≠ []) (l : List α) :
    (l.flatMap f).takeWhile q = (l.takeWhile p).flatMap f := by
  induction l with
  | nil => rfl
  | cons a l ih =>
    rw [List.flatMap_cons, List.takeWhile_cons]
    cases hp : p a with
    | true =>
      rw [List.takeWhile_append_of_pos fun b hb => (h a b hb).trans hp, ih, if_pos rfl, List.flatMap_cons]
    | false =>
      obtain ⟨b, bs, hb⟩ := List.exists_cons_of_ne_nil (hne a)
      have hq : q b = false := (h a b (by rw [hb]; exact List.mem_cons_self)).trans hp
      simp [hb, hq]

theorem utf8EncodeChar_ne_nil (c : Char) : String.utf8EncodeChar c ≠ [] :=
  List.length_pos_iff.mp (length_utf8EncodeChar_pos c)

/-- The letter bytes that open a text are those of the letters that open it. -/
theorem takeWhile_bytes (t : Text) : (bytes t).takeWhile isLetterByte = bytes (lettersAtStart t) :=
  takeWhile_flatMap (fun _ _ => isLetterByte_of_mem) utf8EncodeChar_ne_nil t

/-- The bytes of a text in reverse are those of its characters in reverse, each reversed. -/
theorem reverse_bytes (t : Text) : (bytes t).reverse = t.reverse.flatMap (List.reverse ∘ String.utf8EncodeChar) :=
  List.reverse_flatMap

/-- The letter bytes that end a text are those of the letters that end it. -/
theorem takeWhile_reverse_bytes (t : Text) :
    (bytes t).reverse.takeWhile isLetterByte = (bytes (lettersAtEnd t)).reverse := by
  rw [reverse_bytes, reverse_bytes, lettersAtEnd, List.reverse_reverse]
  refine takeWhile_flatMap (fun c b hb => ?_) (fun c => ?_) t.reverse
  · exact isLetterByte_of_mem (List.mem_reverse.mp hb)
  · exact List.reverse_eq_nil_iff.not.mpr (utf8EncodeChar_ne_nil c)

/-- The letter bytes that open a text are those of the letters that open it. -/
theorem letterBytesAtStart_eq (t : Text) : letterBytesAtStart t = byteLength (lettersAtStart t) := by
  rw [letterBytesAtStart, takeWhile_bytes, length_bytes]

/-- The letter bytes that end a text are those of the letters that end it. -/
theorem letterBytesAtEnd_eq (t : Text) : letterBytesAtEnd t = byteLength (lettersAtEnd t) := by
  rw [letterBytesAtEnd, takeWhile_reverse_bytes, List.length_reverse, length_bytes]

/-! ## Occurrences of a character -/

/-- The offsets at which a character stands, for a text that starts at a given one. -/
def occurrencesFrom (c : Char) (n : Nat) : Text → List Nat
  | [] => []
  | d :: rest =>
    if d = c then n :: occurrencesFrom c (n + d.utf8Size) rest else occurrencesFrom c (n + d.utf8Size) rest

/-- The offsets at which a character stands in a text, from the left. -/
def occurrences (c : Char) (t : Text) : List Nat := occurrencesFrom c 0 t

/-- At each of the offsets there is the character, and the bytes before it are counted from where the text starts. -/
theorem mem_occurrencesFrom {c : Char} {n m : Nat} {t : Text} (h : m ∈ occurrencesFrom c n t) :
    ∃ before rest, t = before ++ c :: rest ∧ m = n + byteLength before := by
  induction t generalizing n with
  | nil => exact absurd h List.not_mem_nil
  | cons d t ih =>
    have hlater : m ∈ occurrencesFrom c (n + d.utf8Size) t →
        ∃ before rest, d :: t = before ++ c :: rest ∧ m = n + byteLength before := by
      intro hm
      obtain ⟨before, rest, rfl, rfl⟩ := ih hm
      exact ⟨d :: before, rest, rfl, by rw [byteLength, Nat.add_assoc]⟩
    rw [occurrencesFrom] at h
    split at h
    · rename_i hd
      rcases List.mem_cons.mp h with rfl | hm
      · exact ⟨[], t, by rw [hd]; rfl, rfl⟩
      · exact hlater hm
    · exact hlater h

/-- A character stands at the offset that is the length of what comes before it. -/
theorem mem_occurrences {c : Char} {m : Nat} {t : Text} (h : m ∈ occurrences c t) :
    ∃ before rest, t = before ++ c :: rest ∧ m = byteLength before := by
  obtain ⟨before, rest, ht, hm⟩ := mem_occurrencesFrom h
  exact ⟨before, rest, ht, by omega⟩

end ModelStubs.Text
