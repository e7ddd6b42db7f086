import Formula.Program.Codec
import Mathlib.Algebra.Group.Nat.Defs
import Mathlib.Tactic.Common

/-!
# Reading programs back

Which bytes stand for a value to a reader (`Reads`): on them it has the value, whatever follows, and on
less than them it asks for more. Readers in a row read bytes in a row, so what the bytes of numbers,
words and constants stand for adds up to the bytes of a program (`ofBytes_toBytes`). Both halves of
`Reads` together make the bytes of programs a code in which no code word starts another one.
-/

namespace Formula

namespace Reader

variable {α β : Type}

/-- One reader after another; the value of the first chooses the second. -/
def bind (read : Reader α) (f : α → Reader β) : Reader β := fun bytes =>
  match read bytes with
  | .ok (a, rest) => f a rest
  | .error e => .error e

/-- A reader that reads nothing and has a given value. -/
def pure (a : α) : Reader α := fun bytes => .ok (a, bytes)

/-- A reader with its value changed. -/
def map (read : Reader α) (g : α → β) : Reader β :=
  read.bind fun a => pure (g a)

end Reader

/-- The bytes that stand for a value to a reader, and of which it needs every one. -/
structure Reads {α : Type} (read : Reader α) (a : α) (bytes : List UInt8) : Prop where
  ok : ∀ rest, read (bytes ++ rest) = .ok (a, rest)
  cut : ∀ part, part <+: bytes → part ≠ bytes → read part = .error .unexpectedEnd

namespace Reads

variable {α β : Type} {read : Reader α} {f : α → Reader β} {a : α} {b : β} {us vs : List UInt8}

/-- A part of two lists in a row ends inside the first one, or inside the second one. -/
lemma part_cases {part : List UInt8} (h : part <+: us ++ vs) (hne : part ≠ us ++ vs) :
    (part <+: us ∧ part ≠ us) ∨ ∃ ws, part = us ++ ws ∧ ws <+: vs ∧ ws ≠ vs := by
  obtain ⟨rest, hrest⟩ := h
  rcases List.append_eq_append_iff.1 hrest with ⟨ws, rfl, rfl⟩ | ⟨ws, rfl, rfl⟩
  · cases ws with
    | nil =>
      refine .inr ⟨[], by simp, List.nil_prefix, ?_⟩
      rintro rfl
      simp at hne
    | cons w ws => exact .inl ⟨List.prefix_append _ _, by simp⟩
  · refine .inr ⟨ws, rfl, List.prefix_append _ _, ?_⟩
    intro h
    rw [← h] at hne
    exact hne rfl

/-- No bytes stand for a value that is known without them. -/
lemma pure (a : α) : Reads (Reader.pure a) a [] where
  ok _ := rfl
  cut _ h hne := absurd (List.prefix_nil.1 h) hne

/-- Bytes in a row stand for what readers in a row find. -/
lemma bind (hu : Reads read a us) (hv : Reads (f a) b vs) :
    Reads (read.bind f) b (us ++ vs) where
  ok rest := by
    rw [List.append_assoc, Reader.bind, hu.ok]
    exact hv.ok rest
  cut part h hne := by
    unfold Reader.bind
    rcases part_cases h hne with ⟨h, hne⟩ | ⟨ws, rfl, h, hne⟩
    · rw [hu.cut part h hne]
    · rw [hu.ok]
      exact hv.cut ws h hne

/-- The same bytes stand for a value found from the one that was read. -/
lemma map (hu : Reads read a us) (g : α → β) : Reads (read.map g) (g a) us := by
  have h := hu.bind (pure (g a)) (f := fun a => .pure (g a))
  rwa [List.append_nil] at h

end Reads

namespace Varint

variable {lastMax room n : Nat} {bytes : List UInt8}

/-- The last byte of a number; where no byte may follow, it has fewer bits. -/
lemma reads_last (hn : n < 128) (hlast : room = 0 → n ≤ lastMax) :
    Reads (decode lastMax (room + 1)) n [n.toUInt8] where
  ok rest := by
    have hbyte : n.toUInt8.toNat = n := by simp; omega
    have hroom : ¬(room = 0 ∧ lastMax < n) := fun h => Nat.not_lt.2 (hlast h.1) h.2
    rw [List.singleton_append, decode, hbyte, if_pos hn, if_neg hroom]
  cut part h hne := by
    rcases List.prefix_cons_iff.1 h with rfl | ⟨rest, rfl, hrest⟩
    · rfl
    · rw [List.prefix_nil.1 hrest] at hne
      exact absurd rfl hne

/-- A byte with seven bits, and the bytes of the others. -/
lemma reads_more (h : Reads (decode lastMax room) (n / 128) bytes) :
    Reads (decode lastMax (room + 1)) n ((n % 128 + 128).toUInt8 :: bytes) := by
  have hbyte : (n % 128 + 128).toUInt8.toNat = n % 128 + 128 := by simp; omega
  have hbits : n % 128 + 128 - 128 + 128 * (n / 128) = n := by omega
  -- After such a byte, the reader is the one for the remaining bits.
  have hdecode (rest : List UInt8) : decode lastMax (room + 1) ((n % 128 + 128).toUInt8 :: rest) =
      Reader.map (decode lastMax room) (n % 128 + 128 - 128 + 128 * ·) rest := by
    rw [decode, hbyte, if_neg (by omega)]
    unfold Reader.map Reader.bind
    cases decode lastMax room rest with
    | error => rfl
    | ok => rfl
  have hrest := h.map (n % 128 + 128 - 128 + 128 * ·)
  rw [hbits] at hrest
  refine ⟨fun rest => (hdecode _).trans (hrest.ok rest), ?_⟩
  intro part hpart hne
  rcases List.prefix_cons_iff.1 hpart with rfl | ⟨ws, rfl, hws⟩
  · rfl
  · exact (hdecode ws).trans (hrest.cut ws hws fun h => hne (h ▸ rfl))

/-- The bytes of a number stand for it, if it has no more bits than the reader grants. -/
lemma reads_encode (hlast : lastMax < 128) (hn : n < (lastMax + 1) * 128 ^ room) :
    Reads (decode lastMax (room + 1)) n (encode n) := by
  induction room generalizing n with
  | zero =>
    have hle : n ≤ lastMax := by omega
    rw [encode, if_pos (by omega)]
    exact reads_last (by omega) fun _ => hle
  | succ room ih =>
    rw [encode]
    split
    · next hsmall => exact reads_last hsmall nofun
    · have hlt : n / 128 < (lastMax + 1) * 128 ^ room := by
        rw [Nat.div_lt_iff_lt_mul (by decide), Nat.mul_assoc, ← Nat.pow_succ]
        exact hn
      exact reads_more (ih hlt)

/-- Folding loses nothing. -/
lemma unfold_fold (i : Int) : unfold (fold i) = i := by
  unfold fold unfold
  split
  · rw [if_pos (by omega)]
    omega
  · rw [if_neg (by omega)]
    omega

/-- A word is folded onto 32 bits. -/
lemma fold_lt (w : Int32) : fold w.toInt < 2 ^ 32 := by
  have hle := w.le_toInt
  have hlt := w.toInt_lt
  unfold fold
  split
  · omega
  · omega

end Varint

namespace Program

/-- The bytes of a number of 64 bits stand for it as a count. -/
lemma reads_count {n : Nat} (h : n < 2 ^ 64) : Reads readCount n (Varint.encode n) :=
  Varint.reads_encode (by decide) (by omega)

/-- A word is read as the number that it is folded onto. -/
lemma readWord_eq :
    readWord = Reader.map (Varint.decode 15 5) fun n => Int32.ofInt (Varint.unfold n) := by
  funext bytes
  unfold readWord Reader.map Reader.bind
  cases Varint.decode 15 5 bytes with
  | error => rfl
  | ok => rfl

/-- The bytes of a word stand for it. -/
lemma reads_word (w : Int32) : Reads readWord w (Varint.encode (Varint.fold w.toInt)) := by
  have hfold := Varint.fold_lt w
  have hread : Reads (Varint.decode 15 5) _ (Varint.encode (Varint.fold w.toInt)) :=
    Varint.reads_encode (by decide) (by omega)
  have hword := hread.map fun n => Int32.ofInt (Varint.unfold n)
  rwa [Varint.unfold_fold, Int32.ofInt_toInt, ← readWord_eq] at hword

/-- Values are read one after the other. -/
lemma readMany_succ {α : Type} (read : Reader α) (n : Nat) :
    readMany read (n + 1) = read.bind fun a => (readMany read n).map (a :: ·) := by
  funext bytes
  unfold readMany Reader.map Reader.bind
  cases read bytes with
  | error => rfl
  | ok value =>
    obtain ⟨a, rest⟩ := value
    simp only [bind, Except.bind]
    cases readMany read n rest with
    | error => rfl
    | ok => rfl

/-- The bytes of values in a row stand for the values. -/
lemma reads_many {α : Type} {read : Reader α} {encode : α → List UInt8}
    (h : ∀ a, Reads read a (encode a)) (as : List α) :
    Reads (readMany read as.length) as (as.flatMap encode) := by
  induction as with
  | nil => exact .pure []
  | cons a as ih =>
    rw [List.length_cons, List.flatMap_cons, readMany_succ]
    exact (h a).bind (ih.map (a :: ·))

/-- So many low bytes of a number hold its remainder. -/
lemma ofBytesLow_map (count n : Nat) :
    ofBytesLow ((List.range count).map fun i => (n / Nat.pow 256 i).toUInt8) = n % 256 ^ count := by
  induction count generalizing n with
  | zero => simp [ofBytesLow, Nat.mod_one]
  | succ count ih =>
    have hhigh : ((List.range count).map fun i => (n / Nat.pow 256 (i + 1)).toUInt8) =
        (List.range count).map fun i => (n / 256 / Nat.pow 256 i).toUInt8 := by
      refine List.map_congr_left fun i _ => ?_
      rw [Nat.div_div_eq_div_mul, Nat.pow_eq, Nat.pow_eq, Nat.pow_succ, Nat.mul_comm]
    have hlow : (n / Nat.pow 256 0).toUInt8.toNat = n % 256 := by simp
    have hrest : ofBytesLow ((List.range count).map fun i => (n / Nat.pow 256 (i + 1)).toUInt8) =
        n / 256 % 256 ^ count := by rw [hhigh, ih]
    have hsplit : n % 256 ^ (count + 1) = n % 256 + 256 * (n / 256 % 256 ^ count) := by
      rw [Nat.pow_succ, Nat.mul_comm, Nat.mod_mul]
    rw [List.range_succ_eq_map, List.map_cons, List.map_map, hsplit, ← hlow, ← hrest]
    rfl

/-- The bytes of a constant stand for its pattern. -/
lemma reads_pattern (pattern : UInt64) : Reads readPattern pattern (patternBytes pattern) where
  ok rest := by
    have hlength : (patternBytes pattern).length = 8 := by simp [patternBytes]
    have hvalue : ofBytesLow (patternBytes pattern) = pattern.toNat := by
      rw [patternBytes, ofBytesLow_map]
      exact Nat.mod_eq_of_lt pattern.toNat_lt
    have htake : (patternBytes pattern ++ rest).take 8 = patternBytes pattern := by
      rw [← hlength, List.take_left]
    have hdrop : (patternBytes pattern ++ rest).drop 8 = rest := by
      rw [← hlength, List.drop_left]
    simp only [readPattern, htake, hdrop, hlength, hvalue]
    simp
  cut part h hne := by
    have hlength : (patternBytes pattern).length = 8 := by simp [patternBytes]
    have hlt : part.length < 8 := by
      refine Nat.lt_of_le_of_ne (hlength ▸ h.length_le) fun heq => hne ?_
      exact h.eq_of_length (by rw [heq, hlength])
    have htake : part.take 8 = part := List.take_of_length_le (Nat.le_of_lt hlt)
    simp [readPattern, htake, hlt]

/-- The program at the start of the bytes, and what is left of them. -/
def read : Reader Program :=
  readCount.bind fun size => Reader.bind (readMany readWord size) fun code =>
    readCount.bind fun size => Reader.map (readMany readPattern size) fun constants =>
      { code := code.toArray, constants := constants.toArray }

/-- A program is what is read, whatever is left. -/
lemma ofBytes_eq (bytes : List UInt8) : ofBytes bytes = (read bytes).map Prod.fst := by
  unfold ofBytes read Reader.map Reader.bind
  cases readCount bytes with
  | error => rfl
  | ok size =>
  obtain ⟨size, rest⟩ := size
  simp only [bind, Except.bind]
  cases readMany readWord size rest with
  | error => rfl
  | ok code =>
  obtain ⟨code, rest⟩ := code
  simp only
  cases readCount rest with
  | error => rfl
  | ok size =>
  obtain ⟨size, rest⟩ := size
  simp only
  cases readMany readPattern size rest with
  | error => rfl
  | ok => rfl

/-- The numbers of words and of constants have 64 bits, as numbers of things in a memory have. -/
structure Addressable (p : Program) : Prop where
  code_lt : p.code.size < 2 ^ 64
  constants_lt : p.constants.size < 2 ^ 64

/-- The bytes of a program stand for it. -/
lemma reads_program {p : Program} (h : p.Addressable) : Reads read p p.toBytes := by
  have hcode := reads_many reads_word p.code.toList
  have hconstants := reads_many reads_pattern p.constants.toList
  rw [Array.length_toList] at hcode hconstants
  simp only [toBytes, List.append_assoc]
  refine (reads_count h.code_lt).bind (hcode.bind ((reads_count h.constants_lt).bind ?_))
  exact hconstants.map fun constants => Program.mk p.code.toList.toArray constants.toArray

/-- What is written as bytes is read back, whatever bytes follow: the same words and the same
patterns of constants. Of its bytes none can be missing, and so no two programs have the same bytes,
nor does one program have the first bytes of another. -/
theorem ofBytes_toBytes {p : Program} (h : p.Addressable) :
    (∀ rest, ofBytes (p.toBytes ++ rest) = .ok p) ∧
      (∀ part, part <+: p.toBytes → part ≠ p.toBytes → ofBytes part = .error .unexpectedEnd) ∧
      (∀ q : Program, q.Addressable → q.toBytes = p.toBytes → q = p) ∧
      (∀ q : Program, q.Addressable → q.toBytes <+: p.toBytes → q = p) := by
  have hok {q : Program} (hq : q.Addressable) (rest : List UInt8) :
      ofBytes (q.toBytes ++ rest) = .ok q := by
    rw [ofBytes_eq, (reads_program hq).ok]
    rfl
  have hprefix (q : Program) (hq : q.Addressable) (hqp : q.toBytes <+: p.toBytes) : q = p := by
    obtain ⟨rest, hrest⟩ := hqp
    have hp := hok h []
    rw [List.append_nil, ← hrest, hok hq] at hp
    cases hp
    rfl
  refine ⟨hok h, ?_, ?_, hprefix⟩
  · intro part hpart hne
    rw [ofBytes_eq, (reads_program h).cut part hpart hne]
    rfl
  · intro q hq hbytes
    exact hprefix q hq (hbytes ▸ List.prefix_refl _)

/-- A program of the least and the greatest word, with a negative zero and a NaN that has a payload,
is read back with bytes after it, and is missed without its last byte. -/
theorem ofBytes_toBytes_extremes :
    ∃ p : Program,
      p = ⟨#[-2147483648, 2147483647], #[0x8000000000000000, 0x7FF80000DEADBEEF]⟩ ∧ p.Addressable ∧
        ofBytes (p.toBytes ++ [255, 0]) = .ok p ∧
        ofBytes p.toBytes.dropLast = .error .unexpectedEnd := by
  refine ⟨_, rfl, ⟨by decide, by decide⟩, ?_, ?_⟩
  · exact (ofBytes_toBytes ⟨by decide, by decide⟩).1 [255, 0]
  · refine (ofBytes_toBytes ⟨by decide, by decide⟩).2.1 _ (List.dropLast_prefix _) ?_
    decide +kernel

end Program

end Formula
