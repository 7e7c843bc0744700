import Mathlib.Data.List.Basic

/-!
# Reading the head of a message

A message of bytes begins with its head: lines ended by CR LF, the last one empty. A field is a
line that begins with the field's name and a colon. The reader here knows nothing of how heads
are written, so what it reads can be compared with what a writer meant.
-/

section MessageHead

/-- The lines of the head and the bytes after it. The current line has been read up to `line`; a
message without an empty line has no head. -/
def readHead (line : List UInt8) : List UInt8 → Option (List (List UInt8) × List UInt8)
  | [] => none
  | 13 :: 10 :: rest =>
    if line = [] then some ([], rest)
    else (readHead [] rest).map fun head => (line :: head.1, head.2)
  | byte :: rest => readHead (line ++ [byte]) rest

/-- What the first field of a name holds, without blanks in front. -/
def headField (name message : List UInt8) : Option (List UInt8) :=
  (readHead [] message).bind fun head =>
    head.1.findSome? fun line =>
      if (name ++ [58]).isPrefixOf line then
        some ((line.drop (name.length + 1)).dropWhile (· = 32))
      else none

/-- One more decimal digit. -/
def decimalStep (value : ℕ) (byte : UInt8) : Option ℕ :=
  if 48 ≤ byte.toNat ∧ byte.toNat ≤ 57 then some (10 * value + (byte.toNat - 48)) else none

/-- The number some bytes are the decimal digits of. -/
def decimal (bytes : List UInt8) : Option ℕ :=
  if bytes = [] then none else bytes.foldlM decimalStep 0

/-- A line without CR is read up to its end. -/
theorem readHead_append (line text rest : List UInt8) (h : 13 ∉ text) :
    readHead line (text ++ 13 :: 10 :: rest) =
      if line ++ text = [] then some ([], rest)
      else (readHead [] rest).map fun head => ((line ++ text) :: head.1, head.2) := by
  induction text generalizing line with
  | nil => rw [List.nil_append, List.append_nil, readHead]
  | cons byte text ih =>
    obtain ⟨hbyte, htext⟩ := List.ne_and_not_mem_of_not_mem_cons h
    have hread : readHead line (byte :: text ++ 13 :: 10 :: rest) =
        readHead (line ++ [byte]) (text ++ 13 :: 10 :: rest) :=
      readHead.eq_3 line byte _ fun _ hcr _ => hbyte hcr.symm
    rw [hread, ih (line ++ [byte]) htext, List.append_assoc, List.singleton_append]

/-- The digits of a number are the bytes from `0` to `9`. -/
theorem toNat_of_mem_digits {n : ℕ} {c : Char} (h : c ∈ Nat.toDigits 10 n) :
    48 ≤ c.toNat ∧ c.toNat ≤ 57 ∧ c.toNat.toUInt8.toNat = c.toNat := by
  have hdigit := Nat.isDigit_of_mem_toDigits (by omega) (by omega) h
  rw [Char.isDigit, Bool.and_eq_true, decide_eq_true_eq, decide_eq_true_eq] at hdigit
  obtain ⟨hlow, hhigh⟩ := hdigit
  have hlow' : 48 ≤ c.toNat := UInt32.le_iff_toNat_le.mp hlow
  have hhigh' : c.toNat ≤ 57 := UInt32.le_iff_toNat_le.mp hhigh
  refine ⟨hlow', hhigh', ?_⟩
  simp only [Nat.toUInt8_eq, UInt8.toNat_ofNat']
  omega

/-- Reading the digits of a number one after the other gives what they stand for. -/
theorem foldlM_decimalStep (n value : ℕ) (digits : List Char)
    (h : ∀ c ∈ digits, c ∈ Nat.toDigits 10 n) :
    (digits.map fun c => c.toNat.toUInt8).foldlM decimalStep value =
      some (Nat.ofDigitChars 10 digits value) := by
  induction digits generalizing value with
  | nil => rw [Nat.ofDigitChars_nil]; rfl
  | cons c digits ih =>
    obtain ⟨hlow, hhigh, hbyte⟩ := toNat_of_mem_digits (h c List.mem_cons_self)
    have hstep : decimalStep value c.toNat.toUInt8 = some (10 * value + (c.toNat - 48)) := by
      rw [decimalStep, hbyte, if_pos ⟨hlow, hhigh⟩]
    rw [List.map_cons, List.foldlM_cons, hstep, Nat.ofDigitChars_cons]
    exact ih _ fun d hd => h d (List.mem_cons_of_mem c hd)

/-- The bytes of a number's decimal text. -/
def decimalBytes (n : ℕ) : List UInt8 := (toString n).toList.map fun c => c.toNat.toUInt8

/-- The decimal text of a number reads back as the number. -/
theorem decimal_decimalBytes (n : ℕ) : decimal (decimalBytes n) = some n := by
  have hbytes : decimalBytes n = (Nat.toDigits 10 n).map fun c => c.toNat.toUInt8 := by
    rw [decimalBytes, Nat.toString_eq_repr, Nat.toList_repr]
  have hne : decimalBytes n ≠ [] := by
    rw [hbytes, ne_eq, List.map_eq_nil_iff]
    exact Nat.toDigits_ne_nil
  rw [decimal, if_neg hne, hbytes, foldlM_decimalStep n 0 _ fun c hc => hc,
    Nat.ofDigitChars_ten_toDigits]

/-- No other byte than a digit is in the decimal text of a number. -/
theorem le_of_mem_decimalBytes {n : ℕ} {byte : UInt8} (h : byte ∈ decimalBytes n) :
    48 ≤ byte.toNat := by
  rw [decimalBytes, Nat.toString_eq_repr, Nat.toList_repr] at h
  obtain ⟨c, hc, rfl⟩ := List.mem_map.mp h
  obtain ⟨hlow, _, hbyte⟩ := toNat_of_mem_digits hc
  rw [hbyte]
  exact hlow

end MessageHead
