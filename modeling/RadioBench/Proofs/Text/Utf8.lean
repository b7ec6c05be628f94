/-
Reading back what was written as UTF-8.

The reader takes the bytes of a character one at a time.  `decodeOnto_char` follows it through the
bytes that a character is written as: the lead byte tells how many more there are, each of these
adds six bits, and after the last one the character is there and the reader stands between
characters again.  So a text is read back as it was written, and a byte string is read strictly
just when it is what some text is written as.
-/
import RadioBench.Text.Utf8

namespace RadioBench
namespace Text
namespace Utf8

variable {before : List Char} {rest : List UInt8} {count value n : Nat} {low high : UInt8}

theorem toNat_ofNat_of_lt (h : n < 256) : (UInt8.ofNat n).toNat = n := by
  rw [UInt8.toNat_ofNat', Nat.mod_eq_of_lt h]

theorem le_ofNat_iff (b : UInt8) (h : n < 256) : b ≤ UInt8.ofNat n ↔ b.toNat ≤ n := by
  rw [UInt8.le_iff_toNat_le, toNat_ofNat_of_lt h]

theorem ofNat_le_iff (b : UInt8) (h : n < 256) : UInt8.ofNat n ≤ b ↔ n ≤ b.toNat := by
  rw [UInt8.le_iff_toNat_le, toNat_ofNat_of_lt h]

theorem ofNat_lt_iff (b : UInt8) (h : n < 256) : UInt8.ofNat n < b ↔ n < b.toNat := by
  rw [UInt8.lt_iff_toNat_lt, toNat_ofNat_of_lt h]

theorem ofNat_eq_iff (b : UInt8) (h : n < 256) : UInt8.ofNat n = b ↔ n = b.toNat := by
  rw [← UInt8.toNat_inj, toNat_ofNat_of_lt h]

/-! ## One byte -/

/-- A byte that may follow adds its lowest six bits to the value. -/
theorem next_owed (hn : n < 64) (hlow : low.toNat ≤ n + 128) (hhigh : n + 128 ≤ high.toNat) :
    next (.owed count low high value) (UInt8.ofNat (n + 128)) =
      match count with
      | 0 => ([Char.ofNat (value * 64 + n)], .nothing)
      | count + 1 => ([], .owed count 0x80 0xBF (value * 64 + n)) := by
  have hbyte : n + 128 < 256 := by omega
  have hrange : low ≤ UInt8.ofNat (n + 128) ∧ UInt8.ofNat (n + 128) ≤ high :=
    ⟨(le_ofNat_iff low hbyte).mpr hlow, (ofNat_le_iff high hbyte).mpr hhigh⟩
  have hsum : value * 64 + ((UInt8.ofNat (n + 128)).toNat - 0x80) = value * 64 + n := by
    rw [toNat_ofNat_of_lt hbyte]
    omega
  rw [next, if_pos hrange]
  cases count <;> simp only [hsum]

/-- A byte after which more are owed. -/
theorem decodeOnto_more (hn : n < 64) (hlow : low.toNat ≤ n + 128) (hhigh : n + 128 ≤ high.toNat) :
    decodeOnto before (.owed (count + 1) low high value) (UInt8.ofNat (n + 128) :: rest) =
      decodeOnto before (.owed count 0x80 0xBF (value * 64 + n)) rest := by
  rw [decodeOnto, next_owed hn hlow hhigh]
  rfl

/-- The last byte of a character. -/
theorem decodeOnto_last (hn : n < 64) (hlow : low.toNat ≤ n + 128) (hhigh : n + 128 ≤ high.toNat) :
    decodeOnto before (.owed 0 low high value) (UInt8.ofNat (n + 128) :: rest) =
      decodeOnto (Char.ofNat (value * 64 + n) :: before) .nothing rest := by
  rw [decodeOnto, next_owed hn hlow hhigh]
  rfl

/-- The bounds for the byte after a lead byte of three. -/
def bounds₃ (n : Nat) : UInt8 × UInt8 :=
  (if n = 0 then 0xA0 else 0x80, if n = 13 then 0x9F else 0xBF)

/-- The bounds for the byte after a lead byte of four. -/
def bounds₄ (n : Nat) : UInt8 × UInt8 :=
  (if n = 0 then 0x90 else 0x80, if n = 4 then 0x8F else 0xBF)

/-- No overlong form and no surrogate is written. -/
theorem within_bounds₃ {m : Nat} (hm : m < 64) (hshort : n = 0 → 32 ≤ m) (hpair : n = 13 → m < 32) :
    (bounds₃ n).1.toNat ≤ m + 128 ∧ m + 128 ≤ (bounds₃ n).2.toNat := by
  simp only [bounds₃]
  constructor
  · split <;> simp
    omega
  · split <;> (simp; omega)

/-- No overlong form is written, and no value beyond the last character. -/
theorem within_bounds₄ {m : Nat} (hm : m < 64) (hshort : n = 0 → 16 ≤ m) (hlast : n = 4 → m < 16) :
    (bounds₄ n).1.toNat ≤ m + 128 ∧ m + 128 ≤ (bounds₄ n).2.toNat := by
  simp only [bounds₄]
  constructor
  · split <;> simp
    omega
  · split <;> (simp; omega)

theorem first_one (hn : n ≤ 127) : first (UInt8.ofNat n) = ([Char.ofNat n], .nothing) := by
  have hbyte : n < 256 := by omega
  rw [first, if_pos ((ofNat_lt_iff _ hbyte).mpr (by simp; omega)), toNat_ofNat_of_lt hbyte]

theorem first_two (hlow : 2 ≤ n) (hhigh : n < 32) :
    first (UInt8.ofNat (n + 192)) = ([], .owed 0 0x80 0xBF n) := by
  have hbyte : n + 192 < 256 := by omega
  rw [first]
  simp only [ofNat_lt_iff _ hbyte, toNat_ofNat_of_lt hbyte]
  rw [if_neg (by simp), if_neg (by simp; omega), if_pos (by simp; omega)]
  simp

theorem first_three (hhigh : n < 16) :
    first (UInt8.ofNat (n + 224)) = ([], .owed 1 (bounds₃ n).1 (bounds₃ n).2 n) := by
  have hbyte : n + 224 < 256 := by omega
  rw [first]
  simp only [ofNat_lt_iff _ hbyte, ofNat_eq_iff _ hbyte, toNat_ofNat_of_lt hbyte, bounds₃]
  rw [if_neg (by simp), if_neg (by simp), if_neg (by simp), if_pos (by simp; omega)]
  simp

theorem first_four (hhigh : n < 5) :
    first (UInt8.ofNat (n + 240)) = ([], .owed 2 (bounds₄ n).1 (bounds₄ n).2 n) := by
  have hbyte : n + 240 < 256 := by omega
  rw [first]
  simp only [ofNat_lt_iff _ hbyte, ofNat_eq_iff _ hbyte, toNat_ofNat_of_lt hbyte, bounds₄]
  rw [if_neg (by simp), if_neg (by simp), if_neg (by simp), if_neg (by simp),
    if_pos (by simp; omega)]
  simp

theorem decodeOnto_first {cs : List Char} {p : Pending} {b : UInt8} (h : first b = (cs, p)) :
    decodeOnto before .nothing (b :: rest) = decodeOnto (cs.reverse ++ before) p rest := by
  rw [decodeOnto, next, h]

/-! ## One character -/

/-- The bytes of a character are read as that character. -/
theorem decodeOnto_char (c : Char) :
    decodeOnto before .nothing (String.utf8EncodeChar c ++ rest) =
      decodeOnto (c :: before) .nothing rest := by
  have hc : Char.ofNat c.val.toNat = c := Char.ofNat_toNat c
  have hvalid : c.val.toNat < 0xD800 ∨ 0xDFFF < c.val.toNat ∧ c.val.toNat < 0x110000 := c.valid
  rw [String.utf8EncodeChar]
  generalize c.val.toNat = v at hc hvalid
  -- as many bytes as the value takes
  by_cases h₁ : v ≤ 127
  · rw [if_pos h₁, List.singleton_append, decodeOnto_first (first_one h₁), hc]
    rfl
  rw [if_neg h₁]
  by_cases h₂ : v ≤ 2047
  · have hlead : v / 64 % 32 = v / 64 := by omega
    have hsum : v / 64 * 64 + v % 64 = v := by omega
    rw [if_pos h₂, hlead, List.cons_append, decodeOnto_first (first_two (by omega) (by omega)),
      List.singleton_append, decodeOnto_last (by omega) (by simp) (by simp; omega), hsum, hc]
    rfl
  rw [if_neg h₂]
  by_cases h₃ : v ≤ 65535
  · have hlead : v / 4096 % 16 = v / 4096 := by omega
    have hsum : (v / 4096 * 64 + v / 64 % 64) * 64 + v % 64 = v := by omega
    have hbounds :=
      within_bounds₃ (n := v / 4096) (m := v / 64 % 64) (by omega) (by omega) (by omega)
    rw [if_pos h₃, hlead, List.cons_append, decodeOnto_first (first_three (by omega)),
      List.cons_append, decodeOnto_more (by omega) hbounds.1 hbounds.2, List.singleton_append,
      decodeOnto_last (by omega) (by simp) (by simp; omega), hsum, hc]
    rfl
  · have hlead : v / 262144 % 8 = v / 262144 := by omega
    have hsum : ((v / 262144 * 64 + v / 4096 % 64) * 64 + v / 64 % 64) * 64 + v % 64 = v := by omega
    have hbounds :=
      within_bounds₄ (n := v / 262144) (m := v / 4096 % 64) (by omega) (by omega) (by omega)
    rw [if_neg h₃, hlead, List.cons_append, decodeOnto_first (first_four (by omega)),
      List.cons_append, decodeOnto_more (by omega) hbounds.1 hbounds.2, List.cons_append,
      decodeOnto_more (by omega) (by simp) (by simp; omega), List.singleton_append,
      decodeOnto_last (by omega) (by simp) (by simp; omega), hsum, hc]
    rfl

/-! ## Texts -/

/-- The bytes that are left are put behind those that were taken. -/
theorem loop_of_left {bytes : ByteArray} {left taken : List UInt8} {i : Nat}
    (h : bytes.data.toList.drop i = left) :
    ByteArray.toList.loop bytes i taken = taken.reverse ++ left := by
  induction left generalizing i taken with
  | nil =>
    have hend : ¬ i < bytes.size := Nat.not_lt.mpr (List.drop_eq_nil_iff.mp h)
    rw [ByteArray.toList.loop, if_neg hend, List.append_nil]
  | cons b left ih =>
    have hlt : i < bytes.size :=
      Nat.lt_of_not_le fun hend => by simp [List.drop_eq_nil_iff.mpr hend] at h
    obtain ⟨hbyte, hleft⟩ := List.cons.inj ((List.drop_eq_getElem_cons hlt).symm.trans h)
    have hget : bytes.get! i = b := (getElem!_pos bytes.data i hlt).trans hbyte
    rw [ByteArray.toList.loop, if_pos hlt, ih hleft, hget, List.reverse_cons, List.append_assoc,
      List.singleton_append]

theorem toList_toByteArray (bs : List UInt8) : bs.toByteArray.toList = bs :=
  loop_of_left List.toList_data_toByteArray

theorem encode_eq (s : String) : encode s = s.toList.flatMap String.utf8EncodeChar := by
  have hbytes : s.toUTF8 = s.toList.utf8Encode := by
    rw [String.toUTF8_eq_toByteArray, ← String.toByteArray_ofList, String.ofList_toList]
  rw [encode, hbytes]
  exact toList_toByteArray _

theorem decodeOnto_chars (cs : List Char) :
    decodeOnto before .nothing (cs.flatMap String.utf8EncodeChar) = before.reverse ++ cs := by
  induction cs generalizing before with
  | nil => simp [decodeOnto]
  | cons c cs ih =>
    rw [List.flatMap_cons, decodeOnto_char, ih, List.reverse_cons, List.append_assoc,
      List.singleton_append]

/-- A text is read back as it was written. -/
theorem lossy_encode (s : String) : lossy (encode s) = s := by
  rw [lossy, encode_eq, decodeOnto_chars, List.reverse_nil, List.nil_append, String.ofList_toList]

/-- A byte string is read strictly just when it is what a text is written as. -/
theorem strict?_eq_some_iff {bs : List UInt8} {s : String} :
    strict? bs = some s ↔ encode s = bs := by
  rw [strict?]
  constructor
  · intro h
    split at h
    · next hbs =>
      cases h
      exact hbs
    · cases h
  · rintro rfl
    rw [lossy_encode, if_pos rfl]

theorem strict?_eq_none_iff {bs : List UInt8} : strict? bs = none ↔ ∀ s, encode s ≠ bs := by
  rw [Option.eq_none_iff_forall_not_mem]
  exact forall_congr' fun s => not_congr strict?_eq_some_iff

end Utf8
end Text
end RadioBench
