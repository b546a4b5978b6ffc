/-
Module: CodeGauge.Proofs.Text.Utf8
Purpose: Reading a character undoes writing it, and nothing but a written character is read as one.
Main exports:
  Utf8.Spells, Utf8.decodeFirst_of_spelling, Utf8.spells_iff_decodeFirst,
  Utf8.decode_flatMap_encodeChar, Utf8.infix_of_flatMap_encodeChar, Utf8.encode_lt_encode
-/
import CodeGauge.Text.Utf8

namespace CodeGauge.Text.Utf8

/-!
The reader of characters is a cascade of range tests on bytes; the writer is arithmetic on code
points.  What the source grammar needs to know of the reader is said here by the writer alone: at the
front of a byte string stands either the spelling of a character, which is then the only one whose
spelling stands there, or a stray byte.
-/

/-- The character `c` is read from `bytes` in a text that goes on with `rest`: either the bytes spell
it, or they are one byte at which no spelling begins and which is read as the replacement. -/
inductive Spells : Char → Bytes → Bytes → Prop where
  | spelled (c : Char) (rest : Bytes) : Spells c (encodeChar c) rest
  | stray {a : UInt8} {rest : Bytes} (none : ∀ c, ¬ encodeChar c <+: a :: rest) :
      Spells replacement [a] rest

/-! ### Bytes as numbers -/

theorem toNat_ofNat_char {n : Nat} (valid : n.isValidChar) : (Char.ofNat n).toNat = n := by
  rw [Char.ofNat, dif_pos valid]
  rfl

private theorem ofNat_eq {n : Nat} {c : Char} (value : n = c.toNat) : Char.ofNat n = c := by
  rw [value, Char.ofNat_toNat]

private theorem ofNat_byte_eq {n : Nat} {b : UInt8} (value : n = b.toNat) : UInt8.ofNat n = b := by
  rw [value, UInt8.ofNat_toNat]

theorem toNat_ofNat_byte {n : Nat} (small : n < 256) : (UInt8.ofNat n).toNat = n := by
  rw [UInt8.toNat_ofNat', Nat.mod_eq_of_lt small]

/-- The code points: all numbers below 0x110000 but the surrogates. -/
private theorem toNat_char_range (c : Char) :
    c.toNat < 0xD800 ∨ (0xDFFF < c.toNat ∧ c.toNat < 0x110000) := c.valid

theorem isTail_iff {b : UInt8} : isTail b = true ↔ 0x80 ≤ b.toNat ∧ b.toNat ≤ 0xBF := by
  simp [isTail, UInt8.le_iff_toNat_le]

theorem twoBytes?_eq_some_iff {a b : UInt8} {ch : Char} :
    twoBytes? a b = some ch ↔
      ((0xC2 ≤ a.toNat ∧ a.toNat ≤ 0xDF) ∧ 0x80 ≤ b.toNat ∧ b.toNat ≤ 0xBF) ∧
        Char.ofNat ((a.toNat % 0x20) * 0x40 + b.toNat % 0x40) = ch := by
  simp [twoBytes?, tailBits, isTail_iff, UInt8.le_iff_toNat_le]

theorem threeBytes?_eq_some_iff {a b c : UInt8} {ch : Char} :
    threeBytes? a b c = some ch ↔
      (((((0xE0 ≤ a.toNat ∧ a.toNat ≤ 0xEF) ∧ 0x80 ≤ b.toNat ∧ b.toNat ≤ 0xBF) ∧
        0x80 ≤ c.toNat ∧ c.toNat ≤ 0xBF) ∧ (a.toNat ≠ 0xE0 ∨ 0xA0 ≤ b.toNat)) ∧
        (a.toNat ≠ 0xED ∨ b.toNat ≤ 0x9F)) ∧
        Char.ofNat ((a.toNat % 0x10) * 0x1000 + (b.toNat % 0x40) * 0x40 + c.toNat % 0x40) = ch := by
  simp [threeBytes?, tailBits, isTail_iff, UInt8.le_iff_toNat_le, ← UInt8.toNat_inj]

theorem fourBytes?_eq_some_iff {a b c d : UInt8} {ch : Char} :
    fourBytes? a b c d = some ch ↔
      ((((((0xF0 ≤ a.toNat ∧ a.toNat ≤ 0xF4) ∧ 0x80 ≤ b.toNat ∧ b.toNat ≤ 0xBF) ∧
        0x80 ≤ c.toNat ∧ c.toNat ≤ 0xBF) ∧ 0x80 ≤ d.toNat ∧ d.toNat ≤ 0xBF) ∧
        (a.toNat ≠ 0xF0 ∨ 0x90 ≤ b.toNat)) ∧ (a.toNat ≠ 0xF4 ∨ b.toNat ≤ 0x8F)) ∧
        Char.ofNat ((a.toNat % 0x8) * 0x40000 + (b.toNat % 0x40) * 0x1000
          + (c.toNat % 0x40) * 0x40 + d.toNat % 0x40) = ch := by
  unfold fourBytes? tailBits
  generalize Char.ofNat _ = value
  simp [isTail_iff, UInt8.le_iff_toNat_le, ← UInt8.toNat_inj]

/-- The character of a byte below 0x80 has the byte's number. -/
theorem toNat_ofNat_ascii {a : UInt8} (small : a.toNat < 0x80) :
    (Char.ofNat a.toNat).toNat = a.toNat :=
  toNat_ofNat_char (Or.inl (by omega))

/-! ### Writing, then reading -/

theorem encodeChar_ne_nil (c : Char) : encodeChar c ≠ [] := by
  unfold encodeChar
  dsimp only
  repeat' split
  all_goals simp

/-- A character below 0x80 is spelled by the byte of its number. -/
theorem encodeChar_ascii {c : Char} (small : c.toNat < 0x80) :
    encodeChar c = [UInt8.ofNat c.toNat] := by
  unfold encodeChar
  dsimp only
  rw [if_pos small]

/-- Below 0x80 a byte is the character of its own number. -/
theorem decodeFirst_ascii {a : UInt8} (small : a.toNat < 0x80) (rest : Bytes) :
    decodeFirst a rest = (Char.ofNat a.toNat, 1) := by
  have below : a < 0x80 := by simpa [UInt8.lt_iff_toNat_lt] using small
  rw [decodeFirst, if_pos below]

private theorem decodeFirst_two {a b : UInt8} {ch : Char} (rest : Bytes)
    (read : twoBytes? a b = some ch) : decodeFirst a (b :: rest) = (ch, 2) := by
  have bounds := (twoBytes?_eq_some_iff.1 read).1
  have above : ¬ a < 0x80 := by
    simp only [UInt8.lt_iff_toNat_lt, UInt8.reduceToNat]
    omega
  rw [decodeFirst, if_neg above]
  simp only [decodeLong, read]

private theorem decodeFirst_three {a b c : UInt8} {ch : Char} (rest : Bytes)
    (read : threeBytes? a b c = some ch) : decodeFirst a (b :: c :: rest) = (ch, 3) := by
  have bounds := (threeBytes?_eq_some_iff.1 read).1
  have above : ¬ a < 0x80 := by
    simp only [UInt8.lt_iff_toNat_lt, UInt8.reduceToNat]
    omega
  have noTwo : twoBytes? a b = none := by
    rw [Option.eq_none_iff_forall_ne_some]
    intro other two
    have := (twoBytes?_eq_some_iff.1 two).1
    omega
  rw [decodeFirst, if_neg above]
  simp only [decodeLong, noTwo, read]

private theorem decodeFirst_four {a b c d : UInt8} {ch : Char} (rest : Bytes)
    (read : fourBytes? a b c d = some ch) : decodeFirst a (b :: c :: d :: rest) = (ch, 4) := by
  have bounds := (fourBytes?_eq_some_iff.1 read).1
  have above : ¬ a < 0x80 := by
    simp only [UInt8.lt_iff_toNat_lt, UInt8.reduceToNat]
    omega
  have noTwo : twoBytes? a b = none := by
    rw [Option.eq_none_iff_forall_ne_some]
    intro other two
    have := (twoBytes?_eq_some_iff.1 two).1
    omega
  have noThree : threeBytes? a b c = none := by
    rw [Option.eq_none_iff_forall_ne_some]
    intro other three
    have := (threeBytes?_eq_some_iff.1 three).1
    omega
  rw [decodeFirst, if_neg above]
  simp only [decodeLong, noTwo, noThree, read]

/-- A spelling at the front of a text is read as its character. -/
theorem decodeFirst_of_spelling {c : Char} {a : UInt8} {rest : Bytes}
    (front : encodeChar c <+: a :: rest) :
    decodeFirst a rest = (c, (encodeChar c).length) := by
  have range := toNat_char_range c
  obtain ⟨behind, spelling⟩ := front
  unfold encodeChar at spelling ⊢
  dsimp only at spelling ⊢
  -- one case for each length; the bytes are named, and their values put into the reader's tests
  by_cases one : c.toNat < 0x80
  · rw [if_pos one] at spelling ⊢
    simp only [List.cons_append, List.cons.injEq] at spelling
    have value : a.toNat = c.toNat := by rw [← spelling.1, toNat_ofNat_byte (by omega)]
    rw [decodeFirst_ascii (by omega), value, Char.ofNat_toNat]
    rfl
  rw [if_neg one] at spelling ⊢
  by_cases two : c.toNat < 0x800
  · rw [if_pos two] at spelling ⊢
    simp only [List.cons_append, List.nil_append, List.cons.injEq] at spelling
    obtain ⟨rfl, rfl⟩ := spelling
    apply decodeFirst_two
    rw [twoBytes?_eq_some_iff, toNat_ofNat_byte (by omega), toNat_ofNat_byte (by omega)]
    exact ⟨by omega, ofNat_eq (by omega)⟩
  rw [if_neg two] at spelling ⊢
  by_cases three : c.toNat < 0x10000
  · rw [if_pos three] at spelling ⊢
    simp only [List.cons_append, List.nil_append, List.cons.injEq] at spelling
    obtain ⟨rfl, rfl⟩ := spelling
    apply decodeFirst_three
    rw [threeBytes?_eq_some_iff, toNat_ofNat_byte (by omega), toNat_ofNat_byte (by omega),
      toNat_ofNat_byte (by omega)]
    exact ⟨by omega, ofNat_eq (by omega)⟩
  · rw [if_neg three] at spelling ⊢
    simp only [List.cons_append, List.nil_append, List.cons.injEq] at spelling
    obtain ⟨rfl, rfl⟩ := spelling
    apply decodeFirst_four
    rw [fourBytes?_eq_some_iff, toNat_ofNat_byte (by omega), toNat_ofNat_byte (by omega),
      toNat_ofNat_byte (by omega), toNat_ofNat_byte (by omega)]
    exact ⟨by omega, ofNat_eq (by omega)⟩

/-! ### Reading, then writing -/

theorem encodeChar_of_ascii {a : UInt8} (small : a.toNat < 0x80) :
    encodeChar (Char.ofNat a.toNat) = [a] := by
  simp only [encodeChar, toNat_ofNat_ascii small]
  rw [if_pos small, UInt8.ofNat_toNat]

private theorem encodeChar_of_two {a b : UInt8} {ch : Char} (read : twoBytes? a b = some ch) :
    encodeChar ch = [a, b] := by
  obtain ⟨bounds, rfl⟩ := twoBytes?_eq_some_iff.1 read
  have value := toNat_ofNat_char (n := (a.toNat % 0x20) * 0x40 + b.toNat % 0x40) (Or.inl (by omega))
  simp only [encodeChar, value]
  rw [if_neg (by omega), if_pos (by omega), ofNat_byte_eq (b := a) (by omega),
    ofNat_byte_eq (b := b) (by omega)]

private theorem encodeChar_of_three {a b c : UInt8} {ch : Char}
    (read : threeBytes? a b c = some ch) : encodeChar ch = [a, b, c] := by
  obtain ⟨bounds, rfl⟩ := threeBytes?_eq_some_iff.1 read
  have value := toNat_ofNat_char
    (n := (a.toNat % 0x10) * 0x1000 + (b.toNat % 0x40) * 0x40 + c.toNat % 0x40)
    (by unfold Nat.isValidChar; omega)
  simp only [encodeChar, value]
  rw [if_neg (by omega), if_neg (by omega), if_pos (by omega), ofNat_byte_eq (b := a) (by omega),
    ofNat_byte_eq (b := b) (by omega), ofNat_byte_eq (b := c) (by omega)]

private theorem encodeChar_of_four {a b c d : UInt8} {ch : Char}
    (read : fourBytes? a b c d = some ch) : encodeChar ch = [a, b, c, d] := by
  obtain ⟨bounds, rfl⟩ := fourBytes?_eq_some_iff.1 read
  have value := toNat_ofNat_char
    (n := (a.toNat % 0x8) * 0x40000 + (b.toNat % 0x40) * 0x1000 + (c.toNat % 0x40) * 0x40
      + d.toNat % 0x40) (by unfold Nat.isValidChar; omega)
  simp only [encodeChar, value]
  rw [if_neg (by omega), if_neg (by omega), if_neg (by omega), ofNat_byte_eq (b := a) (by omega),
    ofNat_byte_eq (b := b) (by omega), ofNat_byte_eq (b := c) (by omega),
    ofNat_byte_eq (b := d) (by omega)]

/-- What is read at the front of a text is either a character whose spelling stands there or the
replacement of one byte. -/
theorem decodeFirst_cases (a : UInt8) (rest : Bytes) :
    (∃ c, encodeChar c <+: a :: rest) ∨ decodeFirst a rest = (replacement, 1) := by
  by_cases small : a.toNat < 0x80
  · exact Or.inl ⟨_, rest, by rw [encodeChar_of_ascii small]; rfl⟩
  have above : ¬ a < 0x80 := by simpa [UInt8.lt_iff_toNat_lt] using small
  rw [decodeFirst, if_neg above]
  unfold decodeLong
  split
  · exact Or.inr rfl
  · rename_i b rest₁
    split
    · rename_i ch read
      exact Or.inl ⟨ch, rest₁, by rw [encodeChar_of_two read]; rfl⟩
    · split
      · exact Or.inr rfl
      · rename_i c rest₂
        split
        · rename_i ch read
          exact Or.inl ⟨ch, rest₂, by rw [encodeChar_of_three read]; rfl⟩
        · split
          · exact Or.inr rfl
          · rename_i d rest₃
            split
            · rename_i ch read
              exact Or.inl ⟨ch, rest₃, by rw [encodeChar_of_four read]; rfl⟩
            · exact Or.inr rfl

/-- The reader of the first character, described by the writer. -/
theorem spells_iff_decodeFirst {c : Char} {a : UInt8} {tail rest : Bytes} :
    Spells c (a :: tail) rest ↔ decodeFirst a (tail ++ rest) = (c, tail.length + 1) := by
  constructor
  · intro spells
    generalize bytesEq : a :: tail = bytes at spells
    cases spells with
    | spelled c rest =>
        have front : encodeChar c <+: a :: (tail ++ rest) := ⟨rest, by rw [← bytesEq]; rfl⟩
        rw [decodeFirst_of_spelling front, ← bytesEq]
        rfl
    | stray none =>
        rcases decodeFirst_cases a (tail ++ rest) with ⟨c, front⟩ | read
        · cases bytesEq
          exact absurd front (none c)
        · cases bytesEq
          exact read
  · intro read
    rcases decodeFirst_cases a (tail ++ rest) with ⟨d, front⟩ | stray
    · have both := (decodeFirst_of_spelling front).symm.trans read
      simp only [Prod.mk.injEq] at both
      obtain ⟨rfl, length⟩ := both
      have bytesEq : encodeChar d = a :: tail := by
        apply List.IsPrefix.eq_of_length _ length
        exact List.prefix_of_prefix_length_le front ⟨rest, rfl⟩ (by simp [length])
      rw [← bytesEq]
      exact .spelled d rest
    · have both := stray.symm.trans read
      simp only [Prod.mk.injEq, Nat.right_eq_add, List.length_eq_zero_iff] at both
      obtain ⟨rfl, rfl⟩ := both
      refine .stray fun d front => ?_
      have contrary := (decodeFirst_of_spelling front).symm.trans read
      simp only [Prod.mk.injEq, List.length_nil] at contrary
      have three : (encodeChar replacement).length = 3 := by decide
      rw [contrary.1, three] at contrary
      omega

/-! ### Spellings within texts -/

/-- Of two spellings at the front of one text neither goes on where the other has ended. -/
theorem eq_of_encodeChar_front {c d : Char} {bytes : Bytes} (first : encodeChar c <+: bytes)
    (second : encodeChar d <+: bytes) : c = d := by
  cases bytes with
  | nil => exact absurd (List.prefix_nil.1 first) (encodeChar_ne_nil c)
  | cons a rest =>
      have same := (decodeFirst_of_spelling first).symm.trans (decodeFirst_of_spelling second)
      exact congrArg Prod.fst same

/-- A byte below 0x80 stands only in the spelling of its own character. -/
theorem encodeChar_of_mem_ascii {c : Char} {b : UInt8} (member : b ∈ encodeChar c)
    (small : b.toNat < 0x80) : encodeChar c = [b] ∧ c = Char.ofNat b.toNat := by
  have range := toNat_char_range c
  by_cases one : c.toNat < 0x80
  · have spelling := encodeChar_ascii one
    rw [spelling, List.mem_singleton] at member
    subst member
    exact ⟨spelling, by rw [toNat_ofNat_byte (by omega), Char.ofNat_toNat]⟩
  · exfalso
    unfold encodeChar at member
    dsimp only at member
    rw [if_neg one] at member
    -- every byte of a longer spelling has its highest bit set
    split at member
    · simp only [List.mem_cons, List.not_mem_nil, or_false] at member
      rcases member with rfl | rfl <;> rw [toNat_ofNat_byte (by omega)] at small <;> omega
    · split at member
      · simp only [List.mem_cons, List.not_mem_nil, or_false] at member
        rcases member with rfl | rfl | rfl <;> rw [toNat_ofNat_byte (by omega)] at small <;> omega
      · simp only [List.mem_cons, List.not_mem_nil, or_false] at member
        rcases member with rfl | rfl | rfl | rfl <;> rw [toNat_ofNat_byte (by omega)] at small <;>
          omega

/-- A byte below 0x80 is read as its own character and as part of no other. -/
theorem Spells.of_mem_ascii {c : Char} {bytes rest : Bytes} {b : UInt8} (spells : Spells c bytes rest)
    (member : b ∈ bytes) (small : b.toNat < 0x80) : bytes = [b] ∧ c = Char.ofNat b.toNat := by
  cases spells with
  | spelled => exact encodeChar_of_mem_ascii member small
  | stray none =>
      rw [List.mem_singleton] at member
      subst member
      exact absurd ⟨rest, by rw [encodeChar_of_ascii small]; rfl⟩ (none (Char.ofNat b.toNat))

theorem decode_encodeChar_append (c : Char) (rest : Bytes) :
    decode (encodeChar c ++ rest) = c :: decode rest := by
  obtain ⟨a, tail, spelling⟩ := List.exists_cons_of_ne_nil (encodeChar_ne_nil c)
  have read := spells_iff_decodeFirst.1 (spelling ▸ Spells.spelled c rest)
  rw [spelling, List.cons_append, decode, read]
  simp

theorem decode_flatMap_encodeChar_append (cs : List Char) (rest : Bytes) :
    decode (cs.flatMap encodeChar ++ rest) = cs ++ decode rest := by
  induction cs with
  | nil => rfl
  | cons c cs ih =>
      rw [List.flatMap_cons, List.append_assoc, decode_encodeChar_append, ih, List.cons_append]

/-- What is read from some bytes does not depend on how the text behind them is read. -/
theorem Spells.decode_append {c : Char} {bytes rest : Bytes} (spells : Spells c bytes rest) :
    decode (bytes ++ rest) = c :: decode rest := by
  cases spells with
  | spelled => exact decode_encodeChar_append c rest
  | stray none =>
      rename_i a
      have read := spells_iff_decodeFirst.1 (Spells.stray none)
      rw [List.nil_append] at read
      rw [List.singleton_append, decode, read]
      rfl

/-- A text written as bytes is read back. -/
theorem decode_flatMap_encodeChar (cs : List Char) : decode (cs.flatMap encodeChar) = cs := by
  have whole := decode_flatMap_encodeChar_append cs []
  rwa [List.append_nil, decode, List.append_nil] at whole

theorem decodeText_encode (text : String) : decodeText (encode text) = text := by
  rw [decodeText, encode, decode_flatMap_encodeChar, String.ofList_toList]

/-! ### Texts within texts -/

/-- Bytes of ASCII spell the characters of their numbers. -/
theorem flatMap_encodeChar_ascii {bytes : Bytes} (small : ∀ b ∈ bytes, b.toNat < 0x80) :
    (bytes.map (fun b => Char.ofNat b.toNat)).flatMap encodeChar = bytes := by
  induction bytes with
  | nil => rfl
  | cons b bytes ih =>
      rw [List.map_cons, List.flatMap_cons, encodeChar_of_ascii (small b List.mem_cons_self),
        ih fun d member => small d (List.mem_cons_of_mem b member), List.singleton_append]

/-- Bytes of ASCII are read as the characters of their numbers. -/
theorem decode_ascii {bytes : Bytes} (small : ∀ b ∈ bytes, b.toNat < 0x80) :
    decode bytes = bytes.map (fun b => Char.ofNat b.toNat) := by
  have read := decode_flatMap_encodeChar (bytes.map (fun b => Char.ofNat b.toNat))
  rwa [flatMap_encodeChar_ascii small] at read

/-- A byte above ASCII is never read as a character of ASCII. -/
theorem toNat_ascii_of_decode {bytes : Bytes} (small : ∀ c ∈ decode bytes, c.toNat < 0x80) :
    ∀ b ∈ bytes, b.toNat < 0x80 := by
  fun_induction decode bytes with
  | case1 => simp
  | case2 a rest ih =>
      have firstSmall := small _ List.mem_cons_self
      have ascii : a.toNat < 0x80 := by
        rcases decodeFirst_cases a rest with ⟨c, front⟩ | stray
        · rw [decodeFirst_of_spelling front] at firstSmall
          rw [encodeChar_ascii firstSmall, List.singleton_prefix_cons_iff] at front
          rw [← front, toNat_ofNat_byte (Nat.lt_trans firstSmall (by decide))]
          exact firstSmall
        · rw [stray] at firstSmall
          exact absurd firstSmall (by decide)
      rw [decodeFirst_ascii ascii] at small ih
      exact List.forall_mem_cons.2 ⟨ascii, ih fun c member => small c (List.mem_cons_of_mem _ member)⟩

theorem prefix_of_flatMap_encodeChar {cs ds : List Char}
    (front : cs.flatMap encodeChar <+: ds.flatMap encodeChar) : cs <+: ds := by
  induction cs generalizing ds with
  | nil => exact List.nil_prefix
  | cons c cs ih =>
      rw [List.flatMap_cons] at front
      have first : encodeChar c <+: ds.flatMap encodeChar := (List.prefix_append _ _).trans front
      cases ds with
      | nil => exact absurd (List.prefix_nil.1 first) (encodeChar_ne_nil c)
      | cons d ds =>
          obtain rfl := eq_of_encodeChar_front first (List.prefix_append _ _)
          rw [List.flatMap_cons, List.prefix_append_right_inj] at front
          exact List.cons_prefix_cons.2 ⟨rfl, ih front⟩

/-- Where the bytes of a text that begins with ASCII stand in the bytes of another one, the text stands in
it. -/
theorem infix_of_flatMap_encodeChar {c : Char} {cs ds : List Char} (small : c.toNat < 0x80)
    (within : (c :: cs).flatMap encodeChar <:+: ds.flatMap encodeChar) : c :: cs <:+: ds := by
  induction ds with
  | nil => simp [encodeChar_ne_nil] at within
  | cons d ds ih =>
      obtain ⟨before, behind, joins⟩ := within
      have whole := joins
      rw [@List.flatMap_cons _ _ d ds, List.append_assoc, List.append_eq_append_iff] at joins
      rcases joins with ⟨past, spelling, joins⟩ | ⟨later, -, joins⟩
      · cases past with
        | nil => exact List.infix_cons (ih ⟨[], behind, joins⟩)
        | cons a past =>
            -- the first byte of the text stands within a spelling, so it is all of this spelling
            rw [List.flatMap_cons, encodeChar_ascii small] at joins
            have first : UInt8.ofNat c.toNat = a := (List.cons.inj joins).1
            have member : UInt8.ofNat c.toNat ∈ encodeChar d := by simp [spelling, first]
            have single := (encodeChar_of_mem_ascii member
              (by rw [toNat_ofNat_byte (by omega)]; exact small)).1
            have size := congrArg List.length (single.symm.trans spelling)
            simp only [List.length_append, List.length_cons, List.length_nil] at size
            have atFront : before = [] := List.eq_nil_of_length_eq_zero (by omega)
            rw [atFront] at whole
            exact (prefix_of_flatMap_encodeChar ⟨behind, whole⟩).isInfix
      · exact List.infix_cons (ih ⟨later, behind, by rw [joins, List.append_assoc]⟩)

/-! ### Spellings -/

theorem map_fst_spellings (bytes : Bytes) : (spellings bytes).map Prod.fst = decode bytes := by
  fun_induction spellings bytes with
  | case1 => rw [decode, List.map_nil]
  | case2 a rest size ih => rw [decode, List.map_cons, ih]

theorem flatMap_snd_spellings (bytes : Bytes) : (spellings bytes).flatMap Prod.snd = bytes := by
  fun_induction spellings bytes with
  | case1 => rfl
  | case2 a rest size ih => rw [List.flatMap_cons, ih, List.cons_append, List.take_append_drop]

theorem ne_nil_of_mem_spellings {bytes : Bytes} {s : Char × Bytes} (member : s ∈ spellings bytes) :
    s.2 ≠ [] := by
  fun_induction spellings bytes with
  | case1 => cases member
  | case2 a rest size ih =>
      rcases List.mem_cons.1 member with rfl | later
      · exact List.cons_ne_nil _ _
      · exact ih later

/-! ### The order of bytes -/

theorem ofNat_byte_lt_iff {m n : Nat} (small : m < 256) (small' : n < 256) :
    UInt8.ofNat m < UInt8.ofNat n ↔ m < n := by
  rw [UInt8.lt_iff_toNat_lt, toNat_ofNat_byte small, toNat_ofNat_byte small']

theorem ofNat_byte_eq_iff {m n : Nat} (small : m < 256) (small' : n < 256) :
    UInt8.ofNat m = UInt8.ofNat n ↔ m = n := by
  rw [← UInt8.toNat_inj, toNat_ofNat_byte small, toNat_ofNat_byte small']

/-- The bytes of a smaller character are smaller, whatever follows them: a longer form begins with a greater
byte, and in forms of the same length the higher bits come first. -/
theorem encodeChar_append_lt {c d : Char} (smaller : c < d) (rest rest' : Bytes) :
    encodeChar c ++ rest < encodeChar d ++ rest' := by
  have below : c.toNat < d.toNat := smaller
  have range := toNat_char_range d
  unfold encodeChar
  dsimp only
  repeat' split
  all_goals
    simp only [List.cons_append, List.cons_lt_cons_iff]
    repeat rw [ofNat_byte_lt_iff (by omega) (by omega), ofNat_byte_eq_iff (by omega) (by omega)]
    omega

/-- Texts have the order of their bytes. -/
theorem encode_lt_encode {s t : String} (smaller : s < t) : encode s < encode t := by
  have first : ∀ (c : Char) (cs : List Char), ([] : Bytes) < (c :: cs).flatMap encodeChar := by
    intro c cs
    obtain ⟨a, tail, spelling⟩ := List.exists_cons_of_ne_nil (encodeChar_ne_nil c)
    rw [List.flatMap_cons, spelling]
    exact List.nil_lt_cons a _
  rw [String.lt_iff] at smaller
  rw [encode, encode]
  generalize s.toList = cs, t.toList = ds at smaller
  induction smaller with
  | nil => exact first _ _
  | rel below =>
    rw [List.flatMap_cons, List.flatMap_cons]
    exact encodeChar_append_lt below _ _
  | cons _ ih =>
    rw [List.flatMap_cons, List.flatMap_cons]
    exact List.append_left_lt ih

end CodeGauge.Text.Utf8
