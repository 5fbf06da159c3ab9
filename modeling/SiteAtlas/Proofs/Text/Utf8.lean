import SiteAtlas.Text.Utf8

/-! # Written texts

The bytes of a text are read without a mistake, as the characters that they were written for. Only
the line ends of other systems are not kept.
-/

namespace SiteAtlas.Text

/-- Whether bytes go on with a character that has begun, up to its end. -/
inductive Completes (c : Char) : PartialChar → List UInt8 → Prop where
  | last {p : PartialChar} {byte : UInt8} : p.missing = 1 → p.low ≤ byte.toNat →
    byte.toNat ≤ p.high → Char.ofNat (p.bits * 64 + (byte.toNat - 0x80)) = c →
    Completes c p [byte]
  | next {p : PartialChar} {byte : UInt8} {missing : Nat} {rest : List UInt8} :
    p.missing = missing + 2 → p.low ≤ byte.toNat → byte.toNat ≤ p.high →
    Completes c ⟨missing + 1, p.bits * 64 + (byte.toNat - 0x80), 0x80, 0xBF⟩ rest →
    Completes c p (byte :: rest)

/-- Whether bytes are those of one character. -/
inductive Spells (c : Char) : List UInt8 → Prop where
  | alone {byte : UInt8} : FirstByte.ofByte byte = .char c → Spells c [byte]
  | begun {first : UInt8} {p : PartialChar} {rest : List UInt8} :
    FirstByte.ofByte first = .partly p → Completes c p rest → Spells c (first :: rest)

section Reading

variable {c : Char} {p : PartialChar} {bytes : List UInt8}

/-- The reading of the next byte, as a step of reading them all. -/
def readStep (read : List Char × Option PartialChar) (byte : UInt8) :
    List Char × Option PartialChar :=
  readNext read.1 read.2 byte

theorem Completes.foldl_readStep (completes : Completes c p bytes) (done : List Char) :
    bytes.foldl readStep (done, some p) = (c :: done, none) := by
  induction completes with
  | @last p byte missing low high isChar =>
    simp [readStep, readNext, missing, low, high, isChar]
  | @next p byte missing rest count low high _ ih =>
    simpa [readStep, readNext, count, low, high] using ih

theorem Completes.mistakeFrom_append (completes : Completes c p bytes) (place start : Nat)
    (first : UInt8) (bits : Nat) (rest : List UInt8) :
    mistakeFrom place (some (start, first, { p with bits := bits })) (bytes ++ rest) =
      mistakeFrom (place + bytes.length) none rest := by
  induction completes generalizing place bits with
  | @last p byte missing low high isChar =>
    simp [mistakeFrom, missing, low, high]
  | @next p byte missing more count low high _ ih =>
    have step : mistakeFrom place (some (start, first, { p with bits := bits }))
        (byte :: (more ++ rest)) = mistakeFrom (place + 1)
          (some (start, first, ⟨missing + 1, 0, 0x80, 0xBF⟩)) (more ++ rest) := by
      simp [mistakeFrom, count, low, high]
    rw [List.cons_append, step, ih (place + 1) 0, List.length_cons, Nat.add_right_comm,
      Nat.add_assoc]

theorem Spells.foldl_readStep (spells : Spells c bytes) (done : List Char) :
    bytes.foldl readStep (done, none) = (c :: done, none) := by
  cases spells with
  | alone isChar => simp [readStep, readNext, readFirst, isChar]
  | begun isFirst completes =>
    simpa [readStep, readNext, readFirst, isFirst] using completes.foldl_readStep done

theorem Spells.mistakeFrom_append (spells : Spells c bytes) (place : Nat) (rest : List UInt8) :
    mistakeFrom place none (bytes ++ rest) = mistakeFrom (place + bytes.length) none rest := by
  cases spells with
  | alone isChar => simp [mistakeFrom, isChar]
  | @begun first p more isFirst completes =>
    have step : mistakeFrom place none (first :: (more ++ rest)) =
        mistakeFrom (place + 1) (some (place, first, p)) (more ++ rest) := by
      rw [mistakeFrom, isFirst]
    rw [List.cons_append, step, completes.mistakeFrom_append (place + 1) place first p.bits rest,
      List.length_cons, Nat.add_right_comm, Nat.add_assoc]

end Reading

theorem toNat_byteOfNat {n : Nat} (bound : n < 256) : (UInt8.ofNat n).toNat = n := by
  simpa using bound

theorem ofByte_one {n : Nat} (bound : n ≤ 0x7F) :
    FirstByte.ofByte (UInt8.ofNat n) = .char (Char.ofNat n) := by
  rw [FirstByte.ofByte, toNat_byteOfNat (by omega)]
  exact if_pos (by omega)

theorem ofByte_two {n : Nat} (least : 2 ≤ n) (bound : n < 0x20) :
    FirstByte.ofByte (UInt8.ofNat (n + 0xC0)) = .partly ⟨1, n, 0x80, 0xBF⟩ := by
  rw [FirstByte.ofByte, toNat_byteOfNat (by omega), if_neg (by omega), if_neg (by omega),
    if_pos (by omega), Nat.add_sub_cancel]

theorem ofByte_three {n : Nat} (bound : n < 0x10) :
    FirstByte.ofByte (UInt8.ofNat (n + 0xE0)) =
      .partly ⟨2, n, if n = 0 then 0xA0 else 0x80, if n = 13 then 0x9F else 0xBF⟩ := by
  rw [FirstByte.ofByte, toNat_byteOfNat (by omega), if_neg (by omega), if_neg (by omega),
    if_neg (by omega), if_pos (by omega), Nat.add_sub_cancel]
  congr 2
  · simp
  · simp

theorem ofByte_four {n : Nat} (bound : n < 5) :
    FirstByte.ofByte (UInt8.ofNat (n + 0xF0)) =
      .partly ⟨3, n, if n = 0 then 0x90 else 0x80, if n = 4 then 0x8F else 0xBF⟩ := by
  rw [FirstByte.ofByte, toNat_byteOfNat (by omega), if_neg (by omega), if_neg (by omega),
    if_neg (by omega), if_neg (by omega), if_pos (by omega), Nat.add_sub_cancel]
  congr 2
  · simp
  · simp

/-- The last byte of a character has its last six bits. -/
theorem completes_last {c : Char} {low high bits n : Nat} (bound : n < 0x40)
    (least : low ≤ n + 0x80) (most : n + 0x80 ≤ high) (isChar : Char.ofNat (bits * 64 + n) = c) :
    Completes c ⟨1, bits, low, high⟩ [UInt8.ofNat (n + 0x80)] := by
  have byte := toNat_byteOfNat (n := n + 0x80) (by omega)
  refine .last rfl (byte.symm ▸ least) (byte.symm ▸ most) ?_
  rwa [byte, Nat.add_sub_cancel]

/-- A byte before the last one has six bits between those before and those behind it. -/
theorem completes_next {c : Char} {missing low high bits n : Nat} {rest : List UInt8}
    (bound : n < 0x40) (least : low ≤ n + 0x80) (most : n + 0x80 ≤ high)
    (completes : Completes c ⟨missing + 1, bits * 64 + n, 0x80, 0xBF⟩ rest) :
    Completes c ⟨missing + 2, bits, low, high⟩ (UInt8.ofNat (n + 0x80) :: rest) := by
  have byte := toNat_byteOfNat (n := n + 0x80) (by omega)
  refine .next rfl (byte.symm ▸ least) (byte.symm ▸ most) ?_
  rwa [byte, Nat.add_sub_cancel]

/-- A character is written by its own bytes: as the code point is divided among them, it is put
together again, and none of the bytes is out of the bounds that the first one sets. -/
theorem spells_utf8EncodeChar (c : Char) : Spells c (String.utf8EncodeChar c) := by
  have valid : c.val.toNat < 0xD800 ∨ 0xDFFF < c.val.toNat ∧ c.val.toNat < 0x110000 := c.valid
  have isChar : Char.ofNat c.val.toNat = c := Char.ofNat_toNat c
  unfold String.utf8EncodeChar
  dsimp only
  generalize c.val.toNat = v at valid isChar ⊢
  split
  next one => exact .alone ((ofByte_one one).trans (congrArg FirstByte.char isChar))
  next =>
    split
    next two =>
      refine .begun (ofByte_two (by omega) (by omega)) ?_
      refine completes_last (by omega) (by omega) (by omega) ?_
      rwa [show v / 64 % 0x20 * 64 + v % 0x40 = v by omega]
    next =>
      split
      next three =>
        refine .begun (ofByte_three (by omega)) ?_
        refine completes_next (by omega) (by split <;> omega) (by split <;> omega) ?_
        refine completes_last (by omega) (by omega) (by omega) ?_
        rwa [show (v / 4096 % 0x10 * 64 + v / 64 % 0x40) * 64 + v % 0x40 = v by omega]
      next four =>
        refine .begun (ofByte_four (by omega)) ?_
        refine completes_next (by omega) (by split <;> omega) (by split <;> omega) ?_
        refine completes_next (by omega) (by omega) (by omega) ?_
        refine completes_last (by omega) (by omega) (by omega) ?_
        rwa [show ((v / 262144 % 0x08 * 64 + v / 4096 % 0x40) * 64 + v / 64 % 0x40) * 64 +
          v % 0x40 = v by omega]

/-! ## Texts -/

theorem toList_toUTF8 (s : String) :
    s.toUTF8.data.toList = s.toList.flatMap String.utf8EncodeChar := by
  have bytes : s.toUTF8 = s.toList.utf8Encode := String.utf8Encode_toList.symm
  rw [bytes, List.utf8Encode, List.toList_data_toByteArray]

theorem decode_toUTF8 (s : String) : decode s.toUTF8.data.toList = s.toList.reverse := by
  have run (chars done : List Char) :
      (chars.flatMap String.utf8EncodeChar).foldl readStep (done, none) =
        (chars.reverse ++ done, none) := by
    induction chars generalizing done with
    | nil => rfl
    | cons c rest ih =>
      rw [List.flatMap_cons, List.foldl_append, (spells_utf8EncodeChar c).foldl_readStep, ih,
        List.reverse_cons, List.append_assoc]
      rfl
  have read := run s.toList []
  rw [List.append_nil] at read
  rw [toList_toUTF8]
  exact congrArg (fun read => if read.2.isSome then replacement :: read.1 else read.1) read

/-- A text with its line ends as plain line feeds. -/
def withLineFeeds (s : String) : String := String.ofList (unifyLineEnds [] s.toList.reverse)

/-- A written text is read without a mistake, but for its line ends. -/
theorem ofBytesStrict_toUTF8 (s : String) : ofBytesStrict s.toUTF8 = .ok (withLineFeeds s) := by
  have run (chars : List Char) (place : Nat) :
      mistakeFrom place none (chars.flatMap String.utf8EncodeChar) = none := by
    induction chars generalizing place with
    | nil => rfl
    | cons c rest ih =>
      rw [List.flatMap_cons, (spells_utf8EncodeChar c).mistakeFrom_append, ih]
  rw [ofBytesStrict, toList_toUTF8, run, ofBytes, decode_toUTF8]
  rfl

theorem unifyLineEnds_of_notMem {chars : List Char} (plain : '\r' ∉ chars) (done : List Char) :
    unifyLineEnds done chars = chars.reverse ++ done := by
  induction chars generalizing done with
  | nil => rfl
  | cons c rest ih =>
    obtain ⟨other, others⟩ := not_or.mp (mt List.mem_cons.mpr plain)
    have step : unifyLineEnds done (c :: rest) = unifyLineEnds (c :: done) rest := by
      rw [unifyLineEnds]
      · rintro next rfl rfl
        exact others List.mem_cons_self
      · exact Ne.symm other
    rw [step, ih others, List.reverse_cons, List.append_assoc]
    rfl

/-- A written text without other line ends than line feeds is read as it is. -/
theorem ofBytes_toUTF8 {s : String} (plain : '\r' ∉ s.toList) : ofBytes s.toUTF8 = s := by
  rw [ofBytes, decode_toUTF8, unifyLineEnds_of_notMem (mt List.mem_reverse.mp plain),
    List.reverse_reverse, List.append_nil, String.ofList_toList]

end SiteAtlas.Text
