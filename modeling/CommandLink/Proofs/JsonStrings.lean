import CommandLink.Json.Grammar
import CommandLink.Json.Reader
import Mathlib.Data.List.Basic

/-!
# Reading strings

A scanner `Reads` what a rule of the grammar derives: whatever it returns, the rule derives from
the bytes before and behind it; and whatever the rule derives, it returns, as long as what stands
behind cannot be taken for more of the same. Lines and columns do not matter to this.
-/

namespace CommandLink

/-! ## Bytes of characters -/

namespace Bytes

theorem toByteArray_eq (bytes : Bytes) : (⟨bytes.toArray⟩ : ByteArray) = bytes.toByteArray := by
  ext1
  simp only [List.data_toByteArray]

theorem toByteArray_inj {one other : Bytes} (same : one.toByteArray = other.toByteArray) :
    one = other := by
  have data := congrArg ByteArray.data same
  simpa only [List.data_toByteArray, Array.mk.injEq] using data

theorem toByteArray_ofText (text : String) : (ofText text).toByteArray = text.toByteArray := by
  rw [← String.utf8Encode_toList]
  rfl

theorem length_ofText (text : String) : (ofText text).length = text.utf8ByteSize := by
  rw [← String.size_toByteArray, ← toByteArray_ofText, List.size_toByteArray]

/-- Bytes are read as the text whose form they are. -/
theorem text?_eq_some_iff {bytes : Bytes} {text : String} :
    text? bytes = some text ↔ bytes = ofText text := by
  rw [text?, toByteArray_eq, String.fromUTF8?]
  constructor
  · intro read
    split at read
    next valid =>
      obtain rfl := Option.some.inj read
      have form : (ofText _).toByteArray = bytes.toByteArray :=
        toByteArray_ofText (String.fromUTF8 bytes.toByteArray valid)
      exact (toByteArray_inj form).symm
    next => nomatch read
  · rintro rfl
    rw [toByteArray_ofText, dif_pos text.isValidUTF8]
    rfl

/-- No character's bytes begin another one's. -/
theorem utf8EncodeChar_append_inj {c d : Char} {one other : Bytes}
    (same : String.utf8EncodeChar c ++ one = String.utf8EncodeChar d ++ other) :
    c = d ∧ one = other := by
  have arrays := congrArg List.toByteArray same
  rw [List.toByteArray_append, List.toByteArray_append] at arrays
  have decoded := congrArg (ByteArray.utf8DecodeChar? · 0) arrays
  simp only [ByteArray.utf8DecodeChar?_utf8EncodeChar_append] at decoded
  obtain rfl := Option.some.inj decoded
  exact ⟨rfl, List.append_cancel_left same⟩

/-- Only the first byte of a character looks like one. -/
theorem exists_utf8EncodeChar_eq_cons (c : Char) : ∃ first further,
    String.utf8EncodeChar c = first :: further ∧ first.IsUTF8FirstByte ∧
      ∀ byte ∈ further, ¬byte.IsUTF8FirstByte := by
  cases form : String.utf8EncodeChar c with
  | nil => exact absurd form String.utf8EncodeChar_ne_nil
  | cons first further =>
    have look (i : Nat) (inside : i < (first :: further).length) :
        (first :: further)[i].IsUTF8FirstByte ↔ i = 0 := by
      simp only [← form]
      exact UInt8.isUTF8FirstByte_getElem_utf8EncodeChar
    refine ⟨first, further, rfl, (look 0 (Nat.zero_lt_succ _)).mpr rfl, fun byte member => ?_⟩
    obtain ⟨i, inside, rfl⟩ := List.mem_iff_getElem.mp member
    exact fun looks => nomatch (look (i + 1) (Nat.succ_lt_succ inside)).mp looks

theorem utf8EncodeChar_of_ascii {c : Char} (ascii : c.toNat < 0x80) :
    String.utf8EncodeChar c = [UInt8.ofNat c.toNat] := by
  have small : c.val.toNat ≤ 0x7F := Nat.le_of_lt_succ ascii
  simp only [String.utf8EncodeChar, if_pos small]
  rfl

theorem le_of_mem_utf8EncodeChar {c : Char} (beyond : 0x80 ≤ c.toNat) {byte : UInt8}
    (member : byte ∈ String.utf8EncodeChar c) : 0x80 ≤ byte := by
  have large : ¬c.val.toNat ≤ 0x7F := Nat.not_le.mpr beyond
  rw [UInt8.le_iff_toNat_le]
  simp only [String.utf8EncodeChar, if_neg large] at member
  -- Every byte but an ASCII one is a six-bit group or a prefix with the top bit set.
  split at member
  · simp only [List.mem_cons, List.not_mem_nil, or_false] at member
    rcases member with rfl | rfl <;> simp <;> omega
  · split at member
    · simp only [List.mem_cons, List.not_mem_nil, or_false] at member
      rcases member with rfl | rfl | rfl <;> simp <;> omega
    · simp only [List.mem_cons, List.not_mem_nil, or_false] at member
      rcases member with rfl | rfl | rfl | rfl <;> simp <;> omega

end Bytes

namespace Json

open Grammar

namespace Cursor

@[simp] theorem past_rest (cursor : Cursor) : cursor.past.rest = cursor.rest.tail := by
  unfold past
  split
  next empty => simp [empty]
  next byte rest some => split <;> simp [some]

@[simp] theorem pastBlanks_rest (cursor : Cursor) :
    cursor.pastBlanks.rest = cursor.rest.dropWhile blank := by
  have go (bytes : Bytes) : ∀ line column,
      (pastBlanks.go line column bytes).rest = bytes.dropWhile blank := by
    induction bytes with
    | nil => exact fun _ _ => rfl
    | cons byte rest ih =>
      intro line column
      unfold pastBlanks.go
      by_cases isBlank : blank byte
      · rw [if_pos isBlank, List.dropWhile_cons_of_pos isBlank]
        split
        next => exact ih _ _
        next => exact ih _ _
      · rw [if_neg isBlank, List.dropWhile_cons_of_neg isBlank]
  exact go cursor.rest cursor.line cursor.column

end Cursor

namespace Grammar

theorem HexUnit.length_lt {input : Bytes} {unit : Nat} {rest : Bytes}
    (digits : HexUnit input unit rest) : rest.length < input.length := by
  cases digits with
  | digits =>
    simp only [List.length_cons]
    omega

theorem Escape.length_lt {lax : Prop} {input : Bytes} {c : Char} {rest : Bytes}
    (escape : Escape lax input c rest) : rest.length < input.length := by
  cases escape with
  | short => exact Nat.lt_succ_self _
  | unit digits =>
    have shorter := digits.length_lt
    simp only [List.length_cons]
    omega
  | pair digits _ further =>
    have shorter := digits.length_lt
    have again := further.length_lt
    simp only [List.length_cons] at shorter ⊢
    omega
  | lone _ digits =>
    have shorter := digits.length_lt
    simp only [List.length_cons]
    omega

theorem Text.length_lt {lax : Prop} {input : Bytes} {chars : List Char} {rest : Bytes}
    (text : Text lax input chars rest) : rest.length < input.length := by
  induction text with
  | close => exact Nat.lt_succ_self _
  | plain _ _ _ _ ih =>
    rw [List.length_append]
    omega
  | escape names _ ih =>
    have shorter := names.length_lt
    rw [List.length_cons]
    omega

end Grammar

namespace Scan

variable {α β : Type}

/-! ## Scanners and rules -/

theorem bind_of_ok {scan : Scan α} {cursor after : Cursor} {a : α}
    (read : scan cursor = .ok (a, after)) (next : α → Scan β) :
    (scan >>= next) cursor = next a after := by
  show (scan cursor >>= fun pair => next pair.1 pair.2) = next a after
  rw [read]
  rfl

theorem bind_eq_ok_iff {scan : Scan α} {next : α → Scan β} {cursor : Cursor} {r : β × Cursor} :
    (scan >>= next) cursor = .ok r ↔
      ∃ a middle, scan cursor = .ok (a, middle) ∧ next a middle = .ok r := by
  constructor
  · intro read
    cases first : scan cursor with
    | error problem =>
      change (scan cursor >>= fun pair => next pair.1 pair.2) = .ok r at read
      rw [first] at read
      nomatch read
    | ok pair => exact ⟨pair.1, pair.2, rfl, (bind_of_ok first next).symm.trans read⟩
  · rintro ⟨a, middle, first, further⟩
    exact (bind_of_ok first next).trans further

/-- A scanner reads what a rule derives, up to bytes that may stand behind it. -/
structure Reads (scan : Scan α) (rule : Bytes → α → Bytes → Prop) (ends : Bytes → Prop) :
    Prop where
  sound : ∀ {cursor a after}, scan cursor = .ok (a, after) → rule cursor.rest a after.rest
  complete : ∀ {cursor a rest}, rule cursor.rest a rest → ends rest →
    ∃ after, scan cursor = .ok (a, after) ∧ after.rest = rest

/-- Anything may stand behind. -/
def anything (_ : Bytes) : Prop := True

theorem peek_bind (further : Option UInt8 → Scan β) (cursor : Cursor) :
    (peek >>= further) cursor = further cursor.rest.head? cursor := rfl

theorem next_bind (further : Option UInt8 → Scan β) (cursor : Cursor) :
    (next >>= further) cursor = further cursor.rest.head? cursor.past := rfl

theorem advance_bind (further : Unit → Scan β) (cursor : Cursor) :
    (advance >>= further) cursor = further () cursor.past := rfl

theorem rounds_bind (further : Nat → Scan β) (cursor : Cursor) :
    (rounds >>= further) cursor = further (cursor.rest.length + 1) cursor := rfl

/-! ## Strings -/

theorem expectPart_reads (byte : UInt8) :
    Reads (unicodeEscape.expectPart byte) (fun input _ rest => input = byte :: rest) anything where
  sound := by
    intro cursor _ after further
    rw [unicodeEscape.expectPart, next_bind] at further
    cases input : cursor.rest with
    | nil => simp [input, refuse] at further
    | cons first rest =>
      by_cases same : first = byte
      · simp only [input, List.head?_cons, same, if_true] at further
        obtain ⟨-, rfl⟩ := Prod.mk.inj (Except.ok.inj further)
        simp [input, same]
      · simp [input, same, refuse] at further
  complete := by
    intro cursor _ rest input _
    refine ⟨cursor.past, ?_, by simp [input]⟩
    rw [unicodeEscape.expectPart, next_bind]
    simp [input]
    rfl

theorem hexUnit_reads : Reads hexUnit HexUnit anything where
  sound := by
    intro cursor unit after read
    unfold hexUnit at read
    split at read
    next a b c d rest input =>
      dsimp only at read
      split at read
      next w x y z first second third fourth =>
        obtain ⟨rfl, rfl⟩ := Prod.mk.inj (Except.ok.inj read)
        simpa [input] using HexUnit.digits rest first second third fourth
      next => nomatch read
    next => nomatch read
    next => nomatch read
    next => nomatch read
    next => nomatch read
  complete := by
    intro cursor unit rest digits _
    obtain ⟨line, column, input⟩ := cursor
    cases digits with
    | @digits a b c d w x y z _ first second third fourth =>
      refine ⟨(⟨line, column, a :: b :: c :: d :: rest⟩ : Cursor).past.past.past.past, ?_, by simp⟩
      simp only [hexUnit, first, second, third, fourth]

/-- A rule for characters, as a rule for their bytes. -/
def Encoded (rule : Bytes → Char → Bytes → Prop) (input bytes rest : Bytes) : Prop :=
  ∃ c, rule input c rest ∧ bytes = String.utf8EncodeChar c

theorem unicodeEscape_reads :
    Reads unicodeEscape (fun input => Encoded (Escape False) (0x75 :: input)) anything where
  sound := by
    intro cursor bytes after read
    obtain ⟨unit, behind, read, further⟩ := bind_eq_ok_iff.mp read
    have digits := hexUnit_reads.sound read
    by_cases trail : 0xDC00 ≤ unit ∧ unit ≤ 0xDFFF
    · rw [if_pos trail] at further
      nomatch further
    rw [if_neg trail] at further
    by_cases whole : unit < 0xD800 ∨ 0xDBFF < unit
    · rw [if_pos whole] at further
      obtain ⟨rfl, rfl⟩ := Prod.mk.inj (Except.ok.inj further)
      have lead : ¬leading unit := by unfold leading; omega
      exact ⟨_, .unit digits ⟨lead, trail⟩, rfl⟩
    -- What is left is a leading surrogate, which needs a partner.
    rw [if_neg whole] at further
    have lead : leading unit := by unfold leading; omega
    obtain ⟨_, slashed, slash, further⟩ := bind_eq_ok_iff.mp further
    obtain ⟨_, lettered, letter, further⟩ := bind_eq_ok_iff.mp further
    obtain ⟨second, paired, read, further⟩ := bind_eq_ok_iff.mp further
    have slash := (expectPart_reads 0x5C).sound slash
    have letter := (expectPart_reads 0x75).sound letter
    have partner := hexUnit_reads.sound read
    by_cases alone : second < 0xDC00 ∨ 0xDFFF < second
    · rw [if_pos alone] at further
      nomatch further
    · rw [if_neg alone] at further
      obtain ⟨rfl, rfl⟩ := Prod.mk.inj (Except.ok.inj further)
      rw [slash, letter] at digits
      have trails : trailing second := by unfold trailing; omega
      exact ⟨_, .pair digits lead partner trails, rfl⟩
  complete := by
    rintro cursor _ rest ⟨c, escape, rfl⟩ _
    cases escape with
    | short _ stands => nomatch stands
    | @unit _ unit _ digits whole =>
      obtain ⟨after, read, behind⟩ := hexUnit_reads.complete digits trivial
      refine ⟨after, ?_, behind⟩
      have notTrailing : ¬(0xDC00 ≤ unit ∧ unit ≤ 0xDFFF) := whole.2
      have alone : unit < 0xD800 ∨ 0xDBFF < unit := by
        have lead := whole.1
        unfold leading at lead
        omega
      rw [unicodeEscape, bind_of_ok read, if_neg notTrailing, if_pos alone]
      rfl
    | @pair _ first between second _ digits begins further ends =>
      obtain ⟨leads, read, behind⟩ := hexUnit_reads.complete digits trivial
      obtain ⟨slashed, slash, behindSlash⟩ :=
        (expectPart_reads 0x5C).complete (a := ()) behind trivial
      obtain ⟨lettered, letter, behindLetter⟩ :=
        (expectPart_reads 0x75).complete (a := ()) behindSlash trivial
      obtain ⟨after, partner, done⟩ :=
        hexUnit_reads.complete (behindLetter ▸ further) trivial
      refine ⟨after, ?_, done⟩
      have notTrailing : ¬(0xDC00 ≤ first ∧ first ≤ 0xDFFF) := by
        unfold leading at begins
        omega
      have paired : ¬(first < 0xD800 ∨ 0xDBFF < first) := by
        unfold leading at begins
        omega
      have trails : ¬(second < 0xDC00 ∨ 0xDFFF < second) := by
        unfold trailing at ends
        omega
      rw [unicodeEscape, bind_of_ok read, if_neg notTrailing, if_neg paired, bind_of_ok slash,
        bind_of_ok letter, bind_of_ok partner, if_neg trails]
      rfl
    | lone admitted => exact admitted.elim

theorem utf8EncodeChar_short {letter byte : UInt8}
    (stands : shortEscape? letter = some byte) :
    String.utf8EncodeChar (Char.ofNat byte.toNat) = [byte] := by
  unfold shortEscape? at stands
  split at stands <;> cases stands <;> decide

theorem escape_reads : Reads escape (Encoded (Escape False)) anything where
  sound := by
    intro cursor bytes after further
    rw [escape, next_bind] at further
    cases input : cursor.rest with
    | nil => simp [input, refuse] at further
    | cons letter rest =>
      rw [input] at further
      simp only [List.head?_cons] at further
      by_cases unicode : letter = 0x75
      · rw [if_pos unicode] at further
        have escaped := unicodeEscape_reads.sound further
        simpa [input, unicode] using escaped
      · rw [if_neg unicode] at further
        cases stands : shortEscape? letter with
        | none => simp [stands, refuse] at further
        | some byte =>
          rw [stands] at further
          obtain ⟨rfl, rfl⟩ := Prod.mk.inj (Except.ok.inj further)
          refine ⟨_, ?_, (utf8EncodeChar_short stands).symm⟩
          simpa [input] using Escape.short rest stands
  complete := by
    rintro ⟨line, column, input⟩ _ rest ⟨c, escape, rfl⟩ _
    by_cases unicode : ∃ tail, input = 0x75 :: tail
    · obtain ⟨tail, rfl⟩ := unicode
      have escaped : Encoded (Escape False)
          (0x75 :: (⟨line, column, 0x75 :: tail⟩ : Cursor).past.rest) (String.utf8EncodeChar c)
          rest :=
        ⟨c, by simpa using escape, rfl⟩
      obtain ⟨after, read, behind⟩ := unicodeEscape_reads.complete escaped trivial
      exact ⟨after, (next_bind ..).trans read, behind⟩
    · cases escape with
      | @short letter byte _ stands =>
        have other : letter ≠ 0x75 := fun same => unicode ⟨rest, by rw [same]⟩
        refine ⟨(⟨line, column, letter :: rest⟩ : Cursor).past, ?_, by simp⟩
        refine (next_bind ..).trans ?_
        simp only [List.head?_cons, if_neg other, stands, utf8EncodeChar_short stands]
        rfl
      | unit => exact absurd ⟨_, rfl⟩ unicode
      | pair => exact absurd ⟨_, rfl⟩ unicode
      | lone admitted => exact admitted.elim

/-- What a string says as bytes, where each byte that is no escape stands for itself. -/
inductive Strokes : Bytes → Bytes → Bytes → Prop where
  | close (rest) : Strokes (0x22 :: rest) [] rest
  | raw {byte input bytes rest} (visible : 0x20 ≤ byte) (unquoted : byte ≠ 0x22)
    (unescaped : byte ≠ 0x5C) (further : Strokes input bytes rest) :
    Strokes (byte :: input) (byte :: bytes) rest
  | escape {input c between bytes rest} (escape : Escape False input c between)
    (further : Strokes between bytes rest) :
    Strokes (0x5C :: input) (String.utf8EncodeChar c ++ bytes) rest

/-- By induction on the rounds that are left; what was taken stands in front of the rest. -/
theorem textTail_sound {rounds : Nat} {taken bytes : Bytes} {cursor after : Cursor}
    (read : textTail rounds taken cursor = .ok (bytes, after)) :
    ∃ further, bytes = taken.reverse ++ further ∧ Strokes cursor.rest further after.rest := by
  induction rounds generalizing taken cursor with
  | zero => nomatch read
  | succ rounds ih =>
    rw [textTail, peek_bind] at read
    cases input : cursor.rest with
    | nil => simp [input, refuse] at read
    | cons byte tail =>
      simp only [input, List.head?_cons] at read
      rw [advance_bind] at read
      have behind : cursor.past.rest = tail := by simp [input]
      by_cases quote : byte = 0x22
      · rw [if_pos quote] at read
        obtain ⟨rfl, rfl⟩ := Prod.mk.inj (Except.ok.inj read)
        exact ⟨[], by simp, by rw [quote, behind]; exact .close tail⟩
      rw [if_neg quote] at read
      by_cases slash : byte = 0x5C
      · rw [if_pos slash] at read
        obtain ⟨escaped, escapedAt, escape, read⟩ := bind_eq_ok_iff.mp read
        obtain ⟨c, names, rfl⟩ := escape_reads.sound escape
        obtain ⟨further, rfl, strokes⟩ := ih read
        refine ⟨String.utf8EncodeChar c ++ further, by simp, ?_⟩
        rw [slash, ← behind]
        exact .escape names strokes
      rw [if_neg slash] at read
      by_cases control : byte < 0x20
      · rw [if_pos control] at read
        nomatch read
      rw [if_neg control] at read
      obtain ⟨further, rfl, strokes⟩ := ih read
      refine ⟨byte :: further, by simp, ?_⟩
      rw [behind] at strokes
      exact .raw (UInt8.not_lt.mp control) quote slash strokes

/-- By induction on what the string says; each stroke takes at least one byte. -/
theorem textTail_complete {rounds : Nat} {taken input further rest : Bytes} {cursor : Cursor}
    (strokes : Strokes input further rest) (begins : cursor.rest = input)
    (enough : input.length < rounds) :
    ∃ after, textTail rounds taken cursor = .ok (taken.reverse ++ further, after) ∧
      after.rest = rest := by
  induction strokes generalizing rounds taken cursor with
  | close rest =>
    obtain ⟨rounds, rfl⟩ := Nat.exists_eq_add_one_of_ne_zero (Nat.ne_zero_of_lt enough)
    refine ⟨cursor.past, ?_, by simp [begins]⟩
    rw [textTail, peek_bind, begins, List.append_nil]
    rfl
  | @raw byte input bytes rest visible unquoted unescaped further ih =>
    obtain ⟨rounds, rfl⟩ := Nat.exists_eq_add_one_of_ne_zero (Nat.ne_zero_of_lt enough)
    obtain ⟨after, read, behind⟩ := @ih rounds (byte :: taken) cursor.past (by simp [begins])
      (Nat.lt_of_succ_lt_succ enough)
    refine ⟨after, ?_, behind⟩
    rw [textTail, peek_bind, begins]
    show (advance >>= _) cursor = _
    rw [advance_bind, if_neg unquoted, if_neg unescaped,
      if_neg (UInt8.not_lt.mpr visible), read]
    simp
  | @escape input c between bytes rest names further ih =>
    obtain ⟨rounds, rfl⟩ := Nat.exists_eq_add_one_of_ne_zero (Nat.ne_zero_of_lt enough)
    have shorter := names.length_lt
    have encoded : Encoded (Escape False) cursor.past.rest (String.utf8EncodeChar c) between :=
      ⟨c, by simpa [begins] using names, rfl⟩
    obtain ⟨escaped, escape, behind⟩ := escape_reads.complete encoded trivial
    have room : between.length < rounds := by
      simp only [List.length_cons] at enough
      omega
    obtain ⟨after, read, behind⟩ :=
      @ih rounds ((String.utf8EncodeChar c).reverse ++ taken) escaped behind room
    refine ⟨after, ?_, behind⟩
    rw [textTail, peek_bind, begins]
    show (advance >>= _) cursor = _
    rw [advance_bind, if_neg (by decide), if_pos rfl, bind_of_ok escape, read]
    simp

/-- A byte of a string that is no quote, no backslash and no control character. -/
def Plain (byte : UInt8) : Prop := 0x20 ≤ byte ∧ byte ≠ 0x22 ∧ byte ≠ 0x5C

theorem plain_ofNat_iff {c : Char} (ascii : c.toNat < 0x80) :
    Plain (UInt8.ofNat c.toNat) ↔ 0x20 ≤ c.toNat ∧ c ≠ '"' ∧ c ≠ '\\' := by
  have byte : (UInt8.ofNat c.toNat).toNat = c.toNat := by
    simp only [UInt8.toNat_ofNat']
    omega
  simp only [Plain, UInt8.le_iff_toNat_le, ne_eq, ← UInt8.toNat_inj, ← Char.toNat_inj, byte]
  rfl

theorem plain_of_le {byte : UInt8} (beyond : 0x80 ≤ byte) : Plain byte := by
  refine ⟨UInt8.le_trans (by decide) beyond, ?_, ?_⟩
  · rintro rfl
    exact absurd beyond (by decide)
  · rintro rfl
    exact absurd beyond (by decide)

/-- A character may stand in a string as itself just when its bytes may, and just when the first
of them may. -/
theorem plain_iff {c : Char} {first : UInt8} {further : Bytes}
    (form : String.utf8EncodeChar c = first :: further) :
    (Plain first ↔ 0x20 ≤ c.toNat ∧ c ≠ '"' ∧ c ≠ '\\') ∧ ∀ byte ∈ further, Plain byte := by
  by_cases ascii : c.toNat < 0x80
  · rw [Bytes.utf8EncodeChar_of_ascii ascii] at form
    obtain ⟨rfl, rfl⟩ := List.cons.inj form
    exact ⟨plain_ofNat_iff ascii, nofun⟩
  · have beyond : ∀ byte ∈ first :: further, 0x80 ≤ byte := by
      rw [← form]
      exact fun byte => Bytes.le_of_mem_utf8EncodeChar (Nat.not_lt.mp ascii)
    rw [List.forall_mem_cons] at beyond
    refine ⟨iff_of_true (plain_of_le beyond.1) ⟨by omega, ?_, ?_⟩, ?_⟩
    · rintro rfl
      exact ascii (by decide)
    · rintro rfl
      exact ascii (by decide)
    · exact fun byte member => plain_of_le (beyond.2 byte member)

theorem Strokes.raws {run input bytes rest : Bytes} (plain : ∀ byte ∈ run, Plain byte)
    (strokes : Strokes input bytes rest) : Strokes (run ++ input) (run ++ bytes) rest := by
  induction run with
  | nil => exact strokes
  | cons byte run ih =>
    rw [List.forall_mem_cons] at plain
    obtain ⟨visible, unquoted, unescaped⟩ := plain.1
    exact .raw visible unquoted unescaped (ih plain.2)

/-- Bytes that do not begin a character come from no escape. -/
theorem Strokes.continued {run input bytes rest : Bytes}
    (continuing : ∀ byte ∈ run, ¬byte.IsUTF8FirstByte)
    (strokes : Strokes input (run ++ bytes) rest) :
    ∃ behind, input = run ++ behind ∧ Strokes behind bytes rest := by
  induction run generalizing input with
  | nil => exact ⟨input, rfl, strokes⟩
  | cons first run ih =>
    rw [List.forall_mem_cons] at continuing
    generalize said : first :: run ++ bytes = all at strokes
    cases strokes with
    | close => nomatch said
    | raw visible unquoted unescaped further =>
      obtain ⟨rfl, rfl⟩ := List.cons.inj said
      obtain ⟨behind, rfl, strokes⟩ := ih continuing.2 further
      exact ⟨behind, rfl, strokes⟩
    | @escape _ c _ _ _ names further =>
      obtain ⟨leads, others, form, begins, -⟩ := Bytes.exists_utf8EncodeChar_eq_cons c
      rw [form] at said
      obtain ⟨rfl, -⟩ := List.cons.inj said
      exact absurd begins continuing.1

theorem strokes_of_text {input : Bytes} {text : List Char} {rest : Bytes}
    (derived : Text False input text rest) :
    Strokes input (text.flatMap String.utf8EncodeChar) rest := by
  induction derived with
  | close rest => exact .close rest
  | @plain c input text rest visible unquoted unescaped further ih =>
    obtain ⟨first, others, form, -⟩ := Bytes.exists_utf8EncodeChar_eq_cons c
    obtain ⟨leads, follow⟩ := plain_iff form
    rw [List.flatMap_cons, form]
    refine Strokes.raws ?_ ih
    rw [List.forall_mem_cons]
    exact ⟨leads.mpr ⟨visible, unquoted, unescaped⟩, follow⟩
  | escape names further ih =>
    rw [List.flatMap_cons]
    exact .escape names ih

/-- By induction on what the string says: the next character stands there as itself or as an
escape. -/
theorem text_of_strokes {input : Bytes} {text : List Char} {rest : Bytes}
    (strokes : Strokes input (text.flatMap String.utf8EncodeChar) rest) :
    Text False input text rest := by
  induction text generalizing input with
  | nil =>
    generalize said : ([] : List Char).flatMap String.utf8EncodeChar = all at strokes
    cases strokes with
    | close => exact .close rest
    | raw => nomatch said
    | escape => exact absurd (List.append_eq_nil_iff.mp said.symm).1 String.utf8EncodeChar_ne_nil
  | cons c text ih =>
    generalize said : (c :: text).flatMap String.utf8EncodeChar = all at strokes
    rw [List.flatMap_cons] at said
    obtain ⟨first, others, form, -, continuing⟩ := Bytes.exists_utf8EncodeChar_eq_cons c
    cases strokes with
    | close =>
      rw [form] at said
      nomatch said
    | raw visible unquoted unescaped further =>
      rw [form] at said
      obtain ⟨rfl, rfl⟩ := List.cons.inj said
      obtain ⟨behind, rfl, strokes⟩ := Strokes.continued continuing further
      obtain ⟨shown, unquote, unescape⟩ := (plain_iff form).1.mp ⟨visible, unquoted, unescaped⟩
      have plain := Text.plain shown unquote unescape (ih strokes)
      rw [form] at plain
      exact plain
    | @escape _ d _ _ _ names strokes =>
      obtain ⟨rfl, rfl⟩ := Bytes.utf8EncodeChar_append_inj said
      exact .escape names (ih strokes)

theorem text_reads :
    Reads text (fun input said rest => Text False input said.toList rest) anything where
  sound := by
    intro cursor said after read
    rw [text, rounds_bind] at read
    obtain ⟨bytes, behind, taken, read⟩ := bind_eq_ok_iff.mp read
    obtain ⟨told, same, strokes⟩ := textTail_sound taken
    rw [List.reverse_nil, List.nil_append] at same
    subst same
    cases form : Bytes.text? bytes with
    | none =>
      rw [form] at read
      nomatch read
    | some found =>
      rw [form] at read
      obtain ⟨rfl, rfl⟩ := Prod.mk.inj (Except.ok.inj read)
      obtain rfl : bytes = Bytes.ofText found := Bytes.text?_eq_some_iff.mp form
      exact text_of_strokes strokes
  complete := by
    intro cursor said rest derived _
    have strokes := strokes_of_text derived
    obtain ⟨after, taken, behind⟩ := @textTail_complete (cursor.rest.length + 1) [] _ _ _ cursor
      strokes rfl (Nat.lt_succ_self _)
    refine ⟨after, ?_, behind⟩
    have form : Bytes.text? (List.reverse [] ++ said.toList.flatMap String.utf8EncodeChar) =
        some said := Bytes.text?_eq_some_iff.mpr rfl
    rw [text, rounds_bind, bind_of_ok taken, form]
    rfl

end Scan

end Json

end CommandLink
