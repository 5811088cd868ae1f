import CommandLink.Proofs.JsonNumbers

/-!
# Reading lists and objects

The reader looks at the first byte behind any blanks before it decides. So an item is read along
with the blanks in front, and two facts about the rule for items carry the loops: what it derives
begins with a byte that is neither blank nor a closing bracket, and takes at least one byte.
-/

namespace CommandLink.Json

open Grammar

/-! ## Blanks -/

namespace Grammar.Blanks

theorem trans {input between rest : Bytes} (first : Blanks input between)
    (second : Blanks between rest) : Blanks input rest := by
  induction first with
  | none => exact second
  | more blank _ ih => exact .more blank (ih second)

theorem dropWhile (input : Bytes) : Blanks input (input.dropWhile Cursor.blank) := by
  induction input with
  | nil => exact .none []
  | cons byte input ih =>
    by_cases blank : Cursor.blank byte
    · rw [List.dropWhile_cons_of_pos blank]
      exact .more blank ih
    · rw [List.dropWhile_cons_of_neg blank]
      exact .none _

theorem dropWhile_eq {input rest : Bytes} (blanks : Blanks input rest) :
    input.dropWhile Cursor.blank = rest.dropWhile Cursor.blank := by
  induction blanks with
  | none => rfl
  | more blank _ ih => rw [List.dropWhile_cons_of_pos blank, ih]

theorem length_le {input rest : Bytes} (blanks : Blanks input rest) :
    rest.length ≤ input.length := by
  induction blanks with
  | none => exact Nat.le_refl _
  | more _ _ ih => exact Nat.le_succ_of_le ih

end Grammar.Blanks

namespace Scan

theorem clear_nil : Clear [] := ⟨nofun, nofun, nofun, nofun⟩

theorem clear_cons {byte : UInt8} {rest : Bytes} (digit : ¬Cursor.digit byte) (point : byte ≠ 0x2E)
    (letter : byte ≠ 0x65) (capital : byte ≠ 0x45) : Clear (byte :: rest) :=
  ⟨stops_cons_iff.mpr digit, by simpa using point, by simpa using letter, by simpa using capital⟩

theorem blank_iff {byte : UInt8} :
    Cursor.blank byte ↔ byte = 0x20 ∨ byte = 0x0A ∨ byte = 0x09 ∨ byte = 0x0D := by
  simp [Cursor.blank, or_assoc]

/-- Blanks keep a number from going on. -/
theorem clear_of_blanks {input rest : Bytes} (blanks : Blanks input rest) (clear : Clear rest) :
    Clear input := by
  cases blanks with
  | none => exact clear
  | more blank =>
    rcases blank_iff.mp blank with rfl | rfl | rfl | rfl <;> apply clear_cons <;> decide

/-- The bytes behind blanks, and the first of them. -/
structure Token (input : Bytes) (head : Option UInt8) (rest : Bytes) : Prop where
  blanks : Blanks input rest
  solid : ∀ byte ∈ rest.head?, ¬Cursor.blank byte
  head : rest.head? = head

theorem Token.of_cons {input rest : Bytes} {byte : UInt8} (blanks : Blanks input (byte :: rest))
    (solid : ¬Cursor.blank byte) : Token input (some byte) (byte :: rest) :=
  ⟨blanks, by simpa using solid, rfl⟩

theorem Token.exists_cons {input rest : Bytes} {byte : UInt8}
    (token : Token input (some byte) rest) : ∃ tail, rest = byte :: tail :=
  List.head?_eq_some_iff.mp token.head

theorem peekToken_eq (cursor : Cursor) :
    peekToken cursor = .ok (cursor.pastBlanks.rest.head?, cursor.pastBlanks) := rfl

theorem peekToken_reads : Reads peekToken Token anything where
  sound := by
    intro cursor head after read
    obtain ⟨rfl, rfl⟩ := Prod.mk.inj (Except.ok.inj read)
    rw [Cursor.pastBlanks_rest]
    refine ⟨.dropWhile _, ?_, rfl⟩
    intro byte first
    have fails := List.head?_dropWhile_not Cursor.blank cursor.rest
    rw [Option.mem_def.mp first] at fails
    simpa using fails
  complete := by
    intro cursor head rest token _
    have taken : cursor.pastBlanks.rest = rest := by
      rw [Cursor.pastBlanks_rest, token.blanks.dropWhile_eq]
      cases rest with
      | nil => rfl
      | cons byte rest => exact List.dropWhile_cons_of_neg (token.solid byte rfl)
    exact ⟨cursor.pastBlanks, by rw [peekToken_eq, taken, token.head], taken⟩

/-! ## Keywords -/

theorem keyword_reads (letters : Bytes) :
    Reads (keyword letters) (fun input _ rest => input = letters ++ rest) anything where
  sound := by
    intro cursor _ after read
    induction letters generalizing cursor with
    | nil =>
      obtain ⟨-, rfl⟩ := Prod.mk.inj (Except.ok.inj read)
      rfl
    | cons letter letters ih =>
      rw [keyword, next_bind] at read
      cases input : cursor.rest with
      | nil => simp [input, refuse] at read
      | cons byte rest =>
        simp only [input, List.head?_cons] at read
        by_cases same : byte = letter
        · rw [if_pos same] at read
          have further := ih read
          rw [Cursor.past_rest, input, List.tail_cons] at further
          rw [same, further]
          rfl
        · rw [if_neg same] at read
          cases read
  complete := by
    intro cursor _ rest input _
    induction letters generalizing cursor with
    | nil => exact ⟨cursor, rfl, input⟩
    | cons letter letters ih =>
      have further : cursor.past.rest = letters ++ rest := by simp [input]
      obtain ⟨after, read, behind⟩ := ih further
      refine ⟨after, ?_, behind⟩
      rw [keyword, next_bind, input]
      simpa using read

/-! ## Lists -/

section Items

variable {α : Type}

/-- A rule for what may stand behind blanks. -/
def Spaced (rule : Bytes → α → Bytes → Prop) (input : Bytes) (a : α) (rest : Bytes) : Prop :=
  ∃ begins, Blanks input begins ∧ rule begins a rest

/-- A rule that derives nothing from nothing, a blank or the end of a list. -/
structure Solid (rule : Bytes → α → Bytes → Prop) : Prop where
  begins : ∀ {input a rest}, rule input a rest →
    ∃ byte tail, input = byte :: tail ∧ ¬Cursor.blank byte ∧ byte ≠ 0x5D
  shorter : ∀ {input a rest}, rule input a rest → rest.length < input.length

theorem Solid.token {rule : Bytes → α → Bytes → Prop} (solid : Solid rule)
    {input begins rest : Bytes} {a : α} (blanks : Blanks input begins)
    (derived : rule begins a rest) :
    ∃ byte, Token input (some byte) begins ∧ byte ≠ 0x5D := by
  obtain ⟨byte, tail, rfl, unblank, unclosed⟩ := solid.begins derived
  exact ⟨byte, .of_cons blanks unblank, unclosed⟩

variable {item : Bytes → α → Bytes → Prop} {closing : UInt8}

theorem further_length_lt (solid : Solid item) {input rest : Bytes} {values : List α}
    (further : Further item closing input values rest) : rest.length < input.length := by
  induction further with
  | close blanks => exact Nat.lt_of_succ_le blanks.length_le
  | comma blanks more first _ ih =>
    have before := blanks.length_le
    have inside := more.length_le
    have taken := solid.shorter first
    simp only [List.length_cons] at before
    omega

theorem enclosed_length_lt (solid : Solid item) {input rest : Bytes} {values : List α}
    (enclosed : Enclosed item closing input values rest) : rest.length < input.length := by
  cases enclosed with
  | empty blanks => exact Nat.lt_of_succ_le blanks.length_le
  | items blanks first further =>
    have before := blanks.length_le
    have taken := solid.shorter first
    have behind := further_length_lt solid further
    omega

/-- Behind an item stands a comma or the closing bracket. -/
theorem clear_of_further (bracket : closing = 0x5D ∨ closing = 0x7D) {input rest : Bytes}
    {values : List α} (further : Further item closing input values rest) : Clear input := by
  cases further with
  | close blanks =>
    refine clear_of_blanks blanks ?_
    rcases bracket with rfl | rfl <;> apply clear_cons <;> decide
  | comma blanks => exact clear_of_blanks blanks (by apply clear_cons <;> decide)

variable {scan : Scan α} (reads : Reads scan (Spaced item) Clear)
include reads

theorem itemsTail_sound {rounds : Nat} {taken values : List α} {cursor after : Cursor}
    (read : itemsTail scan rounds taken cursor = .ok (values, after)) :
    ∃ further, values = taken.reverse ++ further ∧
      Further item 0x5D cursor.rest further after.rest := by
  induction rounds generalizing taken cursor with
  | zero => nomatch read
  | succ rounds ih =>
    obtain ⟨head, behind, looked, read⟩ := bind_eq_ok_iff.mp read
    have token := peekToken_reads.sound looked
    split at read
    next => nomatch read
    next =>
      obtain ⟨rfl, rfl⟩ := Prod.mk.inj (Except.ok.inj read)
      obtain ⟨tail, input⟩ := token.exists_cons
      refine ⟨[], by simp, .close ?_⟩
      simpa [input] using token.blanks
    next =>
      rw [advance_bind] at read
      obtain ⟨tail, input⟩ := token.exists_cons
      obtain ⟨next, begins, looked, read⟩ := bind_eq_ok_iff.mp read
      have nextToken := peekToken_reads.sound looked
      split at read
      next => nomatch read
      next => nomatch read
      next =>
        obtain ⟨value, _, first, read⟩ := bind_eq_ok_iff.mp read
        obtain ⟨starts, more, derived⟩ := reads.sound first
        obtain ⟨further, rfl, rest⟩ := ih read
        refine ⟨value :: further, by simp, .comma ?_ (nextToken.blanks.trans more) derived rest⟩
        simpa [input] using token.blanks
    next => nomatch read

/-- By induction on the items; each takes at least one byte, and so a round is left for the
next. -/
theorem itemsTail_complete (solid : Solid item) {rounds : Nat} {taken values : List α}
    {input rest : Bytes} {cursor : Cursor} (further : Further item 0x5D input values rest)
    (begins : cursor.rest = input) (enough : input.length < rounds) :
    ∃ after, itemsTail scan rounds taken cursor = .ok (taken.reverse ++ values, after) ∧
      after.rest = rest := by
  induction further generalizing rounds taken cursor with
  | close blanks =>
    obtain ⟨rounds, rfl⟩ := Nat.exists_eq_add_one_of_ne_zero (Nat.ne_zero_of_lt enough)
    rw [← begins] at blanks
    obtain ⟨behind, looked, stands⟩ :=
      peekToken_reads.complete (.of_cons blanks (by decide)) trivial
    refine ⟨behind.past, ?_, by simp [stands]⟩
    rw [itemsTail, bind_of_ok looked, List.append_nil]
    rfl
  | @comma input next starts value between values rest blanks more first further ih =>
    obtain ⟨rounds, rfl⟩ := Nat.exists_eq_add_one_of_ne_zero (Nat.ne_zero_of_lt enough)
    have before := blanks.length_le
    have inside := more.length_le
    have shorter := solid.shorter first
    rw [← begins] at blanks
    obtain ⟨behind, looked, stands⟩ :=
      peekToken_reads.complete (.of_cons blanks (by decide)) trivial
    obtain rfl : behind.past.rest = next := by simp [stands]
    obtain ⟨byte, token, unclosed⟩ := solid.token more first
    obtain ⟨spaced, lookedAgain, standsAgain⟩ := peekToken_reads.complete token trivial
    have clear := clear_of_further (.inl rfl) further
    have item : Spaced item spaced.rest value between := ⟨starts, standsAgain ▸ .none _, first⟩
    obtain ⟨valued, read, done⟩ := reads.complete item clear
    obtain ⟨after, tail, rest⟩ := @ih rounds (value :: taken) valued done (by
      simp only [List.length_cons] at before
      omega)
    refine ⟨after, ?_, rest⟩
    rw [itemsTail, bind_of_ok looked]
    show (advance >>= _) behind = _
    rw [advance_bind, bind_of_ok lookedAgain]
    generalize found : some byte = head
    split
    next => nomatch found
    next => exact absurd (Option.some.inj found) unclosed
    next =>
      rw [bind_of_ok read, tail]
      simp

theorem items_reads (solid : Solid item) : Reads (items scan) (Enclosed item 0x5D) anything where
  sound := by
    intro cursor values after read
    obtain ⟨head, behind, looked, read⟩ := bind_eq_ok_iff.mp read
    have token := peekToken_reads.sound looked
    split at read
    next => nomatch read
    next =>
      obtain ⟨rfl, rfl⟩ := Prod.mk.inj (Except.ok.inj read)
      obtain ⟨tail, input⟩ := token.exists_cons
      exact .empty (by simpa [input] using token.blanks)
    next =>
      obtain ⟨value, _, first, read⟩ := bind_eq_ok_iff.mp read
      obtain ⟨starts, more, derived⟩ := reads.sound first
      rw [rounds_bind] at read
      obtain ⟨further, rfl, rest⟩ := itemsTail_sound reads read
      exact .items (token.blanks.trans more) derived rest
  complete := by
    rintro cursor values rest enclosed _
    cases enclosed with
    | empty blanks =>
      obtain ⟨behind, looked, stands⟩ :=
        peekToken_reads.complete (.of_cons blanks (by decide)) trivial
      refine ⟨behind.past, ?_, by simp [stands]⟩
      rw [items, bind_of_ok looked]
      rfl
    | @items starts value between values _ blanks first further =>
      obtain ⟨byte, token, unclosed⟩ := solid.token blanks first
      obtain ⟨spaced, looked, stands⟩ := peekToken_reads.complete token trivial
      have clear := clear_of_further (.inl rfl) further
      have item : Spaced item spaced.rest value between := ⟨starts, stands ▸ .none _, first⟩
      obtain ⟨valued, read, rfl⟩ := reads.complete item clear
      obtain ⟨after, tail, rest⟩ := @itemsTail_complete _ _ _ reads solid (valued.rest.length + 1)
        [value] _ _ _ valued further rfl (Nat.lt_succ_self _)
      refine ⟨after, ?_, rest⟩
      rw [items, bind_of_ok looked]
      generalize found : some byte = head
      split
      next => nomatch found
      next => exact absurd (Option.some.inj found) unclosed
      next =>
        rw [bind_of_ok read, rounds_bind, tail]
        rfl

end Items

/-! ## Objects -/

theorem colon_reads :
    Reads colon (fun input _ rest => Blanks input (0x3A :: rest)) anything where
  sound := by
    intro cursor _ after read
    obtain ⟨head, behind, looked, read⟩ := bind_eq_ok_iff.mp read
    have token := peekToken_reads.sound looked
    split at read
    next => nomatch read
    next =>
      obtain ⟨-, rfl⟩ := Prod.mk.inj (Except.ok.inj read)
      obtain ⟨tail, input⟩ := token.exists_cons
      simpa [input] using token.blanks
    next => nomatch read
  complete := by
    intro cursor _ rest blanks _
    obtain ⟨behind, looked, stands⟩ :=
      peekToken_reads.complete (.of_cons blanks (by decide)) trivial
    refine ⟨behind.past, ?_, by simp [stands]⟩
    rw [colon, bind_of_ok looked]
    rfl

/-- The next name of an object behind its quote, or the brace at its end. -/
inductive NextName : Bool → Bytes → Bool → Bytes → Prop where
  | close {first input rest} (blanks : Blanks input (0x7D :: rest)) :
    NextName first input false (0x7D :: rest)
  | first {input rest} (blanks : Blanks input (0x22 :: rest)) : NextName true input true rest
  | further {input next rest} (blanks : Blanks input (0x2C :: next))
    (more : Blanks next (0x22 :: rest)) : NextName false input true rest

theorem nextName_reads (first : Bool) : Reads (nextName first) (NextName first) anything where
  sound := by
    intro cursor found after read
    obtain ⟨head, behind, looked, read⟩ := bind_eq_ok_iff.mp read
    have token := peekToken_reads.sound looked
    split at read
    next => nomatch read
    next =>
      obtain ⟨rfl, rfl⟩ := Prod.mk.inj (Except.ok.inj read)
      obtain ⟨tail, input⟩ := token.exists_cons
      rw [input] at token ⊢
      exact .close token.blanks
    next byte _ =>
      obtain ⟨tail, input⟩ := token.exists_cons
      have blanks := token.blanks
      rw [input] at blanks
      cases first with
      | true =>
        by_cases quote : byte = 0x22
        · simp only [if_pos quote] at read
          obtain ⟨rfl, rfl⟩ := Prod.mk.inj (Except.ok.inj read)
          exact .first (by simpa [input, quote] using blanks)
        · simp only [if_neg quote] at read
          nomatch read
      | false =>
        by_cases comma : byte = 0x2C
        · simp only [if_pos comma] at read
          rw [if_neg Bool.false_ne_true, advance_bind] at read
          obtain ⟨next, begins, looked, read⟩ := bind_eq_ok_iff.mp read
          have nextToken := peekToken_reads.sound looked
          split at read
          next => nomatch read
          next =>
            obtain ⟨rfl, rfl⟩ := Prod.mk.inj (Except.ok.inj read)
            obtain ⟨name, quoted⟩ := nextToken.exists_cons
            have more := nextToken.blanks
            rw [comma] at blanks
            exact .further blanks (by simpa [input, quoted] using more)
          next => nomatch read
          next => nomatch read
        · simp only [if_neg comma] at read
          nomatch read
  complete := by
    rintro cursor found rest (blanks | blanks | ⟨blanks, more⟩) _
    · obtain ⟨behind, looked, stands⟩ :=
        peekToken_reads.complete (.of_cons blanks (by decide)) trivial
      exact ⟨behind, by rw [nextName, bind_of_ok looked]; rfl, stands⟩
    · obtain ⟨behind, looked, stands⟩ :=
        peekToken_reads.complete (.of_cons blanks (by decide)) trivial
      exact ⟨behind.past, by rw [nextName, bind_of_ok looked]; rfl, by simp [stands]⟩
    · obtain ⟨behind, looked, stands⟩ :=
        peekToken_reads.complete (.of_cons blanks (by decide)) trivial
      obtain rfl : behind.past.rest = _ := by simp [stands]; rfl
      obtain ⟨quoted, lookedAgain, standsAgain⟩ :=
        peekToken_reads.complete (.of_cons more (by decide)) trivial
      refine ⟨quoted.past, ?_, by simp [standsAgain]⟩
      rw [nextName, bind_of_ok looked]
      show (advance >>= _) behind = _
      rw [advance_bind, bind_of_ok lookedAgain]
      rfl

section Fields

variable {nested : Bytes → Json → Bytes → Prop}

/-- A name behind its quote, with its value. -/
def Pair (nested : Bytes → Json → Bytes → Prop) (input : Bytes) (field : String × Json)
    (rest : Bytes) : Prop :=
  ∃ between colon, Text False input field.1.toList between ∧ Blanks between (0x3A :: colon) ∧
    Spaced nested colon field.2 rest

theorem field_iff {input rest : Bytes} {field : String × Json} :
    Field False nested (0x22 :: input) field rest ↔ Pair nested input field rest := by
  constructor
  · rintro ⟨text, blanks, more, value⟩
    exact ⟨_, _, by simpa using text, blanks, _, more, value⟩
  · obtain ⟨name, value⟩ := field
    rintro ⟨_, _, text, blanks, _, more, value⟩
    have pair := Field.pair text blanks more value
    rwa [String.ofList_toList] at pair

/-- The fields of an object from one of its names on. -/
inductive Entries (nested : Bytes → Json → Bytes → Prop) :
    Bool → Bytes → List (String × Json) → Bytes → Prop where
  | close {first input rest} (brace : NextName first input false (0x7D :: rest)) :
    Entries nested first input [] rest
  | pair {first input name field between fields rest} (quote : NextName first input true name)
    (pair : Pair nested name field between) (further : Entries nested false between fields rest) :
    Entries nested first input (field :: fields) rest

theorem entries_of_further {input rest : Bytes} {fields : List (String × Json)}
    (further : Further (Field False nested) 0x7D input fields rest) :
    Entries nested false input fields rest := by
  induction further with
  | close blanks => exact .close (.close blanks)
  | comma blanks more first _ ih =>
    cases first with
    | pair text colon after value =>
      exact .pair (.further blanks more) (field_iff.mp (.pair text colon after value)) ih

theorem further_of_entries {first : Bool} {input rest : Bytes} {fields : List (String × Json)}
    (entries : Entries nested first input fields rest) (later : first = false) :
    Further (Field False nested) 0x7D input fields rest := by
  induction entries with
  | close brace =>
    cases brace with
    | close blanks => exact .close blanks
  | pair quote pair _ ih =>
    cases quote with
    | first => nomatch later
    | further blanks more => exact .comma blanks more (field_iff.mpr pair) (ih rfl)

theorem entries_iff {input rest : Bytes} {fields : List (String × Json)} :
    Entries nested true input fields rest ↔
      Enclosed (Field False nested) 0x7D input fields rest := by
  constructor
  · rintro (brace | ⟨quote, pair, further⟩)
    · cases brace with
      | close blanks => exact .empty blanks
    · cases quote with
      | first blanks =>
        exact .items blanks (field_iff.mpr pair) (further_of_entries further rfl)
  · rintro (blanks | ⟨blanks, first, further⟩)
    · exact .close (.close blanks)
    · cases first with
      | pair text colon after value =>
        exact .pair (.first blanks) (field_iff.mp (.pair text colon after value))
          (entries_of_further further)

theorem NextName.brace {first : Bool} {input rest : Bytes}
    (close : NextName first input false rest) : rest = 0x7D :: rest.tail := by
  cases close with
  | close => rfl

theorem NextName.length_lt {first : Bool} {input rest : Bytes}
    (quote : NextName first input true rest) : rest.length < input.length := by
  cases quote with
  | first blanks => exact Nat.lt_of_succ_le blanks.length_le
  | further blanks more =>
    have before := blanks.length_le
    have inside := more.length_le
    simp only [List.length_cons] at before inside
    omega

theorem Pair.length_lt (solid : Solid nested) {input rest : Bytes} {field : String × Json}
    (pair : Pair nested input field rest) : rest.length < input.length := by
  obtain ⟨between, colon, text, blanks, begins, more, value⟩ := pair
  have name := text.length_lt
  have before := blanks.length_le
  have inside := more.length_le
  have taken := solid.shorter value
  simp only [List.length_cons] at before
  omega

theorem Entries.clear {input rest : Bytes} {fields : List (String × Json)}
    (entries : Entries nested false input fields rest) : Clear input :=
  clear_of_further (.inr rfl) (further_of_entries entries rfl)

variable {scan : Scan Json} (reads : Reads scan (Spaced nested) Clear)
include reads

theorem fieldsTail_sound {rounds : Nat} {first : Bool} {taken fields : List (String × Json)}
    {cursor after : Cursor}
    (read : fieldsTail scan rounds first taken cursor = .ok (fields, after)) :
    ∃ further, fields = taken.reverse ++ further ∧
      Entries nested first cursor.rest further after.rest := by
  induction rounds generalizing first taken cursor with
  | zero => nomatch read
  | succ rounds ih =>
    obtain ⟨found, behind, named, read⟩ := bind_eq_ok_iff.mp read
    have name := (nextName_reads first).sound named
    cases found with
    | false =>
      obtain ⟨rfl, rfl⟩ := Prod.mk.inj (Except.ok.inj read)
      refine ⟨[], by simp, .close ?_⟩
      rw [Cursor.past_rest, ← name.brace]
      exact name
    | true =>
      rw [if_pos rfl] at read
      obtain ⟨text, texted, quoted, read⟩ := bind_eq_ok_iff.mp read
      obtain ⟨_, coloned, colon, read⟩ := bind_eq_ok_iff.mp read
      obtain ⟨value, valued, valueRead, read⟩ := bind_eq_ok_iff.mp read
      obtain ⟨further, rfl, rest⟩ := ih read
      have pair : Pair nested behind.rest (text, value) valued.rest :=
        ⟨_, _, text_reads.sound quoted, colon_reads.sound colon, reads.sound valueRead⟩
      exact ⟨(text, value) :: further, by simp, .pair name pair rest⟩

/-- By induction on the fields; each takes at least one byte, and so a round is left for the
next. -/
theorem fieldsTail_complete (solid : Solid nested) {rounds : Nat} {first : Bool}
    {taken fields : List (String × Json)} {input rest : Bytes} {cursor : Cursor}
    (entries : Entries nested first input fields rest) (begins : cursor.rest = input)
    (enough : input.length < rounds) :
    ∃ after, fieldsTail scan rounds first taken cursor = .ok (taken.reverse ++ fields, after) ∧
      after.rest = rest := by
  induction entries generalizing rounds taken cursor with
  | close brace =>
    obtain ⟨rounds, rfl⟩ := Nat.exists_eq_add_one_of_ne_zero (Nat.ne_zero_of_lt enough)
    rw [← begins] at brace
    obtain ⟨behind, named, stands⟩ := (nextName_reads _).complete brace trivial
    refine ⟨behind.past, ?_, by simp [stands]⟩
    rw [fieldsTail, bind_of_ok named, List.append_nil]
    rfl
  | @pair first input name field between fields rest quote pair further ih =>
    obtain ⟨rounds, rfl⟩ := Nat.exists_eq_add_one_of_ne_zero (Nat.ne_zero_of_lt enough)
    have before := quote.length_lt
    have shorter := pair.length_lt solid
    rw [← begins] at quote
    obtain ⟨quoted, named, rfl⟩ := (nextName_reads _).complete quote trivial
    obtain ⟨behindText, colon, text, blanks, value⟩ := pair
    obtain ⟨texted, textRead, rfl⟩ := text_reads.complete text trivial
    obtain ⟨coloned, colonRead, rfl⟩ := colon_reads.complete (a := ()) blanks trivial
    obtain ⟨valued, valueRead, done⟩ := reads.complete value further.clear
    obtain ⟨after, tail, rest⟩ := @ih rounds (field :: taken) valued done (by omega)
    refine ⟨after, ?_, rest⟩
    rw [fieldsTail, bind_of_ok named, if_pos rfl, bind_of_ok textRead, bind_of_ok colonRead,
      bind_of_ok valueRead, tail]
    simp

theorem fields_reads (solid : Solid nested) :
    Reads (fields scan) (Enclosed (Field False nested) 0x7D) anything where
  sound := by
    intro cursor found after read
    rw [fields, rounds_bind] at read
    obtain ⟨further, rfl, entries⟩ := fieldsTail_sound reads read
    exact entries_iff.mp entries
  complete := by
    intro cursor found rest enclosed _
    rw [fields, rounds_bind]
    exact fieldsTail_complete reads solid (entries_iff.mpr enclosed) rfl (Nat.lt_succ_self _)

end Fields

end Scan

end CommandLink.Json
