/-
Module: CodeGauge.Proofs.Json.Reader
Purpose: The indented text of a JSON value reads back as the value.
Main exports:
  Json.IsLiteral, Json.Readable, Json.Reads, Json.Readable.reads, Json.readFirst_render
-/
import CodeGauge.Json.Reader
import CodeGauge.Proofs.Number.Decimal

namespace CodeGauge.Json

open CodeGauge.Number CodeGauge.Text
open CodeGauge.Number.Integer (hexValue?)

/-!
Reading is stated for a value with any text behind it.  Only a number can be continued by what follows,
so that text must not begin as the end of a number does; behind every value of a layout there is a comma
or a line break.
-/

/-! ### Strings -/

theorem hexValue?_hexDigit {n : Nat} (small : n < 16) : hexValue? (hexDigit n) = some n := by
  interval_cases n <;> rfl

theorem readHex_digits {n : Nat} (small : n < 0x10000) :
    readHex 0 4 [hexDigit (n / 4096 % 16), hexDigit (n / 256 % 16), hexDigit (n / 16 % 16),
      hexDigit (n % 16)] = .found n [] := by
  simp only [readHex, hexValue?_hexDigit (Nat.mod_lt _ (by decide : 0 < 16))]
  congr 1
  omega

/-- How a character comes back from its text: as its number if that is how it is written. -/
def piece (c : Char) : Piece :=
  if escapeChar c = unitEscape c.toNat then .unit c.toNat else .char c

/-- The three ways in which a character is written. -/
inductive Writes (c : Char) : List Char → Prop
  | number (small : c.toNat < 0x10000) : Writes c (unitEscape c.toNat)
  | letter {e : Char} (other : e ≠ 'u') (stands : escapeValue? e = some c) : Writes c ['\\', e]
  | itself (noQuote : c ≠ '"') (noBackslash : c ≠ '\\') (visible : ¬c.toNat < 32) : Writes c [c]

theorem writes_escapeChar (c : Char) : Writes c (escapeChar c) := by
  have known : ∀ {n : Nat}, c.toNat = n → Char.ofNat n = c := fun is => is ▸ Char.ofNat_toNat c
  rw [escapeChar]
  split_ifs with quote backslash backspace tab newline feed carriage special
  · exact .letter (by decide) (by rw [quote]; rfl)
  · exact .letter (by decide) (by rw [backslash]; rfl)
  · exact .letter (by decide) (congrArg some (known backspace))
  · exact .letter (by decide) (congrArg some (known tab))
  · exact .letter (by decide) (congrArg some (known newline))
  · exact .letter (by decide) (congrArg some (known feed))
  · exact .letter (by decide) (congrArg some (known carriage))
  · refine .number ?_
    rcases special with low | rfl | rfl | rfl | line | paragraph
    exacts [by omega, by decide, by decide, by decide, by omega, by omega]
  · exact .itself quote backslash (fun low => special (Or.inl low))

/-- One character of a string is read. -/
theorem readPieces_escapeChar (soFar : List Piece) (c : Char) (rest : List Char) :
    readPieces soFar (escapeChar c ++ rest) = readPieces (piece c :: soFar) rest := by
  have writes := writes_escapeChar c
  rw [piece]
  generalize escapeChar c = written at *
  cases writes with
  | number small =>
    rw [if_pos rfl, unitEscape]
    simp only [List.cons_append, List.nil_append, readPieces, readHex_digits small]
  | letter other stands =>
    rw [if_neg (by simp [unitEscape])]
    simp [readPieces, other, stands]
  | itself noQuote noBackslash visible =>
    rw [if_neg (by simp [unitEscape])]
    simp [readPieces, noBackslash, visible]

theorem readPieces_flatMap (soFar : List Piece) (cs rest : List Char) :
    readPieces soFar (cs.flatMap escapeChar ++ '"' :: rest)
      = .found (soFar.reverse ++ cs.map piece) rest := by
  induction cs generalizing soFar with
  | nil => simp [readPieces]
  | cons c cs ih =>
    rw [List.flatMap_cons, List.append_assoc, readPieces_escapeChar, ih]
    simp

theorem joinPieces_map_piece (cs : List Char) : joinPieces (cs.map piece) = cs := by
  induction cs with
  | nil => simp [joinPieces]
  | cons c cs ih =>
    rw [List.map_cons, piece]
    split
    · have whole : c.toNat < 0xD800 ∨ 0xDFFF < c.toNat := by
        rcases c.valid with low | high
        · exact Or.inl low
        · exact Or.inr high.1
      rw [joinPieces.eq_def]
      simp only [if_pos whole, ih, Char.ofNat_toNat]
    · rw [joinPieces, ih]

theorem isNeedless_piece (c : Char) : (piece c).isNeedless = false := by
  rw [piece]
  split
  · next written => simp [Piece.isNeedless, written]
  · rfl

theorem ofPieces_map_piece (text : String) : ofPieces (text.toList.map piece) = .string text := by
  have none : (text.toList.map piece).any Piece.isNeedless = false := by
    simp [isNeedless_piece]
  rw [ofPieces, none, if_neg (by decide), joinPieces_map_piece, String.ofList_toList]

theorem readName_flatMap (name : String) (rest : List Char) :
    readName (name.toList.flatMap escapeChar ++ '"' :: rest) = .found name rest := by
  rw [readName, readPieces_flatMap]
  simp [Reading.andThen, joinPieces_map_piece]

/-! ### Numbers -/

/-- Nothing that continues a number stands at the front. -/
def EndsNumber (rest : List Char) : Prop :=
  ∀ c, rest.head? = some c → c.isDigit = false ∧ c ≠ '.' ∧ c ≠ 'e' ∧ c ≠ 'E'

/-- A text of a number: an optional sign and a numeral. -/
def IsLiteral (literal : String) : Prop :=
  ∃ (negative : Bool) (n : Numeral),
    literal = String.ofList (if negative then '-' :: n.text else n.text)

theorem EndsNumber.digits {rest : List Char} (ends : EndsNumber rest) : EndsDigits rest :=
  fun c first => (ends c first).1

theorem readDigits_append {digits rest : List Char} (number : IsNumber digits) (ends : EndsDigits rest) :
    readDigits (digits ++ rest) = .found digits rest := by
  obtain ⟨c, more, front⟩ := List.exists_cons_of_ne_nil number.nonempty
  have run := takeWhile_isDigit_append number.digits ends
  have behind := dropWhile_isDigit_append number.digits ends
  have digit := number.digits c (by simp [front])
  rw [front, List.cons_append] at run behind ⊢
  rw [readDigits, if_pos digit, run, behind]

theorem readWhole_append (n : Numeral) {rest : List Char} (ends : EndsDigits rest) :
    readWhole (n.whole ++ rest) = .found n.whole rest := by
  rcases n.plainWhole with zero | nonzero
  · rw [zero]
    rfl
  · obtain ⟨c, more, front⟩ := List.exists_cons_of_ne_nil n.isWhole.nonempty
    have digits := readDigits_append n.isWhole ends
    rw [front] at nonzero digits ⊢
    rw [← digits, List.cons_append, readWhole]
    intro _ same
    exact nonzero (congrArg List.head? same)

theorem readFraction_append (n : Numeral) {rest : List Char} (ends : EndsDigits rest)
    (noPoint : rest.head? ≠ some '.') :
    readFraction (n.fractionText ++ rest) = .found n.fractionText rest := by
  rw [Numeral.fractionText]
  split
  · rw [List.nil_append, readFraction]
    rintro _ rfl
    exact noPoint rfl
  · next some =>
    rw [List.cons_append, readFraction, readDigits_append ⟨some, n.fractionDigits⟩ ends]
    rfl

theorem readExponent_append (n : Numeral) {rest : List Char} (ends : EndsNumber rest) :
    readExponent (n.exponentText ++ rest) = .found n.exponentText rest := by
  rw [Numeral.exponentText]
  cases exponent : n.exponent with
  | none =>
    cases rest with
    | nil => rfl
    | cons c rest =>
      obtain ⟨-, -, noMark, noCapital⟩ := ends c rfl
      simp [readExponent, noMark, noCapital]
  | some e =>
    have digits := readDigits_append (n.isExponent e exponent) ends.digits
    have sign : (if e.1 then '-' else '+') = '+' ∨ (if e.1 then '-' else '+') = '-' := by
      cases e.1 <;> simp
    simp only [List.cons_append, readExponent, true_or, if_true, if_pos sign, digits, Reading.andThen]

/-- A numeral is read up to its end. -/
theorem readUnsigned_append (n : Numeral) {rest : List Char} (ends : EndsNumber rest)
    (sign : List Char) :
    ((readWhole (n.text ++ rest)).andThen fun whole rest =>
      (readFraction rest).andThen fun fraction rest =>
        (readExponent rest).andThen fun exponent rest =>
          .found (String.ofList (sign ++ whole ++ fraction ++ exponent)) rest)
      = .found (String.ofList (sign ++ n.text)) rest := by
  have behindFraction := n.endsDigits_exponentText.append ends.digits
  have behindWhole := n.endsDigits_behindWhole.append ends.digits
  have noPoint : (n.exponentText ++ rest).head? ≠ some '.' := by
    rw [Numeral.exponentText]
    split
    · exact fun point => (ends '.' point).2.1 rfl
    · exact fun point => absurd (Option.some.inj point) (by decide)
  rw [Numeral.text, List.append_assoc, List.append_assoc, ← List.append_assoc n.fractionText,
    readWhole_append n behindWhole]
  simp only [Reading.andThen, List.append_assoc, readFraction_append n behindFraction noPoint,
    readExponent_append n ends]

/-- A character with which a number begins. -/
abbrev StartsNumber (c : Char) : Prop := c = '-' ∨ c.isDigit = true

theorem IsLiteral.exists_cons {literal : String} (isLiteral : IsLiteral literal) :
    ∃ c cs, literal.toList = c :: cs ∧ StartsNumber c := by
  obtain ⟨negative, n, rfl⟩ := isLiteral
  rw [String.toList_ofList]
  cases negative with
  | true => exact ⟨'-', n.text, if_pos rfl, Or.inl rfl⟩
  | false =>
    obtain ⟨c, cs, front, digit⟩ := n.exists_text_cons
    exact ⟨c, cs, front, Or.inr digit⟩

theorem StartsNumber.not_isSpace {c : Char} (start : StartsNumber c) : isSpace c = false := by
  rw [Bool.eq_false_iff]
  intro space
  simp only [isSpace, Bool.or_eq_true, beq_iff_eq] at space
  rcases space with ((rfl | rfl) | rfl) | rfl <;> exact absurd start (by decide)

/-- A text of a number is read up to its end. -/
theorem readNumber_append {literal : String} (isLiteral : IsLiteral literal) {rest : List Char}
    (ends : EndsNumber rest) : readNumber (literal.toList ++ rest) = .found literal rest := by
  obtain ⟨negative, n, rfl⟩ := isLiteral
  rw [String.toList_ofList]
  cases negative with
  | true => exact readUnsigned_append n ends ['-']
  | false =>
    obtain ⟨c, more, front, digit⟩ := n.exists_text_cons
    have reads := readUnsigned_append n ends []
    rw [if_neg (by decide), readNumber]
    · exact reads
    · intro _ sign
      rw [front] at sign
      obtain ⟨rfl, -⟩ := List.cons.inj sign
      exact absurd digit (by decide)

/-! ### White space -/

theorem skip_append {space : List Char} (isSpace : ∀ c ∈ space, isSpace c = true) (cs : List Char) :
    skip (space ++ cs) = skip cs := List.dropWhile_append_of_pos isSpace

theorem skip_cons {c : Char} (visible : isSpace c = false) (cs : List Char) :
    skip (c :: cs) = c :: cs := List.dropWhile_cons_of_neg (by simp [visible])

theorem isSpace_of_mem_newLine {depth : Nat} {c : Char} (member : c ∈ newLine depth) :
    isSpace c = true := by
  rcases List.mem_cons.mp member with rfl | blank
  · rfl
  · rw [List.eq_of_mem_replicate blank]
    rfl

theorem skip_newLine (depth : Nat) (cs : List Char) : skip (newLine depth ++ cs) = skip cs :=
  skip_append (fun _ => isSpace_of_mem_newLine) cs

/-! ### Values -/

/-- Values that are read from their text: numbers are texts of numbers, no string is spelled without
need, and nesting is at most `room` deep. -/
inductive Readable : Nat → Json → Prop
  | null {room : Nat} : Readable room .null
  | bool {room : Nat} (value : Bool) : Readable room (.bool value)
  | number {room : Nat} {literal : String} (isLiteral : IsLiteral literal) : Readable room (.number literal)
  | string {room : Nat} (text : String) : Readable room (.string text)
  | array {room : Nat} {items : List Json} (readable : ∀ item ∈ items, Readable room item) :
      Readable (room + 1) (.array items)
  | object {room : Nat} {fields : List (String × Json)}
      (readable : ∀ field ∈ fields, Readable room field.2) : Readable (room + 1) (.object fields)

/-- A value is read from its text at any depth, with any text behind it that does not continue it. -/
def Reads (room : Nat) (json : Json) : Prop :=
  ∀ (depth fuel : Nat) (rest : List Char), 2 * (layout depth json).length ≤ fuel → EndsNumber rest →
    readValue fuel room (layout depth json ++ rest) = .found json rest

theorem endsNumber_cons {c : Char} (digit : c.isDigit = false) (point : c ≠ '.') (mark : c ≠ 'e')
    (capital : c ≠ 'E') (rest : List Char) : EndsNumber (c :: rest) := by
  intro d first
  obtain rfl := Option.some.inj first
  exact ⟨digit, point, mark, capital⟩

theorem endsNumber_newLine (depth : Nat) (rest : List Char) : EndsNumber (newLine depth ++ rest) :=
  endsNumber_cons (by decide) (by decide) (by decide) (by decide) _

theorem endsNumber_comma (rest : List Char) : EndsNumber (',' :: rest) :=
  endsNumber_cons (by decide) (by decide) (by decide) (by decide) _

/-- The text of a value begins with a character that is no white space and ends no array. -/
theorem exists_layout_cons {room : Nat} {json : Json} (readable : Readable room json) (depth : Nat) :
    ∃ c cs, layout depth json = c :: cs ∧ isSpace c = false ∧ c ≠ ']' := by
  cases readable with
  | null => exact ⟨_, _, rfl, by decide, by decide⟩
  | bool value => cases value <;> exact ⟨_, _, rfl, by decide, by decide⟩
  | string text => exact ⟨_, _, rfl, by decide, by decide⟩
  | number isLiteral =>
    obtain ⟨c, cs, front, start⟩ := isLiteral.exists_cons
    exact ⟨c, cs, front, start.not_isSpace, by rintro rfl; exact absurd start (by decide)⟩
  | @array _ items =>
    cases items <;> exact ⟨_, _, rfl, by decide, by decide⟩
  | @object _ fields =>
    cases fields <;> exact ⟨_, _, rfl, by decide, by decide⟩

/-- The text of a value is not empty, so that fuel for it allows for one step at least. -/
theorem Reads.of_step {room : Nat} {json : Json} (readable : Readable room json)
    (step : ∀ (depth fuel : Nat) (rest : List Char), 2 * (layout depth json).length ≤ fuel + 1 →
      EndsNumber rest → readValue (fuel + 1) room (layout depth json ++ rest) = .found json rest) :
    Reads room json := by
  intro depth fuel rest enough ends
  obtain ⟨c, cs, front, -, -⟩ := exists_layout_cons readable depth
  have length : 0 < (layout depth json).length := by simp [front]
  cases fuel with
  | zero => omega
  | succ fuel => exact step depth fuel rest enough ends

theorem readValue_space {space : List Char} (isSpace : ∀ c ∈ space, isSpace c = true) (fuel room : Nat)
    (cs : List Char) : readValue fuel room (space ++ cs) = readValue fuel room cs := by
  cases fuel with
  | zero => rfl
  | succ fuel => rw [readValue, readValue, skip_append isSpace]

/-- What begins as a number does is read as a number. -/
theorem readValue_number {c : Char} (start : StartsNumber c) (fuel room : Nat) (cs : List Char) :
    readValue (fuel + 1) room (c :: cs)
      = (readNumber (c :: cs)).andThen fun literal rest => .found (.number literal) rest := by
  rw [readValue, skip_cons start.not_isSpace]
  split
  case h_1 nothing => exact absurd nothing (List.cons_ne_nil _ _)
  case h_8 same =>
    obtain ⟨rfl, rfl⟩ := List.cons.inj same
    rw [if_pos start]
  all_goals
    next same =>
    obtain ⟨rfl, -⟩ := List.cons.inj same
    exact absurd start (by decide)

theorem readItems_layout {room : Nat} {items : List Json} {item : Json} (depth : Nat)
    (reads : ∀ i ∈ item :: items, Reads room i) {fuel : Nat}
    (enough : 2 * ((layout (depth + 1) item).length + (layoutItems (depth + 1) items).length) + 1 ≤ fuel)
    (soFar : List Json) {space : List Char} (isSpace : ∀ c ∈ space, isSpace c = true) (rest : List Char) :
    readItems fuel room soFar (space ++ (layout (depth + 1) item ++ (layoutItems (depth + 1) items
      ++ (newLine depth ++ ']' :: rest)))) = .found (soFar.reverse ++ item :: items) rest := by
  induction items generalizing item fuel soFar space with
  | nil =>
    obtain ⟨fuel, rfl⟩ : ∃ more, fuel = more + 1 := ⟨fuel - 1, by omega⟩
    have first := reads item List.mem_cons_self (depth + 1) fuel (newLine depth ++ ']' :: rest)
      (by simp only [layoutItems, List.length_nil] at enough; omega) (endsNumber_newLine _ _)
    rw [readItems, readValue_space isSpace, layoutItems, List.nil_append, first]
    simp only [Reading.andThen, skip_newLine, skip_cons (show Json.isSpace ']' = false by decide)]
    simp
  | cons next items ih =>
    obtain ⟨fuel, rfl⟩ : ∃ more, fuel = more + 1 := ⟨fuel - 1, by omega⟩
    simp only [layoutItems, List.length_cons, List.length_append] at enough
    have first := reads item List.mem_cons_self (depth + 1) fuel
      (layoutItems (depth + 1) (next :: items) ++ (newLine depth ++ ']' :: rest))
      (by omega) (endsNumber_comma _)
    have enoughOthers : 2 * ((layout (depth + 1) next).length
        + (layoutItems (depth + 1) items).length) + 1 ≤ fuel := by omega
    have others := ih (fun i member => reads i (List.mem_cons_of_mem _ member)) enoughOthers
      (item :: soFar) (fun _ => @isSpace_of_mem_newLine (depth + 1) _)
    rw [readItems, readValue_space isSpace, first]
    simp only [Reading.andThen, layoutItems, List.cons_append, List.append_assoc,
      skip_cons (show Json.isSpace ',' = false by decide)]
    rw [others]
    simp

theorem quote_append (name : String) (cs : List Char) :
    quote name ++ cs = '"' :: (name.toList.flatMap escapeChar ++ '"' :: cs) := by
  simp [quote]

theorem readFields_layout {room : Nat} {fields : List (String × Json)} {name : String} {value : Json}
    (depth : Nat) (reads : ∀ field ∈ (name, value) :: fields, Reads room field.2) {fuel : Nat}
    (enough : 2 * ((layout (depth + 1) value).length + (layoutFields (depth + 1) fields).length) + 1 ≤ fuel)
    (soFar : List (String × Json)) {space : List Char} (isSpace : ∀ c ∈ space, isSpace c = true)
    (rest : List Char) :
    readFields fuel room soFar (space ++ (quote name ++ ':' :: ' ' :: (layout (depth + 1) value
      ++ (layoutFields (depth + 1) fields ++ (newLine depth ++ '}' :: rest)))))
      = .found (soFar.reverse ++ (name, value) :: fields) rest := by
  have oneBlank : ∀ c ∈ [' '], Json.isSpace c = true := by simp [Json.isSpace]
  induction fields generalizing name value fuel soFar space with
  | nil =>
    obtain ⟨fuel, rfl⟩ : ∃ more, fuel = more + 1 := ⟨fuel - 1, by omega⟩
    have first := reads (name, value) List.mem_cons_self (depth + 1) fuel (newLine depth ++ '}' :: rest)
      (by simp only [layoutFields, List.length_nil] at enough ⊢; omega) (endsNumber_newLine _ _)
    rw [readFields, skip_append isSpace, quote_append, skip_cons (by decide)]
    simp only [readName_flatMap, Reading.andThen, skip_cons (show Json.isSpace ':' = false by decide),
      layoutFields, List.nil_append]
    rw [← List.singleton_append, readValue_space oneBlank, first]
    simp [skip_newLine, skip_cons (show Json.isSpace '}' = false by decide)]
  | cons next fields ih =>
    obtain ⟨fuel, rfl⟩ : ∃ more, fuel = more + 1 := ⟨fuel - 1, by omega⟩
    obtain ⟨nextName, nextValue⟩ := next
    simp only [layoutFields, List.length_cons, List.length_append] at enough
    have first := reads (name, value) List.mem_cons_self (depth + 1) fuel
      (layoutFields (depth + 1) ((nextName, nextValue) :: fields) ++ (newLine depth ++ '}' :: rest))
      (by simp only; omega) (endsNumber_comma _)
    have enoughOthers : 2 * ((layout (depth + 1) nextValue).length
        + (layoutFields (depth + 1) fields).length) + 1 ≤ fuel := by omega
    have others := ih (fun field member => reads field (List.mem_cons_of_mem _ member)) enoughOthers
      ((name, value) :: soFar) (fun _ => @isSpace_of_mem_newLine (depth + 1) _)
    rw [readFields, skip_append isSpace, quote_append, skip_cons (by decide)]
    simp only [readName_flatMap, Reading.andThen, skip_cons (show Json.isSpace ':' = false by decide)]
    rw [← List.singleton_append, readValue_space oneBlank, first]
    simp only [layoutFields, List.cons_append, List.append_assoc,
      skip_cons (show Json.isSpace ',' = false by decide)]
    rw [others]
    simp

/-- Every readable value is read from its text. -/
theorem Readable.reads {room : Nat} {json : Json} (readable : Readable room json) : Reads room json := by
  have noSpace : ∀ c ∈ ([] : List Char), isSpace c = true := by simp
  induction readable with
  | null =>
    refine .of_step .null fun depth fuel rest enough _ => ?_
    rfl
  | bool value =>
    refine .of_step (.bool value) fun depth fuel rest enough _ => ?_
    cases value <;> rfl
  | number isLiteral =>
    refine .of_step (.number isLiteral) fun depth fuel rest enough ends => ?_
    obtain ⟨c, cs, front, start⟩ := isLiteral.exists_cons
    have reads := readNumber_append isLiteral ends
    rw [front, List.cons_append] at reads
    rw [layout, front, List.cons_append, readValue_number start, reads]
    rfl
  | string text =>
    refine .of_step (.string text) fun depth fuel rest enough _ => ?_
    rw [layout, quote_append, readValue, skip_cons (by decide)]
    simp only [readPieces_flatMap, Reading.andThen, List.reverse_nil, List.nil_append,
      ofPieces_map_piece]
  | @array room items readable ih =>
    refine .of_step (.array readable) fun depth fuel rest enough _ => ?_
    cases items with
    | nil => rfl
    | cons item items =>
      simp only [layout, List.length_cons, List.length_append] at enough
      obtain ⟨c, cs, front, visible, inside⟩ :=
        exists_layout_cons (readable item List.mem_cons_self) (depth + 1)
      have reads := readItems_layout depth ih (show _ ≤ fuel by omega) [] noSpace rest
      simp only [layout, List.cons_append, List.append_assoc, List.nil_append] at reads ⊢
      rw [readValue, skip_cons (by decide)]
      simp only [skip_newLine]
      rw [front, List.cons_append] at reads ⊢
      rw [skip_cons visible]
      split
      · next nothing => exact absurd nothing (List.cons_ne_nil _ _)
      · next closed => exact absurd (List.cons.inj closed).1 inside
      · rw [reads]
        rfl
  | @object room fields readable ih =>
    refine .of_step (.object readable) fun depth fuel rest enough _ => ?_
    cases fields with
    | nil => rfl
    | cons field fields =>
      obtain ⟨name, value⟩ := field
      simp only [layout, List.length_cons, List.length_append] at enough
      have reads := readFields_layout depth ih (show _ ≤ fuel by omega) [] noSpace rest
      simp only [layout, List.cons_append, List.append_assoc, List.nil_append] at reads ⊢
      rw [readValue, skip_cons (by decide)]
      simp only [skip_newLine]
      rw [quote_append] at reads ⊢
      rw [skip_cons (by decide)]
      change (readFields fuel room [] _).andThen _ = _
      rw [reads]
      rfl

/-- Reading a rendered value gives the value, up to the line break at the end. -/
theorem readFirst_render {json : Json} (readable : Readable maxDepth json) :
    readFirst json.render.toList = .found json ['\n'] := by
  rw [readFirst, render, String.toList_ofList]
  exact readable.reads 0 _ ['\n'] (by simp only [List.length_append]; omega)
    (endsNumber_cons (by decide) (by decide) (by decide) (by decide) [])

end CodeGauge.Json
