import MetricAlgebra.Json.Writer
import MetricAlgebra.Proofs.JsonCodec
import MetricAlgebra.Proofs.Shortest

/-!
# The text of a JSON value says the value

The reader and the writer keep what a codec promises (`Json.codec_spec`): what is written of a value
that JSON can say is read as the value, however deep it is nested, apart from the last bits of its
numbers. A finite number is written by the digits of a literal, and the reader makes a number of
these with roundings of its own (`Json.numeral`).

The proof goes bottom up: the escapes of a text (`Json.exists_isPieceOf`), whole texts
(`Json.string?_writtenText`), numbers (`Json.number?_repr`, `Json.exists_number?_literal`), and by
induction on the value all values with what may follow them (`Json.Sayable.reads`).
-/

namespace MetricAlgebra.Json

/-! ## Texts -/

/-- Four digits write a control character. -/
theorem controlDigits : ∀ n < 0x20,
    ['0', '0', Nat.digitChar (n / 16), Nat.digitChar (n % 16)].all Unicode.isHexDigit = true ∧
      Unicode.hexValue ['0', '0', Nat.digitChar (n / 16), Nat.digitChar (n % 16)] = n := by
  decide

/-- A character that is no control character, quote or backslash is read as itself. -/
theorem pieces?_char {c : Char} (hquote : c ≠ '"') (hslash : c ≠ '\\')
    (hcontrol : ¬ c.toNat < 0x20) (rest : List Char) :
    pieces? (c :: rest) = (pieces? rest).map fun (pieces, rest) => (.char c :: pieces, rest) := by
  rw [pieces?.eq_def]
  split
  · rename_i heq; cases heq
  · rename_i heq; cases heq; exact absurd rfl hquote
  · rename_i heq; cases heq; exact absurd rfl hslash
  · rename_i heq; cases heq; exact absurd rfl hslash
  · rename_i heq
    cases heq
    rw [if_neg (by simp [hcontrol, hslash])]

/-- A piece that is read from what is written of a character, and that stands for the character. -/
structure IsPieceOf (piece : Piece) (c : Char) : Prop where
  /-- It is read. -/
  read : ∀ rest, pieces? (writtenChar c ++ rest) =
    (pieces? rest).map fun (pieces, rest) => (piece :: pieces, rest)
  /-- It stands for the character. -/
  join : ∀ pieces, joinPieces? (piece :: pieces) = (joinPieces? pieces).map (c :: ·)

/-- What is written of a character is read as a piece. -/
theorem exists_isPieceOf (c : Char) : ∃ piece, IsPieceOf piece c := by
  by_cases hcontrol : writtenChar c =
      ['\\', 'u', '0', '0', Nat.digitChar (c.toNat / 16), Nat.digitChar (c.toNat % 16)] ∧
        c.toNat < 0x20
  · -- A control character without an escape of its own is written as a unit.
    obtain ⟨hwritten, hlt⟩ := hcontrol
    obtain ⟨hdigits, hvalue⟩ := controlDigits _ hlt
    refine ⟨.unit c.toNat, fun rest => ?_, fun pieces => ?_⟩
    · rw [hwritten]
      simp only [List.cons_append, List.nil_append]
      rw [pieces?, if_pos hdigits, hvalue]
    · have hunit : unitChar? c.toNat = some c := by
        unfold unitChar?
        exact dif_pos (show c.toNat.isValidChar from c.valid)
      rw [joinPieces?.eq_def]
      simp only [hunit]
  · refine ⟨.char c, fun rest => ?_, fun _ => rfl⟩
    unfold writtenChar at *
    split
    iterate 7 rfl
    rename_i hquote hslash h1 h2 h3 h4 h5
    have hlt : ¬ c.toNat < 0x20 := fun h => hcontrol (by simp [h])
    rw [if_neg hlt, List.singleton_append]
    exact pieces?_char hquote hslash hlt rest

/-- What is written of a text is read as the text. -/
theorem string?_writtenText (s : String) (rest : List Char) :
    string? (s.toList.flatMap writtenChar ++ '"' :: rest) = some (some s, rest) := by
  have hpieces (chars : List Char) : ∃ pieces,
      pieces? (chars.flatMap writtenChar ++ '"' :: rest) = some (pieces, rest) ∧
        joinPieces? pieces = some chars := by
    induction chars with
    | nil => exact ⟨[], rfl, rfl⟩
    | cons c chars ih =>
      obtain ⟨pieces, hread, hjoin⟩ := ih
      obtain ⟨piece, hpiece⟩ := exists_isPieceOf c
      refine ⟨piece :: pieces, ?_, by rw [hpiece.join, hjoin]; rfl⟩
      rw [List.flatMap_cons, List.append_assoc, hpiece.read, hread]
      rfl
  obtain ⟨pieces, hread, hjoin⟩ := hpieces s.toList
  unfold string?
  rw [hread]
  simp only [Option.map_some, hjoin, String.ofList_toList]

/-! ## Numbers -/

/-- What can follow a value: nothing, a comma or a closing bracket. -/
def Follows (rest : List Char) : Prop := ∀ c ∈ rest.head?, c = ',' ∨ c = ']' ∨ c = '}'

/-- No digit follows a value. -/
theorem Follows.isDigit {rest : List Char} (h : Follows rest) :
    ∀ c ∈ rest.head?, c.isDigit = false := by
  intro c hc
  rcases h c hc with rfl | rfl | rfl <;> rfl

/-- No point follows a value. -/
theorem Follows.fraction? {rest : List Char} (h : Follows rest) :
    Json.fraction? rest = some (none, rest) := by
  unfold Json.fraction?
  split
  · rcases h '.' rfl with h | h | h <;> cases h
  · rfl

/-- No exponent follows a value. -/
theorem Follows.exponent? {rest : List Char} (h : Follows rest) :
    Json.exponent? rest = some (none, rest) := by
  unfold Json.exponent?
  split
  · rfl
  · rename_i c rest
    rw [if_neg]
    rcases h c rfl with rfl | rfl | rfl <;> decide

/-- A digit is no minus. -/
theorem ne_minus_of_isDigit {c : Char} (h : c.isDigit = true) : c ≠ '-' := by
  rintro rfl
  cases h

/-- A number is read part by part, with a sign or without. -/
theorem number?_parts {whole : List Char} (h : Decimal.IsWhole whole) (negative : Bool)
    {text text' rest : List Char} {fraction : Option (List Char)} {exponent : Option Int}
    (hstop : ∀ c ∈ text.head?, c.isDigit = false)
    (hfraction : fraction? text = some (fraction, text'))
    (hexponent : exponent? text' = some (exponent, rest)) :
    number? ((if negative then ['-'] else []) ++ (whole ++ text)) =
      some (numberValue negative whole fraction exponent, rest) := by
  obtain ⟨c, digits, rfl⟩ := List.exists_cons_of_ne_nil h.ne_nil
  have hc : c ≠ '-' := ne_minus_of_isDigit (h.isDigit c (List.mem_cons_self ..))
  have hspan := Decimal.spanDigits_append h.isDigit hstop
  have hleading : ¬ ((c :: digits).isEmpty ||
      ((c :: digits).head? == some '0' && decide (1 < (c :: digits).length))) = true := by
    have := h.leading
    simp only [List.isEmpty_cons, Bool.false_or, Bool.and_eq_true, beq_iff_eq, decide_eq_true_eq,
      not_and, Nat.not_lt]
    exact fun hzero => (this hzero).le
  unfold number?
  cases negative with
  | true =>
    simp only [if_true, List.singleton_append]
    rw [hspan]
    dsimp only
    rw [if_neg hleading, hfraction, Option.bind_some, hexponent]
    rfl
  | false =>
    simp only [Bool.false_eq_true, if_false, List.nil_append]
    split
    · rename_i heq
      exact absurd (List.cons.inj heq).1 hc
    · rw [hspan]
      dsimp only
      rw [if_neg hleading, hfraction, Option.bind_some, hexponent]
      rfl

/-- An integer is read as an exponent. -/
theorem exponent?_repr (k : Int) {rest : List Char}
    (hrest : ∀ c ∈ rest.head?, c.isDigit = false) :
    exponent? ('e' :: ((Int.repr k).toList ++ rest)) = some (some k, rest) := by
  have hwhole := Decimal.isWhole_repr k.natAbs
  have hvalue := Decimal.natValue_repr k.natAbs
  have hspan := Decimal.spanDigits_append hwhole.isDigit hrest
  rw [Decimal.toList_repr]
  generalize (Nat.repr k.natAbs).toList = digits at *
  obtain ⟨c, digits, rfl⟩ := List.exists_cons_of_ne_nil hwhole.ne_nil
  have hdigit := hwhole.isDigit c (List.mem_cons_self ..)
  unfold exponent?
  dsimp only
  rw [if_pos (.inl rfl)]
  by_cases hk : k < 0
  · rw [if_pos hk]
    simp only [List.cons_append, List.nil_append] at hspan ⊢
    rw [hspan]
    simp only [List.isEmpty_cons, Bool.false_eq_true, if_false, if_true, hvalue]
    congr 3
    omega
  · rw [if_neg hk, List.nil_append]
    split
    · rename_i heq
      cases (List.cons.inj heq).1
      cases hdigit
    · rename_i heq
      cases (List.cons.inj heq).1
      cases hdigit
    · rw [hspan]
      simp only [List.isEmpty_cons, Bool.false_eq_true, if_false, hvalue]
      congr 3
      omega

/-- Digits behind a point are read. -/
theorem fraction?_point {digits rest : List Char} (hne : digits ≠ [])
    (hdigits : ∀ c ∈ digits, c.isDigit = true) (hrest : ∀ c ∈ rest.head?, c.isDigit = false) :
    fraction? ('.' :: (digits ++ rest)) = some (some digits, rest) := by
  have hspan := Decimal.spanDigits_append hdigits hrest
  show (if (Decimal.spanDigits (digits ++ rest)).1.isEmpty then none
    else some (some (Decimal.spanDigits (digits ++ rest)).1,
      (Decimal.spanDigits (digits ++ rest)).2)) = _
  rw [hspan]
  exact if_neg (by simpa using hne)

/-- A number with a point or an exponent is no integer. -/
theorem numberValue_real (negative : Bool) (whole : List Char) {fraction : Option (List Char)}
    {exponent : Option Int} (h : (fraction.isNone && exponent.isNone) = false) :
    numberValue negative whole fraction exponent =
      real (if negative then -magnitude whole (fraction.getD []) (exponent.getD 0)
        else magnitude whole (fraction.getD []) (exponent.getD 0)) := by
  unfold numberValue
  simp only [h, Bool.false_and, Bool.false_eq_true, if_false]

/-- A literal is read as a number, with a sign or without and whatever follows it. -/
theorem exists_number?_literal {text : List Char} {n : ℕ} {e : ℤ} (h : Decimal.Literal text n e) :
    ∃ y, ∀ (negative : Bool) (rest : List Char), Follows rest →
      number? ((if negative then ['-'] else []) ++ (text ++ rest)) =
        some (real (if negative then -y else y), rest) := by
  cases h with
  | @pointed whole fraction hwhole hne hfraction =>
    refine ⟨magnitude whole fraction 0, fun negative rest hrest => ?_⟩
    rw [List.append_assoc, List.cons_append, number?_parts hwhole negative (by simp)
      (fraction?_point hne hfraction hrest.isDigit) hrest.exponent?, numberValue_real _ _ rfl,
      Option.getD_some, Option.getD_none]
  | @scaled whole k hwhole =>
    refine ⟨magnitude whole [] e, fun negative rest hrest => ?_⟩
    rw [List.append_assoc, List.cons_append, number?_parts hwhole negative (by simp) rfl
      (exponent?_repr e hrest.isDigit), numberValue_real _ _ rfl, Option.getD_some,
      Option.getD_none]
  | @pointedScaled whole fraction k hwhole hne hfraction =>
    refine ⟨magnitude whole fraction k, fun negative rest hrest => ?_⟩
    rw [List.append_assoc, List.cons_append, List.append_assoc, List.cons_append,
      number?_parts hwhole negative (by simp) (fraction?_point hne hfraction (by simp))
        (exponent?_repr k hrest.isDigit), numberValue_real _ _ rfl, Option.getD_some,
      Option.getD_some]

/-- The number that is read of the digits of a finite number. -/
def numeral (x : Float) : Float :=
  match number? (writtenReal x) with
  | some (real y, _) => y
  | _ => x

/-- What is written of a finite number is read as a number, whatever follows it. -/
theorem number?_writtenReal {x : Float} (hx : x.isFinite = true) {rest : List Char}
    (hrest : Follows rest) : number? (writtenReal x ++ rest) = some (real (numeral x), rest) := by
  obtain ⟨text, n, e, hliteral, h⟩ := Decimal.exists_literal_shortest hx
  obtain ⟨y, hread⟩ := exists_number?_literal hliteral
  -- The sign is the only difference between what is written of a number and a literal.
  obtain ⟨negative, htext⟩ : ∃ negative : Bool, ∀ rest,
      writtenReal x ++ rest = (if negative then ['-'] else []) ++ (text ++ rest) := by
    unfold writtenReal
    rw [if_pos hx]
    rcases h with ⟨htext, -⟩ | ⟨htext, -⟩
    · exact ⟨false, fun rest => by rw [htext]; rfl⟩
    · exact ⟨true, fun rest => by rw [htext]; rfl⟩
  have halone : number? (writtenReal x) = some (real (if negative then -y else y), []) := by
    have hempty := hread negative [] (by simp [Follows])
    rwa [← htext, List.append_nil] at hempty
  rw [htext, hread negative rest hrest, numeral, halone]

/-- What is written of an integer of 64 bits is read as the integer. -/
theorem number?_repr {n : Int} (hlow : Int64.minValue.toInt ≤ n) (hhigh : n < UInt64.size)
    {rest : List Char} (hrest : Follows rest) :
    number? ((Int.repr n).toList ++ rest) = some (integer n, rest) := by
  have hread := number?_parts (Decimal.isWhole_repr n.natAbs) (decide (n < 0)) hrest.isDigit
    hrest.fraction? hrest.exponent?
  simp only [decide_eq_true_eq] at hread
  rw [Decimal.toList_repr, List.append_assoc, hread]
  have hvalue : numberValue (decide (n < 0)) (Nat.repr n.natAbs).toList none none = integer n := by
    unfold numberValue
    rw [Decimal.natValue_repr]
    by_cases hn : n < 0
    · have hne : n.natAbs ≠ 0 := by omega
      have hmin : Int64.minValue.toInt ≤ -(n.natAbs : Int) := by omega
      simp only [hn, decide_true, Option.isNone_none, Bool.and_self, Bool.not_true, Bool.and_false,
        Bool.false_and, Bool.false_eq_true, if_false, bne_iff_ne, ne_eq, hne, not_false_eq_true,
        hmin, Bool.and_eq_true, and_self, if_true]
      congr 1
      omega
    · have hlt : n.natAbs < UInt64.size := by omega
      simp only [hn, decide_false, Option.isNone_none, Bool.and_self, Bool.not_false, hlt,
        decide_true, if_true]
      congr 1
      omega
  rw [hvalue]

/-! ## Values -/

/-- A number is written with a minus or a digit in front. -/
def IsNumberStart (c : Char) : Prop := c = '-' ∨ c.isDigit = true

/-- A number does not start with another character. -/
theorem IsNumberStart.ne {c d : Char} (h : IsNumberStart c) (hdigit : d.isDigit = false)
    (hminus : d ≠ '-') : c ≠ d := by
  rintro rfl
  rcases h with h | h
  · exact hminus h
  · rw [hdigit] at h
    cases h

/-- The text of a number starts as one. -/
theorem exists_start_sign {digits : List Char} (hne : digits ≠ [])
    (hdigits : ∀ c ∈ digits, c.isDigit = true) (negative : Bool) (rest : List Char) :
    ∃ c text, (if negative then ['-'] else []) ++ (digits ++ rest) = c :: text ∧
      IsNumberStart c := by
  obtain ⟨c, digits, rfl⟩ := List.exists_cons_of_ne_nil hne
  cases negative with
  | true => exact ⟨'-', _, rfl, .inl rfl⟩
  | false => exact ⟨c, _, rfl, .inr (hdigits c (List.mem_cons_self ..))⟩

/-- The text of an integer starts as a number. -/
theorem exists_start_repr (n : Int) : ∃ c text, (Int.repr n).toList = c :: text ∧
    IsNumberStart c := by
  have hwhole := Decimal.isWhole_repr n.natAbs
  have h := exists_start_sign hwhole.ne_nil hwhole.isDigit (decide (n < 0)) []
  rw [Decimal.toList_repr]
  simpa using h

/-- The text of a finite number starts as one. -/
theorem exists_start_writtenReal {x : Float} (hx : x.isFinite = true) :
    ∃ c text, writtenReal x = c :: text ∧ IsNumberStart c := by
  obtain ⟨text, n, e, hliteral, h⟩ := Decimal.exists_literal_shortest hx
  obtain ⟨whole, rest, hwhole, rfl⟩ :
      ∃ whole rest, Decimal.IsWhole whole ∧ text = whole ++ rest := by
    cases hliteral with
    | pointed hwhole => exact ⟨_, _, hwhole, rfl⟩
    | scaled k hwhole => exact ⟨_, _, hwhole, rfl⟩
    | pointedScaled k hwhole => exact ⟨_, _, hwhole, rfl⟩
  unfold writtenReal
  rw [if_pos hx]
  rcases h with ⟨htext, -⟩ | ⟨htext, -⟩
  · rw [htext]
    exact exists_start_sign hwhole.ne_nil hwhole.isDigit false rest
  · rw [htext]
    exact exists_start_sign hwhole.ne_nil hwhole.isDigit true rest

/-- A text that starts as a number is read as one. -/
theorem value?_number {c : Char} (hc : IsNumberStart c) (fuel : ℕ) (text : List Char) :
    value? (fuel + 1) (c :: text) = number? (c :: text) := by
  rw [value?] <;>
    exact fun _ heq => hc.ne (by rfl) (by decide) (List.cons.inj heq).1

/-- The text of a value starts with neither white space nor a closing bracket. -/
theorem Sayable.exists_start {v : Json} (h : Sayable v) :
    ∃ c text, v.written = c :: text ∧ isSpace c = false ∧ c ≠ ']' := by
  have hnumber {text : List Char} (h : ∃ c rest, text = c :: rest ∧ IsNumberStart c) :
      ∃ c rest, text = c :: rest ∧ isSpace c = false ∧ c ≠ ']' := by
    obtain ⟨c, rest, htext, hc⟩ := h
    refine ⟨c, rest, htext, ?_, hc.ne (by rfl) (by decide)⟩
    unfold isSpace
    simp only [Bool.or_eq_false_iff, beq_eq_false_iff_ne]
    refine ⟨⟨⟨?_, ?_⟩, ?_⟩, ?_⟩ <;> exact hc.ne (by rfl) (by decide)
  cases h with
  | null => exact ⟨_, _, rfl, rfl, by decide⟩
  | bool b => cases b <;> exact ⟨_, _, rfl, rfl, by decide⟩
  | integer => exact hnumber (exists_start_repr _)
  | real hx => exact hnumber (exists_start_writtenReal hx)
  | string s => exact ⟨_, _, rfl, rfl, by decide⟩
  | array => exact ⟨_, _, rfl, rfl, by decide⟩
  | object => exact ⟨_, _, rfl, rfl, by decide⟩

/-- What is written of a value is read as the value, with enough fuel and whatever follows. -/
def Reads (v : Json) : Prop :=
  ∀ fuel rest, 2 * v.written.length ≤ fuel → Follows rest →
    value? fuel (v.written ++ rest) = some (v.mapReals numeral, rest)

/-- No white space is dropped before another character. -/
theorem skipSpace_cons {c : Char} (h : isSpace c = false) (rest : List Char) :
    skipSpace (c :: rest) = c :: rest := by
  unfold skipSpace
  rw [List.dropWhile_cons_of_neg (by simp [h])]

/-- A list of values starts with its first value. -/
theorem exists_writtenItems_cons (item : Json) (items : List Json) :
    ∃ text, writtenItems (item :: items) = item.written ++ text := by
  cases items with
  | nil => exact ⟨[], (List.append_nil _).symm⟩
  | cons next items => exact ⟨_, rfl⟩

/-- Values are separated by commas. -/
theorem writtenItems_cons_cons (item next : Json) (items : List Json) :
    writtenItems (item :: next :: items) = item.written ++ ',' :: writtenItems (next :: items) :=
  rfl

/-- A list of values starts with neither white space nor a closing bracket. -/
theorem exists_start_writtenItems {items : List Json} (hne : items ≠ [])
    (h : ∀ item ∈ items, Sayable item) :
    ∃ c text, writtenItems items = c :: text ∧ isSpace c = false ∧ c ≠ ']' := by
  obtain ⟨item, items, rfl⟩ := List.exists_cons_of_ne_nil hne
  obtain ⟨text, htext⟩ := exists_writtenItems_cons item items
  obtain ⟨c, text', htext', hc⟩ := (h item (List.mem_cons_self ..)).exists_start
  exact ⟨c, text' ++ text, by rw [htext, htext', List.cons_append], hc⟩

/-- Values that are read one by one are read as a list. -/
theorem items?_writtenItems {items : List Json} (hne : items ≠ [])
    (h : ∀ item ∈ items, Sayable item) (hread : ∀ item ∈ items, Reads item) (fuel : ℕ)
    (rest : List Char) (hfuel : 2 * (writtenItems items).length + 1 ≤ fuel) :
    items? fuel (writtenItems items ++ ']' :: rest) =
      some (items.map (mapReals numeral), rest) := by
  induction items generalizing fuel with
  | nil => exact absurd rfl hne
  | cons item items ih =>
    obtain ⟨fuel, rfl⟩ : ∃ n, fuel = n + 1 := ⟨fuel - 1, by omega⟩
    have hitem := hread item (List.mem_cons_self ..)
    cases items with
    | nil =>
      simp only [writtenItems] at hfuel ⊢
      rw [items?, hitem fuel _ (by omega) (by simp [Follows])]
      rfl
    | cons next items =>
      have hnext (j : Json) (hj : j ∈ next :: items) := List.mem_cons_of_mem item hj
      obtain ⟨c, text, htext, hspace, -⟩ :=
        exists_start_writtenItems (List.cons_ne_nil next items) fun j hj => h j (hnext j hj)
      have hskip : skipSpace (writtenItems (next :: items) ++ ']' :: rest) =
          writtenItems (next :: items) ++ ']' :: rest := by
        rw [htext, List.cons_append, skipSpace_cons hspace]
      have hlength : (writtenItems (item :: next :: items)).length =
          item.written.length + 1 + (writtenItems (next :: items)).length := by
        rw [writtenItems_cons_cons, List.length_append, List.length_cons]
        omega
      have hitems := ih (List.cons_ne_nil _ _) (fun j hj => h j (hnext j hj))
        (fun j hj => hread j (hnext j hj)) fuel (by omega)
      rw [writtenItems_cons_cons, List.append_assoc, List.cons_append, items?,
        hitem fuel _ (by omega) (by simp [Follows]), Option.bind_some]
      show (items? fuel (skipSpace (writtenItems (next :: items) ++ ']' :: rest))).map _ = _
      rw [hskip, hitems]
      rfl

/-- The fields of an object with names that are not broken. -/
def named (fields : List (String × Json)) : List (Option String × Json) :=
  fields.map fun (name, value) => (some name, value)

/-- Fields are separated by commas. -/
theorem writtenFields_cons_cons (name : String) (value : Json) (next : String × Json)
    (fields : List (String × Json)) :
    writtenFields (named ((name, value) :: next :: fields)) =
      writtenText name ++ ':' :: value.written ++ ',' :: writtenFields (named (next :: fields)) :=
  rfl

/-- A field is read up to the comma or the brace behind it. -/
theorem fields?_field {value : Json} (hsay : Sayable value) (hread : Reads value) (name : String)
    (fuel : ℕ) (hfuel : 2 * value.written.length ≤ fuel) {rest : List Char} (hrest : Follows rest) :
    fields? (fuel + 1) (writtenText name ++ ':' :: (value.written ++ rest)) =
      match skipSpace rest with
      | '}' :: rest => some ([(some name, value.mapReals numeral)], rest)
      | ',' :: rest => (fields? fuel (skipSpace rest)).map fun (fields, rest) =>
        ((some name, value.mapReals numeral) :: fields, rest)
      | _ => none := by
  obtain ⟨c, text, htext, hspace, -⟩ := hsay.exists_start
  have hskip : skipSpace (value.written ++ rest) = value.written ++ rest := by
    rw [htext, List.cons_append, skipSpace_cons hspace]
  have hname : writtenText name ++ ':' :: (value.written ++ rest) =
      '"' :: (name.toList.flatMap writtenChar ++ '"' :: (':' :: (value.written ++ rest))) := by
    unfold writtenText
    simp only [List.cons_append, List.append_assoc, List.nil_append]
  rw [hname, fields?, string?_writtenText, Option.bind_some]
  show ((value? fuel (skipSpace (value.written ++ rest))).bind _) = _
  rw [hskip, hread fuel rest hfuel hrest]
  rfl

/-- Fields whose values are read one by one are read as an object. -/
theorem fields?_writtenFields {fields : List (String × Json)} (hne : fields ≠ [])
    (h : ∀ field ∈ fields, Sayable field.2) (hread : ∀ field ∈ fields, Reads field.2) (fuel : ℕ)
    (rest : List Char) (hfuel : 2 * (writtenFields (named fields)).length + 1 ≤ fuel) :
    fields? fuel (writtenFields (named fields) ++ '}' :: rest) =
      some (named (fields.map fun (name, value) => (name, value.mapReals numeral)), rest) := by
  induction fields generalizing fuel with
  | nil => exact absurd rfl hne
  | cons field fields ih =>
    obtain ⟨fuel, rfl⟩ : ∃ n, fuel = n + 1 := ⟨fuel - 1, by omega⟩
    obtain ⟨name, value⟩ := field
    have hsay : Sayable value := h _ (List.mem_cons_self ..)
    have hvalue := hread _ (List.mem_cons_self ..)
    cases fields with
    | nil =>
      have htext :
          writtenFields (named [(name, value)]) = writtenText name ++ ':' :: value.written :=
        rfl
      rw [htext, List.length_append, List.length_cons] at hfuel
      rw [htext, List.append_assoc, List.cons_append,
        fields?_field hsay hvalue name fuel (by omega) (by simp [Follows])]
      rfl
    | cons next fields =>
      have hnext (f : String × Json) (hf : f ∈ next :: fields) :=
        List.mem_cons_of_mem (name, value) hf
      have hskip : skipSpace (writtenFields (named (next :: fields)) ++ '}' :: rest) =
          writtenFields (named (next :: fields)) ++ '}' :: rest := by
        cases fields <;> exact skipSpace_cons rfl _
      rw [writtenFields_cons_cons] at hfuel ⊢
      simp only [List.length_append, List.length_cons] at hfuel
      have hfields := ih (List.cons_ne_nil _ _) (fun f hf => h f (hnext f hf))
        (fun f hf => hread f (hnext f hf)) fuel (by omega)
      rw [List.append_assoc, List.append_assoc, List.cons_append, List.cons_append,
        fields?_field hsay hvalue name fuel (by omega) (by simp [Follows])]
      show (fields? fuel
        (skipSpace (writtenFields (named (next :: fields)) ++ '}' :: rest))).map _ = _
      rw [hskip, hfields]
      rfl

/-- A bracket with a value behind it opens a list. -/
theorem value?_bracket {c : Char} (hspace : isSpace c = false) (hc : c ≠ ']') (fuel : ℕ)
    (text : List Char) :
    value? (fuel + 1) ('[' :: c :: text) =
      (items? fuel (c :: text)).map fun (items, rest) => (array items, rest) := by
  rw [value?, skipSpace_cons hspace]
  split
  · rename_i heq
    exact absurd (List.cons.inj heq).1 hc
  · rfl

/-- There is fuel for a value. -/
theorem Sayable.exists_fuel {v : Json} (h : Sayable v) {fuel : ℕ}
    (hfuel : 2 * v.written.length ≤ fuel) : ∃ n, fuel = n + 1 := by
  obtain ⟨c, text, htext, -⟩ := h.exists_start
  rw [htext, List.length_cons] at hfuel
  exact ⟨fuel - 1, by omega⟩

/-- A number is read up to what follows it. -/
theorem reads_of_number {v : Json} (h : Sayable v)
    (hstart : ∃ c text, v.written = c :: text ∧ IsNumberStart c)
    (hread : ∀ rest, Follows rest →
      number? (v.written ++ rest) = some (v.mapReals numeral, rest)) : Reads v := by
  intro fuel rest hfuel hrest
  obtain ⟨fuel, rfl⟩ := h.exists_fuel hfuel
  obtain ⟨c, text, htext, hc⟩ := hstart
  have hnumber := hread rest hrest
  rw [htext, List.cons_append] at hnumber ⊢
  rw [value?_number hc, hnumber]

/-- A list is read if its values are. -/
theorem reads_array {items : List Json} (hsay : ∀ item ∈ items, Sayable item)
    (hread : ∀ item ∈ items, Reads item) : Reads (array items) := by
  intro fuel rest hfuel _
  obtain ⟨fuel, rfl⟩ := (Sayable.array hsay).exists_fuel hfuel
  have htext : (array items).written ++ rest = '[' :: (writtenItems items ++ ']' :: rest) := by
    show '[' :: writtenItems items ++ [']'] ++ rest = _
    rw [List.cons_append, List.cons_append, List.append_assoc]
    rfl
  have hlength : (array items).written.length = (writtenItems items).length + 2 := by
    show ('[' :: writtenItems items ++ [']']).length = _
    simp
  rw [htext]
  by_cases hne : items = []
  · subst hne
    rfl
  · obtain ⟨c, text, hstart, hspace, hc⟩ := exists_start_writtenItems hne hsay
    have hitems := items?_writtenItems hne hsay hread fuel rest (by omega)
    rw [hstart, List.cons_append] at hitems ⊢
    rw [value?_bracket hspace hc, hitems, mapReals_array]
    rfl

/-- An object is read if the values of its fields are. -/
theorem reads_ofFields {fields : List (String × Json)} (hsay : ∀ field ∈ fields, Sayable field.2)
    (hread : ∀ field ∈ fields, Reads field.2) : Reads (ofFields fields) := by
  intro fuel rest hfuel _
  obtain ⟨fuel, rfl⟩ := (Sayable.object hsay).exists_fuel hfuel
  have htext : (ofFields fields).written ++ rest =
      '{' :: (writtenFields (named fields) ++ '}' :: rest) := by
    show '{' :: writtenFields (named fields) ++ ['}'] ++ rest = _
    rw [List.cons_append, List.cons_append, List.append_assoc]
    rfl
  have hlength :
      (ofFields fields).written.length = (writtenFields (named fields)).length + 2 := by
    show ('{' :: writtenFields (named fields) ++ ['}']).length = _
    simp
  rw [htext]
  by_cases hne : fields = []
  · subst hne
    rfl
  · have hfields := fields?_writtenFields hne hsay hread fuel rest (by omega)
    obtain ⟨text, hstart⟩ : ∃ text, writtenFields (named fields) = '"' :: text := by
      obtain ⟨⟨name, value⟩, fields, rfl⟩ := List.exists_cons_of_ne_nil hne
      cases fields <;> exact ⟨_, rfl⟩
    rw [hstart, List.cons_append] at hfields ⊢
    rw [value?, skipSpace_cons rfl]
    show (fields? fuel ('"' :: (text ++ '}' :: rest))).map _ = _
    rw [hfields, mapReals_ofFields]
    rfl

/-- What is written of a value is read as the value. -/
theorem Sayable.reads {v : Json} (h : Sayable v) : Reads v := by
  induction h with
  | null =>
    intro fuel rest hfuel _
    obtain ⟨fuel, rfl⟩ := Sayable.null.exists_fuel hfuel
    rfl
  | bool b =>
    intro fuel rest hfuel _
    obtain ⟨fuel, rfl⟩ := (Sayable.bool b).exists_fuel hfuel
    cases b <;> rfl
  | @integer n hlow hhigh =>
    exact reads_of_number (.integer hlow hhigh) (exists_start_repr n) fun _ hrest =>
      number?_repr hlow hhigh hrest
  | @real x hx =>
    exact reads_of_number (.real hx) (exists_start_writtenReal hx) fun _ hrest =>
      number?_writtenReal hx hrest
  | string s =>
    intro fuel rest hfuel _
    obtain ⟨fuel, rfl⟩ := (Sayable.string s).exists_fuel hfuel
    have htext : (ofString s).written ++ rest =
        '"' :: (s.toList.flatMap writtenChar ++ '"' :: rest) := by
      show writtenText s ++ rest = _
      unfold writtenText
      rw [List.cons_append, List.cons_append, List.append_assoc]
      rfl
    rw [htext, value?, string?_writtenText]
    rfl
  | array hsay ih => exact reads_array hsay ih
  | object hsay ih => exact reads_ofFields hsay ih

/-- The reader and the writer keep what a codec promises. -/
theorem codec_spec : codec.Spec numeral := by
  refine ⟨fun v h => ?_⟩
  have hread := h.reads (2 * v.written.length + 2) [] (by omega) (by simp [Follows])
  obtain ⟨c, text, htext, hspace, -⟩ := h.exists_start
  show read? (write v) = _
  unfold read? write
  rw [String.toList_ofList]
  dsimp only
  rw [List.append_nil] at hread
  rw [htext, skipSpace_cons hspace, ← htext, hread]
  rfl

/-- What is read of the digits of a number need not be the number to the last bit. -/
example : numeral (1.0 / 11.0) ≠ 1.0 / 11.0 := by decide +kernel

end MetricAlgebra.Json
