import PivotOracle.Data.Json
import PivotOracle.Proofs.Lexeme

/-!
# Documents of data

Writing data as a document and reading the document gives the data back, as long as the reader's limits allow:
those on the nesting of containers and on the digits of integers. A text that is no valid Unicode is beyond every
limit, for no document has it.

* `Data.Fits` — data is within the limits of the reader, with a given depth.
* `Data.Writable` — data that has a document of its own: no doubles, and no key twice in a table.
* `Data.Fits.isUnicode` — writable data within the limits is one that may be written.
* `Json.Takes` — the reader comes from one place of a text to another.
* `Json.read_write` — the document of writable data that is within the limits is read back.
-/

namespace PivotOracle

/-! ### Limits -/

/-- Data that is no container, no integer with too many digits for a document and no text with a stray byte. -/
def Data.IsLeaf : Data → Prop
  | .int i => digitCount i.natAbs ≤ Json.maxIntegerDigits
  | .text t => t.isUnicode = true
  | .list _ | .table _ => False
  | _ => True

/-- Containers are nested less than `n` levels deep, where one that is empty does not count as a level, no integer
has too many digits for a document, and texts are valid Unicode. -/
inductive Data.Fits : Nat → Data → Prop where
  | leaf {n : Nat} {d : Data} (pos : 0 < n) (leaf : d.IsLeaf) : Fits n d
  | list {m n : Nat} {items : List Data} (lt : m < n) (held : ∀ d ∈ items, Fits m d) : Fits n (.list items)
  | table {m n : Nat} {entries : List (Text × Data)} (lt : m < n) (held : ∀ entry ∈ entries, Fits m entry.2) :
      Fits n (.table entries)

/-- Data that has a document of its own: it holds no double, and no key twice in one table. Keys are valid
Unicode. -/
inductive Data.Writable : Data → Prop where
  | null : Writable .null
  | bool (b : Bool) : Writable (.bool b)
  | int (i : Int) : Writable (.int i)
  | text (t : Text) : Writable (.text t)
  | list {items : List Data} (held : ∀ d ∈ items, Writable d) : Writable (.list items)
  | table {entries : List (Text × Data)} (distinct : (entries.map Prod.fst).Nodup)
      (keys : ∀ key ∈ entries.map Prod.fst, key.isUnicode = true)
      (held : ∀ entry ∈ entries, Writable entry.2) : Writable (.table entries)

namespace Data

variable {m n : Nat} {d : Data}

/-- What fits a depth fits a greater one. -/
theorem Fits.mono (fits : d.Fits m) (le : m ≤ n) : d.Fits n := by
  cases fits with
  | leaf pos leaf => exact .leaf (Nat.lt_of_lt_of_le pos le) leaf
  | list lt held => exact .list (Nat.lt_of_lt_of_le lt le) held
  | table lt held => exact .table (Nat.lt_of_lt_of_le lt le) held

theorem Fits.pos (fits : d.Fits n) : 0 < n := by
  cases fits with
  | leaf pos leaf => exact pos
  | list lt held => exact Nat.zero_lt_of_lt lt
  | table lt held => exact Nat.zero_lt_of_lt lt

theorem fits_list_iff {items : List Data} : Fits (n + 1) (.list items) ↔ ∀ d ∈ items, d.Fits n := by
  constructor
  · intro fits d mem
    cases fits with
    | leaf pos leaf => exact leaf.elim
    | list lt held => exact (held d mem).mono (Nat.le_of_lt_succ lt)
  · exact .list (Nat.lt_succ_self n)

theorem fits_table_iff {entries : List (Text × Data)} :
    Fits (n + 1) (.table entries) ↔ ∀ entry ∈ entries, entry.2.Fits n := by
  constructor
  · intro fits entry mem
    cases fits with
    | leaf pos leaf => exact leaf.elim
    | table lt held => exact (held entry mem).mono (Nat.le_of_lt_succ lt)
  · exact .table (Nat.lt_succ_self n)

theorem itemsUnicode_iff {items : List Data} :
    itemsUnicode items = true ↔ ∀ d ∈ items, d.isUnicode = true := by
  induction items with
  | nil => simp [itemsUnicode]
  | cons d items ih => rw [itemsUnicode, Bool.and_eq_true, ih, List.forall_mem_cons]

theorem entriesUnicode_iff {entries : List (Text × Data)} :
    entriesUnicode entries = true ↔
      ∀ entry ∈ entries, entry.1.isUnicode = true ∧ entry.2.isUnicode = true := by
  induction entries with
  | nil => simp [entriesUnicode]
  | cons entry entries ih => rw [entriesUnicode, Bool.and_eq_true, Bool.and_eq_true, ih, List.forall_mem_cons]

/-- Writable data within the limits has nothing but valid texts. -/
theorem Fits.isUnicode (fits : d.Fits n) (writable : d.Writable) : d.isUnicode = true := by
  induction writable generalizing n with
  | null => rfl
  | bool b => rfl
  | int i => rfl
  | text t =>
      cases fits with
      | leaf pos leaf => exact leaf
  | list _ ih =>
      cases fits with
      | leaf pos leaf => exact leaf.elim
      | list lt held => exact itemsUnicode_iff.mpr fun d mem => ih d mem (held d mem)
  | table _ keys _ ih =>
      cases fits with
      | leaf pos leaf => exact leaf.elim
      | table lt held =>
          exact entriesUnicode_iff.mpr fun entry mem =>
            ⟨keys entry.1 (List.mem_map_of_mem mem), ih entry mem (held entry mem)⟩

end Data

namespace Json

/-! ### Tokens -/

/-- What may follow a value in the document of data: nothing, or the next item or the end of its container. -/
def EndsValue (rest : Text) : Prop :=
  ∀ s, rest.head? = some s → s = .char ',' ∨ s = .char ']' ∨ s = .char '\x7d'

/-- The symbols that belong to an escape are passed over. -/
theorem readString_skip (skipped rest : Text) : readString skipped.length (skipped ++ rest) = readString 0 rest := by
  induction skipped with
  | nil => rfl
  | cons s skipped ih => exact ih

/-- A symbol of a control code is read back from its escape. -/
theorem codeEscape_hexDigits {n : Nat} (lt : n < 0x20) (rest : Text) :
    codeEscape ((hexDigits 4 n).map .char ++ rest) = some (Char.ofNat n, 4) ∧ (hexDigits 4 n).length = 4 := by
  have digits : (hexDigits 4 n).length = 4 ∧ hexValue ((hexDigits 4 n).map .char) = some n := by
    revert lt
    revert n
    decide
  have leading : leadingHex ((hexDigits 4 n).map .char ++ rest) = some n := by
    have taken : ((hexDigits 4 n).map Symbol.char ++ rest).take 4 = (hexDigits 4 n).map .char := by
      rw [List.take_append_of_le_length (by simp [digits.1]), List.take_of_length_le (by simp [digits.1])]
    simp only [leadingHex, taken, List.length_map, digits.1]
    exact digits.2
  refine ⟨?_, digits.1⟩
  unfold codeEscape
  rw [leading]
  have notHigh : ¬ (0xD800 ≤ n ∧ n < 0xDC00) := by omega
  have notLow : ¬ (0xDC00 ≤ n ∧ n < 0xE000) := by omega
  simp only [Option.bind_eq_bind, Option.bind_some, if_neg notHigh, if_neg notLow]

/-- A symbol that is read, before the rest of a string. -/
def before (s : Symbol) (read : Option (Text × Text)) : Option (Text × Text) :=
  read.map fun (r, rest) => (s :: r, rest)

theorem readString_escape {e c : Char} (notCode : e ≠ 'u') (short : shortEscape e = some c) (t : Text) :
    readString 0 (.char '\\' :: .char e :: t) = before (.char c) (readString 0 t) := by
  rw [readString, short]
  · cases readString 0 t <;> rfl
  · exact notCode

theorem readString_plain {c : Char} (notQuote : Symbol.char c ≠ .char '"') (notEscape : Symbol.char c ≠ .char '\\')
    (notControl : ¬ (Symbol.char c).code < 0x20) (t : Text) :
    readString 0 (.char c :: t) = before (.char c) (readString 0 t) := by
  rw [readString, if_neg (not_or.mpr ⟨notEscape, not_or.mpr ⟨notControl, nofun⟩⟩)]
  · cases readString 0 t <;> rfl
  · exact notQuote
  · exact fun _ same => absurd same notEscape
  · exact fun _ _ same => absurd same notEscape

theorem readString_control {c : Char} (control : c.toNat < 0x20) (t : Text) :
    readString 0 (.char '\\' :: .char 'u' :: ((hexDigits 4 c.toNat).map .char ++ t)) =
      before (.char c) (readString 0 t) := by
  obtain ⟨escape, length⟩ := codeEscape_hexDigits control t
  have rest := readString_skip ((hexDigits 4 c.toNat).map .char) t
  rw [List.length_map, length] at rest
  rw [readString, escape]
  simp only [Option.bind_eq_bind, Option.bind_some, rest, Char.ofNat_toNat]
  cases readString 0 t <;> rfl

/-- A character is read back from the way that it is written. -/
theorem readString_writtenSymbol (c : Char) (t : Text) :
    readString 0 (writtenSymbol (.char c) ++ t) = before (.char c) (readString 0 t) := by
  unfold writtenSymbol
  split
  · rename_i quote
    rw [quote]
    exact readString_escape (by decide) rfl t
  · split
    · rename_i backslash
      rw [backslash]
      exact readString_escape (by decide) rfl t
    · split
      · rename_i control
        exact readString_control control t
      · rename_i quote backslash control
        exact readString_plain quote backslash control t

/-- A text without stray bytes is read back from a string, up to the quote that closes it. -/
theorem readString_writtenText {t : Text} (unicode : t.isUnicode = true) (rest : Text) :
    readString 0 (t.flatMap writtenSymbol ++ .char '"' :: rest) = some (t, rest) := by
  induction t with
  | nil => rfl
  | cons s t ih =>
      cases s with
      | byte b => cases unicode
      | char c =>
          rw [List.flatMap_cons, List.append_assoc, readString_writtenSymbol, ih unicode]
          rfl

theorem readToken_writtenText {t : Text} (unicode : t.isUnicode = true) (rest : Text) :
    readToken (writtenText t ++ rest) = some (.value (.text t), rest) := by
  have read := readString_writtenText unicode rest
  have opened : writtenText t ++ rest = .char '"' :: (t.flatMap writtenSymbol ++ .char '"' :: rest) := by
    simp only [writtenText, List.append_assoc]
    rfl
  rw [opened, readToken, read]
  rfl

namespace EndsValue

variable {rest : Text}

theorem stopsDigits (h : EndsValue rest) : rest.StopsDigits asciiDigit := by
  intro c head
  rcases h _ head with same | same | same <;> cases same <;> rfl

theorem stopsDecimal (h : EndsValue rest) : rest.StopsDecimal := by
  refine ⟨?_, ?_, ?_⟩ <;> intro head <;> rcases h _ head with same | same | same <;> cases same

end EndsValue

/-- An integer without too many digits is read back, up to what follows it. -/
theorem readNumber_ofInt {i : Int} (short : digitCount i.natAbs ≤ maxIntegerDigits) {rest : Text}
    (ends : EndsValue rest) : readNumber (Text.ofInt i ++ rest) = some (.int i, rest) := by
  have all : ∀ c ∈ Nat.toDigits 10 i.natAbs, c.isDigit = true := fun c => isDigit_of_mem_toDigits
  -- The numeral is read, and then it passes each of the checks: on its sign, on zeros before it, on its length.
  have form : Text.ofInt i ++ rest =
      Text.ofSign (decide (i < 0)) ++ ((Nat.toDigits 10 i.natAbs).map .char ++ rest) := by
    rw [Text.ofInt_eq, List.append_assoc]
  have read := DecimalNumeral.read_append asciiDigit_hasAscii (decide (i < 0)) Nat.toDigits_ne_nil all
    ends.stopsDigits ends.stopsDecimal
  have notPlus : (Text.ofInt i ++ rest).head? ≠ some (.char '+') := by
    obtain ⟨c, head, sign⟩ := head?_ofInt i
    rw [List.head?_append, head]
    rcases sign with rfl | digit
    · exact nofun
    · rintro ⟨⟩
      cases digit
  have noZero : (decide (1 < (Nat.toDigits 10 i.natAbs).length) &&
      decide ((Nat.toDigits 10 i.natAbs).head? = some '0')) = false := by
    rw [Bool.and_eq_false_iff, decide_eq_false_iff_not, decide_eq_false_iff_not]
    rcases Nat.eq_zero_or_pos i.natAbs with zero | pos
    · rw [zero]
      exact .inl (by decide)
    · exact .inr (head?_toDigits_ne pos)
  have dropped : (Text.ofInt i ++ rest).drop
      ((if decide (i < 0) = true then 1 else 0) + (Nat.toDigits 10 i.natAbs).length) = rest := by
    have sign : (Text.ofSign (decide (i < 0))).length = if decide (i < 0) = true then 1 else 0 := by
      cases decide (i < 0) <;> rfl
    rw [form, ← List.append_assoc]
    exact List.drop_left' (by rw [List.length_append, List.length_map, sign])
  have value := IntegerNumeral.value_ofInt asciiDigit_hasAscii i
  rw [← form] at read
  unfold readNumber
  simp only [read, Option.bind_eq_bind, Option.bind_some]
  have conditions : (decide ((Text.ofInt i ++ rest).head? = some (.char '+')) ||
      (Nat.toDigits 10 i.natAbs).isEmpty || (decide (1 < (Nat.toDigits 10 i.natAbs).length) &&
        decide ((Nat.toDigits 10 i.natAbs).head? = some '0'))) = false := by
    simp only [notPlus, decide_false, Bool.false_or, noZero, Bool.or_false, List.isEmpty_eq_false_iff]
    exact Nat.toDigits_ne_nil
  have few : ¬ (Nat.toDigits 10 i.natAbs).length > maxIntegerDigits := Nat.not_lt.mpr short
  rw [conditions, if_neg nofun, if_neg few, dropped]
  split
  · exact absurd rfl ends.stopsDecimal.1
  · exact absurd rfl ends.stopsDecimal.1
  · exact congrArg (fun i => some (Data.int i, rest)) value

theorem mem_digits_of_isDigit {c : Char} (digit : c.isDigit = true) :
    c ∈ ['0', '1', '2', '3', '4', '5', '6', '7', '8', '9'] := by
  have all : ∀ n < 58, 48 ≤ n → Char.ofNat n ∈ ['0', '1', '2', '3', '4', '5', '6', '7', '8', '9'] := by decide
  obtain ⟨low, high⟩ := isDigit_iff.mp digit
  have mem := all c.toNat (Nat.lt_succ_of_le high) low
  rwa [Char.ofNat_toNat] at mem

/-- A digit starts a number, and so does a minus that stands before one. -/
theorem readToken_digit {c : Char} (digit : c.isDigit = true) (negative : Bool) (t : Text) :
    readToken (Text.ofSign negative ++ .char c :: t) =
      (readNumber (Text.ofSign negative ++ .char c :: t)).map fun (d, rest) => (.value d, rest) := by
  have mem := mem_digits_of_isDigit digit
  simp only [List.mem_cons, List.not_mem_nil, or_false] at mem
  rcases mem with rfl | rfl | rfl | rfl | rfl | rfl | rfl | rfl | rfl | rfl <;> cases negative <;> rfl

/-- An integer is one token. -/
theorem readToken_ofInt (i : Int) (rest : Text) :
    readToken (Text.ofInt i ++ rest) =
      (readNumber (Text.ofInt i ++ rest)).map fun (d, rest) => (.value d, rest) := by
  rw [Text.ofInt_eq, List.append_assoc]
  cases digits : Nat.toDigits 10 i.natAbs with
  | nil => exact absurd digits Nat.toDigits_ne_nil
  | cons c tail => exact readToken_digit (isDigit_of_mem_toDigits (n := i.natAbs) (by simp [digits])) _ _

/-- Data that is no container is read back from its one token. -/
theorem readToken_write {d : Data} (writable : d.Writable) (leaf : d.IsLeaf) {rest : Text}
    (ends : EndsValue rest) : readToken (write d ++ rest) = some (.value d, rest) := by
  cases writable with
  | null => rfl
  | bool b => cases b <;> rfl
  | int i =>
      rw [write, readToken_ofInt, readNumber_ofInt leaf ends]
      rfl
  | text t => exact readToken_writtenText leaf rest
  | list held => exact leaf.elim
  | table distinct keys held => exact leaf.elim

theorem isSpace_of_isDigit {c : Char} (digit : c.isDigit = true) : isSpace (.char c) = false := by
  simp only [isSpace, Bool.or_eq_false_iff, decide_eq_false_iff_not, Symbol.char.injEq]
  refine ⟨⟨⟨?_, ?_⟩, ?_⟩, ?_⟩ <;> rintro rfl <;> cases digit

/-- The document of data starts with a symbol that is no space. -/
theorem exists_head_write {d : Data} (writable : d.Writable) : ∃ s t, write d = s :: t ∧ isSpace s = false := by
  cases writable with
  | null => exact ⟨_, _, rfl, rfl⟩
  | bool b => cases b <;> exact ⟨_, _, rfl, rfl⟩
  | int i =>
      obtain ⟨c, head, sign⟩ := head?_ofInt i
      obtain ⟨t, text⟩ := List.head?_eq_some_iff.mp head
      refine ⟨.char c, t, text, ?_⟩
      rcases sign with rfl | digit
      · rfl
      · exact isSpace_of_isDigit digit
  | text t => exact ⟨_, _, rfl, rfl⟩
  | list held => exact ⟨_, _, rfl, rfl⟩
  | table distinct keys held => exact ⟨_, _, rfl, rfl⟩

/-! ### The machine on the tokens of a text -/

/-- The machine comes from one state and text to another, token by token. -/
inductive Takes (limit : Nat) : Machine → Text → Machine → Text → Prop where
  | refl (m : Machine) (t : Text) : Takes limit m t m t
  | token {m next last : Machine} {t rest final : Text} {token : Token}
      (start : t.dropWhile isSpace = t) (read : readToken t = some (token, rest))
      (shorter : rest.length < t.length) (step : m.step token = some next) (within : next.depth ≤ limit)
      (others : Takes limit next rest last final) : Takes limit m t last final

namespace Takes

variable {limit : Nat} {m n o : Machine} {t u v : Text}

theorem trans (first : Takes limit m t n u) (second : Takes limit n u o v) : Takes limit m t o v := by
  induction first with
  | refl => exact second
  | token start read shorter step within _ ih => exact .token start read shorter step within (ih second)

theorem single {token : Token} (start : t.dropWhile isSpace = t) (read : readToken t = some (token, u))
    (shorter : u.length < t.length) (step : m.step token = some n) (within : n.depth ≤ limit) :
    Takes limit m t n u :=
  .token start read shorter step within (.refl n u)

/-- A machine that takes a whole text takes its tokens. -/
theorem run_tokens (all : Takes limit m t n []) :
    ∀ fuel, t.length ≤ fuel → ∃ tokens, tokensWithin fuel t = some tokens ∧
      Machine.run limit tokens m = some n := by
  generalize empty : ([] : Text) = final at all
  -- Each token shortens the text, and so the fuel is enough for the rest.
  induction all with
  | refl m t =>
      subst empty
      intro fuel _
      cases fuel <;> exact ⟨[], rfl, rfl⟩
  | @token m next last t rest final token start read shorter step within _ ih =>
      intro fuel enough
      cases fuel with
      | zero => omega
      | succ fuel =>
          obtain ⟨tokens, lexed, ran⟩ := ih empty fuel (by omega)
          refine ⟨token :: tokens, ?_, ?_⟩
          · cases t with
            | nil => exact absurd shorter (Nat.not_lt_zero _)
            | cons s t =>
                unfold tokensWithin
                simp only [start, read, lexed, Option.bind_eq_bind, Option.bind_some]
          · rw [Machine.run, step]
            simp only [Option.bind_eq_bind, Option.bind_some, if_pos within, ran]

end Takes

/-- A value may stand here. -/
def Expected.AwaitsValue (expected : Expected) : Prop := expected = .value ∨ expected = .valueOrClose

/-- A key may stand here, after some entries. -/
def Expected.AwaitsKey (expected : Expected) (entries : List (Text × Data)) : Prop :=
  expected = .keyOrClose entries ∨ expected = .key entries

namespace Machine

theorem step_of_awaitsValue {expected : Expected} (awaits : expected.AwaitsValue) (frames : List Frame)
    {token : Token} (notClose : token ≠ .closeList) : step ⟨frames, expected⟩ token = start frames token := by
  rcases awaits with rfl | rfl
  · rfl
  · cases token with
    | closeList => exact absurd rfl notClose
    | openList => rfl
    | openTable => rfl
    | closeTable => rfl
    | comma => rfl
    | colon => rfl
    | value d => rfl

theorem step_of_awaitsKey {expected : Expected} {entries : List (Text × Data)}
    (awaits : expected.AwaitsKey entries) (frames : List Frame) (key : Text) :
    step ⟨frames, expected⟩ (.value (.text key)) = some ⟨frames, .colon entries key⟩ := by
  rcases awaits with rfl | rfl <;> rfl

@[simp] theorem depth_complete (d : Data) (frames : List Frame) : (complete d frames).depth = frames.length := by
  cases frames with
  | nil => rfl
  | cons frame frames => cases frame <;> rfl

end Machine

/-- The machine takes data that fits a depth, wherever a value may stand and there is room for that depth. -/
def TakesValue (limit n : Nat) (d : Data) : Prop :=
  ∀ {frames : List Frame} {expected : Expected} {rest : Text}, frames.length + n ≤ limit + 1 →
    expected.AwaitsValue → EndsValue rest →
    Takes limit ⟨frames, expected⟩ (write d ++ rest) (Machine.complete d frames) rest

section Containers

variable {limit n : Nat}

theorem takesValue_leaf {d : Data} (writable : d.Writable) (leaf : d.IsLeaf) (pos : 0 < n) :
    TakesValue limit n d := by
  intro frames expected rest room awaits ends
  have read := readToken_write writable leaf ends
  obtain ⟨s, t, text, notSpace⟩ := exists_head_write writable
  have start : (write d ++ rest).dropWhile isSpace = write d ++ rest := by
    rw [text, List.cons_append, List.dropWhile_cons_of_neg (Bool.eq_false_iff.mp notSpace)]
  have shorter : rest.length < (write d ++ rest).length := by
    rw [text, List.cons_append, List.length_cons, List.length_append]
    omega
  refine .single start read shorter (Machine.step_of_awaitsValue awaits frames nofun) ?_
  rw [Machine.depth_complete]
  omega

theorem endsValue_char {c : Char} (ends : c = ',' ∨ c = ']' ∨ c = '\x7d') (rest : Text) :
    EndsValue (.char c :: rest) := by
  rintro s ⟨⟩
  exact ends.imp (congrArg _) fun others => others.imp (congrArg _) (congrArg _)

/-- The items of a list are taken one after the other. -/
theorem takes_items {items : List Data} (each : ∀ d ∈ items, TakesValue limit n d) (nonempty : items ≠ [])
    {frames : List Frame} (room : frames.length + 1 + n ≤ limit + 1) (pos : 0 < n) (rest : Text) :
    ∀ (held : List Data) {expected : Expected}, expected.AwaitsValue →
      Takes limit ⟨.list held :: frames, expected⟩
        (("," : Text).intercalate (writeItems items) ++ .char ']' :: rest)
        ⟨.list (items.reverse ++ held) :: frames, .separator⟩ (.char ']' :: rest) := by
  -- On the items that are left; those taken are held by the innermost frame, the last one first.
  induction items with
  | nil => exact absurd rfl nonempty
  | cons d items ih =>
      intro held expected awaits
      obtain ⟨first, others⟩ := List.forall_mem_cons.mp each
      cases items with
      | nil =>
          rw [writeItems, writeItems, List.intercalate_singleton]
          exact first room awaits (endsValue_char (.inr (.inl rfl)) rest)
      | cons next items =>
          let tail : Text := ("," : Text).intercalate (writeItems (next :: items)) ++ .char ']' :: rest
          have text : ("," : Text).intercalate (writeItems (d :: next :: items)) ++ .char ']' :: rest =
              write d ++ .char ',' :: tail := by
            simp only [writeItems, List.intercalate_cons_cons, List.append_assoc, tail]
            rfl
          have value : Takes limit ⟨.list held :: frames, expected⟩ (write d ++ .char ',' :: tail)
              ⟨.list (d :: held) :: frames, .separator⟩ (.char ',' :: tail) :=
            first room awaits (endsValue_char (.inl rfl) tail)
          have comma : Takes limit ⟨.list (d :: held) :: frames, .separator⟩ (.char ',' :: tail)
              ⟨.list (d :: held) :: frames, .value⟩ tail :=
            .single rfl rfl (Nat.lt_succ_self _) rfl (by simp only [Machine.depth, List.length_cons]; omega)
          rw [text, List.reverse_cons, List.append_assoc]
          exact (value.trans comma).trans (ih others (List.cons_ne_nil next items) (d :: held) (.inl rfl))

/-- A key and its colon. -/
theorem takes_key {frames : List Frame} {held : List (Text × Data)} {expected : Expected}
    (awaits : expected.AwaitsKey held) (room : frames.length + 1 ≤ limit) {key : Text}
    (unicode : key.isUnicode = true) (tail : Text) :
    Takes limit ⟨frames, expected⟩ (writtenText key ++ .char ':' :: tail)
      ⟨.table held key :: frames, .value⟩ tail := by
  have word : Takes limit ⟨frames, expected⟩ (writtenText key ++ .char ':' :: tail)
      ⟨frames, .colon held key⟩ (.char ':' :: tail) := by
    refine .single rfl (readToken_writtenText unicode _) ?_ (Machine.step_of_awaitsKey awaits frames key) room
    have nonempty : 0 < (writtenText key).length := Nat.succ_pos _
    simp only [List.length_append, List.length_cons]
    omega
  have colon : Takes limit ⟨frames, .colon held key⟩ (.char ':' :: tail)
      ⟨.table held key :: frames, .value⟩ tail :=
    .single rfl rfl (Nat.lt_succ_self _) rfl room
  exact word.trans colon

/-- The entries of a table are taken one after the other. -/
theorem takes_entries {entries : List (Text × Data)} (each : ∀ entry ∈ entries, TakesValue limit n entry.2)
    (keys : ∀ key ∈ entries.map Prod.fst, key.isUnicode = true) (nonempty : entries ≠ []) {frames : List Frame}
    (room : frames.length + 1 + n ≤ limit + 1) (pos : 0 < n) (rest : Text) :
    ∀ (held : List (Text × Data)) {expected : Expected}, expected.AwaitsKey held →
      ∃ key, Takes limit ⟨frames, expected⟩
        (("," : Text).intercalate (writeEntries entries) ++ .char '\x7d' :: rest)
        ⟨.table (entries.reverse ++ held) key :: frames, .separator⟩ (.char '\x7d' :: rest) := by
  induction entries with
  | nil => exact absurd rfl nonempty
  | cons entry entries ih =>
      intro held expected awaits
      obtain ⟨key, d⟩ := entry
      obtain ⟨first, others⟩ := List.forall_mem_cons.mp each
      obtain ⟨unicode, otherKeys⟩ := List.forall_mem_cons.mp keys
      have value (tail : Text) (ends : EndsValue tail) : Takes limit ⟨frames, expected⟩
          (writtenText key ++ .char ':' :: (write d ++ tail))
          ⟨.table ((key, d) :: held) key :: frames, .separator⟩ tail :=
        (takes_key awaits (by omega) unicode _).trans (first room (.inl rfl) ends)
      cases entries with
      | nil =>
          refine ⟨key, ?_⟩
          have text : ("," : Text).intercalate (writeEntries [(key, d)]) ++ .char '\x7d' :: rest =
              writtenText key ++ .char ':' :: (write d ++ .char '\x7d' :: rest) := by
            simp only [writeEntries, List.intercalate_singleton, List.append_assoc]
            rfl
          rw [text]
          exact value _ (endsValue_char (.inr (.inr rfl)) rest)
      | cons next entries =>
          let tail : Text := ("," : Text).intercalate (writeEntries (next :: entries)) ++ .char '\x7d' :: rest
          have text : ("," : Text).intercalate (writeEntries ((key, d) :: next :: entries)) ++ .char '\x7d' :: rest =
              writtenText key ++ .char ':' :: (write d ++ .char ',' :: tail) := by
            simp only [writeEntries, List.intercalate_cons_cons, List.append_assoc, tail]
            rfl
          have comma : Takes limit ⟨.table ((key, d) :: held) key :: frames, .separator⟩ (.char ',' :: tail)
              ⟨frames, .key ((key, d) :: held)⟩ tail :=
            .single rfl rfl (Nat.lt_succ_self _) rfl (by simp only [Machine.depth]; omega)
          obtain ⟨last, taken⟩ := ih others otherKeys (List.cons_ne_nil next entries) ((key, d) :: held) (.inr rfl)
          refine ⟨last, ?_⟩
          rw [text, List.reverse_cons, List.append_assoc]
          exact ((value _ (endsValue_char (.inl rfl) tail)).trans comma).trans taken

end Containers

end Json

/-- A new key is put at the end of a table. -/
theorem Table.set_of_not_mem {t : Table} {key : Text} (new : key ∉ t.map Prod.fst) (value : Data) :
    t.set key value = t ++ [(key, value)] := by
  induction t with
  | nil => rfl
  | cons entry t ih =>
      have other : entry.1 ≠ key := fun same => new (same ▸ List.mem_cons_self)
      rw [Table.set, if_neg other, ih fun mem => new (List.mem_cons_of_mem _ mem)]
      rfl

theorem Table.mem_set {t : Table} {key : Text} {value : Data} {entry : Text × Data}
    (mem : entry ∈ t.set key value) : entry = (key, value) ∨ entry ∈ t := by
  induction t with
  | nil => exact .inl (List.mem_singleton.mp mem)
  | cons first t ih =>
      unfold Table.set at mem
      split at mem
      · rename_i same
        exact (List.mem_cons.mp mem).imp (fun head => same ▸ head) (List.mem_cons_of_mem _)
      · rcases List.mem_cons.mp mem with head | tail
        · exact .inr (head ▸ List.mem_cons_self)
        · exact (ih tail).imp_right (List.mem_cons_of_mem _)

/-- A table has no entries but those that it was made of. -/
theorem Table.mem_ofEntries {entries : List (Text × Data)} {entry : Text × Data}
    (mem : entry ∈ Table.ofEntries entries) : entry ∈ entries := by
  suffices general : ∀ t : Table, entry ∈ entries.foldl (fun t entry => t.set entry.1 entry.2) t →
      entry ∈ t ∨ entry ∈ entries from (general [] mem).resolve_left List.not_mem_nil
  clear mem
  induction entries with
  | nil => exact fun t mem => .inl mem
  | cons first entries ih =>
      intro t mem
      rcases ih _ mem with before | later
      · exact (Table.mem_set before).elim (fun same => .inr (same ▸ List.mem_cons_self)) .inl
      · exact .inr (List.mem_cons_of_mem _ later)

/-- Entries with keys of their own are a table as they stand. -/
theorem Table.ofEntries_of_nodup {entries : List (Text × Data)} (distinct : (entries.map Prod.fst).Nodup) :
    Table.ofEntries entries = entries := by
  suffices general : ∀ t : Table, ((t ++ entries).map Prod.fst).Nodup →
      entries.foldl (fun t entry => t.set entry.1 entry.2) t = t ++ entries from general [] distinct
  induction entries with
  | nil => exact fun t _ => (List.append_nil t).symm
  | cons entry entries ih =>
      obtain ⟨key, value⟩ := entry
      intro t distinctAll
      have new : key ∉ t.map Prod.fst := by
        intro mem
        rw [List.map_append, List.nodup_append] at distinctAll
        exact distinctAll.2.2 _ mem _ List.mem_cons_self rfl
      have step : t ++ (key, value) :: entries = t ++ [(key, value)] ++ entries := by
        rw [List.append_assoc]
        rfl
      rw [List.foldl_cons, step, ← Table.set_of_not_mem new]
      rw [step, ← Table.set_of_not_mem new] at distinctAll
      exact ih (List.nodup_cons.mp distinct).2 _ distinctAll

namespace Json

section Containers

variable {limit m n : Nat}

/-- A list of data that fits a depth fits a greater one. -/
theorem takesValue_list {items : List Data} (lt : m < n) (each : ∀ d ∈ items, TakesValue limit m d)
    (pos : items ≠ [] → 0 < m) : TakesValue limit n (.list items) := by
  intro frames expected rest room awaits ends
  have opened (tail : Text) : Takes limit ⟨frames, expected⟩ (.char '[' :: tail)
      ⟨.list [] :: frames, .valueOrClose⟩ tail :=
    .single rfl rfl (Nat.lt_succ_self _) (Machine.step_of_awaitsValue awaits frames nofun)
      (by simp only [Machine.depth, List.length_cons]; omega)
  have closed : (Machine.complete (.list items) frames).depth ≤ limit := by
    rw [Machine.depth_complete]
    omega
  have text : write (.list items) ++ rest =
      .char '[' :: (("," : Text).intercalate (writeItems items) ++ .char ']' :: rest) := by
    simp only [write, List.append_assoc]
    rfl
  rw [text]
  by_cases empty : items = []
  · subst empty
    exact (opened _).trans (.single rfl rfl (Nat.lt_succ_self _) rfl closed)
  · have roomInside : frames.length + 1 + m ≤ limit + 1 := by omega
    have taken := takes_items each empty roomInside (pos empty) rest [] (.inr rfl)
    rw [List.append_nil] at taken
    have close : Machine.step ⟨.list items.reverse :: frames, .separator⟩ .closeList =
        some (Machine.complete (.list items) frames) :=
      congrArg (fun items => some (Machine.complete (.list items) frames)) items.reverse_reverse
    exact ((opened _).trans taken).trans (.single rfl rfl (Nat.lt_succ_self _) close closed)

/-- So does a table, if no key is in it twice. -/
theorem takesValue_table {entries : List (Text × Data)} (distinct : (entries.map Prod.fst).Nodup)
    (keys : ∀ key ∈ entries.map Prod.fst, key.isUnicode = true) (lt : m < n)
    (each : ∀ entry ∈ entries, TakesValue limit m entry.2) (pos : entries ≠ [] → 0 < m) :
    TakesValue limit n (.table entries) := by
  intro frames expected rest room awaits ends
  have opened (tail : Text) : Takes limit ⟨frames, expected⟩ (.char '\x7b' :: tail)
      ⟨frames, .keyOrClose []⟩ tail :=
    .single rfl rfl (Nat.lt_succ_self _) (Machine.step_of_awaitsValue awaits frames nofun)
      (by simp only [Machine.depth]; omega)
  have closed : (Machine.complete (.table entries) frames).depth ≤ limit := by
    rw [Machine.depth_complete]
    omega
  have text : write (.table entries) ++ rest =
      .char '\x7b' :: (("," : Text).intercalate (writeEntries entries) ++ .char '\x7d' :: rest) := by
    simp only [write, List.append_assoc]
    rfl
  have whole : Machine.closed entries.reverse = .table entries := by
    rw [Machine.closed, List.reverse_reverse, Table.ofEntries_of_nodup distinct]
  rw [text]
  by_cases empty : entries = []
  · subst empty
    exact (opened _).trans (.single rfl rfl (Nat.lt_succ_self _) rfl closed)
  · have roomInside : frames.length + 1 + m ≤ limit + 1 := by omega
    obtain ⟨key, taken⟩ := takes_entries each keys empty roomInside (pos empty) rest [] (.inl rfl)
    rw [List.append_nil] at taken
    have close : Machine.step ⟨.table entries.reverse key :: frames, .separator⟩ .closeTable =
        some (Machine.complete (.table entries) frames) :=
      congrArg (fun d => some (Machine.complete d frames)) whole
    exact ((opened _).trans taken).trans (.single rfl rfl (Nat.lt_succ_self _) close closed)

end Containers

/-- The machine takes writable data that there is room for. -/
theorem takesValue {limit n : Nat} {d : Data} (writable : d.Writable) (fits : d.Fits n) :
    TakesValue limit n d := by
  induction writable generalizing n with
  | null => exact takesValue_leaf .null trivial fits.pos
  | bool b => exact takesValue_leaf (.bool b) trivial fits.pos
  | int i =>
      cases fits with
      | leaf pos leaf => exact takesValue_leaf (.int i) leaf pos
  | text t =>
      cases fits with
      | leaf pos leaf => exact takesValue_leaf (.text t) leaf pos
  | @list items _ ih =>
      cases fits with
      | leaf pos leaf => exact leaf.elim
      | @list m _ _ lt held =>
          refine takesValue_list lt (fun d mem => ih d mem (held d mem)) fun nonempty => ?_
          obtain ⟨d, mem⟩ := List.exists_mem_of_ne_nil items nonempty
          exact (held d mem).pos
  | @table entries distinct keys _ ih =>
      cases fits with
      | leaf pos leaf => exact leaf.elim
      | @table m _ _ lt held =>
          refine takesValue_table distinct keys lt (fun entry mem => ih entry mem (held entry mem)) fun nonempty => ?_
          obtain ⟨entry, mem⟩ := List.exists_mem_of_ne_nil entries nonempty
          exact (held entry mem).pos

/-- The document of writable data within the limits is read back. -/
theorem read_write {limit : Nat} {d : Data} (writable : d.Writable) (fits : d.Fits (limit + 1)) :
    read limit (write d) = some d := by
  have taken : Takes limit ⟨[], .value⟩ (write d ++ []) ⟨[], .finished d⟩ [] :=
    takesValue writable fits (Nat.le_of_eq (Nat.zero_add _)) (.inl rfl) nofun
  rw [List.append_nil] at taken
  obtain ⟨tokens, lexed, ran⟩ := taken.run_tokens (write d).length (Nat.le_refl _)
  unfold read Json.tokens
  simp only [lexed, ran, Option.bind_eq_bind, Option.bind_some]

end Json

end PivotOracle
