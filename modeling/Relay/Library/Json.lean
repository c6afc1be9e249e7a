import Relay.Library.Binary64

/-!
# JSON texts

The text that `JSON.stringify` writes of a value, and the reading of a text as `JSON.parse`
does it. Whole numbers and strings are written. The numbers that are read are doubles, and a
string that is read may hold halves of surrogate pairs. What is written is read back, and a
written text has no line break.
-/

namespace Json

/-- `ν` are the numbers and `τ` the strings. -/
inductive Value (ν τ : Type) where
  | null
  | bool (value : Bool)
  | number (value : ν)
  | string (value : τ)
  | array (items : List (Value ν τ))
  | object (members : List (τ × Value ν τ))

/-- A character, or half of a surrogate pair on its own. -/
inductive CodePoint where
  | char (c : Char)
  | half (unit : ℕ)
deriving DecidableEq

/-- What is written; a number is below 10^21, where no exponent is written. -/
abbrev Written : Type := Value ℤ String

/-- What is read. -/
abbrev Parsed : Type := Value Binary64 (List CodePoint)

def points (s : String) : List CodePoint := s.toList.map .char

theorem points_injective : Function.Injective points := by
  intro s t same
  have chars : Function.Injective CodePoint.char := fun c d same => CodePoint.char.inj same
  exact String.toList_inj.1 (chars.list_map same)

def CodePoint.char? : CodePoint → Option Char
  | .char c => some c
  | .half _ => none

/-- The string of these code points, if none is half a pair. -/
def string? (ps : List CodePoint) : Option String := (ps.mapM CodePoint.char?).map String.ofList

@[simp] theorem string?_points (s : String) : string? (points s) = some s := by
  have chars : ∀ cs : List Char, (cs.map CodePoint.char).mapM CodePoint.char? = some cs := by
    intro cs
    induction cs with
    | nil => rfl
    | cons c cs ih => simp [CodePoint.char?, ih]
  rw [string?, points, chars, Option.map_some, String.ofList_toList]

mutual

/-- What a written value is read as. -/
def Value.parsed : Written → Parsed
  | .null => .null
  | .bool b => .bool b
  | .number n => .number (Binary64.round n)
  | .string s => .string (points s)
  | .array items => .array (parsedItems items)
  | .object members => .object (parsedMembers members)

def parsedItems : List Written → List Parsed
  | [] => []
  | v :: vs => v.parsed :: parsedItems vs

def parsedMembers : List (String × Written) → List (List CodePoint × Parsed)
  | [] => []
  | (k, v) :: ms => (points k, v.parsed) :: parsedMembers ms

end

theorem parsedMembers_eq (ms : List (String × Written)) : parsedMembers ms = ms.map fun m => (points m.1, m.2.parsed) := by
  induction ms with
  | nil => rfl
  | cons m ms ih => rw [parsedMembers, ih, List.map_cons]

@[simp] theorem Value.parsed_eq_null {v : Written} : v.parsed = .null ↔ v = .null := by
  cases v <;> simp [Value.parsed]

/-! ## Writing -/

abbrev quote : Char := '\x22'

abbrev backslash : Char := '\x5c'

/-- The letters of the short escapes. -/
def escapes : List (Char × Char) :=
  [(quote, quote), (backslash, backslash), ('\x08', 'b'), ('\x0c', 'f'), ('\n', 'n'), ('\x0d', 'r'), ('\t', 't')]

/-- A control character has two hexadecimal digits that count. -/
def escape (c : Char) : List Char :=
  match escapes.lookup c with
  | some letter => [backslash, letter]
  | none =>
    if c.toNat < 32 then [backslash, 'u', '0', '0', (c.toNat / 16).digitChar, (c.toNat % 16).digitChar] else [c]

def printString (s : String) : List Char := quote :: (s.toList.flatMap escape ++ [quote])

def printNumber (n : ℤ) : List Char :=
  if n < 0 then '-' :: Nat.toDigits 10 n.natAbs else Nat.toDigits 10 n.natAbs

mutual

def Value.print : Written → List Char
  | .null => "null".toList
  | .bool true => "true".toList
  | .bool false => "false".toList
  | .number n => printNumber n
  | .string s => printString s
  | .array items => '[' :: (printItems items ++ [']'])
  | .object members => '{' :: (printMembers members ++ ['}'])

def printItems : List Written → List Char
  | [] => []
  | [v] => v.print
  | v :: vs => v.print ++ ',' :: printItems vs

def printMembers : List (String × Written) → List Char
  | [] => []
  | [(k, v)] => printString k ++ ':' :: v.print
  | (k, v) :: ms => printString k ++ ':' :: (v.print ++ ',' :: printMembers ms)

end

/-- `JSON.stringify`. -/
def stringify (v : Written) : String := String.ofList v.print

/-! ## Reading -/

def isSpace (c : Char) : Bool := c ∈ [' ', '\n', '\x0d', '\t']

def skip (cs : List Char) : List Char := cs.dropWhile isSpace

def hexDigit (c : Char) : Option ℕ :=
  if c.isDigit then some (c.toNat - 48)
  else if 'a' ≤ c ∧ c ≤ 'f' then some (c.toNat - 87)
  else if 'A' ≤ c ∧ c ≤ 'F' then some (c.toNat - 55)
  else none

/-- The four digits of a code unit. -/
def readUnit : List Char → Option (ℕ × List Char)
  | a :: b :: c :: d :: cs => do
    let a ← hexDigit a
    let b ← hexDigit b
    let c ← hexDigit c
    let d ← hexDigit d
    return (((a * 16 + b) * 16 + c) * 16 + d, cs)
  | _ => none

/-- The second half of a surrogate pair. -/
def readLow : List Char → Option (ℕ × List Char)
  | a :: b :: cs =>
    if a = backslash ∧ b = 'u' then (readUnit cs).filter fun (n, _) => 0xdc00 ≤ n ∧ n < 0xe000 else none
  | _ => none

/-- What follows a backslash; the two halves of a surrogate pair are one character. -/
def readEscape : List Char → Option (CodePoint × List Char)
  | [] => none
  | c :: cs =>
    if c = 'u' then
      (readUnit cs).map fun (n, cs) =>
        if n < 0xd800 ∨ 0xe000 ≤ n then (.char (Char.ofNat n), cs)
        else
          match if n < 0xdc00 then readLow cs else none with
          | some (m, cs) => (.char (Char.ofNat (0x10000 + (n - 0xd800) * 0x400 + (m - 0xdc00))), cs)
          | none => (.half n, cs)
    else (((escapes.map Prod.swap) ++ [('/', '/')]).lookup c).map fun d => (.char d, cs)

def readChar : List Char → Option (CodePoint × List Char)
  | [] => none
  | c :: cs =>
    if c = backslash then readEscape cs
    else if c.toNat < 32 then none
    else some (.char c, cs)

/-- What follows an opening quote. -/
def readString : ℕ → List Char → Option (List CodePoint × List Char)
  | 0, _ => none
  | fuel + 1, cs =>
    if cs.head? = some quote then some ([], cs.tail)
    else do
      let (c, cs) ← readChar cs
      let (s, cs) ← readString fuel cs
      return (c :: s, cs)

/-- The digits in front, at least one. -/
def readDigits (cs : List Char) : Option (List Char × List Char) :=
  if cs.takeWhile (·.isDigit) = [] then none else some (cs.takeWhile (·.isDigit), cs.dropWhile (·.isDigit))

/-- No zero leads. -/
def readWhole (cs : List Char) : Option (List Char × List Char) :=
  (readDigits cs).filter fun (digits, _) => digits.head? ≠ some '0' ∨ digits = ['0']

def readFraction : List Char → Option (List Char × List Char)
  | '.' :: cs => readDigits cs
  | cs => some ([], cs)

def natural (digits : List Char) : ℕ := Nat.ofDigitChars 10 digits 0

/-- What follows an `e`. -/
def readPower : List Char → Option (ℤ × List Char)
  | '-' :: cs => (readDigits cs).map fun (digits, cs) => (-natural digits, cs)
  | '+' :: cs => (readDigits cs).map fun (digits, cs) => (natural digits, cs)
  | cs => (readDigits cs).map fun (digits, cs) => (natural digits, cs)

def readExponent : List Char → Option (ℤ × List Char)
  | 'e' :: cs | 'E' :: cs => readPower cs
  | cs => some (0, cs)

def readDecimal (cs : List Char) : Option (ℚ × List Char) := do
  let (whole, cs) ← readWhole cs
  let (fraction, cs) ← readFraction cs
  let (exponent, cs) ← readExponent cs
  return (natural (whole ++ fraction) * 10 ^ (exponent - fraction.length), cs)

/-- The double that stands for the decimal. -/
def readNumber : List Char → Option (Binary64 × List Char)
  | '-' :: cs => (readDecimal cs).map fun (x, cs) => (Binary64.round (-x), cs)
  | cs => (readDecimal cs).map fun (x, cs) => (Binary64.round x, cs)

def readWord (word : String) (v : Parsed) (cs : List Char) : Option (Parsed × List Char) :=
  if word.toList <+: cs then some (v, cs.drop word.length) else none

mutual

def readValue : ℕ → List Char → Option (Parsed × List Char)
  | 0, _ => none
  | fuel + 1, cs =>
    match skip cs with
    | [] => none
    | c :: cs =>
      if c = quote then (readString fuel cs).map fun (s, cs) => (.string s, cs)
      else if c = '[' then
        if (skip cs).head? = some ']' then some (.array [], (skip cs).tail)
        else (readItems fuel cs).map fun (items, cs) => (.array items, cs)
      else if c = '{' then
        if (skip cs).head? = some '}' then some (.object [], (skip cs).tail)
        else (readMembers fuel cs).map fun (members, cs) => (.object members, cs)
      else if c = 'n' then readWord "ull" .null cs
      else if c = 't' then readWord "rue" (.bool true) cs
      else if c = 'f' then readWord "alse" (.bool false) cs
      else (readNumber (c :: cs)).map fun (n, cs) => (.number n, cs)

def readItems : ℕ → List Char → Option (List Parsed × List Char)
  | 0, _ => none
  | fuel + 1, cs => do
    let (v, cs) ← readValue fuel cs
    match skip cs with
    | ',' :: cs =>
      let (vs, cs) ← readItems fuel cs
      return (v :: vs, cs)
    | ']' :: cs => return ([v], cs)
    | _ => none

def readMembers : ℕ → List Char → Option (List (List CodePoint × Parsed) × List Char)
  | 0, _ => none
  | fuel + 1, cs =>
    match skip cs with
    | [] => none
    | c :: cs =>
      if c = quote then do
        let (k, cs) ← readString fuel cs
        match skip cs with
        | ':' :: cs =>
          let (v, cs) ← readValue fuel cs
          match skip cs with
          | ',' :: cs =>
            let (ms, cs) ← readMembers fuel cs
            return ((k, v) :: ms, cs)
          | '}' :: cs => return ([(k, v)], cs)
          | _ => none
        | _ => none
      else none

end

/-- `JSON.parse`. -/
def parse (text : String) : Option Parsed :=
  match readValue (text.toList.length + 1) text.toList with
  | some (v, rest) => if skip rest = [] then some v else none
  | none => none

/-! ## Characters are read back -/

theorem hexDigit_digitChar {n : ℕ} (small : n < 16) : hexDigit n.digitChar = some n := by
  have all : ∀ i : Fin 16, hexDigit (i : ℕ).digitChar = some (i : ℕ) := by decide +kernel
  exact all ⟨n, small⟩

theorem readEscape_letter {c letter : Char} (short : escapes.lookup c = some letter) (rest : List Char) :
    readEscape (letter :: rest) = some (.char c, rest) := by
  have all : ∀ p ∈ escapes, p.2 ≠ 'u' ∧ (escapes.map Prod.swap ++ [('/', '/')]).lookup p.2 = some p.1 := by decide +kernel
  obtain ⟨before, after, split, -⟩ := List.lookup_eq_some_iff.1 short
  obtain ⟨other, back⟩ := all (c, letter) (by rw [split]; simp)
  rw [readEscape, if_neg other, back, Option.map_some]

theorem escapes_lookup_backslash : escapes.lookup backslash = some backslash := by decide +kernel

theorem escapes_lookup_quote : escapes.lookup quote = some quote := by decide +kernel

theorem readChar_escape (c : Char) (rest : List Char) : readChar (escape c ++ rest) = some (.char c, rest) := by
  unfold escape
  cases short : escapes.lookup c with
  | some letter =>
    show readChar (backslash :: letter :: rest) = _
    rw [readChar, if_pos rfl, readEscape_letter short]
  | none =>
    by_cases control : c.toNat < 32
    · simp only [if_pos control, List.cons_append, List.nil_append]
      rw [readChar, if_pos rfl, readEscape, if_pos rfl]
      have zero : hexDigit '0' = some 0 := by decide +kernel
      simp only [readUnit, zero, hexDigit_digitChar (show c.toNat / 16 < 16 by omega),
        hexDigit_digitChar (show c.toNat % 16 < 16 by omega), Option.bind_eq_bind, Option.bind_some, Option.pure_def,
        Option.map_some]
      have value : ((0 * 16 + 0) * 16 + c.toNat / 16) * 16 + c.toNat % 16 = c.toNat := by omega
      rw [value, if_pos (by omega), Char.ofNat_toNat]
    · have other : c ≠ backslash := by
        rintro rfl
        rw [escapes_lookup_backslash] at short
        cases short
      simp only [if_neg control, List.cons_append, List.nil_append]
      rw [readChar, if_neg other, if_neg control]

/-- A pair is one character, and what is left of a pair is read as it stands. -/
example : readChar "\\ud83d\\ude00".toList = some (.char '😀', []) ∧
    readChar "\\ud83d\\u0041".toList = some (.half 0xd83d, "\\u0041".toList) := by
  decide +kernel

/-- An escape does not begin with a quote. -/
theorem escape_cons (c : Char) : ∃ first cs, escape c = first :: cs ∧ first ≠ quote := by
  unfold escape
  cases short : escapes.lookup c with
  | some letter => exact ⟨backslash, [letter], rfl, by decide⟩
  | none =>
    by_cases control : c.toNat < 32
    · exact ⟨backslash, _, if_pos control, by decide⟩
    · refine ⟨c, [], if_neg control, ?_⟩
      rintro rfl
      rw [escapes_lookup_quote] at short
      cases short

/-- By induction on the text, one character for each unit of fuel. -/
theorem readString_print (s rest : List Char) (fuel : ℕ) (enough : (s.flatMap escape).length < fuel) :
    readString fuel (s.flatMap escape ++ quote :: rest) = some (s.map .char, rest) := by
  induction s generalizing fuel with
  | nil =>
    obtain _ | fuel := fuel
    · cases enough
    · rfl
  | cons c s ih =>
    obtain ⟨first, more, escaped, other⟩ := escape_cons c
    have read := readChar_escape c (s.flatMap escape ++ quote :: rest)
    rw [List.flatMap_cons, escaped, List.length_append, List.length_cons] at enough
    rw [List.flatMap_cons, List.append_assoc]
    rw [escaped] at read ⊢
    obtain _ | fuel := fuel
    · cases enough
    · have ends : ((first :: more) ++ (s.flatMap escape ++ quote :: rest)).head? ≠ some quote := by
        simpa using other
      rw [readString, if_neg ends, read]
      simp only [Option.bind_eq_bind, Option.bind_some, ih fuel (by omega), Option.pure_def, List.map_cons]

/-! ## Numbers are read back -/

/-- A number may end before `rest`. -/
def Stops (rest : List Char) : Prop := ∀ c ∈ rest.head?, c.isDigit = false ∧ c ∉ ['.', 'e', 'E']

theorem isDigit_of_mem_toDigits {n : ℕ} {c : Char} (member : c ∈ Nat.toDigits 10 n) : c.isDigit = true :=
  Nat.isDigit_of_mem_toDigits (by omega) (by omega) member

/-- Only the digits of zero begin with a zero. -/
theorem head_toDigits {n : ℕ} (pos : 0 < n) : (Nat.toDigits 10 n).head? ≠ some '0' := by
  induction n using Nat.strongRecOn with
  | _ n ih =>
    by_cases small : n < 10
    · have all : ∀ i : Fin 10, 0 < (i : ℕ) → (i : ℕ).digitChar ≠ '0' := by decide +kernel
      rw [Nat.toDigits_of_lt_base small, List.head?_cons, Ne, Option.some.injEq]
      exact all ⟨n, small⟩ pos
    · obtain ⟨c, cs, digits⟩ := List.exists_cons_of_ne_nil (Nat.toDigits_ne_nil (n := n / 10) (b := 10))
      have before := ih (n / 10) (by omega) (by omega)
      rw [digits] at before
      rw [Nat.toDigits_of_base_le (by omega) (by omega), digits]
      exact before

theorem takeWhile_toDigits {rest : List Char} (stops : Stops rest) (n : ℕ) :
    (Nat.toDigits 10 n ++ rest).takeWhile (·.isDigit) = Nat.toDigits 10 n ∧
      (Nat.toDigits 10 n ++ rest).dropWhile (·.isDigit) = rest := by
  have digits : ∀ c ∈ Nat.toDigits 10 n, c.isDigit = true := fun _ => isDigit_of_mem_toDigits
  rw [List.takeWhile_append_of_pos digits, List.dropWhile_append_of_pos digits]
  cases rest with
  | nil => simp
  | cons c rest =>
    have other := (stops c rfl).1
    rw [List.takeWhile_cons_of_neg (by simp [other]), List.dropWhile_cons_of_neg (by simp [other]), List.append_nil]
    exact ⟨rfl, rfl⟩

theorem readWhole_toDigits {rest : List Char} (stops : Stops rest) (n : ℕ) :
    readWhole (Nat.toDigits 10 n ++ rest) = some (Nat.toDigits 10 n, rest) := by
  obtain ⟨digits, left⟩ := takeWhile_toDigits stops n
  have leads : (Nat.toDigits 10 n).head? ≠ some '0' ∨ Nat.toDigits 10 n = ['0'] := by
    obtain rfl | pos := Nat.eq_zero_or_pos n
    · exact .inr rfl
    · exact .inl (head_toDigits pos)
  rw [readWhole, readDigits, digits, left, if_neg Nat.toDigits_ne_nil, Option.filter_some, if_pos (decide_eq_true leads)]

theorem readFraction_stops {rest : List Char} (stops : Stops rest) : readFraction rest = some ([], rest) := by
  unfold readFraction
  split
  · exact absurd (stops '.' rfl).2 (by decide)
  · rfl

theorem readExponent_stops {rest : List Char} (stops : Stops rest) : readExponent rest = some (0, rest) := by
  unfold readExponent
  split
  · exact absurd (stops 'e' rfl).2 (by decide)
  · exact absurd (stops 'E' rfl).2 (by decide)
  · rfl

theorem readDecimal_toDigits {rest : List Char} (stops : Stops rest) (n : ℕ) :
    readDecimal (Nat.toDigits 10 n ++ rest) = some ((n : ℚ), rest) := by
  simp only [readDecimal, readWhole_toDigits stops, readFraction_stops stops, readExponent_stops stops, Option.bind_eq_bind,
    Option.bind_some, List.append_nil, natural, Nat.ofDigitChars_ten_toDigits, List.length_nil, Option.pure_def]
  norm_num

theorem readNumber_print {rest : List Char} (stops : Stops rest) (n : ℤ) :
    readNumber (printNumber n ++ rest) = some (Binary64.round n, rest) := by
  unfold printNumber
  split
  · have value : -((n.natAbs : ℕ) : ℚ) = n := by
      have whole : -((n.natAbs : ℕ) : ℤ) = n := by omega
      rw [← Int.cast_natCast, ← Int.cast_neg, whole]
    simp only [List.cons_append, readNumber, readDecimal_toDigits stops, Option.map_some, value]
  · obtain ⟨c, cs, digits⟩ := List.exists_cons_of_ne_nil (Nat.toDigits_ne_nil (n := n.natAbs) (b := 10))
    have digit : c.isDigit = true := isDigit_of_mem_toDigits (by rw [digits]; exact List.mem_cons_self)
    have decimal := readDecimal_toDigits stops n.natAbs
    rw [digits, List.cons_append] at decimal ⊢
    unfold readNumber
    split
    · rename_i same
      cases same
      cases digit
    · have value : ((n.natAbs : ℕ) : ℚ) = n := by
        have whole : ((n.natAbs : ℕ) : ℤ) = n := by omega
        rw [← Int.cast_natCast, whole]
      simp only [decimal, Option.map_some, value]

example : ["1e2", "100.0", "-5e-1", "1e-400", "1e400", "01", "1."].map (fun text => (readNumber text.toList).map Prod.fst) =
    [some (.finite 100), some (.finite 100), some (.finite (-1 / 2)), some (.finite 0), some (.infinite false),
      none, none] := by
  decide +kernel

/-! ## Values are read back -/

/-- What follows a value inside of another one. -/
theorem stops_cons {c : Char} (closes : c ∈ [',', ']', '}']) (rest : List Char) : Stops (c :: rest) := by
  intro d first
  cases first
  revert closes
  simp only [List.mem_cons, List.not_mem_nil, or_false]
  rintro (rfl | rfl | rfl) <;> decide

theorem stops_nil : Stops [] := by
  intro c first
  cases first

theorem skip_cons {c : Char} (visible : isSpace c = false) (cs : List Char) : skip (c :: cs) = c :: cs :=
  List.dropWhile_cons_of_neg (by simp [visible])

/-- A character that begins no value closes an array. -/
def Begins (c : Char) : Prop := isSpace c = false ∧ c ≠ ']'

theorem begins_of_isDigit {c : Char} (digit : c.isDigit = true) : Begins c := by
  refine ⟨?_, ?_⟩
  · unfold isSpace
    rw [decide_eq_false_iff_not]
    intro space
    simp only [List.mem_cons, List.not_mem_nil, or_false] at space
    obtain rfl | rfl | rfl | rfl := space <;> cases digit
  · rintro rfl
    cases digit

theorem printNumber_cons (n : ℤ) : ∃ c cs, printNumber n = c :: cs ∧ (c = '-' ∨ c.isDigit = true) := by
  unfold printNumber
  by_cases negative : n < 0
  · exact ⟨'-', _, if_pos negative, .inl rfl⟩
  · obtain ⟨c, cs, digits⟩ := List.exists_cons_of_ne_nil (Nat.toDigits_ne_nil (n := n.natAbs) (b := 10))
    refine ⟨c, cs, (if_neg negative).trans digits, .inr (isDigit_of_mem_toDigits (n := n.natAbs) ?_)⟩
    rw [digits]
    exact List.mem_cons_self

theorem Value.print_cons (v : Written) : ∃ c cs, v.print = c :: cs ∧ Begins c := by
  cases v with
  | null | string s | array items | object members => exact ⟨_, _, rfl, by decide, by decide⟩
  | bool b => cases b <;> exact ⟨_, _, rfl, by decide, by decide⟩
  | number n =>
    obtain ⟨c, cs, printed, rfl | digit⟩ := printNumber_cons n
    · exact ⟨_, cs, printed, by decide, by decide⟩
    · exact ⟨c, cs, printed, begins_of_isDigit digit⟩

theorem printItems_cons (v : Written) {vs : List Written} (more : vs ≠ []) :
    printItems (v :: vs) = v.print ++ ',' :: printItems vs := by
  obtain ⟨w, ws, rfl⟩ := List.exists_cons_of_ne_nil more
  rfl

theorem printMembers_cons (k : String) (v : Written) {ms : List (String × Written)} (more : ms ≠ []) :
    printMembers ((k, v) :: ms) = printString k ++ ':' :: (v.print ++ ',' :: printMembers ms) := by
  obtain ⟨m, ms, rfl⟩ := List.exists_cons_of_ne_nil more
  rfl

/-- The items of an array begin as its first one does. -/
theorem head_printItems (v : Written) (vs : List Written) : ∃ c cs, printItems (v :: vs) = c :: cs ∧ Begins c := by
  obtain ⟨c, cs, printed, begins⟩ := v.print_cons
  by_cases more : vs = []
  · subst more
    exact ⟨c, cs, printed, begins⟩
  · refine ⟨c, cs ++ ',' :: printItems vs, ?_, begins⟩
    rw [printItems_cons v more, printed]
    rfl

theorem head_printMembers (k : String) (v : Written) (ms : List (String × Written)) :
    ∃ cs, printMembers ((k, v) :: ms) = quote :: cs := by
  by_cases more : ms = []
  · subst more
    exact ⟨_, rfl⟩
  · exact ⟨_, printMembers_cons k v more⟩

theorem readNumber_visible {c : Char} {cs rest : List Char} {x : Binary64} (fuel : ℕ) (starts : c = '-' ∨ c.isDigit = true)
    (read : readNumber (c :: cs) = some (x, rest)) : readValue (fuel + 1) (c :: cs) = some (.number x, rest) := by
  have visible : isSpace c = false ∧ c ∉ [quote, '[', '{', 'n', 't', 'f'] := by
    obtain rfl | digit := starts
    · decide
    · refine ⟨(begins_of_isDigit digit).1, ?_⟩
      intro member
      simp only [List.mem_cons, List.not_mem_nil, or_false] at member
      obtain rfl | rfl | rfl | rfl | rfl | rfl := member <;> cases digit
  obtain ⟨visible, others⟩ := visible
  simp only [List.mem_cons, List.not_mem_nil, or_false, not_or] at others
  obtain ⟨quoted, array, object, null, yes, no⟩ := others
  simp only [readValue, skip_cons visible, if_neg quoted, if_neg array, if_neg object, if_neg null, if_neg yes, if_neg no, read,
    Option.map_some]

mutual

/-- By recursion on the value, each constructor as its reader meets it. -/
theorem readValue_print : ∀ (v : Written) (rest : List Char) (fuel : ℕ), Stops rest → v.print.length ≤ fuel →
    readValue fuel (v.print ++ rest) = some (v.parsed, rest)
  | .null, rest, fuel, _, enough => by
    obtain _ | fuel := fuel
    · cases enough
    · rfl
  | .bool b, rest, fuel, _, enough => by
    obtain _ | fuel := fuel
    · cases b <;> cases enough
    · cases b <;> rfl
  | .number n, rest, fuel, stops, enough => by
    obtain ⟨c, cs, printed, starts⟩ := printNumber_cons n
    have read := readNumber_print stops n
    rw [Value.print, printed] at enough ⊢
    rw [printed] at read
    obtain _ | fuel := fuel
    · cases enough
    · exact readNumber_visible fuel starts read
  | .string s, rest, fuel, _, enough => by
    rw [Value.print, printString, List.length_cons, List.length_append] at enough
    obtain _ | fuel := fuel
    · omega
    · have body := readString_print s.toList rest fuel (by simp only [List.length_singleton] at enough; omega)
      rw [Value.print, printString, List.cons_append, List.append_assoc, List.singleton_append, readValue,
        skip_cons (by decide)]
      simp only [if_pos, body, Option.map_some, Value.parsed, points]
  | .array [], rest, fuel, _, enough => by
    obtain _ | fuel := fuel
    · cases enough
    · rfl
  | .array (v :: vs), rest, fuel, _, enough => by
    obtain ⟨c, cs, printed, visible, inside⟩ := head_printItems v vs
    rw [Value.print, List.length_cons, List.length_append] at enough
    obtain _ | fuel := fuel
    · omega
    · have items := readItems_print (v :: vs) rest fuel (by simp) (by simp only [List.length_singleton] at enough; omega)
      rw [Value.print, List.cons_append, List.append_assoc, List.singleton_append, readValue, skip_cons (by decide)]
      have opens : (skip (printItems (v :: vs) ++ ']' :: rest)).head? ≠ some ']' := by
        rw [printed, List.cons_append, skip_cons visible, List.head?_cons, Ne, Option.some.injEq]
        exact inside
      simp only [if_neg opens, items, Option.map_some, Value.parsed, reduceIte, show ¬ '[' = quote by decide]
  | .object [], rest, fuel, _, enough => by
    obtain _ | fuel := fuel
    · cases enough
    · rfl
  | .object ((k, v) :: ms), rest, fuel, _, enough => by
    obtain ⟨cs, printed⟩ := head_printMembers k v ms
    rw [Value.print, List.length_cons, List.length_append] at enough
    obtain _ | fuel := fuel
    · omega
    · have members := readMembers_print ((k, v) :: ms) rest fuel (by simp)
        (by simp only [List.length_singleton] at enough; omega)
      rw [Value.print, List.cons_append, List.append_assoc, List.singleton_append, readValue, skip_cons (by decide)]
      have opens : (skip (printMembers ((k, v) :: ms) ++ '}' :: rest)).head? ≠ some '}' := by
        rw [printed, List.cons_append, skip_cons (by decide), List.head?_cons]
        decide
      simp only [if_neg opens, members, Option.map_some, Value.parsed, reduceIte, show ¬ '{' = quote by decide,
        show ¬ '{' = '[' by decide]

theorem readItems_print : ∀ (vs : List Written) (rest : List Char) (fuel : ℕ), vs ≠ [] → (printItems vs).length < fuel →
    readItems fuel (printItems vs ++ ']' :: rest) = some (parsedItems vs, rest)
  | [], _, _, some', _ => absurd rfl some'
  | v :: vs, rest, fuel, _, enough => by
    obtain _ | fuel := fuel
    · cases enough
    · by_cases more : vs = []
      · subst more
        have value := readValue_print v (']' :: rest) fuel (stops_cons (by simp) rest)
          (by simpa [printItems] using Nat.lt_succ_iff.1 enough)
        simp only [printItems, readItems, value, parsedItems, Option.bind_eq_bind, Option.bind_some,
          skip_cons (show isSpace ']' = false by decide), Option.pure_def]
      · rw [printItems_cons v more, List.length_append, List.length_cons] at enough
        have value := readValue_print v (',' :: (printItems vs ++ ']' :: rest)) fuel (stops_cons (by simp) _)
          (by omega)
        have items := readItems_print vs rest fuel more (by omega)
        rw [printItems_cons v more, List.append_assoc, List.cons_append]
        simp only [readItems, value, items, parsedItems, Option.bind_eq_bind, Option.bind_some,
          skip_cons (show isSpace ',' = false by decide), Option.pure_def]

theorem readMembers_print : ∀ (ms : List (String × Written)) (rest : List Char) (fuel : ℕ), ms ≠ [] →
    (printMembers ms).length < fuel → readMembers fuel (printMembers ms ++ '}' :: rest) = some (parsedMembers ms, rest)
  | [], _, _, some', _ => absurd rfl some'
  | (k, v) :: ms, rest, fuel, _, enough => by
    obtain _ | fuel := fuel
    · cases enough
    · by_cases more : ms = []
      · subst more
        simp only [printMembers, printString, List.length_cons, List.length_append, List.length_nil] at enough
        have key := readString_print k.toList (':' :: (v.print ++ '}' :: rest)) fuel (by omega)
        have value := readValue_print v ('}' :: rest) fuel (stops_cons (by simp) rest) (by omega)
        simp only [printMembers, printString, List.cons_append, List.append_assoc, List.nil_append, readMembers,
          skip_cons (show isSpace quote = false by decide), skip_cons (show isSpace ':' = false by decide),
          skip_cons (show isSpace '}' = false by decide), key, value, reduceIte, Option.bind_eq_bind, Option.bind_some,
          Option.pure_def, parsedMembers, points]
      · rw [printMembers_cons k v more] at enough
        simp only [printString, List.length_cons, List.length_append, List.length_nil] at enough
        have key := readString_print k.toList (':' :: (v.print ++ ',' :: (printMembers ms ++ '}' :: rest))) fuel (by omega)
        have value := readValue_print v (',' :: (printMembers ms ++ '}' :: rest)) fuel (stops_cons (by simp) _)
          (by omega)
        have members := readMembers_print ms rest fuel more (by omega)
        rw [printMembers_cons k v more]
        simp only [printString, List.cons_append, List.append_assoc, List.nil_append, readMembers,
          skip_cons (show isSpace quote = false by decide), skip_cons (show isSpace ':' = false by decide),
          skip_cons (show isSpace ',' = false by decide), key, value, members, reduceIte, Option.bind_eq_bind, Option.bind_some,
          Option.pure_def, parsedMembers, points]

end

/-- **What is written is read back.** -/
theorem parse_stringify (v : Written) : parse (stringify v) = some v.parsed := by
  have read := readValue_print v [] _ stops_nil (Nat.le_succ v.print.length)
  rw [List.append_nil] at read
  rw [parse, stringify, String.toList_ofList, read]
  rfl

/-! ## A written text is one line -/

/-- No control character. -/
def Visible (cs : List Char) : Prop := ∀ c ∈ cs, 32 ≤ c.toNat

theorem visible_nil : Visible [] := by simp [Visible]

theorem visible_append {cs ds : List Char} (left : Visible cs) (right : Visible ds) : Visible (cs ++ ds) :=
  List.forall_mem_append.2 ⟨left, right⟩

theorem visible_cons {c : Char} {cs : List Char} (first : 32 ≤ c.toNat) (rest : Visible cs) : Visible (c :: cs) :=
  List.forall_mem_cons.2 ⟨first, rest⟩

theorem visible_of_all {cs : List Char} (all : cs.all (fun c => 32 ≤ c.toNat) = true) : Visible cs := by
  intro c member
  exact of_decide_eq_true (List.all_eq_true.1 all c member)

theorem visible_digits {cs : List Char} (digits : ∀ c ∈ cs, c.isDigit = true) : Visible cs := by
  intro c member
  have digit := digits c member
  simp only [Char.isDigit, Bool.and_eq_true, decide_eq_true_eq] at digit
  have least := digit.1
  rw [ge_iff_le, UInt32.le_iff_toNat_le] at least
  exact Nat.le_trans (by decide) least

theorem escape_visible (c : Char) : Visible (escape c) := by
  have short : ∀ p ∈ escapes, 32 ≤ p.2.toNat := by decide +kernel
  have digits : ∀ i : Fin 16, 32 ≤ (i : ℕ).digitChar.toNat := by decide +kernel
  unfold escape
  cases found : escapes.lookup c with
  | some letter =>
    obtain ⟨before, after, split, -⟩ := List.lookup_eq_some_iff.1 found
    have letters := short (c, letter) (by rw [split]; simp)
    exact visible_cons (by decide) (visible_cons letters visible_nil)
  | none =>
    by_cases control : c.toNat < 32
    · rw [if_pos control]
      have high := digits ⟨c.toNat / 16, by omega⟩
      have low := digits ⟨c.toNat % 16, by omega⟩
      have lead : Visible [backslash, 'u', '0', '0'] := visible_of_all (by decide)
      exact visible_append lead (visible_cons high (visible_cons low visible_nil))
    · rw [if_neg control]
      exact visible_cons (by omega) visible_nil

theorem printString_visible (s : String) : Visible (printString s) := by
  refine visible_cons (by decide) (visible_append ?_ (visible_cons (by decide) visible_nil))
  intro d member
  obtain ⟨c, -, escaped⟩ := List.mem_flatMap.1 member
  exact escape_visible c d escaped

theorem printNumber_visible (n : ℤ) : Visible (printNumber n) := by
  have digits : Visible (Nat.toDigits 10 n.natAbs) := visible_digits fun _ => isDigit_of_mem_toDigits
  unfold printNumber
  split
  · exact visible_cons (by decide) digits
  · exact digits

mutual

theorem Value.print_visible : ∀ v : Written, Visible v.print
  | .null | .bool true | .bool false => visible_of_all (by decide)
  | .number n => printNumber_visible n
  | .string s => printString_visible s
  | .array items =>
    visible_cons (by decide) (visible_append (printItems_visible items) (visible_cons (by decide) visible_nil))
  | .object members =>
    visible_cons (by decide) (visible_append (printMembers_visible members) (visible_cons (by decide) visible_nil))

theorem printItems_visible : ∀ vs : List Written, Visible (printItems vs)
  | [] => visible_nil
  | v :: vs => by
    by_cases more : vs = []
    · subst more
      exact v.print_visible
    · rw [printItems_cons v more]
      exact visible_append v.print_visible (visible_cons (by decide) (printItems_visible vs))

theorem printMembers_visible : ∀ ms : List (String × Written), Visible (printMembers ms)
  | [] => visible_nil
  | (k, v) :: ms => by
    have key := printString_visible k
    by_cases more : ms = []
    · subst more
      exact visible_append key (visible_cons (by decide) v.print_visible)
    · rw [printMembers_cons k v more]
      exact visible_append key
        (visible_cons (by decide) (visible_append v.print_visible (visible_cons (by decide) (printMembers_visible ms))))

end

/-- **A written text is one line.** -/
theorem stringify_line (v : Written) : '\n' ∉ (stringify v).toList := by
  rw [stringify, String.toList_ofList]
  intro newline
  have visible := v.print_visible '\n' newline
  revert visible
  decide

end Json
