import ChatMarkup.Text.Reference

/-!
How the body of a character reference is spelled. A name of the table, a decimal number and a
hexadecimal number are the spellings that are meant; a number with a plus sign is read as well.
-/

namespace ChatMarkup

theorem toLower_eq_self {char : Char} (notUpper : char.isUpper = false) : char.toLower = char :=
  dif_neg (of_decide_eq_false notUpper)

namespace Text.Reference

/-! ## Spellings -/

def isHexDigit (char : Char) : Bool :=
  char.isDigit || ('A' ≤ char && char ≤ 'F') || ('a' ≤ char && char ≤ 'f')

def isHexMark (char : Char) : Bool := char == 'x' || char == 'X'

def isNumeral (isOne : Char → Bool) (numeral : List Char) : Bool :=
  !numeral.isEmpty && numeral.all isOne

def isSignedNumeral (isOne : Char → Bool) : List Char → Bool
  | '+' :: digits => isNumeral isOne digits
  | _ => false

def isName (body : List Char) : Bool := (named? (String.ofList body)).isSome

def isNumber (spelled : (Char → Bool) → List Char → Bool) : List Char → Bool
  | '#' :: mark :: rest =>
    if isHexMark mark then spelled isHexDigit rest else spelled Char.isDigit (mark :: rest)
  | _ => false

def isWritten (body : List Char) : Bool := isName body || isNumber isNumeral body

def isSigned (body : List Char) : Bool := isNumber isSignedNumeral body

example : isWritten "#xE9".toList = true := by decide +kernel

example : isWritten "#-1".toList = false := by decide +kernel

example : isSigned "#x+E9".toList = true := by decide +kernel

/-! ## Digits -/

theorem toNat_lt_of_digit? {base : Nat} {char : Char} (digit : (digit? base char).isSome = true) :
    char.toNat < 128 := by
  rw [digit?] at digit
  split at digit
  · omega
  · split at digit
    · omega
    · split at digit
      · omega
      · cases digit

/-- Digits are a few of the first code points, so tests for them are compared code by code. -/
theorem isSome_digit?_eq {base : Nat} {isOne : Char → Bool}
    (same : ∀ code < 128, (digit? base (Char.ofNat code)).isSome = isOne (Char.ofNat code))
    (small : ∀ char, isOne char = true → char.toNat < 128) (char : Char) :
    (digit? base char).isSome = isOne char := by
  by_cases early : char.toNat < 128
  · have checked := same char.toNat early
    rwa [Char.ofNat_toNat] at checked
  · rw [Bool.eq_false_iff.mpr fun digit => early (toNat_lt_of_digit? digit),
      Bool.eq_false_iff.mpr fun one => early (small char one)]

theorem toNat_lt_of_isDigit {char : Char} (digit : char.isDigit = true) : char.toNat < 128 :=
  Nat.lt_of_le_of_lt (of_decide_eq_true (Bool.and_eq_true _ _ |>.mp digit).2) (by decide)

theorem isSome_digit?_ten (char : Char) : (digit? 10 char).isSome = char.isDigit :=
  isSome_digit?_eq (by decide +kernel) (fun _ => toNat_lt_of_isDigit) char

theorem isSome_digit?_sixteen (char : Char) : (digit? 16 char).isSome = isHexDigit char := by
  refine isSome_digit?_eq (by decide +kernel) ?_ char
  intro char digit
  simp only [isHexDigit, Bool.or_eq_true, Bool.and_eq_true, decide_eq_true_eq] at digit
  rcases digit with (digit | capital) | small
  · exact toNat_lt_of_isDigit digit
  · exact Nat.lt_of_le_of_lt capital.2 (by decide)
  · exact Nat.lt_of_le_of_lt small.2 (by decide)

theorem digit?_toLower (char : Char) : digit? 16 char.toLower = digit? 16 char := by
  by_cases upper : char.isUpper = true
  · have each : ∀ code < 128, digit? 16 (Char.ofNat code).toLower = digit? 16 (Char.ofNat code) := by
      decide +kernel
    have small : char.toNat < 128 :=
      Nat.lt_of_le_of_lt (of_decide_eq_true upper).2 (by decide)
    have checked := each char.toNat small
    rwa [Char.ofNat_toNat] at checked
  · rw [toLower_eq_self (Bool.eq_false_iff.mpr upper)]

/-! ## Numbers -/

theorem digitsFrom?_append (base value : Nat) (front back : List Char) :
    digitsFrom? base value (front ++ back) =
      (digitsFrom? base value front).bind fun value => digitsFrom? base value back := by
  induction front generalizing value with
  | nil => rfl
  | cons char rest induction =>
      rw [List.cons_append, digitsFrom?, digitsFrom?]
      split
      · rfl
      · exact induction _

theorem digitsFrom?_map_toLower (value : Nat) (digits : List Char) :
    digitsFrom? 16 value (digits.map Char.toLower) = digitsFrom? 16 value digits := by
  induction digits generalizing value with
  | nil => rfl
  | cons char rest induction =>
      rw [List.map_cons, digitsFrom?, digitsFrom?, digit?_toLower]
      split
      · rfl
      · exact induction _

theorem isSome_digitsFrom? (base value : Nat) (digits : List Char) :
    (digitsFrom? base value digits).isSome =
      digits.all fun char => (digit? base char).isSome := by
  induction digits generalizing value with
  | nil => rfl
  | cons char rest induction =>
      rw [digitsFrom?, List.all_cons]
      split
      · rename_i noDigit
        rw [noDigit]
        rfl
      · rename_i digit found
        rw [induction, found]
        rfl

theorem number?_unsigned {char : Char} (noSign : char ≠ '+') (base : Nat) (rest : List Char) :
    number? base (char :: rest) = digitsFrom? base 0 (char :: rest) := by
  rw [number?]
  · intro digit others sign
    exact absurd (List.cons.inj sign).1 noSign
  · intro sign
    exact absurd (List.cons.inj sign).1 noSign
  · exact List.cons_ne_nil char rest

theorem isSome_number? (base : Nat) (numeral : List Char) :
    (number? base numeral).isSome =
      (isNumeral (fun char => (digit? base char).isSome) numeral ||
        isSignedNumeral (fun char => (digit? base char).isSome) numeral) := by
  cases numeral with
  | nil => rfl
  | cons char rest =>
      by_cases sign : char = '+'
      · subst sign
        have noDigit : (digit? base '+').isSome = false := rfl
        have unsigned :
            isNumeral (fun char => (digit? base char).isSome) ('+' :: rest) = false := by
          rw [isNumeral, List.all_cons, noDigit, Bool.false_and, Bool.and_false]
        rw [unsigned, Bool.false_or]
        cases rest with
        | nil => rfl
        | cons digit others => exact isSome_digitsFrom? base 0 (digit :: others)
      · have unsigned : isSignedNumeral (fun char => (digit? base char).isSome) (char :: rest) =
            false := by
          rw [isSignedNumeral]
          exact fun digits signed => sign (List.cons.inj signed).1
        rw [number?_unsigned sign, isSome_digitsFrom?, unsigned, Bool.or_false]
        rfl

/-! ## Names -/

theorem mem_names {name : String} {char : Char} (found : named? name = some char) :
    (name, char) ∈ names := by
  rcases List.lookup_eq_some_iff.mp found with ⟨before, after, table, -⟩
  rw [table]
  simp

/-- The names of the table are words of letters and digits. -/
theorem all_isAlphanum_of_isName {body : List Char} (name : isName body = true) :
    body.all Char.isAlphanum = true := by
  rcases Option.isSome_iff_exists.mp name with ⟨char, found⟩
  have words : ∀ entry ∈ names, entry.1.toList.all Char.isAlphanum = true := by decide +kernel
  have word := words _ (mem_names found)
  rwa [String.toList_ofList] at word

/-! ## Bodies -/

theorem body?_number (mark : Char) (rest : List Char) :
    body? ('#' :: mark :: rest) =
      (if isHexMark mark then number? 16 rest else number? 10 (mark :: rest)).map ofCodePoint := by
  by_cases small : mark = 'x'
  · subst small
    rfl
  by_cases capital : mark = 'X'
  · subst capital
    rfl
  have decimal : isHexMark mark = false := by simp [isHexMark, small, capital]
  rw [decimal, body?]
  · rfl
  · exact fun numeral marked => small (List.cons.inj marked).1
  · exact fun numeral marked => capital (List.cons.inj marked).1

theorem body?_name {body : List Char} (noHash : body.head? ≠ some '#') :
    body? body = named? (String.ofList body) := by
  rw [body?]
  all_goals
    rintro numeral rfl
    exact noHash rfl

theorem isName_hash (rest : List Char) : isName ('#' :: rest) = false := by
  rw [Bool.eq_false_iff]
  intro name
  have word := all_isAlphanum_of_isName name
  rw [List.all_cons] at word
  cases word

/-- These spellings are read, and no other. -/
theorem isSome_body? (body : List Char) :
    (body? body).isSome = (isWritten body || isSigned body) := by
  have ten : (fun char => (digit? 10 char).isSome) = Char.isDigit := funext isSome_digit?_ten
  have sixteen : (fun char => (digit? 16 char).isSome) = isHexDigit :=
    funext isSome_digit?_sixteen
  by_cases hash : body.head? = some '#'
  · rcases List.head?_eq_some_iff.mp hash with ⟨tail, rfl⟩
    rw [isWritten, isName_hash, Bool.false_or, isSigned]
    cases tail with
    | nil => rfl
    | cons mark rest =>
        rw [body?_number, Option.isSome_map, isNumber, isNumber]
        split
        · rw [isSome_number?, sixteen]
        · rw [isSome_number?, ten]
  · have noNumber (spelled : (Char → Bool) → List Char → Bool) : isNumber spelled body = false := by
      rw [isNumber]
      rintro mark rest rfl
      exact hash rfl
    rw [body?_name hash, isWritten, isSigned, noNumber, noNumber, Bool.or_false, Bool.or_false]
    rfl

def isBodyChar (char : Char) : Bool := char.isAlphanum || char == '#' || char == '+'

theorem isBodyChar_of_isAlphanum {char : Char} (word : char.isAlphanum = true) :
    isBodyChar char = true := by
  rw [isBodyChar, word]
  rfl

theorem isBodyChar_of_isHexDigit {char : Char} (digit : isHexDigit char = true) :
    isBodyChar char = true := by
  have words : ∀ code < 128, isHexDigit (Char.ofNat code) = true →
      isBodyChar (Char.ofNat code) = true := by decide +kernel
  have small := toNat_lt_of_digit? ((isSome_digit?_sixteen char).trans digit)
  have checked := words char.toNat small
  rw [Char.ofNat_toNat] at checked
  exact checked digit

theorem isBodyChar_of_isDigit {char : Char} (digit : char.isDigit = true) :
    isBodyChar char = true :=
  isBodyChar_of_isAlphanum (Bool.or_eq_true_iff.mpr (.inr digit))

theorem all_isBodyChar_of_isNumber {spelled : (Char → Bool) → List Char → Bool}
    (within : ∀ isOne, (∀ char, isOne char = true → isBodyChar char = true) →
      ∀ numeral, spelled isOne numeral = true → numeral.all isBodyChar = true)
    {body : List Char} (number : isNumber spelled body = true) : body.all isBodyChar = true := by
  rw [isNumber.eq_def] at number
  split at number
  · rename_i mark rest
    rw [List.all_cons, (by decide : isBodyChar '#' = true), Bool.true_and]
    split at number
    · rename_i hex
      have marks : isBodyChar mark = true := by
        rw [isHexMark, Bool.or_eq_true, beq_iff_eq, beq_iff_eq] at hex
        rcases hex with rfl | rfl <;> decide
      rw [List.all_cons, marks, within isHexDigit (fun _ => isBodyChar_of_isHexDigit) rest number]
      rfl
    · exact within Char.isDigit (fun _ => isBodyChar_of_isDigit) (mark :: rest) number
  · cases number

theorem all_isBodyChar_of_body? {body : List Char} {char : Char} (read : body? body = some char) :
    body.all isBodyChar = true := by
  have numeral (isOne : Char → Bool) (each : ∀ char, isOne char = true → isBodyChar char = true)
      (digits : List Char) (spelled : isNumeral isOne digits = true) :
      digits.all isBodyChar = true :=
    List.all_eq_true.mpr fun char member =>
      each char (List.all_eq_true.mp (Bool.and_eq_true _ _ |>.mp spelled).2 char member)
  have spelled : (isWritten body || isSigned body) = true := by
    rw [← isSome_body?, read]
    rfl
  rw [isWritten, Bool.or_eq_true, Bool.or_eq_true] at spelled
  rcases spelled with (name | written) | signed
  · have word := all_isAlphanum_of_isName name
    exact List.all_eq_true.mpr fun char member =>
      isBodyChar_of_isAlphanum (List.all_eq_true.mp word char member)
  · exact all_isBodyChar_of_isNumber numeral written
  · refine all_isBodyChar_of_isNumber ?_ signed
    intro isOne each digits signedDigits
    rw [isSignedNumeral.eq_def] at signedDigits
    split at signedDigits
    · rw [List.all_cons, numeral isOne each _ signedDigits]
      rfl
    · cases signedDigits

theorem notMem_of_body? {other : Char} (foreign : isBodyChar other = false) {body : List Char}
    {char : Char} (read : body? body = some char) : other ∉ body := by
  intro member
  rw [List.all_eq_true.mp (all_isBodyChar_of_body? read) other member] at foreign
  cases foreign

/-! ## Sizes -/

theorem byteSize_nil : byteSize [] = 0 := rfl

theorem byteSize_cons (char : Char) (rest : List Char) :
    byteSize (char :: rest) = char.utf8Size + byteSize rest := rfl

theorem byteSize_append (front back : List Char) :
    byteSize (front ++ back) = byteSize front + byteSize back := by
  induction front with
  | nil => exact (Nat.zero_add _).symm
  | cons char rest induction =>
      rw [List.cons_append, byteSize_cons, byteSize_cons, induction, Nat.add_assoc]

theorem sizedBody?_eq_some_iff {body : List Char} {char : Char} :
    sizedBody? body = some char ↔
      (0 < byteSize body ∧ byteSize body ≤ maxBodySize) ∧ body? body = some char := by
  rw [sizedBody?, Option.ite_none_right_eq_some]

/-- No reference holds the beginning or the end of one. -/
theorem notMem_of_sizedBody? {other : Char} (foreign : isBodyChar other = false) {body : List Char}
    {char : Char} (read : sizedBody? body = some char) : other ∉ body :=
  notMem_of_body? foreign (sizedBody?_eq_some_iff.mp read).2

end Text.Reference

end ChatMarkup
