import TunnelLease.CommandLine.Command
import TunnelLease.Proofs.Template.Written

/-!
# Reading integer options

The arguments that ask for a simulation give the number of peers as a decimal numeral.
The number is read back from it as long as the numeral is no longer than the texts of
integers may be, whatever the number is, and otherwise the arguments are misused.

In the same way the limit of a listing has a text in whatever form it was given, so a
listing that is asked for by arguments can always be refused in words.
-/

namespace TunnelLease

namespace Text

theorem dropWhile_of_none {p : Char → Bool} {text : List Char}
    (none : ∀ c ∈ text, p c = false) : text.dropWhile p = text := by
  cases text with
  | nil => rfl
  | cons c text => rw [List.dropWhile_cons_of_neg (by simp [none c List.mem_cons_self])]

theorem trimSpaces_of_none {text : List Char} (none : ∀ c ∈ text, isSpace c = false) :
    trimSpaces text = text := by
  have reversed : ∀ c ∈ text.reverse, isSpace c = false := by simpa using none
  rw [trimSpaces, dropWhile_of_none none, dropWhile_of_none reversed, List.reverse_reverse]

/-- Decimal digits are not among the spaces that are trimmed. -/
theorem isSpace_of_isAsciiDigit {c : Char} (digit : isAsciiDigit c = true) :
    isSpace c = false := by
  rw [isSpace, isBlank_of_isAsciiDigit digit, Bool.false_and]

/-- Decimal digits make a number that has no more of them. -/
theorem ofDigitChars_lt {digits : List Char} (decimal : digits.all isAsciiDigit = true)
    (start : Nat) : Nat.ofDigitChars 10 digits start < (start + 1) * 10 ^ digits.length := by
  induction digits generalizing start with
  | nil => simp
  | cons c digits ih =>
      rw [List.all_cons, Bool.and_eq_true] at decimal
      have small : c.toNat ≤ 57 := by
        have upper := decimal.1
        rw [isAsciiDigit, Bool.and_eq_true, decide_eq_true_eq, decide_eq_true_eq] at upper
        simpa [Char.le_def, UInt32.le_iff_toNat_le] using upper.2
      have zero : '0'.toNat = 48 := rfl
      rw [Nat.ofDigitChars_cons]
      calc Nat.ofDigitChars 10 digits (10 * start + (c.toNat - '0'.toNat))
        _ < (10 * start + (c.toNat - '0'.toNat) + 1) * 10 ^ digits.length := ih decimal.2 _
        _ ≤ ((start + 1) * 10) * 10 ^ digits.length := Nat.mul_le_mul_right _ (by omega)
        _ = (start + 1) * 10 ^ (c :: digits).length := by
          rw [List.length_cons, Nat.pow_succ', Nat.mul_assoc]

end Text

namespace CommandLine

theorem isLeadingDigit_digitChar {digit : Nat} (positive : 0 < digit) (small : digit < 10) :
    isLeadingDigit digit.digitChar = true := by
  have all : ∀ place : Fin 10, 0 < place.val → isLeadingDigit (Nat.digitChar place) = true := by
    decide
  exact all ⟨digit, small⟩ positive

/-- The numeral of a positive number starts with a digit other than zero. -/
theorem exists_leading_toDigits {number : Nat} (positive : 0 < number) :
    ∃ first rest, Nat.toDigits 10 number = first :: rest ∧ isLeadingDigit first = true := by
  induction number using Nat.strongRecOn with
  | ind number ih =>
      rw [Nat.toDigits_eq_if (by decide)]
      split
      next small => exact ⟨_, [], rfl, isLeadingDigit_digitChar positive small⟩
      next large =>
        obtain ⟨first, rest, digits, leading⟩ := ih (number / 10) (by omega) (by omega)
        exact ⟨first, rest ++ [(number % 10).digitChar], by rw [digits]; rfl, leading⟩

theorem dropFraction?_of_not_mem {text : List Char} (whole : '.' ∉ text) :
    dropFraction? text = some text := by
  have none : text.dropWhile (· != '.') = [] := by
    rw [← List.append_nil text, List.dropWhile_append_of_pos, List.dropWhile_nil]
    intro c member
    rw [bne_iff_ne]
    rintro rfl
    exact whole member
  rw [dropFraction?, none]

theorem dropUnderscores_of_not_mem {text : List Char} (plain : '_' ∉ text) :
    dropUnderscores text = text := by
  rw [dropUnderscores, ite_eq_left_iff]
  intro _
  rw [List.filter_eq_self]
  intro c member
  rw [bne_iff_ne]
  rintro rfl
  exact plain member

theorem readDigits?_toDigits {number : Nat} (positive : 0 < number) :
    readDigits? (Nat.toDigits 10 number) =
      if number < 10 ^ Text.numeralLimit then some number else none := by
  obtain ⟨first, rest, digits, leading⟩ := exists_leading_toDigits positive
  have notZero : first ≠ '0' := by
    rintro rfl
    exact absurd leading (by decide)
  have occupied : (Nat.toDigits 10 number).isEmpty = false := by rw [digits]; rfl
  have headed : ((Nat.toDigits 10 number).head? == some '0') = false := by
    simp [digits, notZero]
  have allDigits : (Nat.toDigits 10 number).all Text.isAsciiDigit = true := by
    rw [List.all_eq_true]
    exact fun c member => Text.isAsciiDigit_of_mem_toDigits member
  have fits : Text.numeralLimit < (Nat.toDigits 10 number).length ↔
      ¬ number < 10 ^ Text.numeralLimit := by
    rw [← Nat.length_toDigits_le_iff (by decide) (by decide), Nat.not_le]
  have value : Nat.ofDigitChars 10 (Nat.toDigits 10 number) 0 = number :=
    Nat.ofDigitChars_ten_toDigits
  rw [readDigits?, occupied, allDigits, headed, value]
  by_cases short : number < 10 ^ Text.numeralLimit
  · simp [fits, short]
  · simp [fits, short]

/-- The decimal numeral of a positive number is read as the number, unless it is too long. -/
theorem readInteger?_toDigits {number : Nat} (positive : 0 < number) :
    readInteger? (Nat.toDigits 10 number) =
      if number < 10 ^ Text.numeralLimit then some (number : Int) else none := by
  have trimmed : Text.trimSpaces (Nat.toDigits 10 number) = Nat.toDigits 10 number :=
    Text.trimSpaces_of_none fun c member =>
      Text.isSpace_of_isAsciiDigit (Text.isAsciiDigit_of_mem_toDigits member)
  have whole := dropFraction?_of_not_mem
    (Text.not_mem_toDigits_ten (by decide : Text.isAsciiDigit '.' = false) number)
  have plain := dropUnderscores_of_not_mem
    (Text.not_mem_toDigits_ten (by decide : Text.isAsciiDigit '_' = false) number)
  have read := readDigits?_toDigits positive
  rw [readInteger?, trimmed]
  obtain ⟨first, rest, digits, leading⟩ := exists_leading_toDigits positive
  rw [digits] at whole plain read ⊢
  have other {c : Char} (foreign : isLeadingDigit c = false) : first ≠ c := by
    rintro rfl
    rw [foreign] at leading
    cases leading
  have unsigned : readSign (first :: rest) = (false, first :: rest) := by
    rw [readSign]
    · intro text same
      exact other (by decide) (List.cons.inj same).1
    · intro text same
      exact other (by decide) (List.cons.inj same).1
  have skipped : skipZeros? (first :: rest) = some (first :: rest) := by
    rw [skipZeros?, if_neg (other (by decide)), if_pos leading]
  have signed : readSigned? false (first :: rest) =
      (readDigits? (first :: rest)).map fun digits => (digits : Int) := by
    rw [readSigned?]
    · rfl
    · intro text same
      exact other (by decide) (List.cons.inj same).1
  simp only [unsigned, skipped, whole, plain, signed, read, Option.bind_eq_bind,
    Option.bind_some]
  split <;> rfl

/-- An option whose value stands in the next argument. -/
theorem Arguments.read?_option {names : List String} {name : String} (known : name ∈ names)
    (long : isOption name = true) (unended : name ≠ "--") (bare : splitOption name = (name, none))
    (value : String) (rest : List String) :
    Arguments.read? names (name :: value :: rest) = (Arguments.read? names rest).map fun later =>
      { later with values := (name, value) :: later.values } := by
  rw [Arguments.read?, if_neg unended, if_pos long, bare]
  dsimp only
  rw [if_pos known]

/-- The arguments that ask for a simulation, with or without the path of a settings file. -/
def simulateArguments (peers : Nat) (path : Option String) : List String :=
  ["pool", "simulate", "--peers", toString peers] ++
    match path with
    | none => []
    | some given => ["--config", given]

/-- The options in these arguments, and no words. -/
def simulateOptions (peers : Nat) (path : Option String) : Arguments where
  values := ("--peers", toString peers) :: path.toList.map fun given => ("--config", given)
  words := []

theorem read?_simulateOptions (peers : Nat) (path : Option String) :
    Arguments.read? ["--peers", "--config"] ((simulateArguments peers path).drop 2) =
      some (simulateOptions peers path) := by
  cases path with
  | none =>
      change Arguments.read? _ ["--peers", toString peers] = _
      rw [Arguments.read?_option (by decide) (by decide) (by decide) (by decide)]
      rfl
  | some given =>
      change Arguments.read? _ ["--peers", toString peers, "--config", given] = _
      rw [Arguments.read?_option (by decide) (by decide) (by decide) (by decide),
        Arguments.read?_option (by decide) (by decide) (by decide) (by decide)]
      rfl

/-- The arguments are read as the command, unless the numeral is too long. -/
theorem read?_simulateArguments {peers : Nat} (positive : 1 ≤ peers) {path : Option String}
    (nameable : ∀ given ∈ path, given.contains '\x00' = false) :
    Command.read? (simulateArguments peers path) =
      if peers < 10 ^ Text.numeralLimit then some (.simulate peers path) else none := by
  have command : Command.read? (simulateArguments peers path) =
      simulate? ((simulateArguments peers path).drop 2) :=
    rfl
  have number : readInteger? (toString peers).toList =
      if peers < 10 ^ Text.numeralLimit then some (peers : Int) else none := by
    rw [← readInteger?_toDigits positive, ← Nat.toList_repr]
    rfl
  have written : (simulateOptions peers path).value? "--peers" = some (toString peers) := by
    cases path <;> rfl
  have found : pathOption? (simulateOptions peers path) "--config" = some path := by
    cases path with
    | none => rfl
    | some given => simp [pathOption?, Arguments.value?, simulateOptions, nameable given rfl]
  have enough : (1 : Int) ≤ peers := by omega
  rw [command, simulate?, read?_simulateOptions]
  simp only [Option.bind_eq_bind, Option.bind_some, written, found, number]
  split
  · simp [simulateOptions, enough]
  · rfl

theorem lt_of_readDigits? {digits : List Char} {number : Nat}
    (read : readDigits? digits = some number) : number < 10 ^ Text.numeralLimit := by
  rw [readDigits?] at read
  split at read
  next => cases read
  next sound =>
    simp only [Bool.or_eq_true, not_or, Bool.not_eq_true, Bool.not_eq_true', Bool.not_eq_false,
      decide_eq_false_iff_not, Nat.not_lt] at sound
    obtain ⟨⟨⟨_, decimal⟩, short⟩, _⟩ := sound
    obtain rfl := Option.some.inj read
    have bound := Text.ofDigitChars_lt decimal 0
    rw [Nat.zero_add, Nat.one_mul] at bound
    exact bound.trans_le (Nat.pow_le_pow_right (by decide) short)

theorem natAbs_lt_of_readSigned? {negative : Bool} {text : List Char} {value : Int}
    (read : readSigned? negative text = some value) :
    value.natAbs < 10 ^ Text.numeralLimit := by
  rw [readSigned?.eq_def] at read
  split at read
  next digits =>
    cases negative with
    | true => cases read
    | false =>
        cases isNumber : readDigits? digits with
        | none => simp [isNumber] at read
        | some number =>
            obtain rfl : -(number : Int) = value := by simpa [isNumber] using read
            simpa using lt_of_readDigits? isNumber
  next =>
    cases isNumber : readDigits? text with
    | none => simp [isNumber] at read
    | some number =>
        obtain rfl : (if negative then -(number : Int) else number) = value := by
          simpa [isNumber] using read
        cases negative <;> simpa using lt_of_readDigits? isNumber

/-- An integer that was read has a numeral that is not too long. -/
theorem natAbs_lt_of_readInteger? {text : List Char} {value : Int}
    (read : readInteger? text = some value) : value.natAbs < 10 ^ Text.numeralLimit := by
  obtain ⟨bare, _, isBare⟩ := Option.bind_eq_some_iff.mp read
  obtain ⟨whole, _, isRead⟩ := Option.bind_eq_some_iff.mp isBare
  exact natAbs_lt_of_readSigned? isRead

/-- A listing is never asked for with a limit that has no text. -/
theorem hasText_of_listBlock? {arguments : List String} {written : String} {count limit : Int}
    (asked : listBlock? arguments = some (.listBlock written count limit)) :
    Template.hasText (.number limit) = true := by
  obtain ⟨given, _, isGiven⟩ := Option.bind_eq_some_iff.mp asked
  obtain ⟨_, _, isCount⟩ := Option.bind_eq_some_iff.mp isGiven
  obtain ⟨found, isLimit, chosen⟩ := Option.bind_eq_some_iff.mp isCount
  obtain rfl : found = limit := by
    split at chosen
    next =>
      cases chosen
      rfl
    next => cases chosen
  rw [Template.hasText_number]
  rw [integerOption?] at isLimit
  split at isLimit
  next =>
    obtain rfl := Option.some.inj isLimit
    calc (65536 : Int).natAbs
      _ < 10 ^ 5 := by decide
      _ ≤ 10 ^ Text.numeralLimit := Nat.pow_le_pow_right (by decide) (by decide)
  next => exact natAbs_lt_of_readInteger? isLimit

end CommandLine

end TunnelLease
