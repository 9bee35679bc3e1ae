import SignOn.Proofs.Pattern.Characters
import SignOn.Proofs.Text.Ascii
import SignOn.Proofs.Unicode.WhiteSpace
import SignOn.Validation
/-!
# What the fields of an account may hold

The rules that a service has without settings of its own are seven
patterns. What each field may hold is said here in plain terms, and
`Validator.ofConfig_default_accepts` says that the rules accept these texts and no
others.
-/

namespace SignOn

/-! ## The texts that are meant -/

/-- An address: without white space, with one `@`, something before it, and
after it a dot with something on both sides. -/
structure IsEmail (text : List Char) : Prop where
  oneAt : text.count '@' = 1
  unbroken : ∀ c ∈ text, Unicode.isWhiteSpace c = false
  parts : ∃ name domain, text = name ++ '@' :: domain ∧ name ≠ [] ∧
    ∃ front back, domain = front ++ '.' :: back ∧ front ≠ [] ∧ back ≠ []

/-- What stands between the signs of an address. -/
structure IsAddressPart (part : List Char) : Prop where
  nonempty : part ≠ []
  noAt : '@' ∉ part
  unbroken : ∀ c ∈ part, Unicode.isWhiteSpace c = false

/-- The signs of an address cut it into three parts. -/
theorem isEmail_iff {text : List Char} : IsEmail text ↔
    ∃ name front back, text = name ++ '@' :: (front ++ '.' :: back) ∧
      IsAddressPart name ∧ IsAddressPart front ∧ IsAddressPart back := by
  constructor
  · rintro ⟨hone, hunbroken, name, _, rfl, hname, front, back, rfl, hfront, hback⟩
    have hcount : name.count '@' + front.count '@' + back.count '@' = 0 := by
      have hdot : ('.' == '@') = false := rfl
      simp only [List.count_append, List.count_cons, beq_self_eq_true, hdot, Bool.false_eq_true,
        if_true, if_false] at hone
      omega
    refine ⟨name, front, back, rfl, ⟨hname, List.count_eq_zero.1 (by omega), fun c hc => ?_⟩,
      ⟨hfront, List.count_eq_zero.1 (by omega), fun c hc => ?_⟩,
      ⟨hback, List.count_eq_zero.1 (by omega), fun c hc => ?_⟩⟩
    · exact hunbroken c (by simp [hc])
    · exact hunbroken c (by simp [hc])
    · exact hunbroken c (by simp [hc])
  · rintro ⟨name, front, back, rfl, hname, hfront, hback⟩
    refine ⟨?_, fun c hc => ?_, name, _, rfl, hname.nonempty, front, back, rfl, hfront.nonempty,
      hback.nonempty⟩
    · simp [List.count_append, List.count_eq_zero.2 hname.noAt, List.count_eq_zero.2 hfront.noAt,
        List.count_eq_zero.2 hback.noAt]
    · simp only [List.mem_append, List.mem_cons] at hc
      rcases hc with hc | rfl | hc | rfl | hc
      · exact hname.unbroken c hc
      · rfl
      · exact hfront.unbroken c hc
      · rfl
      · exact hback.unbroken c hc

/-- A password: at least eight characters without white space, a letter and
a digit among them. -/
structure IsPassword (text : List Char) : Prop where
  length : 8 ≤ text.length
  unbroken : ∀ c ∈ text, Unicode.isWhiteSpace c = false
  letter : ∃ c ∈ text, c.isAlpha = true
  digit : ∃ c ∈ text, c.isDigit = true

/-- A name to show: at most sixty-four characters on one line, of which one
can be seen. -/
structure IsDisplayName (text : List Char) : Prop where
  length : 1 ≤ text.length ∧ text.length ≤ 64
  oneLine : '\n' ∉ text
  visible : ∃ c ∈ text, Unicode.isWhiteSpace c = false

/-- A telephone number: seven to fifteen digits, after a plus sign or
none. -/
def IsPhone (text : List Char) : Prop :=
  ∃ digits, (text = digits ∨ text = '+' :: digits) ∧ (∀ c ∈ digits, c.isDigit = true) ∧
    7 ≤ digits.length ∧ digits.length ≤ 15

/-- The characters of telegram names. -/
def isTelegramChar (c : Char) : Bool :=
  c.isAlphanum || c == '_'

/-- A telegram name: five to thirty-two of its characters, after an `@` or
none. -/
def IsTelegram (text : List Char) : Prop :=
  ∃ name, (text = name ∨ text = '@' :: name) ∧ (∀ c ∈ name, isTelegramChar c = true) ∧
    5 ≤ name.length ∧ name.length ≤ 32

/-- What a field may hold. -/
def Field.Allows : Field → List Char → Prop
  | .email => IsEmail
  | .password => IsPassword
  | .displayName => IsDisplayName
  | .phone => IsPhone
  | .telegram => IsTelegram

/-! ## The rules as patterns -/

namespace CharSet

variable {c : Char}

/-- `[0-9]` -/
def numerals : CharSet :=
  .ranges [(48, 57)]

/-- `[A-Za-z]` -/
def letters : CharSet :=
  .union (.ranges [(65, 90)]) (.ranges [(97, 122)])

/-- `[A-Za-z0-9_]` -/
def telegramChars : CharSet :=
  .union (.ranges [(65, 90)]) (.union (.ranges [(97, 122)]) (.union numerals (.single '_')))

/-- `[^@\s]` -/
def addressChars : CharSet :=
  .compl (.union (.single '@') .blanks)

theorem contains_numerals : numerals.contains c = c.isDigit := by
  rw [Bool.eq_iff_iff, Ascii.isDigit_iff]
  simp [numerals, contains, containsCode, Unicode.Ranges.contains]

theorem contains_letters : letters.contains c = c.isAlpha := by
  rw [Bool.eq_iff_iff, Ascii.isAlpha_iff]
  simp [letters, contains, containsCode, Unicode.Ranges.contains]

theorem contains_telegramChars : telegramChars.contains c = isTelegramChar c := by
  have hletters : telegramChars.contains c =
      (letters.contains c || (numerals.contains c || (single '_').contains c)) := by
    simp [telegramChars, letters, Bool.or_assoc]
  rw [hletters, contains_letters, contains_numerals, isTelegramChar, Bool.eq_iff_iff]
  simp [Ascii.isAlphanum_iff, or_assoc]

theorem contains_addressChars :
    addressChars.contains c = true ↔ c ≠ '@' ∧ Unicode.isWhiteSpace c = false := by
  rw [addressChars, contains_compl, Bool.not_eq_true', contains_union, Bool.or_eq_false_iff,
    contains_blanks, ← Bool.not_eq_true, contains_single]

end CharSet

/-- The rules that hold where nothing else is set. -/
def Validator.byDefault : Validator where
  email := [.whole (.seq (.rep (.one .addressChars) 1 none) (.seq (.one (.single '@'))
    (.seq (.rep (.one .addressChars) 1 none) (.seq (.one (.single '.'))
      (.rep (.one .addressChars) 1 none)))))]
  password := [.whole (.rep (.one (.compl .blanks)) 8 none), .one .letters, .one .numerals]
  displayName := [.whole (.rep (.one (.compl (.single '\n'))) 1 (some 64)),
    .one (.compl .blanks)]
  phone := [.whole (.seq (.rep (.one (.single '+')) 0 (some 1))
    (.rep (.one .numerals) 7 (some 15)))]
  telegram := [.whole (.seq (.rep (.one (.single '@')) 0 (some 1))
    (.rep (.one .telegramChars) 5 (some 32)))]

theorem Validator.ofConfig_default : Validator.ofConfig {} = .ok .byDefault :=
  rfl

/-! ## The rules mean the texts -/

namespace Validator

variable {s : String}

theorem matches_addressPart_iff {before part after : List Char} :
    (Pattern.rep (.one .addressChars) 1 none).Matches before part after ↔ IsAddressPart part := by
  rw [Pattern.matches_atLeast_iff]
  simp only [CharSet.contains_addressChars]
  constructor
  · rintro ⟨hall, hlength⟩
    exact ⟨List.ne_nil_of_length_pos hlength, fun hmem => (hall _ hmem).1 rfl,
      fun c hc => (hall c hc).2⟩
  · rintro ⟨hne, hnoAt, hunbroken⟩
    exact ⟨fun c hc => ⟨fun h => hnoAt (h ▸ hc), hunbroken c hc⟩, List.length_pos_of_ne_nil hne⟩

theorem accepts_email_iff : byDefault.accepts .email s = true ↔ IsEmail s.toList := by
  simp only [accepts, rules, byDefault, List.all_cons, List.all_nil, Bool.and_true,
    Pattern.isMatch_whole_iff, isEmail_iff]
  constructor
  · rintro ⟨name, _, htext, hname, _, _, rfl, ⟨c, rfl, hc⟩, front, _, rfl, hfront, _, back, rfl,
      ⟨d, rfl, hd⟩, hback⟩
    obtain rfl := CharSet.contains_single.1 hc
    obtain rfl := CharSet.contains_single.1 hd
    exact ⟨name, front, back, htext, matches_addressPart_iff.1 hname,
      matches_addressPart_iff.1 hfront, matches_addressPart_iff.1 hback⟩
  · rintro ⟨name, front, back, htext, hname, hfront, hback⟩
    exact ⟨name, _, htext, matches_addressPart_iff.2 hname, ['@'], _, rfl,
      ⟨'@', rfl, CharSet.contains_single.2 rfl⟩, front, _, rfl, matches_addressPart_iff.2 hfront,
      ['.'], back, rfl, ⟨'.', rfl, CharSet.contains_single.2 rfl⟩,
      matches_addressPart_iff.2 hback⟩

theorem accepts_password_iff : byDefault.accepts .password s = true ↔ IsPassword s.toList := by
  simp only [accepts, rules, byDefault, List.all_cons, List.all_nil, Bool.and_true,
    Bool.and_eq_true, Pattern.isMatch_whole_iff, Pattern.matches_atLeast_iff,
    Pattern.isMatch_one_iff, CharSet.contains_compl, CharSet.contains_blanks, Bool.not_eq_true',
    CharSet.contains_letters, CharSet.contains_numerals]
  constructor
  · rintro ⟨⟨hunbroken, hlength⟩, hletter, hdigit⟩
    exact ⟨hlength, hunbroken, hletter, hdigit⟩
  · rintro ⟨hlength, hunbroken, hletter, hdigit⟩
    exact ⟨⟨hunbroken, hlength⟩, hletter, hdigit⟩

theorem accepts_displayName_iff :
    byDefault.accepts .displayName s = true ↔ IsDisplayName s.toList := by
  have hline : (∀ c ∈ s.toList, (CharSet.single '\n').contains c = false) ↔
      '\n' ∉ s.toList := by
    simp only [← Bool.not_eq_true, CharSet.contains_single]
    exact ⟨fun h hmem => h _ hmem rfl, fun h c hc heq => h (heq ▸ hc)⟩
  simp only [accepts, rules, byDefault, List.all_cons, List.all_nil, Bool.and_true,
    Bool.and_eq_true, Pattern.isMatch_whole_iff,
    Pattern.matches_between_iff (show 1 ≤ 64 by omega), Pattern.isMatch_one_iff,
    CharSet.contains_compl, CharSet.contains_blanks, Bool.not_eq_true', hline]
  constructor
  · rintro ⟨⟨hline, hlength⟩, hvisible⟩
    exact ⟨hlength, hline, hvisible⟩
  · rintro ⟨hlength, hline, hvisible⟩
    exact ⟨⟨hline, hlength⟩, hvisible⟩

theorem accepts_phone_iff : byDefault.accepts .phone s = true ↔ IsPhone s.toList := by
  simp only [accepts, rules, byDefault, List.all_cons, List.all_nil, Bool.and_true,
    Pattern.isMatch_signed_iff (show 7 ≤ 15 by omega), CharSet.contains_numerals, IsPhone]

theorem accepts_telegram_iff : byDefault.accepts .telegram s = true ↔ IsTelegram s.toList := by
  simp only [accepts, rules, byDefault, List.all_cons, List.all_nil, Bool.and_true,
    Pattern.isMatch_signed_iff (show 5 ≤ 32 by omega), CharSet.contains_telegramChars, IsTelegram]

/-- **The rules that hold where nothing else is set accept the texts that
each field may hold**, and no others. What is white space in them is what
has that property. -/
theorem ofConfig_default_accepts : ∃ v, Validator.ofConfig {} = .ok v ∧
    (∀ field s, v.accepts field s = true ↔ field.Allows s.toList) ∧
    ∀ c, Unicode.isWhiteSpace c = (Unicode.propertyRanges "whitespace").contains c.toNat := by
  refine ⟨byDefault, ofConfig_default, fun field s => ?_, fun c => Unicode.isWhiteSpace_eq⟩
  cases field with
  | email => exact accepts_email_iff
  | password => exact accepts_password_iff
  | displayName => exact accepts_displayName_iff
  | phone => exact accepts_phone_iff
  | telegram => exact accepts_telegram_iff

/-- A line end after the number is not taken for the end of the text. -/
example : byDefault.accepts .phone "+1234567\n" = false := by rfl

end Validator

end SignOn
