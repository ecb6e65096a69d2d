import Chip8.Colour
import Chip8.Proofs.Text.Numeral

/-! Which colour a text spells. It is first read to the base sixteen, and to the base ten only
if that gives a number that is no colour, for being too large: a text that is no hexadecimal
numeral is no decimal one either, and a sign does not depend on the base (`read_sound`). For
plain digits this says which of their two readings is taken (`read_spelling`). -/

namespace Chip8.Colour

open Text Text.Numeral

/-- The numeral in a text, without the blanks around it and the mark in front. -/
def body (text : String) : List Char := dropMark (trim isBlank text.toList)

theorem ofInt?_eq_some_iff {value : Int} {c : Colour} :
    ofInt? value = some c ↔ value = c.toNat := by
  have below := c.toNat_lt
  rw [ofInt?]
  split
  · next range =>
    rw [Option.some_inj, ← UInt32.toNat_inj, UInt32.toNat_ofNat']
    omega
  · simp
    omega

theorem exists_toNat_eq {n : Nat} (small : n < 2 ^ 32) : ∃ c : Colour, c.toNat = n :=
  ⟨UInt32.ofNat n, UInt32.toNat_ofNat_of_lt' small⟩

theorem readAs?_eq_some_iff {radix : Radix} {text : List Char} {c : Colour} :
    readAs? radix text = some c ↔ Numeral.read? radix text = some (c.toNat : Int) := by
  rw [readAs?, Option.bind_eq_bind, Option.bind_eq_some_iff]
  simp [ofInt?_eq_some_iff]

section Any

variable {text : String}

/-- The decimal reading counts only where the hexadecimal one gives no colour. -/
theorem read_eq_ok_iff {c : Colour} :
    read text = .ok c ↔
      Numeral.read? hexadecimal (body text) = some (c.toNat : Int) ∨
        (∀ other : Colour, Numeral.read? hexadecimal (body text) ≠ some (other.toNat : Int)) ∧
          Numeral.read? decimal (body text) = some (c.toNat : Int) := by
  have first : read text = .ok c ↔ read? text = some c := by
    rw [read]
    cases read? text <;> simp
  rw [first, read?, Option.orElse_eq_some]
  simp only [readAs?_eq_some_iff, Option.eq_none_iff_forall_ne_some, ne_eq]
  rfl

theorem eq_of_read_error {e : Unreadable} (failed : read text = .error e) : e = ⟨text⟩ := by
  rw [read] at failed
  split at failed <;> cases failed
  rfl

theorem read_eq_error (none : ∀ c, read text ≠ .ok c) : read text = .error ⟨text⟩ := by
  cases result : read text with
  | ok c => exact absurd result (none c)
  | error e => rw [eq_of_read_error result]

/-! ## Any text -/

/-- Behind every colour stands a hexadecimal numeral: it is the colour, or it is too large. -/
theorem hexadecimal_of_read {c : Colour} (answer : read text = .ok c) :
    ∃ value : Int, Numeral.read? hexadecimal (body text) = some value ∧
      (value = c.toNat ∨
        2 ^ 32 ≤ value ∧ Numeral.read? decimal (body text) = some (c.toNat : Int)) := by
  rcases read_eq_ok_iff.mp answer with direct | ⟨no_colour, fallback⟩
  · exact ⟨_, direct, .inl rfl⟩
  · obtain ⟨value, spelled, sign⟩ := read?_hexadecimal_of_decimal fallback
    refine ⟨value, spelled, .inr ⟨?_, fallback⟩⟩
    by_contra small
    have positive : 0 ≤ value := by omega
    obtain ⟨other, same⟩ := exists_toNat_eq (n := value.toNat) (by omega)
    apply no_colour other
    rw [spelled, same, Int.toNat_of_nonneg positive]

/-- A colour or an error that gives the text back. What is no hexadecimal numeral is no colour;
the decimal reading is taken only behind a hexadecimal one that is too large; and with a minus
nothing is a colour but zero. -/
theorem read_sound (text : String) :
    ((∃ value < 2 ^ 32, (read text).map UInt32.toNat = .ok value) ∨
      read text = .error ⟨text⟩) ∧
    (Numeral.read? hexadecimal (body text) = none → read text = .error ⟨text⟩) ∧
    (∀ c : Colour, readAs? hexadecimal (body text) = none → read text = .ok c →
      ∃ value : Int, 2 ^ 32 ≤ value ∧ Numeral.read? hexadecimal (body text) = some value ∧
        Numeral.read? decimal (body text) = some (c.toNat : Int)) ∧
    ∀ value : Int, Numeral.read? hexadecimal (body text) = some value → '-' ∈ body text →
      ((∃ c, read text = .ok c) ↔ value = 0) := by
  refine ⟨?_, ?_, ?_, ?_⟩
  · cases result : read text with
    | ok c => exact .inl ⟨c.toNat, c.toNat_lt, rfl⟩
    | error e => exact .inr (by rw [eq_of_read_error result])
  · intro misspelled
    apply read_eq_error
    intro c answer
    obtain ⟨value, spelled, -⟩ := hexadecimal_of_read answer
    rw [misspelled] at spelled
    cases spelled
  · intro c none answer
    obtain ⟨value, spelled, rfl | ⟨large, fallback⟩⟩ := hexadecimal_of_read answer
    · rw [readAs?_eq_some_iff.mpr spelled] at none
      cases none
    · exact ⟨value, large, spelled, fallback⟩
  · intro value spelled minus
    have nonpos := nonpos_of_minus spelled minus
    constructor
    · rintro ⟨c, answer⟩
      obtain ⟨other, same, direct | ⟨large, -⟩⟩ := hexadecimal_of_read answer
      all_goals
        cases Option.some.inj (spelled.symm.trans same)
        omega
    · rintro rfl
      exact ⟨0, read_eq_ok_iff.mpr (.inl spelled)⟩

/-- Two marks and a sign, with a blank between them. -/
theorem read_sound_minus_zero :
    let text := "0x\u00a0-0x_0"
    '-' ∈ body text ∧ Numeral.read? hexadecimal (body text) = some 0 ∧ ∃ c, read text = .ok c := by
  intro text
  have minus : '-' ∈ body text := by decide
  have spelled : Numeral.read? hexadecimal (body text) = some 0 := by decide
  exact ⟨minus, spelled, ((read_sound text).2.2.2 0 spelled minus).mpr rfl⟩

end Any

/-! ## Plain digits -/

/-- The marks that may stand in front of the digits. -/
inductive Mark
  | none
  | hash
  | small
  | capital
deriving DecidableEq

def Mark.spelled : Mark → List Char
  | none => []
  | hash => ['#']
  | small => ['0', 'x']
  | capital => ['0', 'X']

/-- A colour in plain digits, with a mark in front and blanks on both sides. -/
structure Spelling where
  before : List Char
  mark : Mark
  digits : List Char
  after : List Char
  before_blank : ∀ c ∈ before, isBlank c = true
  digits_hex : ∀ c ∈ digits, c ∈ hexDigits
  digits_ne_nil : digits ≠ []
  after_blank : ∀ c ∈ after, isBlank c = true

namespace Spelling

variable (s : Spelling)

def text : String := String.ofList (s.before ++ (s.mark.spelled ++ s.digits) ++ s.after)

/-- Whether the digits are a decimal numeral that is not refused for its length. -/
def IsDecimal : Prop := s.digits.length ≤ 4300 ∧ s.digits.all Char.isDigit

def hexadecimalValue : Nat := worth 16 s.digits

def decimalValue : Nat := worth 10 s.digits

instance : Decidable s.IsDecimal := inferInstanceAs (Decidable (_ ∧ _))

theorem body_text : body s.text = s.digits := by
  have inner : ∀ c ∈ s.mark.spelled ++ s.digits, isBlank c = false := by
    have marks : ∀ c ∈ s.mark.spelled, isBlank c = false := by
      cases s.mark <;> exact forall_of_all (by decide)
    have hex : ∀ c ∈ hexDigits, isBlank c = false := forall_of_all (by decide)
    intro c mem
    rcases List.mem_append.mp mem with mark | digit
    · exact marks c mark
    · exact hex c (s.digits_hex c digit)
  have ne : s.mark.spelled ++ s.digits ≠ [] := by simp [s.digits_ne_nil]
  rw [body, text, String.toList_ofList, trim_pad s.before_blank inner s.after_blank ne]
  have small := not_mem_of_hex (c := 'x') s.digits_hex (by decide)
  have capital := not_mem_of_hex (c := 'X') s.digits_hex (by decide)
  have hash := not_mem_of_hex (c := '#') s.digits_hex (by decide)
  cases s.mark
  case none =>
    rw [Mark.spelled, List.nil_append, dropMark.eq_def]
    split <;> simp_all
  all_goals rfl

theorem hexadecimal_text :
    Numeral.read? hexadecimal (body s.text) = some (s.hexadecimalValue : Int) := by
  rw [body_text, read?_hexadecimal s.digits_hex s.digits_ne_nil, hexadecimalValue]

theorem decimal_text :
    Numeral.read? decimal (body s.text) =
      if s.IsDecimal then some (s.decimalValue : Int) else none := by
  rw [body_text, read?_decimal s.digits_hex s.digits_ne_nil]
  rfl

theorem read_hexadecimal {c : Colour} (same : c.toNat = s.hexadecimalValue) :
    read s.text = .ok c := by
  rw [read_eq_ok_iff, hexadecimal_text, same]
  exact .inl rfl

theorem read_large (large : 2 ^ 32 ≤ s.hexadecimalValue) {c : Colour} :
    read s.text = .ok c ↔ s.IsDecimal ∧ s.decimalValue = c.toNat := by
  have no_colour (other : Colour) : s.hexadecimalValue ≠ other.toNat := by
    have below := other.toNat_lt
    omega
  rw [read_eq_ok_iff, hexadecimal_text, decimal_text]
  by_cases decimal : s.IsDecimal <;> simp [decimal, no_colour]

/-- Both readings of decimal digits have more than eight places at once. -/
theorem decimalValue_lt_iff (decimal : s.IsDecimal) :
    s.decimalValue < 10 ^ 8 ↔ s.hexadecimalValue < 2 ^ 32 := by
  have each : ∀ c ∈ hexDigits, c.isDigit → place c < 10 := forall_of_all (by decide)
  have small : ∀ d ∈ s.digits.map place, d < 10 := by
    intro d mem
    obtain ⟨c, digit, rfl⟩ := List.mem_map.mp mem
    exact each c (s.digits_hex c digit) (List.all_eq_true.mp decimal.2 c digit)
  have together := valueOf_lt_pow_congr small 8
  rwa [valueOf_map_place, valueOf_map_place] at together

/-- What the digits of a text give. -/
theorem map_toNat_read :
    (read s.text).map UInt32.toNat =
      if s.hexadecimalValue < 2 ^ 32 then .ok s.hexadecimalValue
      else if s.IsDecimal ∧ s.decimalValue < 2 ^ 32 then .ok s.decimalValue
      else .error ⟨s.text⟩ := by
  split
  · next small =>
    obtain ⟨c, same⟩ := exists_toNat_eq small
    rw [s.read_hexadecimal same, ← same]
    rfl
  · next large =>
    have large : 2 ^ 32 ≤ s.hexadecimalValue := by omega
    split
    · next fallback =>
      obtain ⟨c, same⟩ := exists_toNat_eq fallback.2
      rw [(s.read_large large).mpr ⟨fallback.1, same.symm⟩, ← same]
      rfl
    · next no_fallback =>
      rw [read_eq_error]
      · rfl
      · intro c answer
        obtain ⟨decimal, same⟩ := (s.read_large large).mp answer
        exact no_fallback ⟨decimal, same ▸ c.toNat_lt⟩

end Spelling

/-- The hexadecimal reading of the digits is the answer if it is a colour, else the decimal one.
So every colour is recovered from its hexadecimal spellings, and the answer is the decimal
reading instead of the hexadecimal one from nine decimal places on. -/
theorem read_spelling (s : Spelling) :
    (read s.text).map UInt32.toNat =
      (if s.hexadecimalValue < 2 ^ 32 then .ok s.hexadecimalValue
      else if s.IsDecimal ∧ s.decimalValue < 2 ^ 32 then .ok s.decimalValue
      else .error ⟨s.text⟩) ∧
    (∀ c : Colour, c.toNat = s.hexadecimalValue → read s.text = .ok c) ∧
    (s.IsDecimal →
      ((read s.text).map UInt32.toNat = .ok s.decimalValue ∧ s.decimalValue ≠ s.hexadecimalValue ↔
        10 ^ 8 ≤ s.decimalValue ∧ s.decimalValue < 2 ^ 32)) := by
  refine ⟨s.map_toNat_read, fun c => s.read_hexadecimal, fun decimal => ?_⟩
  have together := s.decimalValue_lt_iff decimal
  rw [s.map_toNat_read]
  split
  · next small =>
    constructor
    · rintro ⟨answer, other⟩
      exact absurd (Except.ok.inj answer).symm other
    · omega
  · next large =>
    split
    · next fallback =>
      have other : s.decimalValue ≠ s.hexadecimalValue := by omega
      simp only [true_and, ne_eq, other, not_false_eq_true, true_iff]
      omega
    · next no_fallback =>
      constructor
      · rintro ⟨answer, -⟩
        cases answer
      · intro range
        exact absurd ⟨decimal, range.2⟩ no_fallback

/-- The smallest number that is read to the base ten. -/
theorem read_spelling_nine_places :
    let s : Spelling :=
      { before := ['\u2003']
        mark := .hash
        digits := ['0', '1', '0', '0', '0', '0', '0', '0', '0', '0']
        after := ['\n', ' ']
        before_blank := forall_of_all (by decide)
        digits_hex := forall_of_all (by decide)
        digits_ne_nil := by decide
        after_blank := forall_of_all (by decide) }
    s.hexadecimalValue = 2 ^ 32 ∧ s.decimalValue = 10 ^ 8 ∧
      (read s.text).map UInt32.toNat = .ok (10 ^ 8) := by
  intro s
  have decimal : s.IsDecimal := by decide
  have value : s.decimalValue = 10 ^ 8 := by decide
  have answer := ((read_spelling s).2.2 decimal).mpr (by rw [value]; decide)
  exact ⟨by decide, value, value ▸ answer.1⟩

end Chip8.Colour
