import Mathlib.Data.List.TakeWhile
import Mathlib.Data.Nat.Digits.Lemmas
import Chip8.Text.Numeral

/-! What numerals say. The digits of a decimal numeral are digits of a hexadecimal one too, so
whatever reads to the base ten also reads to the base sixteen, with the same sign
(`read?_hexadecimal_of_decimal`). How large a numeral is, measured in powers of its base, is seen
from its digits alone (`valueOf_lt_pow_iff`); so the two readings of decimal digits pass equal
powers of their bases together. -/

namespace Chip8.Text

/-! ## Trimming -/

section Trim

variable {blank : Char → Bool} {text : List Char}

theorem dropWhile_of_forall_not (inner : ∀ c ∈ text, blank c = false) (ne : text ≠ [])
    (after : List Char) : (text ++ after).dropWhile blank = text ++ after := by
  obtain ⟨c, rest, rfl⟩ := List.exists_cons_of_ne_nil ne
  have stops : ¬blank c = true := by simp [inner c List.mem_cons_self]
  exact List.dropWhile_cons_of_neg stops

theorem trim_pad {before after : List Char} (front : ∀ c ∈ before, blank c = true)
    (inner : ∀ c ∈ text, blank c = false) (back : ∀ c ∈ after, blank c = true) (ne : text ≠ []) :
    trim blank (before ++ text ++ after) = text := by
  have inner_reverse : ∀ c ∈ text.reverse, blank c = false := by simpa using inner
  have back_reverse : ∀ c ∈ after.reverse, blank c = true := by simpa using back
  have stops := dropWhile_of_forall_not inner_reverse (by simpa using ne) []
  rw [List.append_nil] at stops
  rw [trim, List.append_assoc, List.dropWhile_append_of_pos front,
    dropWhile_of_forall_not inner ne after, List.reverse_append,
    List.dropWhile_append_of_pos back_reverse, stops, List.reverse_reverse]

theorem trim_eq_self (inner : ∀ c ∈ text, blank c = false) (ne : text ≠ []) :
    trim blank text = text := by
  have padded : trim blank ([] ++ text ++ []) = text := trim_pad nofun inner nofun ne
  rwa [List.nil_append, List.append_nil] at padded

theorem mem_dropWhile {c : Char} (mem : c ∈ text) (kept : blank c = false) :
    c ∈ text.dropWhile blank := by
  rw [← List.takeWhile_append_dropWhile (p := blank) (l := text), List.mem_append] at mem
  rcases mem with dropped | left
  · rw [List.mem_takeWhile_imp dropped] at kept
    cases kept
  · exact left

theorem mem_trim {c : Char} (mem : c ∈ text) (kept : blank c = false) : c ∈ trim blank text := by
  rw [trim, List.mem_reverse]
  exact mem_dropWhile (List.mem_reverse.mpr (mem_dropWhile mem kept)) kept

end Trim

namespace Numeral

variable {base : Nat} {c : Char} {text : List Char} {ds : List Nat}

/-! ## Digits -/

theorem digitValue?_of_le {more d : Nat} (le : base ≤ more)
    (value : digitValue? base c = some d) : digitValue? more c = some d := by
  obtain ⟨found, below⟩ := Option.filter_eq_some_iff.mp value
  exact Option.filter_eq_some_iff.mpr ⟨found, by simp at below ⊢; omega⟩

theorem digits?_of_le {more : Nat} (le : base ≤ more) (read : digits? base text = some ds) :
    digits? more text = some ds := by
  fun_induction digits? base text generalizing ds with
  | case1 => cases read
  | case2 c =>
    obtain ⟨d, value, rfl⟩ := Option.map_eq_some_iff.mp read
    simp [digits?, digitValue?_of_le le value]
  | case3 c rest ih =>
    simp only [Option.bind_eq_bind, Option.bind_eq_some_iff, Option.pure_def,
      Option.some.injEq] at read
    obtain ⟨d, value, others, tail, rfl⟩ := read
    simp [digits?, digitValue?_of_le le value, ih tail]
  | case4 c rest _ _ ih =>
    simp only [Option.bind_eq_bind, Option.bind_eq_some_iff, Option.pure_def,
      Option.some.injEq] at read
    obtain ⟨d, value, others, tail, rfl⟩ := read
    rw [digits?, digitValue?_of_le le value, ih tail]
    · rfl
    all_goals assumption

theorem isSome_of_mem (read : digits? base text = some ds) (mem : c ∈ text) :
    c = '_' ∨ (digitValue? base c).isSome := by
  fun_induction digits? base text generalizing ds with
  | case1 => cases read
  | case2 first =>
    obtain ⟨d, value, rfl⟩ := Option.map_eq_some_iff.mp read
    rw [List.mem_singleton.mp mem, value]
    exact .inr rfl
  | case3 first rest ih | case4 first rest _ _ ih =>
    simp only [Option.bind_eq_bind, Option.bind_eq_some_iff, Option.pure_def,
      Option.some.injEq] at read
    obtain ⟨d, value, others, tail, rfl⟩ := read
    simp only [List.mem_cons] at mem
    grind

theorem digits?_of_forall {value : Char → Nat}
    (digit : ∀ c ∈ text, digitValue? base c = some (value c)) (ne : text ≠ []) :
    digits? base text = some (text.map value) := by
  fun_induction digits? base text with
  | case1 => exact absurd rfl ne
  | case2 c => simp [digit c List.mem_cons_self]
  | case3 c rest ih =>
    have none : digitValue? base '_' = none := rfl
    have some := digit '_' (by simp)
    rw [none] at some
    cases some
  | case4 c rest more _ ih =>
    rw [digit c List.mem_cons_self, ih (fun c mem => digit c (List.mem_cons_of_mem _ mem)) more]
    rfl

/-! ## Values -/

theorem valueOf_eq_ofDigits (base : Nat) (ds : List Nat) :
    valueOf base ds = Nat.ofDigits base ds.reverse := by
  rw [Nat.ofDigits_eq_foldr, List.foldr_reverse, valueOf]
  simp only [Nat.cast_id, Nat.mul_comm base, Nat.add_comm]

theorem ofDigits_lt_pow_iff (pos : 0 < base) (small : ∀ d ∈ ds, d < base) (k : Nat) :
    Nat.ofDigits base ds < base ^ k ↔ ∀ d ∈ ds.drop k, d = 0 := by
  induction ds generalizing k with
  | nil => simp [pos]
  | cons d rest ih =>
    have rest_small : ∀ d ∈ rest, d < base := fun d mem => small d (List.mem_cons_of_mem _ mem)
    have quotient : (d + base * Nat.ofDigits base rest) / base = Nat.ofDigits base rest := by
      rw [Nat.add_mul_div_left _ _ pos, Nat.div_eq_of_lt (small d List.mem_cons_self), Nat.zero_add]
    rw [Nat.ofDigits_cons]
    cases k with
    | zero =>
      have tail := ih rest_small 0
      simp only [Nat.pow_zero, Nat.lt_one_iff, List.drop_zero] at tail ⊢
      simp [tail, pos.ne']
    | succ k =>
      rw [List.drop_succ_cons, ← ih rest_small k, Nat.pow_succ, ← Nat.div_lt_iff_lt_mul pos,
        quotient]

/-- A numeral is below a power of its base if all digits but the last so many are zeros. -/
theorem valueOf_lt_pow_iff (pos : 0 < base) (small : ∀ d ∈ ds, d < base) (k : Nat) :
    valueOf base ds < base ^ k ↔ ∀ d ∈ ds.reverse.drop k, d = 0 := by
  rw [valueOf_eq_ofDigits]
  exact ofDigits_lt_pow_iff pos (by simpa using small) k

/-- Decimal digits read to either base. -/
theorem valueOf_lt_pow_congr (small : ∀ d ∈ ds, d < 10) (k : Nat) :
    valueOf 10 ds < 10 ^ k ↔ valueOf 16 ds < 16 ^ k := by
  have smaller : ∀ d ∈ ds, d < 16 := fun d mem => (small d mem).trans (by decide)
  rw [valueOf_lt_pow_iff (by decide) small, valueOf_lt_pow_iff (by decide) smaller]

/-! ## Reading -/

theorem dropAnnouncement_of_not_mem (lower : 'x' ∉ text) (upper : 'X' ∉ text) :
    dropAnnouncement text = text := by
  rw [dropAnnouncement.eq_def]
  split <;> simp_all

/-- A letter announces the base, so no decimal numeral is announced. -/
theorem dropAnnouncement_of_decimal (read : digits? 10 text = some ds) :
    dropAnnouncement text = text := by
  have no_letter (c : Char) (other : c ≠ '_') (none : digitValue? 10 c = none) : c ∉ text := by
    intro mem
    rcases isSome_of_mem read mem with rfl | some
    · exact other rfl
    · simp [none] at some
  exact dropAnnouncement_of_not_mem (no_letter 'x' (by decide) (by decide))
    (no_letter 'X' (by decide) (by decide))

def signed (negative : Bool) (n : Nat) : Int := if negative then -n else n

theorem signed_neg_iff (negative : Bool) (n : Nat) :
    signed negative n < 0 ↔ negative = true ∧ 0 < n := by
  cases negative <;> simp [signed]

/-- A text is read if what follows its sign is made of digits, not too many of them. -/
theorem read?_eq_some_iff {radix : Radix} {value : Int} :
    read? radix text = some value ↔
      ∃ negative body ds, splitSign (trim isAsciiBlank (text.map plain)) = (negative, body) ∧
        digits? radix.base (if radix.announced then dropAnnouncement body else body) = some ds ∧
        (∀ most ∈ radix.longest, ds.length ≤ most) ∧
        value = signed negative (valueOf radix.base ds) := by
  have too_long (ds : List Nat) :
      radix.longest.any (· < ds.length) = true ↔ ¬∀ most ∈ radix.longest, ds.length ≤ most := by
    cases radix.longest <;> simp
  generalize parts : splitSign (trim isAsciiBlank (text.map plain)) = split
  obtain ⟨negative, body⟩ := split
  simp only [read?, parts, Option.bind_eq_bind, Option.bind_eq_some_iff, Option.pure_def,
    Prod.mk.injEq]
  constructor
  · rintro ⟨ds, digits, fits⟩
    split at fits
    · cases fits
    · next short =>
      rw [too_long, not_not] at short
      exact ⟨negative, body, ds, ⟨rfl, rfl⟩, digits, short, (Option.some.inj fits).symm⟩
  · rintro ⟨_, _, ds, ⟨rfl, rfl⟩, digits, short, rfl⟩
    refine ⟨ds, digits, ?_⟩
    rw [if_neg (by rw [too_long, not_not]; exact short)]
    rfl

theorem read?_hexadecimal_of_decimal {value : Int} (read : read? decimal text = some value) :
    ∃ other, read? hexadecimal text = some other ∧ (value < 0 ↔ other < 0) := by
  obtain ⟨negative, body, ds, split, digits, -, rfl⟩ := read?_eq_some_iff.mp read
  have decimal_digits : digits? 10 body = some ds := digits
  have hexadecimal_digits : digits? 16 (dropAnnouncement body) = some ds := by
    rw [dropAnnouncement_of_decimal decimal_digits]
    exact digits?_of_le (by decide) decimal_digits
  refine ⟨signed negative (valueOf 16 ds),
    read?_eq_some_iff.mpr ⟨negative, body, ds, split, hexadecimal_digits, nofun, rfl⟩, ?_⟩
  have zero : valueOf 10 ds < 1 ↔ valueOf 16 ds < 1 :=
    valueOf_lt_pow_congr (digits?_lt decimal_digits) 0
  change signed negative (valueOf 10 ds) < 0 ↔ _
  rw [signed_neg_iff, signed_neg_iff]
  exact and_congr_right fun _ => by omega

theorem mem_of_splitSign {body : List Char} (unsigned : splitSign text = (false, body))
    (minus : '-' ∈ text) : '-' ∈ body := by
  rw [splitSign.eq_def] at unsigned
  split at unsigned <;> simp_all

theorem mem_dropAnnouncement (minus : '-' ∈ text) : '-' ∈ dropAnnouncement text := by
  rw [dropAnnouncement.eq_def]
  split <;> simp_all

/-- A minus in a numeral is its sign. -/
theorem nonpos_of_minus {value : Int} (read : read? hexadecimal text = some value)
    (minus : '-' ∈ text) : value ≤ 0 := by
  obtain ⟨negative, body, ds, split, digits, -, rfl⟩ := read?_eq_some_iff.mp read
  have kept : '-' ∈ trim isAsciiBlank (text.map plain) :=
    mem_trim (List.mem_map.mpr ⟨'-', minus, rfl⟩) (by decide)
  cases negative with
  | true => simp [signed]
  | false =>
    have inside : '-' ∈ dropAnnouncement body := mem_dropAnnouncement (mem_of_splitSign split kept)
    rcases isSome_of_mem digits inside with other | some
    · cases other
    · cases some

/-! ## Plain digits -/

/-- The ASCII digits to the base sixteen. -/
def hexDigits : List Char :=
  ['0', '1', '2', '3', '4', '5', '6', '7', '8', '9', 'a', 'b', 'c', 'd', 'e', 'f',
   'A', 'B', 'C', 'D', 'E', 'F']

/-- The value of a digit is its place in the row; a capital has that of the small letter. -/
def place (c : Char) : Nat := hexDigits.idxOf c.toLower

/-- What plain digits are worth to a base. -/
def worth (base : Nat) (text : List Char) : Nat := Nat.ofDigits base (text.reverse.map place)

/-- What holds of all characters of a list is found out by going through the list. -/
theorem forall_of_all {cs : List Char} {P : Char → Prop} [DecidablePred P]
    (all : cs.all fun c => decide (P c)) : ∀ c ∈ cs, P c :=
  fun c mem => of_decide_eq_true (List.all_eq_true.mp all c mem)

theorem valueOf_map_place (base : Nat) (text : List Char) :
    valueOf base (text.map place) = worth base text := by
  rw [valueOf_eq_ofDigits, worth, List.map_reverse]

variable (hex : ∀ c ∈ text, c ∈ hexDigits)

include hex

theorem not_mem_of_hex (other : c ∉ hexDigits) : c ∉ text := fun mem => other (hex c mem)

theorem plain_of_hex : text.map plain = text := by
  have each : ∀ c ∈ hexDigits, plain c = c := forall_of_all (by decide)
  rw [List.map_congr_left fun c mem => each c (hex c mem), List.map_id']

theorem trim_of_hex (ne : text ≠ []) : trim isAsciiBlank text = text := by
  have each : ∀ c ∈ hexDigits, isAsciiBlank c = false := forall_of_all (by decide)
  exact trim_eq_self (fun c mem => each c (hex c mem)) ne

theorem splitSign_of_hex : splitSign text = (false, text) := by
  have minus := not_mem_of_hex (c := '-') hex (by decide)
  have plus := not_mem_of_hex (c := '+') hex (by decide)
  rw [splitSign.eq_def]
  split <;> simp_all

/-- Plain digits are read as they stand. -/
theorem read?_of_hex (ne : text ≠ []) {radix : Radix} {value : Int} :
    read? radix text = some value ↔
      ∃ ds, digits? radix.base text = some ds ∧ (∀ most ∈ radix.longest, ds.length ≤ most) ∧
        value = valueOf radix.base ds := by
  have unannounced : dropAnnouncement text = text :=
    dropAnnouncement_of_not_mem (not_mem_of_hex hex (by decide)) (not_mem_of_hex hex (by decide))
  simp only [read?_eq_some_iff, plain_of_hex hex, trim_of_hex hex ne, splitSign_of_hex hex,
    Prod.mk.injEq]
  constructor
  · rintro ⟨_, _, ds, ⟨rfl, rfl⟩, digits, short, rfl⟩
    rw [unannounced, ite_self] at digits
    exact ⟨ds, digits, short, rfl⟩
  · rintro ⟨ds, digits, short, rfl⟩
    refine ⟨false, text, ds, ⟨rfl, rfl⟩, ?_, short, rfl⟩
    rwa [unannounced, ite_self]

theorem read?_hexadecimal (ne : text ≠ []) :
    read? hexadecimal text = some (worth 16 text : Int) := by
  have each : ∀ c ∈ hexDigits, digitValue? 16 c = some (place c) := forall_of_all (by decide)
  have digits : digits? 16 text = some (text.map place) :=
    digits?_of_forall (fun c mem => each c (hex c mem)) ne
  rw [← valueOf_map_place]
  exact (read?_of_hex hex ne).mpr ⟨_, digits, nofun, rfl⟩

theorem read?_decimal (ne : text ≠ []) :
    read? decimal text =
      if text.length ≤ 4300 ∧ text.all Char.isDigit then some (worth 10 text : Int) else none := by
  have each : ∀ c ∈ hexDigits, digitValue? 10 c = if c.isDigit then some (place c) else none :=
    forall_of_all (by decide)
  have digits (decimal : ∀ c ∈ text, c.isDigit) : digits? 10 text = some (text.map place) := by
    refine digits?_of_forall (fun c mem => ?_) ne
    rw [each c (hex c mem), if_pos (decimal c mem)]
  split
  · next h =>
    rw [← valueOf_map_place]
    refine (read?_of_hex hex ne).mpr ⟨_, digits (List.all_eq_true.mp h.2), ?_, rfl⟩
    rintro _ ⟨⟩
    rw [List.length_map]
    exact h.1
  · next h =>
    rw [Option.eq_none_iff_forall_ne_some]
    intro value read
    obtain ⟨ds, read, short, -⟩ := (read?_of_hex hex ne).mp read
    have decimal : ∀ c ∈ text, c.isDigit := by
      intro c mem
      rcases isSome_of_mem read mem with rfl | some
      · exact absurd mem (not_mem_of_hex hex (by decide))
      · by_contra other
        rw [show Numeral.decimal.base = 10 from rfl, each c (hex c mem), if_neg other] at some
        cases some
    have length : ds = text.map place := Option.some.inj (read.symm.trans (digits decimal))
    have short := short 4300 rfl
    rw [length, List.length_map] at short
    exact h ⟨short, List.all_eq_true.mpr decimal⟩

end Numeral

end Chip8.Text
