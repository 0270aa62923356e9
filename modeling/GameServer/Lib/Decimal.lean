import Mathlib.Algebra.Order.Ring.Int
import Mathlib.Data.List.TakeWhile
import Mathlib.Tactic.Common

/-!
# GameServer.Lib.Decimal

Decimal numbers as the C library reads and prints them.

`strtoull` and `strtoll` skip white space, take a sign and as many digits as
there are, and stop.  A text is a list of characters, one for each byte.

* `scanInteger` -- what both take from a text
* `stoull`, `stoll` -- the C++ conversions, with the text they did not take
* `Numeral` -- white space, a sign and digits, and nothing else
* `stoull_eq_some_nil_iff` -- the texts `stoull` takes whole, and their values
* `stoull_printNat`, `stoll_printInt` -- what is printed reads back
-/

namespace GameServer

/-- `isspace` of the C locale. -/
def isSpace (c : Char) : Bool := c == ' ' || decide (9 ≤ c.toNat) && decide (c.toNat ≤ 13)

/-- A sign is taken if there is one. -/
def scanSign : List Char → Bool × List Char
  | [] => (false, [])
  | c :: s => if c = '-' then (true, s) else if c = '+' then (false, s) else (false, c :: s)

/-- The parts of a text that begins with a number. -/
structure IntegerScan where
  negative : Bool
  digits : List Char
  rest : List Char
deriving DecidableEq, Repr

def scanInteger (s : List Char) : IntegerScan :=
  let signed := scanSign (s.dropWhile isSpace)
  { negative := signed.1
    digits := signed.2.takeWhile Char.isDigit
    rest := signed.2.dropWhile Char.isDigit }

def IntegerScan.magnitude (scan : IntegerScan) : Nat := Nat.ofDigitChars 10 scan.digits 0

/-- The value of a scan. -/
def IntegerScan.value (scan : IntegerScan) : Int :=
  if scan.negative then -scan.magnitude else scan.magnitude

/-- `std::stoull`: the value and the text after it, or an exception.  A minus
sign negates the unsigned value; only the magnitude can be out of range. -/
def stoull (s : List Char) : Option (UInt64 × List Char) :=
  let scan := scanInteger s
  if scan.digits = [] ∨ 2 ^ 64 ≤ scan.magnitude then none
  else
    let n := UInt64.ofNat scan.magnitude
    some (if scan.negative then -n else n, scan.rest)

/-- `std::stoll`. -/
def stoll (s : List Char) : Option (Int64 × List Char) :=
  let scan := scanInteger s
  if scan.digits = [] ∨ scan.value < -2 ^ 63 ∨ 2 ^ 63 ≤ scan.value then none
  else some (Int64.ofInt scan.value, scan.rest)

/-- The text of an unsigned number. -/
def printNat (n : Nat) : List Char := Nat.toDigits 10 n

/-- The text of a number. -/
def printInt (i : Int) : List Char :=
  if i < 0 then '-' :: printNat i.natAbs else printNat i.natAbs

/-! ## Scans -/

/-- A digit is no white space. -/
theorem isSpace_eq_false_of_isDigit {c : Char} (h : c.isDigit = true) : isSpace c = false := by
  have hbounds : 48 ≤ c.toNat ∧ c.toNat ≤ 57 := by
    simpa [Char.isDigit, UInt32.le_iff_toNat_le] using h
  have hspace : c ≠ ' ' := by
    rintro rfl
    exact absurd hbounds.1 (by decide)
  simp only [isSpace, beq_eq_false_iff_ne.mpr hspace, Bool.false_or, Bool.and_eq_false_iff,
    decide_eq_false_iff_not]
  omega

/-- Nothing is dropped in front of a text that begins with something else. -/
theorem dropWhile_append_of_head {p : Char → Bool} {l s : List Char} (hl : ∀ c ∈ l, p c = true)
    (hs : ∀ c, s.head? = some c → p c = false) : (l ++ s).dropWhile p = s := by
  rw [List.dropWhile_append_of_pos hl]
  cases s with
  | nil => rfl
  | cons c s => exact List.dropWhile_cons_of_neg (by simp [hs c rfl])

theorem takeWhile_append_of_head {p : Char → Bool} {l s : List Char} (hl : ∀ c ∈ l, p c = true)
    (hs : ∀ c, s.head? = some c → p c = false) : (l ++ s).takeWhile p = l := by
  rw [List.takeWhile_append_of_pos hl]
  cases s with
  | nil => simp
  | cons c s => rw [List.takeWhile_cons_of_neg (by simp [hs c rfl]), List.append_nil]

/-- A text made of white space, a sign, digits and something that is no digit
is taken apart into these. -/
theorem scanInteger_append {space sign digits rest : List Char}
    (hspace : ∀ c ∈ space, isSpace c = true) (hsign : sign ∈ [[], ['+'], ['-']])
    (hne : digits ≠ []) (hdigits : ∀ c ∈ digits, c.isDigit = true)
    (hrest : ∀ c, rest.head? = some c → c.isDigit = false) :
    scanInteger (space ++ (sign ++ (digits ++ rest))) =
      { negative := sign = ['-'], digits, rest } := by
  obtain ⟨d, ds, rfl⟩ := List.exists_cons_of_ne_nil hne
  have hd : d.isDigit = true := hdigits d List.mem_cons_self
  have hsigned : (space ++ (sign ++ (d :: ds ++ rest))).dropWhile isSpace =
      sign ++ (d :: ds ++ rest) := by
    refine dropWhile_append_of_head hspace fun c hc => ?_
    simp only [List.mem_cons, List.not_mem_nil, or_false] at hsign
    rcases hsign with rfl | rfl | rfl
    · rw [← Option.some.inj hc]
      exact isSpace_eq_false_of_isDigit hd
    · rw [← Option.some.inj hc]
      rfl
    · rw [← Option.some.inj hc]
      rfl
  have hscan : scanSign (sign ++ (d :: ds ++ rest)) =
      (decide (sign = ['-']), d :: ds ++ rest) := by
    simp only [List.mem_cons, List.not_mem_nil, or_false] at hsign
    rcases hsign with rfl | rfl | rfl
    · have hminus : d ≠ '-' := by
        rintro rfl
        exact absurd hd (by decide)
      have hplus : d ≠ '+' := by
        rintro rfl
        exact absurd hd (by decide)
      simp [scanSign, hminus, hplus]
    · rfl
    · rfl
  rw [scanInteger, hsigned, hscan]
  simp only [takeWhile_append_of_head hdigits hrest, dropWhile_append_of_head hdigits hrest]

/-- Every text is made of white space, a sign, the digits and the rest. -/
theorem exists_append_scanInteger (s : List Char) :
    ∃ space sign, (∀ c ∈ space, isSpace c = true) ∧ sign ∈ [[], ['+'], ['-']] ∧
      s = space ++ (sign ++ ((scanInteger s).digits ++ (scanInteger s).rest)) ∧
      (scanInteger s).negative = decide (sign = ['-']) := by
  have hsign : ∀ t : List Char, ∃ sign, sign ∈ [[], ['+'], ['-']] ∧ t = sign ++ (scanSign t).2 ∧
      (scanSign t).1 = decide (sign = ['-']) := by
    intro t
    cases t with
    | nil => exact ⟨[], by simp, rfl, rfl⟩
    | cons c t =>
        by_cases hminus : c = '-'
        · exact ⟨['-'], by simp, by simp [scanSign, hminus], by simp [scanSign, hminus]⟩
        · by_cases hplus : c = '+'
          · exact ⟨['+'], by simp, by simp [scanSign, hplus], by simp [scanSign, hplus]⟩
          · exact ⟨[], by simp, by simp [scanSign, hminus, hplus],
              by simp [scanSign, hminus, hplus]⟩
  obtain ⟨sign, hmem, hsplit, hneg⟩ := hsign (s.dropWhile isSpace)
  refine ⟨s.takeWhile isSpace, sign, fun c hc => List.mem_takeWhile_imp hc, hmem, ?_, hneg⟩
  rw [scanInteger]
  dsimp only
  rw [List.takeWhile_append_dropWhile, ← hsplit, List.takeWhile_append_dropWhile]

/-! ## Numerals -/

/-- White space, this sign and digits that denote `n`. -/
def Numeral (sign s : List Char) (n : Nat) : Prop :=
  ∃ space digits, (∀ c ∈ space, isSpace c = true) ∧ digits ≠ [] ∧
    (∀ c ∈ digits, c.isDigit = true) ∧ s = space ++ (sign ++ digits) ∧
    n = Nat.ofDigitChars 10 digits 0

/-- The text denotes `n` with an optional plus sign. -/
def Denotes (s : List Char) (n : Nat) : Prop := Numeral [] s n ∨ Numeral ['+'] s n

/-- A numeral is scanned to its end, sign and digits. -/
theorem Numeral.scanInteger_eq {sign s : List Char} {n : Nat} (h : Numeral sign s n)
    (hsign : sign ∈ [[], ['+'], ['-']]) :
    (scanInteger s).negative = decide (sign = ['-']) ∧ (scanInteger s).digits ≠ [] ∧
      (scanInteger s).rest = [] ∧ (scanInteger s).magnitude = n := by
  obtain ⟨space, digits, hspace, hne, hdigits, rfl, rfl⟩ := h
  have hscan : scanInteger (space ++ (sign ++ (digits ++ []))) =
      { negative := sign = ['-'], digits, rest := [] } :=
    scanInteger_append hspace hsign hne hdigits fun c hc => absurd hc.symm (Option.some_ne_none c)
  rw [List.append_nil] at hscan
  rw [hscan]
  exact ⟨rfl, hne, rfl, rfl⟩

/-- A scan that takes the whole text. -/
theorem exists_numeral {s : List Char} (hne : (scanInteger s).digits ≠ [])
    (hrest : (scanInteger s).rest = []) :
    ∃ sign, sign ∈ [[], ['+'], ['-']] ∧ Numeral sign s (scanInteger s).magnitude ∧
      (scanInteger s).negative = decide (sign = ['-']) := by
  obtain ⟨space, sign, hspace, hsign, hsplit, hneg⟩ := exists_append_scanInteger s
  rw [hrest, List.append_nil] at hsplit
  refine ⟨sign, hsign, ⟨space, _, hspace, hne, fun c hc => ?_, hsplit, rfl⟩, hneg⟩
  exact List.mem_takeWhile_imp hc

theorem mem_signs_of_ne_minus {sign : List Char} (hsign : sign ∈ [[], ['+'], ['-']])
    (hne : sign ≠ ['-']) : sign = [] ∨ sign = ['+'] := by
  simpa [hne] using hsign

/-- A numeral with a minus sign denotes no unsigned number. -/
theorem Numeral.not_denotes {s : List Char} {n m : Nat} (h : Numeral ['-'] s n) :
    ¬Denotes s m := by
  have hminus := (h.scanInteger_eq (by simp)).1
  rintro (hplain | hplus)
  · have hneg := (hplain.scanInteger_eq (by simp)).1
    rw [hminus] at hneg
    exact absurd hneg (by decide)
  · have hneg := (hplus.scanInteger_eq (by simp)).1
    rw [hminus] at hneg
    exact absurd hneg (by decide)

/-- A text that denotes an unsigned number has no minus sign. -/
theorem Denotes.minus_not_mem {s : List Char} {n : Nat} (h : Denotes s n) : '-' ∉ s := by
  have hspace : ∀ l : List Char, (∀ c ∈ l, isSpace c = true) → '-' ∉ l := fun l hl hmem =>
    absurd (hl '-' hmem) (by decide)
  have hdigit : ∀ l : List Char, (∀ c ∈ l, c.isDigit = true) → '-' ∉ l := fun l hl hmem =>
    absurd (hl '-' hmem) (by decide)
  rcases h with ⟨space, digits, hs, -, hd, rfl, -⟩ | ⟨space, digits, hs, -, hd, rfl, -⟩
  · simp [hspace space hs, hdigit digits hd]
  · simp [hspace space hs, hdigit digits hd]

/-- **The texts that `stoull` takes whole**: numerals below `2 ^ 64`.  A minus
sign negates the value. -/
theorem stoull_eq_some_nil_iff_numeral {s : List Char} {v : UInt64} :
    stoull s = some (v, []) ↔
      ∃ sign ∈ [[], ['+'], ['-']], ∃ n < 2 ^ 64, Numeral sign s n ∧
        v = if sign = ['-'] then -UInt64.ofNat n else UInt64.ofNat n := by
  constructor
  · intro h
    dsimp only [stoull] at h
    split at h
    next => exact absurd h.symm (Option.some_ne_none _)
    next hfits =>
      rw [not_or, Nat.not_le] at hfits
      obtain ⟨hv, hrest⟩ := Prod.mk.inj (Option.some.inj h)
      obtain ⟨sign, hsign, hnum, hneg⟩ := exists_numeral hfits.1 hrest
      simp only [hneg, decide_eq_true_eq] at hv
      exact ⟨sign, hsign, _, hfits.2, hnum, hv.symm⟩
  · rintro ⟨sign, hsign, n, hn, hnum, rfl⟩
    obtain ⟨hneg, hne, hrest, hmag⟩ := hnum.scanInteger_eq hsign
    have hfits : ¬((scanInteger s).digits = [] ∨ 2 ^ 64 ≤ (scanInteger s).magnitude) := by
      rw [not_or, Nat.not_le, hmag]
      exact ⟨hne, hn⟩
    rw [stoull, if_neg hfits]
    simp only [hneg, hmag, hrest, decide_eq_true_eq]

/-- Without the minus sign they denote their values, with it these wrap around. -/
theorem stoull_eq_some_nil_iff {s : List Char} {v : UInt64} :
    stoull s = some (v, []) ↔
      ∃ n < 2 ^ 64, Denotes s n ∧ v = UInt64.ofNat n ∨
        Numeral ['-'] s n ∧ v = -UInt64.ofNat n := by
  rw [stoull_eq_some_nil_iff_numeral]
  constructor
  · rintro ⟨sign, hsign, n, hn, hnum, rfl⟩
    by_cases hminus : sign = ['-']
    · subst hminus
      exact ⟨n, hn, .inr ⟨hnum, if_pos rfl⟩⟩
    · refine ⟨n, hn, .inl ⟨?_, if_neg hminus⟩⟩
      rcases mem_signs_of_ne_minus hsign hminus with rfl | rfl
      · exact .inl hnum
      · exact .inr hnum
  · rintro ⟨n, hn, ⟨hplain | hplus, rfl⟩ | ⟨hminus, rfl⟩⟩
    · exact ⟨_, by simp, n, hn, hplain, rfl⟩
    · exact ⟨_, by simp, n, hn, hplus, rfl⟩
    · exact ⟨_, by simp, n, hn, hminus, rfl⟩

/-! ## Printing -/

theorem isDigit_of_mem_printNat {n : Nat} {c : Char} (h : c ∈ printNat n) : c.isDigit = true :=
  Nat.isDigit_of_mem_toDigits (by decide) (by decide) h

/-- A printed number behind a sign is a numeral. -/
theorem numeral_printNat (sign : List Char) (n : Nat) : Numeral sign (sign ++ printNat n) n :=
  ⟨[], printNat n, List.forall_mem_nil _, Nat.toDigits_ne_nil,
    fun _ hc => isDigit_of_mem_printNat hc, rfl, Nat.ofDigitChars_ten_toDigits.symm⟩

/-- An unsigned number that was printed reads back. -/
theorem stoull_printNat {n : Nat} (h : n < 2 ^ 64) :
    stoull (printNat n) = some (UInt64.ofNat n, []) :=
  stoull_eq_some_nil_iff.mpr ⟨n, h, .inl ⟨.inl (numeral_printNat [] n), rfl⟩⟩

/-- A printed integer is scanned back. -/
theorem value_printInt (i : Int) :
    (scanInteger (printInt i)).digits ≠ [] ∧ (scanInteger (printInt i)).rest = [] ∧
      (scanInteger (printInt i)).value = i := by
  unfold printInt
  split_ifs with hneg
  · have hnum : Numeral ['-'] ('-' :: printNat i.natAbs) i.natAbs := numeral_printNat ['-'] _
    obtain ⟨hsign, hne, hrest, hmag⟩ := hnum.scanInteger_eq (by simp)
    refine ⟨hne, hrest, ?_⟩
    rw [IntegerScan.value, hsign, hmag, if_pos (by decide)]
    omega
  · have hnum : Numeral [] (printNat i.natAbs) i.natAbs := numeral_printNat [] _
    obtain ⟨hsign, hne, hrest, hmag⟩ := hnum.scanInteger_eq (by simp)
    refine ⟨hne, hrest, ?_⟩
    rw [IntegerScan.value, hsign, hmag, if_neg (by decide)]
    omega

theorem printInt_ne_nil (i : Int) : printInt i ≠ [] := by
  unfold printInt
  split_ifs
  · exact List.cons_ne_nil _ _
  · exact Nat.toDigits_ne_nil

theorem printInt_natCast (n : Nat) : printInt n = printNat n := by
  rw [printInt, if_neg (by omega), Int.natAbs_natCast]

/-- The text of a number has a sign and digits only. -/
theorem mem_printInt {i : Int} {c : Char} (h : c ∈ printInt i) : c = '-' ∨ c.isDigit = true := by
  unfold printInt at h
  split_ifs at h
  · rcases List.mem_cons.mp h with hsign | hdigit
    · exact .inl hsign
    · exact .inr (isDigit_of_mem_printNat hdigit)
  · exact .inr (isDigit_of_mem_printNat h)

/-- A number that was printed reads back. -/
theorem stoll_printInt {i : Int} (hlow : -2 ^ 63 ≤ i) (hhigh : i < 2 ^ 63) :
    stoll (printInt i) = some (Int64.ofInt i, []) := by
  obtain ⟨hne, hrest, hvalue⟩ := value_printInt i
  simp only [stoll, hne, hrest, hvalue, false_or]
  rw [if_neg (by omega)]

end GameServer
