import GameServer.Lib.Decimal

/-!
# GameServer.Config.NumericParse

The unsigned numbers of the configuration files
(`server_common/config/runtime_ini_sanity.h`).

`TryParseU32` and `TryParseU16` ask `std::stoull` for the value of the whole
text and compare it with the largest of the type.  A minus sign is not refused:
it negates the 64-bit value, and what comes out small enough is accepted.

* `tryParseU32`, `tryParseU16`, `parseU32OrKeep`, `parseU16OrKeep`
* `ParsesExactly` -- what is accepted are the numbers of the type
* `WrapsInto` -- a negated number that comes out small enough
* `parsesExactly_iff` -- the two differ on exactly these texts
-/

namespace GameServer.Config

/-! ## Parsing -/

/-- `TryParseUnsignedImpl`, for the type with this largest value. -/
def tryParseUnsignedImpl (max : Nat) (s : List Char) : Option Nat :=
  match stoull s with
  | none => none
  | some (v, rest) => if rest ≠ [] ∨ max < v.toNat then none else some v.toNat

/-- `TryParseU32`. -/
def tryParseU32 (s : String) : Option UInt32 :=
  (tryParseUnsignedImpl (2 ^ 32 - 1) s.toList).map UInt32.ofNat

/-- `TryParseU16`. -/
def tryParseU16 (s : String) : Option UInt16 :=
  (tryParseUnsignedImpl (2 ^ 16 - 1) s.toList).map UInt16.ofNat

/-- What a parse leaves: its answer, the target, and the texts it reports. -/
structure ParseOutcome (α : Type) where
  ok : Bool
  value : α
  error : Option String := none
  warn : Option String := none
deriving DecidableEq, Repr

/-- `ParseOrKeepNumericImpl`: an empty text is fine and changes nothing, a bad
one keeps the old value. -/
def parseOrKeepNumericImpl {α : Type} (print : α → String) (parse : String → Option α)
    (key raw : String) (value : α) (failFast : Bool) : ParseOutcome α :=
  if raw.isEmpty then { ok := true, value }
  else
    match parse raw with
    | some parsed => { ok := true, value := parsed }
    | none =>
        let text := "invalid numeric config: " ++ key ++ "='" ++ raw ++ "'"
        if failFast then { ok := false, value, error := some text }
        else { ok := true, value, warn := some (text ++ " -> keep(" ++ print value ++ ")") }

/-- `ParseU32OrKeep`. -/
def parseU32OrKeep (key raw : String) (value : UInt32) (failFast : Bool) : ParseOutcome UInt32 :=
  parseOrKeepNumericImpl (fun v => toString v.toNat) tryParseU32 key raw value failFast

/-- `ParseU16OrKeep`. -/
def parseU16OrKeep (key raw : String) (value : UInt16) (failFast : Bool) : ParseOutcome UInt16 :=
  parseOrKeepNumericImpl (fun v => toString v.toNat) tryParseU16 key raw value failFast

/-! ## What is accepted -/

/-- What was parsed from a text is exactly the number that it denotes with an
optional plus sign, if it is at most `max`, and nothing where there is a minus
sign. -/
structure ParsesExactly (parsed : Option Nat) (max : Nat) (s : List Char) : Prop where
  accepts_iff : ∀ v, parsed = some v ↔ Denotes s v ∧ v ≤ max
  no_minus : '-' ∈ s → parsed = none

/-- A minus sign and digits whose negation comes out at most `max`. -/
def WrapsInto (max : Nat) (s : List Char) : Prop :=
  ∃ n < 2 ^ 64, Numeral ['-'] s n ∧ (2 ^ 64 - n) % 2 ^ 64 ≤ max

/-- The parse accepts what `stoull` reads to the end and the type can hold. -/
theorem tryParseUnsignedImpl_eq_some_iff {max : Nat} {s : List Char} {v : Nat} :
    tryParseUnsignedImpl max s = some v ↔
      ∃ r : UInt64, stoull s = some (r, []) ∧ r.toNat ≤ max ∧ r.toNat = v := by
  unfold tryParseUnsignedImpl
  split
  · next hnone =>
    simp [hnone]
  · next r rest hsome =>
    rw [hsome]
    split_ifs with hfail
    · refine iff_of_false id ?_
      rintro ⟨r', heq, hle, -⟩
      obtain ⟨rfl, rfl⟩ := Prod.mk.inj (Option.some.inj heq)
      rcases hfail with hrest | hlt
      · exact hrest rfl
      · omega
    · rw [not_or, not_not, Nat.not_lt] at hfail
      obtain ⟨rfl, hle⟩ := hfail
      constructor
      · intro h
        exact ⟨r, rfl, hle, Option.some.inj h⟩
      · rintro ⟨r', heq, -, hv⟩
        rw [(Prod.mk.inj (Option.some.inj heq)).1, hv]

theorem toNat_neg_ofNat {n : Nat} (hn : n < 2 ^ 64) :
    (-UInt64.ofNat n).toNat = (2 ^ 64 - n) % 2 ^ 64 := by
  rw [UInt64.toNat_neg, UInt64.toNat_ofNat_of_lt' hn]
  rfl

/-- What is accepted: the numbers of the type, and the negated ones that come
out as one. -/
theorem tryParseUnsignedImpl_iff {max : Nat} (hmax : max < 2 ^ 64) {s : List Char} {v : Nat} :
    tryParseUnsignedImpl max s = some v ↔
      Denotes s v ∧ v ≤ max ∨
      ∃ n < 2 ^ 64, Numeral ['-'] s n ∧ (2 ^ 64 - n) % 2 ^ 64 = v ∧ v ≤ max := by
  rw [tryParseUnsignedImpl_eq_some_iff]
  constructor
  · rintro ⟨r, hr, hle, rfl⟩
    obtain ⟨n, hn, ⟨hden, rfl⟩ | ⟨hnum, rfl⟩⟩ := stoull_eq_some_nil_iff.mp hr
    · rw [UInt64.toNat_ofNat_of_lt' hn] at hle ⊢
      exact .inl ⟨hden, hle⟩
    · rw [toNat_neg_ofNat hn] at hle ⊢
      exact .inr ⟨n, hn, hnum, rfl, hle⟩
  · rintro (⟨hden, hle⟩ | ⟨n, hn, hnum, rfl, hle⟩)
    · have hv : v < 2 ^ 64 := hle.trans_lt hmax
      have hvalue : (UInt64.ofNat v).toNat = v := UInt64.toNat_ofNat_of_lt' hv
      exact ⟨UInt64.ofNat v, stoull_eq_some_nil_iff.mpr ⟨v, hv, .inl ⟨hden, rfl⟩⟩,
        hvalue.le.trans hle, hvalue⟩
    · have hvalue := toNat_neg_ofNat hn
      exact ⟨-UInt64.ofNat n, stoull_eq_some_nil_iff.mpr ⟨n, hn, .inr ⟨hnum, rfl⟩⟩,
        hvalue.le.trans hle, hvalue⟩

/-- The texts that are accepted although they do not denote a number of the
type are those that wrap into one. -/
theorem parsesExactly_iff_not_wraps {max : Nat} (hmax : max < 2 ^ 64) (s : List Char) :
    ParsesExactly (tryParseUnsignedImpl max s) max s ↔ ¬WrapsInto max s := by
  constructor
  · rintro h ⟨n, hn, hnum, hle⟩
    have haccept : tryParseUnsignedImpl max s = some ((2 ^ 64 - n) % 2 ^ 64) :=
      (tryParseUnsignedImpl_iff hmax).mpr (.inr ⟨n, hn, hnum, rfl, hle⟩)
    exact hnum.not_denotes ((h.accepts_iff _).mp haccept).1
  · intro hwraps
    have haccepts : ∀ v, tryParseUnsignedImpl max s = some v ↔ Denotes s v ∧ v ≤ max := by
      intro v
      rw [tryParseUnsignedImpl_iff hmax]
      refine or_iff_left fun ⟨n, hn, hnum, hv, hle⟩ => hwraps ⟨n, hn, hnum, ?_⟩
      rw [hv]
      exact hle
    refine ⟨haccepts, fun hminus => ?_⟩
    cases hparse : tryParseUnsignedImpl max s with
    | none => rfl
    | some v => exact absurd hminus ((haccepts v).mp hparse).1.minus_not_mem

/-! ## The two types -/

/-- The cast to the type keeps what was accepted. -/
theorem tryParseUnsignedImpl_le {max : Nat} {s : List Char} {v : Nat}
    (h : tryParseUnsignedImpl max s = some v) : v ≤ max := by
  obtain ⟨r, -, hle, rfl⟩ := tryParseUnsignedImpl_eq_some_iff.mp h
  exact hle

/-- The 32-bit parser is the common one at its own bound. -/
theorem toNat_tryParseU32 (s : String) :
    (tryParseU32 s).map UInt32.toNat = tryParseUnsignedImpl (2 ^ 32 - 1) s.toList := by
  rw [tryParseU32]
  cases hparse : tryParseUnsignedImpl (2 ^ 32 - 1) s.toList with
  | none => rfl
  | some v =>
      have hlt : v < 2 ^ 32 := (tryParseUnsignedImpl_le hparse).trans_lt (by decide)
      rw [Option.map_some, Option.map_some, UInt32.toNat_ofNat_of_lt' hlt]

/-- So is the 16-bit parser. -/
theorem toNat_tryParseU16 (s : String) :
    (tryParseU16 s).map UInt16.toNat = tryParseUnsignedImpl (2 ^ 16 - 1) s.toList := by
  rw [tryParseU16]
  cases hparse : tryParseUnsignedImpl (2 ^ 16 - 1) s.toList with
  | none => rfl
  | some v =>
      have hlt : v < 2 ^ 16 := (tryParseUnsignedImpl_le hparse).trans_lt (by decide)
      rw [Option.map_some, Option.map_some, UInt16.toNat_ofNat_of_lt' hlt]

/-- A failed parse keeps the old value. -/
theorem value_parseOrKeepNumericImpl {α : Type} {print : α → String}
    {parse : String → Option α} {raw : String} (h : parse raw = none) (key : String) (value : α)
    (failFast : Bool) :
    (parseOrKeepNumericImpl print parse key raw value failFast).value = value := by
  unfold parseOrKeepNumericImpl
  rw [h]
  split
  · rfl
  · cases failFast <;> rfl

/-- Both parsers accept exactly the numbers of their type, and keep the old
value otherwise, for exactly the texts that do not wrap. -/
theorem parsesExactly_iff (s : String) :
    (ParsesExactly ((tryParseU32 s).map UInt32.toNat) (2 ^ 32 - 1) s.toList ∧
        (tryParseU32 s = none →
          ∀ key value failFast, (parseU32OrKeep key s value failFast).value = value) ↔
      ¬WrapsInto (2 ^ 32 - 1) s.toList) ∧
    (ParsesExactly ((tryParseU16 s).map UInt16.toNat) (2 ^ 16 - 1) s.toList ∧
        (tryParseU16 s = none →
          ∀ key value failFast, (parseU16OrKeep key s value failFast).value = value) ↔
      ¬WrapsInto (2 ^ 16 - 1) s.toList) := by
  rw [toNat_tryParseU32, toNat_tryParseU16]
  constructor
  · refine (and_iff_left fun hnone => ?_).trans (parsesExactly_iff_not_wraps (by decide) s.toList)
    exact value_parseOrKeepNumericImpl hnone
  · refine (and_iff_left fun hnone => ?_).trans (parsesExactly_iff_not_wraps (by decide) s.toList)
    exact value_parseOrKeepNumericImpl hnone

/-- A negated number is accepted as 1. -/
theorem negative_accepted :
    tryParseU32 "-18446744073709551615" = some 1 ∧
    ¬ParsesExactly ((tryParseU32 "-18446744073709551615").map UInt32.toNat) (2 ^ 32 - 1)
      "-18446744073709551615".toList := by
  have haccept : tryParseU32 "-18446744073709551615" = some 1 := by decide
  refine ⟨haccept, fun h => ?_⟩
  have hnone := h.no_minus (by decide)
  rw [haccept] at hnone
  exact Option.some_ne_none _ hnone

end GameServer.Config
