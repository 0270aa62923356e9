import GameServer.Lib.JoinedNumbers
import Mathlib.Data.UInt

/-!
# GameServer.Account.WorldTokens

How the account server makes the token of a world ticket.

`ToHexToken_` prints two random words in hexadecimal, one after the other and
without leading zeros, and appends zeros up to 32 characters.  As the end of
the first word is not marked, different words can have one token.

* `toHexToken`, `generateWorldToken` — the token of two words, and of two
  draws from a generator
* `toHexToken_eq_iff` — tokens are equal if the words are joined to the same
* `tokens_iff` — the words whose token no other words have
-/

namespace GameServer

/-! ## Tokens -/

/-- `oss << std::hex << n`. -/
def hexText (n : UInt64) : List Char := Nat.toDigits 16 n.toNat

/-- `ToHexToken_`. -/
def toHexToken (a b : UInt64) : String :=
  let s := hexText a ++ hexText b
  let s := if 32 < s.length then s.take 32 else s
  let s := if s.length < 32 then s ++ List.replicate (32 - s.length) '0' else s
  String.ofList s

section Generator

variable {State : Type} (rng : State → UInt64 × State)

/-- The 128 bits that a token takes from a generator: its next two words. -/
def drawnWords (s : State) : UInt64 × UInt64 :=
  let first := rng s
  let second := rng first.2
  (first.1, second.1)

/-- The arguments of `ToHexToken_(rng(), rng())`; which of them is evaluated
first is left to the compiler. -/
def tokenArguments (leftFirst : Bool) (s : State) : UInt64 × UInt64 :=
  let drawn := drawnWords rng s
  if leftFirst then drawn else drawn.swap

/-- `GenerateWorldToken_`. -/
def generateWorldToken (leftFirst : Bool) (s : State) : String :=
  toHexToken (tokenArguments rng leftFirst s).1 (tokenArguments rng leftFirst s).2

end Generator

/-! ## The digits of a token -/

theorem word_lt (n : UInt64) : n.toNat < 16 ^ 16 := n.toNat_lt

theorem log_word_lt (n : UInt64) : Nat.log 16 n.toNat < 16 := log_lt_width (by decide) (word_lt n)

theorem length_hexText (n : UInt64) : (hexText n).length = Nat.log 16 n.toNat + 1 := by
  rw [hexText, toDigits_eq (by decide), List.length_map, length_digitsBE]

/-- A token shows the joined words in 32 places. -/
theorem toHexToken_eq (a b : UInt64) :
    toHexToken a b =
      String.ofList ((digitsBE 16 32 (joined 16 16 a.toNat b.toNat)).map Nat.digitChar) := by
  have ha := log_word_lt a
  have hb := log_word_lt b
  have hlength : (hexText a ++ hexText b).length =
      Nat.log 16 a.toNat + Nat.log 16 b.toNat + 2 := by
    rw [List.length_append, length_hexText, length_hexText]
    omega
  have hfits : ¬32 < (hexText a ++ hexText b).length := by omega
  -- the two texts, and the zeros behind them
  have hdigits : (digitsBE 16 32 (joined 16 16 a.toNat b.toNat)).map Nat.digitChar =
      hexText a ++ hexText b ++ List.replicate (32 - (hexText a ++ hexText b).length) '0' := by
    rw [digitsBE_joined (w := 16) (by decide) ha hb, hlength, hexText, hexText,
      toDigits_eq (by decide), toDigits_eq (by decide), List.map_append, List.map_append,
      List.map_replicate]
    rfl
  rw [hdigits, toHexToken]
  simp only [if_neg hfits]
  split
  next => rfl
  next hfull =>
    rw [Nat.sub_eq_zero_of_le (Nat.le_of_not_lt hfull), List.replicate_zero, List.append_nil]

/-- The characters of digits tell them apart. -/
theorem map_digitChar_inj {l l' : List Nat} (hl : ∀ d ∈ l, d < 16) (hl' : ∀ d ∈ l', d < 16) :
    l.map Nat.digitChar = l'.map Nat.digitChar ↔ l = l' := by
  refine ⟨fun h => ?_, fun h => h ▸ rfl⟩
  have hchar : ∀ d < 16, ∀ d' < 16, Nat.digitChar d = Nat.digitChar d' → d = d' := by decide
  induction l generalizing l' with
  | nil => exact (List.map_eq_nil_iff.mp h.symm).symm
  | cons d l ih =>
      cases l' with
      | nil => cases h
      | cons d' l' =>
          rw [List.map_cons, List.map_cons, List.cons.injEq] at h
          rw [List.forall_mem_cons] at hl hl'
          rw [hchar d hl.1 d' hl'.1 h.1, ih hl.2 hl'.2 h.2]

/-- Words have the same token **exactly if** they are joined to the same. -/
theorem toHexToken_eq_iff {a b a' b' : UInt64} :
    toHexToken a' b' = toHexToken a b ↔
      joined 16 16 a'.toNat b'.toNat = joined 16 16 a.toNat b.toNat := by
  have hlt : ∀ a b : UInt64, joined 16 16 a.toNat b.toNat < 16 ^ 32 := fun a b =>
    joined_lt (w := 16) (by decide) (log_word_lt a) (log_word_lt b)
  have hdigit : ∀ n, ∀ d ∈ digitsBE 16 32 n, d < 16 := fun n d hd =>
    lt_of_mem_digitsBE (by decide) hd
  rw [toHexToken_eq, toHexToken_eq, String.ofList_inj, map_digitChar_inj (hdigit _) (hdigit _),
    digitsBE_inj, Nat.mod_eq_of_lt (hlt _ _), Nat.mod_eq_of_lt (hlt _ _)]

/-! ## Tokens that no other words have -/

/-- No other pair of words has the token of this one. -/
def TokenUnshared (words : UInt64 × UInt64) : Prop :=
  ∀ words' : UInt64 × UInt64,
    toHexToken words'.1 words'.2 = toHexToken words.1 words.2 → words' = words

/-- No generator draws other words for the same token. -/
def DrawsUnshared {State : Type} (rng : State → UInt64 × State) (leftFirst : Bool) (s : State) :
    Prop :=
  ∀ {State' : Type} (rng' : State' → UInt64 × State') (s' : State'),
    generateWorldToken rng' leftFirst s' = generateWorldToken rng leftFirst s →
      drawnWords rng' s' = drawnWords rng s

/-- Where the first word ends can be told from the token: both words are zero,
or the second one has all its 16 digits, ends in a digit other than zero and
has, behind its first digit, zeros down to where the leading digit of the
first word would stand. -/
def WordsDelimited (words : UInt64 × UInt64) : Prop :=
  Delimits 16 16 words.1.toNat words.2.toNat

instance (words : UInt64 × UInt64) : Decidable (WordsDelimited words) :=
  inferInstanceAs (Decidable (Delimits ..))

/-- A token is shared exactly if its words can be cut in another place. -/
theorem tokenUnshared_iff (words : UInt64 × UInt64) :
    TokenUnshared words ↔ WordsDelimited words := by
  obtain ⟨a, b⟩ := words
  rw [WordsDelimited, ← joined_unshared_iff (by decide) (by decide) (word_lt a) (word_lt b)]
  constructor
  · intro h x' hx' y' hy' hsame
    have hx : (UInt64.ofNat x').toNat = x' := UInt64.toNat_ofNat_of_lt' hx'
    have hy : (UInt64.ofNat y').toNat = y' := UInt64.toNat_ofNat_of_lt' hy'
    have heq := h (UInt64.ofNat x', UInt64.ofNat y') (toHexToken_eq_iff.mpr (by
      rw [hx, hy]
      exact hsame))
    obtain ⟨rfl, rfl⟩ := Prod.mk.inj heq
    exact ⟨hx.symm, hy.symm⟩
  · rintro h ⟨a', b'⟩ hsame
    obtain ⟨ha, hb⟩ := h _ (word_lt a') _ (word_lt b') (toHexToken_eq_iff.mp hsame)
    rw [UInt64.toNat_inj.mp ha, UInt64.toNat_inj.mp hb]

/-- A generator that draws two given words in turn. -/
def drawInTurn (words : UInt64 × UInt64) : UInt64 × (UInt64 × UInt64) := (words.1, words.swap)

/-- Draws are told apart as the arguments are that they become. -/
theorem drawsUnshared_iff {State : Type} (rng : State → UInt64 × State) (leftFirst : Bool)
    (s : State) :
    DrawsUnshared rng leftFirst s ↔ TokenUnshared (tokenArguments rng leftFirst s) := by
  have hswap : ∀ {State' : Type} (rng' : State' → UInt64 × State') (s' : State'),
      tokenArguments rng' leftFirst s' = tokenArguments rng leftFirst s ↔
        drawnWords rng' s' = drawnWords rng s := by
    intro State' rng' s'
    cases leftFirst with
    | true => exact Iff.rfl
    | false => exact Prod.swap_injective.eq_iff
  constructor
  · intro h words' hsame
    have hdrawn : ∃ words'' : UInt64 × UInt64,
        tokenArguments drawInTurn leftFirst words'' = words' := by
      cases leftFirst with
      | true => exact ⟨words', rfl⟩
      | false => exact ⟨words'.swap, rfl⟩
    obtain ⟨words'', rfl⟩ := hdrawn
    exact (hswap drawInTurn words'').mpr (h drawInTurn words'' hsame)
  · intro h State' rng' s' hsame
    exact (hswap rng' s').mp (h _ hsame)

/-- **The words whose token no other words have**, as arguments of
`ToHexToken_` and as draws of `GenerateWorldToken_`. -/
theorem tokens_iff (a b : UInt64) {State : Type} (rng : State → UInt64 × State) (leftFirst : Bool)
    (s : State) :
    (TokenUnshared (a, b) ↔ WordsDelimited (a, b)) ∧
      (DrawsUnshared rng leftFirst s ↔ WordsDelimited (tokenArguments rng leftFirst s)) :=
  ⟨tokenUnshared_iff (a, b), (drawsUnshared_iff rng leftFirst s).trans (tokenUnshared_iff _)⟩

/-- One token of different words. -/
theorem token_shared : ¬∀ a b a' b' : UInt64,
    toHexToken a b = toHexToken a' b' → a = a' ∧ b = b' := by
  intro h
  have hsame := h 0x1 0x23 0x12 0x3 (by decide)
  exact absurd hsame.1 (by decide)

end GameServer
