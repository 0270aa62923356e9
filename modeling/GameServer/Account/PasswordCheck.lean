import GameServer.Account.AccountDqs
import GameServer.Crypto.Sha256

/-!
# GameServer.Account.PasswordCheck

The password check of the account server (`AccountAuthDbRepository`).

An account's row has a password hash and a salt as hexadecimal text.

* `hexToBytes`, `toUpperHex` — hexadecimal text, read in either case and
  written in capitals; `hexToBytes_eq_some_iff` — the one undoes the other;
* `verifyPasswordHex` — the check, with the salt before or behind the password;
* `executeAuth` — the answer to one login;
* `executeAuth_ok_iff` — a login is accepted exactly if the row is active and
  its hash is the digest of the standard.
-/

namespace GameServer

namespace PasswordCheck

open AccountDqs Sha256

/-! ## Hexadecimal text -/

/-- `HexNibble_`; `none` is -1. -/
def hexNibble (ch : UInt8) : Option UInt8 :=
  if 0x30 ≤ ch ∧ ch ≤ 0x39 then some (ch - 0x30)
  else if 0x61 ≤ ch ∧ ch ≤ 0x66 then some (10 + (ch - 0x61))
  else if 0x41 ≤ ch ∧ ch ≤ 0x46 then some (10 + (ch - 0x41))
  else none

/-- `HexToBytes_`. -/
def hexToBytes : List UInt8 → Option (List UInt8)
  | [] => some []
  | [_] => none
  | hi :: lo :: rest =>
      match hexNibble hi, hexNibble lo with
      | some h, some l => (hexToBytes rest).map ((h <<< 4 ||| l) :: ·)
      | _, _ => none

/-- `std::toupper` of the `"C"` locale. -/
def toUpper (ch : UInt8) : UInt8 := if 0x61 ≤ ch ∧ ch ≤ 0x7a then ch - 0x20 else ch

/-- `ToUpperAscii_`. -/
def toUpperAscii (s : List UInt8) : List UInt8 := s.map toUpper

/-- `kHex`. -/
def kHex : List UInt8 := "0123456789ABCDEF".toUTF8.toList

/-- `ToUpperHex`. -/
def toUpperHex (bytes : List UInt8) : List UInt8 :=
  bytes.flatMap fun b : UInt8 =>
    [kHex.getD ((b >>> 4) &&& 0x0f).toNat 0, kHex.getD (b &&& 0x0f).toNat 0]

/-- The text is the bytes in hexadecimal, in either case. -/
def HexText (text bytes : List UInt8) : Prop := toUpperAscii text = toUpperHex bytes

/-! ### Digits -/

/-- What holds of the numbers below 256 holds of bytes. -/
theorem forall_byte {p : UInt8 → Prop} (h : ∀ n < 256, p (UInt8.ofNat n)) (b : UInt8) : p b := by
  have hb := h b.toNat b.toNat_lt
  rwa [UInt8.ofNat_toNat] at hb

/-- A digit is read exactly if its capital is the digit's character. -/
theorem hexNibble_eq_some_iff {ch d : UInt8} :
    hexNibble ch = some d ↔ d < 16 ∧ toUpper ch = kHex.getD d.toNat 0 := by
  constructor
  · have hread : ∀ ch, ∀ d ∈ hexNibble ch, d < 16 ∧ toUpper ch = kHex.getD d.toNat 0 :=
      forall_byte (by decide +kernel)
    exact hread ch d
  · have hdigit : ∀ ch : UInt8, ∀ n < 16, toUpper ch = kHex.getD n 0 →
        hexNibble ch = some (UInt8.ofNat n) := forall_byte (by decide +kernel)
    rintro ⟨hd, hch⟩
    rw [hdigit ch d.toNat hd hch, UInt8.ofNat_toNat]

/-- A byte is its two digits. -/
theorem nibbles_of_byte (b : UInt8) :
    (b >>> 4) &&& 0x0f < 16 ∧ b &&& 0x0f < 16 ∧ ((b >>> 4) &&& 0x0f) <<< 4 ||| (b &&& 0x0f) = b :=
  forall_byte (p := fun b => (b >>> 4) &&& 0x0f < 16 ∧ b &&& 0x0f < 16 ∧
    ((b >>> 4) &&& 0x0f) <<< 4 ||| (b &&& 0x0f) = b) (by decide +kernel) b

/-- Two digits are those of the byte they make. -/
theorem byte_of_nibbles {h l : UInt8} (hh : h < 16) (hl : l < 16) :
    ((h <<< 4 ||| l) >>> 4) &&& 0x0f = h ∧ (h <<< 4 ||| l) &&& 0x0f = l := by
  have hall : ∀ n < 16, ∀ m < 16,
      ((UInt8.ofNat n <<< 4 ||| UInt8.ofNat m) >>> 4) &&& 0x0f = UInt8.ofNat n ∧
        (UInt8.ofNat n <<< 4 ||| UInt8.ofNat m) &&& 0x0f = UInt8.ofNat m := by decide +kernel
  have hbyte := hall h.toNat hh l.toNat hl
  rwa [UInt8.ofNat_toNat, UInt8.ofNat_toNat] at hbyte

/-! ### Texts -/

@[simp] theorem toUpperHex_nil : toUpperHex [] = [] := rfl

theorem toUpperHex_cons (b : UInt8) (bs : List UInt8) :
    toUpperHex (b :: bs) =
      kHex.getD ((b >>> 4) &&& 0x0f).toNat 0 :: kHex.getD (b &&& 0x0f).toNat 0 ::
        toUpperHex bs := rfl

/-- A byte's text begins with the byte's digits. -/
theorem hexText_cons_cons {hi lo b : UInt8} {rest bs : List UInt8} :
    HexText (hi :: lo :: rest) (b :: bs) ↔
      hexNibble hi = some ((b >>> 4) &&& 0x0f) ∧ hexNibble lo = some (b &&& 0x0f) ∧
        HexText rest bs := by
  obtain ⟨hhigh, hlow, -⟩ := nibbles_of_byte b
  simp [HexText, toUpperAscii, toUpperHex_cons, hexNibble_eq_some_iff, hhigh, hlow]

/-- Reading a text is **exact**: it gives the bytes whose text it is, in
either case. -/
theorem hexToBytes_eq_some_iff {text bytes : List UInt8} :
    hexToBytes text = some bytes ↔ HexText text bytes := by
  induction text using hexToBytes.induct generalizing bytes with
  | case1 => cases bytes <;> simp [hexToBytes, HexText, toUpperAscii, toUpperHex_cons]
  | case2 ch => cases bytes <;> simp [hexToBytes, HexText, toUpperAscii, toUpperHex_cons]
  | case3 hi lo rest h l hl hh ih =>
      obtain ⟨hh16, hhi⟩ := hexNibble_eq_some_iff.mp hh
      obtain ⟨hl16, hlo⟩ := hexNibble_eq_some_iff.mp hl
      simp only [hexToBytes, hh, hl, Option.map_eq_some_iff, ih]
      constructor
      · rintro ⟨bs, hrest, rfl⟩
        obtain ⟨hhigh, hlow⟩ := byte_of_nibbles hh16 hl16
        rw [HexText, toUpperHex_cons, hhigh, hlow, ← hhi, ← hlo, ← hrest]
        rfl
      · intro htext
        cases bytes with
        | nil => cases htext
        | cons b bs =>
            obtain ⟨hb1, hb2, hrest⟩ := hexText_cons_cons.mp htext
            rw [hh] at hb1
            rw [hl] at hb2
            cases hb1
            cases hb2
            exact ⟨bs, hrest, by rw [(nibbles_of_byte b).2.2]⟩
  | case4 hi lo rest hno =>
      simp only [hexToBytes]
      refine iff_of_false (by simp) fun htext => ?_
      cases bytes with
      | nil => cases htext
      | cons b bs =>
          obtain ⟨hb1, hb2, -⟩ := hexText_cons_cons.mp htext
          exact hno _ _ hb1 hb2

/-! ## The check -/

/-- `MatchSha256SaltPassword_`. -/
def matchSha256SaltPassword (password saltBytes expectedHashHex : List UInt8) : Bool :=
  (sha256 (saltBytes ++ password)).any fun digest =>
    toUpperHex digest == toUpperAscii expectedHashHex

/-- `MatchSha256PasswordSalt_`. -/
def matchSha256PasswordSalt (password saltBytes expectedHashHex : List UInt8) : Bool :=
  (sha256 (password ++ saltBytes)).any fun digest =>
    toUpperHex digest == toUpperAscii expectedHashHex

/-- `VerifyPasswordHex_`. -/
def verifyPasswordHex (password passwordHashHex passwordSaltHex : List UInt8) : Bool :=
  if password.isEmpty then false
  else if passwordHashHex.isEmpty then false
  else
    match hexToBytes passwordSaltHex with
    | none => false
    | some saltBytes =>
        matchSha256SaltPassword password saltBytes passwordHashHex ||
          matchSha256PasswordSalt password saltBytes passwordHashHex

/-- `AccountRow`. -/
structure AccountRow where
  accountId : UInt64 := 0
  loginId : List UInt8 := []
  accountState : Int := 0
  passwordHashHex : List UInt8 := []
  passwordSaltHex : List UInt8 := []
deriving DecidableEq, Repr

/-- `ExecuteAuth`; what `QueryAccountRow_` returns for a login id is the
database's, `none` an exception. -/
def executeAuth (queryAccountRow : List UInt8 → Option (Option AccountRow))
    (job : AccountAuthRequest) : AccountAuthRequestResult :=
  match queryAccountRow job.loginId with
  | none => { ok := false, failReason := "db_error".toUTF8.toList }
  | some none => { ok := false, failReason := "account_not_found".toUTF8.toList }
  | some (some account) =>
      if account.accountState ≠ 1 then
        { ok := false, failReason := "account_not_active".toUTF8.toList }
      else if verifyPasswordHex job.password account.passwordHashHex account.passwordSaltHex = false
      then { ok := false, failReason := "invalid_password".toUTF8.toList }
      else { ok := true, accountId := account.accountId }

/-! ## What is accepted -/

/-- The hash is the one that the standard gives to the message. -/
def IsDigest (hash message : List UInt8) : Prop :=
  hash.length = 32 ∧
    SecureHash.bitsOfBytes hash = SecureHash.hash (SecureHash.bitsOfBytes message)

/-- The password is the one of the row: its digest with the salt is the hash,
with the salt before or behind the password. -/
def PasswordOf (password : List UInt8) (account : AccountRow) : Prop :=
  password ≠ [] ∧
    ∃ salt hash, HexText account.passwordSaltHex salt ∧ HexText account.passwordHashHex hash ∧
      (IsDigest hash (salt ++ password) ∨ IsDigest hash (password ++ salt))

theorem length_toUpperHex (bytes : List UInt8) : (toUpperHex bytes).length = 2 * bytes.length := by
  induction bytes with
  | nil => rfl
  | cons b bs ih =>
      rw [toUpperHex_cons, List.length_cons, List.length_cons, List.length_cons, ih]
      omega

theorem HexText.length {text bytes : List UInt8} (h : HexText text bytes) :
    text.length = 2 * bytes.length := by
  rw [← length_toUpperHex, ← h, toUpperAscii, List.length_map]

/-- A text is of one list of bytes only. -/
theorem HexText.unique {text bytes bytes' : List UInt8} (h : HexText text bytes)
    (h' : HexText text bytes') : bytes = bytes' :=
  Option.some.inj ((hexToBytes_eq_some_iff.mpr h).symm.trans (hexToBytes_eq_some_iff.mpr h'))

/-- The code's digest is the standard's. -/
theorem sha256_eq_some_iff {message digest : List UInt8} (hlength : message.length < 2 ^ 61) :
    sha256 message = some digest ↔ IsDigest digest message := by
  obtain ⟨digest', hdigest, -, hsize, hbits⟩ := (sha256_conforms message hlength).digest
  rw [hdigest, Option.some.injEq]
  constructor
  · rintro rfl
    exact ⟨hsize, hbits⟩
  · rintro ⟨-, hbits'⟩
    exact SecureHash.bitsOfBytes_inj (hbits.trans hbits'.symm)

/-- One of the two comparisons succeeds exactly if the expected text is of the
digest. -/
theorem any_sha256_iff {message expected : List UInt8} (hlength : message.length < 2 ^ 61) :
    ((sha256 message).any fun digest => toUpperHex digest == toUpperAscii expected) = true ↔
      ∃ hash, HexText expected hash ∧ IsDigest hash message := by
  simp only [Option.any_eq_true, beq_iff_eq, sha256_eq_some_iff hlength]
  exact exists_congr fun hash => and_comm.trans (and_congr_left fun _ => eq_comm)

/-- The check is **exact**: it accepts the password of the row, and nothing
else. -/
theorem verifyPasswordHex_iff {password : List UInt8} {account : AccountRow}
    (hlength : password.length + account.passwordSaltHex.length < 2 ^ 61) :
    verifyPasswordHex password account.passwordHashHex account.passwordSaltHex = true ↔
      PasswordOf password account := by
  unfold verifyPasswordHex PasswordOf
  cases password with
  | nil => simp
  | cons ch password =>
      cases hsalt : hexToBytes account.passwordSaltHex with
      | none =>
          have hnot : ∀ salt, ¬HexText account.passwordSaltHex salt := fun salt h => by
            rw [← hexToBytes_eq_some_iff, hsalt] at h
            cases h
          simp [hnot]
      | some salt =>
          have htext := hexToBytes_eq_some_iff.mp hsalt
          have hsize := htext.length
          have hbefore : (salt ++ ch :: password).length < 2 ^ 61 := by
            rw [List.length_append]
            omega
          have hbehind : (ch :: password ++ salt).length < 2 ^ 61 := by
            rw [List.length_append]
            omega
          -- An empty hash is no digest.
          have hempty : ∀ hash message, HexText account.passwordHashHex hash →
              IsDigest hash message → account.passwordHashHex.isEmpty = false := by
            intro hash message hhash hdigest
            have hlen := hhash.length
            rw [hdigest.1] at hlen
            rw [List.isEmpty_eq_false_iff_exists_mem]
            exact List.exists_mem_of_length_pos (by omega)
          rw [if_neg (by simp)]
          constructor
          · intro h
            split at h
            next => cases h
            next =>
              rw [Bool.or_eq_true, matchSha256SaltPassword, matchSha256PasswordSalt,
                any_sha256_iff hbefore, any_sha256_iff hbehind] at h
              refine ⟨List.cons_ne_nil _ _, ?_⟩
              obtain ⟨hash, hhash, hdigest⟩ | ⟨hash, hhash, hdigest⟩ := h
              · exact ⟨salt, hash, htext, hhash, .inl hdigest⟩
              · exact ⟨salt, hash, htext, hhash, .inr hdigest⟩
          · rintro ⟨-, salt', hash, htext', hhash, hdigest⟩
            obtain rfl := htext.unique htext'
            have hne : account.passwordHashHex.isEmpty = false :=
              hdigest.elim (hempty _ _ hhash) (hempty _ _ hhash)
            rw [hne, if_neg Bool.false_ne_true]
            rw [Bool.or_eq_true, matchSha256SaltPassword, matchSha256PasswordSalt,
              any_sha256_iff hbefore, any_sha256_iff hbehind]
            exact hdigest.imp (fun h => ⟨hash, hhash, h⟩) (fun h => ⟨hash, hhash, h⟩)

/-- **A login is accepted exactly if** the row of its login id is active and
the password is the row's; the account is the row's then. -/
theorem executeAuth_ok_iff (queryAccountRow : List UInt8 → Option (Option AccountRow))
    (job : AccountAuthRequest)
    (hlength : ∀ account, queryAccountRow job.loginId = some (some account) →
      job.password.length + account.passwordSaltHex.length < 2 ^ 61) (accountId : UInt64) :
    ((executeAuth queryAccountRow job).ok = true ∧
        (executeAuth queryAccountRow job).accountId = accountId) ↔
      ∃ account, queryAccountRow job.loginId = some (some account) ∧
        account.accountState = 1 ∧ account.accountId = accountId ∧
        PasswordOf job.password account := by
  unfold executeAuth
  cases hquery : queryAccountRow job.loginId with
  | none => simp
  | some row =>
      cases row with
      | none => simp
      | some account =>
          have hverify := verifyPasswordHex_iff (hlength account hquery)
          simp only [Option.some.injEq]
          by_cases hstate : account.accountState = 1
          · by_cases hpassword : PasswordOf job.password account
            · simp [hstate, hverify.mpr hpassword, hpassword]
            · have hno : verifyPasswordHex job.password account.passwordHashHex
                  account.passwordSaltHex = false := by
                rw [← Bool.not_eq_true, hverify]
                exact hpassword
              simp [hstate, hno, hpassword]
          · simp [hstate]

/-- A row without a salt, with the hash of `abc` in small letters. -/
def unsaltedRow : AccountRow where
  accountId := 7
  accountState := 1
  passwordHashHex :=
    "ba7816bf8f01cfea414140de5dae2223b00361a396177a9cb410ff61f20015ad".toUTF8.toList

/-- The login with `abc` is accepted. -/
theorem executeAuth_ok_iff_unsaltedRow :
    ∃ account, some (some unsaltedRow) = some (some account) ∧ account.accountState = 1 ∧
      account.accountId = 7 ∧ PasswordOf "abc".toUTF8.toList account :=
  (executeAuth_ok_iff (fun _ => some (some unsaltedRow)) { password := "abc".toUTF8.toList }
    (by rintro account h; cases h; decide +kernel) 7).mp (by decide +kernel)

end PasswordCheck

end GameServer
