import Klarity.Library.Cbor
import Klarity.Library.Words
import Mathlib.Data.Vector.Defs

set_option autoImplicit false

/-! # crypto

Mnemonics and paper wallet certificates. The packages that generate mnemonics, normalise strings, derive
keys and scramble strings are parameters; `Documented` is what is relied on of them. -/

namespace Klarity

open Words (join split chunk)

/-! ## cryptoConfig -/

/-- `WALLET_RECOVERY_PHRASE_WORD_COUNT` -/
def walletRecoveryPhraseWordCount : ℕ := 24

/-- `BCC_CERTIFICATE_MNEMONIC_LENGTH` -/
def bccCertificateMnemonicLength : ℕ := 18

/-- `PAPER_WALLET_WRITTEN_WORDS_COUNT` -/
def paperWalletWrittenWordsCount : ℕ := 9

/-! ## Packages -/

/-- `generateMnemonic` is that of `bip39`, with the entropy in bits and the random numbers it draws; `nfkd` of
    `unorm` is also called on `undefined`; the functions on strings are those of `rust-bcc-crypto`, of which
    the second throws on what it cannot read. -/
structure CryptoPackages (Randomness : Type) where
  generateMnemonic : ℕ → Randomness → String
  nfkd : Option String → String
  pbkdf2 : Bytes → Bytes → ℕ → ℕ → String → Bytes
  scrambleStrings : Bytes → String → String → String
  unscrambleStrings : String → String → Option String

/-- The words that an initialization vector of `n` bytes adds: 11 bits a word, a checksum bit for 32 bits. -/
def ivWords (n : ℕ) : ℕ := n * 3 / 4

/-- The numbers of words of a mnemonic. -/
def mnemonicWordCounts : List ℕ := [9, 12, 15, 18, 21, 24]

structure Documented {Randomness : Type} (lib : CryptoPackages Randomness) : Prop where
  words_generateMnemonic : ∀ ent ∈ [96, 128, 160, 192, 224, 256], ∀ r,
    (split (lib.generateMnemonic ent r)).length = (ent + ent / 32) / 11
  unscramble_scramble : ∀ (iv : Vector UInt8 8) passphrase input,
    (split input).length ∈ mnemonicWordCounts →
      lib.unscrambleStrings passphrase (lib.scrambleStrings iv.toList passphrase input) = some input
  words_scramble : ∀ (iv : Vector UInt8 8) passphrase input,
    (split input).length ∈ mnemonicWordCounts →
      (split (lib.scrambleStrings iv.toList passphrase input)).length =
        (split input).length + ivWords 8
  words_unscramble : ∀ passphrase scrambled input,
    lib.unscrambleStrings passphrase scrambled = some input →
      (split input).length + ivWords 8 = (split scrambled).length

/-! ## The functions -/

section

variable {Randomness : Type} (lib : CryptoPackages Randomness)

def generateMnemonic (ms : ℕ) (r : Randomness) : String :=
  let ent :=
    match ms with
    | 9 => 96
    | 15 => 160
    | 18 => 192
    | 21 => 224
    | 24 => 256
    | _ => 128
  lib.generateMnemonic ent r

def mnemonicToSeedHex (mnemonic : String) (password : Option String) : String :=
  let mnemonicBuffer := (lib.nfkd (some mnemonic)).toUTF8.toList
  let salt := "mnemonic" ++ lib.nfkd password
  let saltBuffer := salt.toUTF8.toList
  hexOfBytes (lib.pbkdf2 mnemonicBuffer saltBuffer 2048 32 "sha512")

/-- The initialization vector is drawn at random. -/
def scramblePaperWalletMnemonic (iv : Vector UInt8 8) (passphrase input : String) : List String :=
  split (lib.scrambleStrings iv.toList passphrase input)

structure ScrambledInput where
  passphrase : String
  scrambledInput : String
  deriving DecidableEq, Repr

/-- `none` when there are not enough words for two pieces, on which the function throws. -/
def getScrambledInput (mnemonics : List String) : Option ScrambledInput := do
  let chunked := chunk bccCertificateMnemonicLength mnemonics
  let scrambledInput := join (← chunked[0]?) -- first 18 mnemonics
  let certificatePassword ← chunked[1]? -- last 9 mnemonics
  let passphrase := mnemonicToSeedHex lib (join certificatePassword) none
  return ⟨passphrase, scrambledInput⟩

def unscramblePaperWalletMnemonic (passphrase scrambledInput : String) : Option (List String) :=
  (lib.unscrambleStrings passphrase scrambledInput).map split

/-! ## mnemonics -/

def generateAccountMnemonics (numberOfWords : ℕ) (r : Randomness) : List String :=
  split (generateMnemonic lib numberOfWords r)

def generateAdditionalMnemonics (r : Randomness) : List String :=
  split (generateMnemonic lib paperWalletWrittenWordsCount r)

end

end Klarity
