import Klarity.Renderer.Utils.Crypto

set_option autoImplicit false

/-! # Paper wallet certificates

A certificate has the scrambled recovery phrase printed on it, and the words of its password are written
next to it. Whoever restores the wallet enters both lists, and the words are cut after the eighteenth. That
is where the second list starts exactly when twelve words were scrambled; the store scrambles 24. -/

namespace Klarity.WalletsStore

open Words (join split chunk join_split split_join split_ne_nil space_not_mem_of_mem_split chunk_zero
  chunk_append)

variable {Randomness : Type}

/-! ## The store -/

/-- What `_generateCertificate()` leaves in the store and on paper. -/
structure Certificate where
  recoveryPhrase : List String
  additionalMnemonicWords : List String
  walletCertificatePassword : String
  walletCertificateRecoveryPhrase : List String

def generateCertificate (lib : CryptoPackages Randomness) (r₁ r₂ : Randomness) (iv : Vector UInt8 8) :
    Certificate :=
  let recoveryPhrase := generateAccountMnemonics lib walletRecoveryPhraseWordCount r₁
  -- Generate 9-words (additional) mnemonic
  let additionalMnemonicWords := generateAdditionalMnemonics lib r₂
  let spendingPassword := mnemonicToSeedHex lib (join additionalMnemonicWords) none
  { recoveryPhrase := recoveryPhrase
    additionalMnemonicWords := additionalMnemonicWords
    walletCertificatePassword := spendingPassword
    walletCertificateRecoveryPhrase :=
      scramblePaperWalletMnemonic lib iv spendingPassword (join recoveryPhrase) }

/-- `_getUnscrambledMnemonics()`; `none` when it throws. -/
def getUnscrambledMnemonics (lib : CryptoPackages Randomness) (mnemonics : List String) :
    Option (List String) := do
  let ⟨passphrase, scrambledInput⟩ ← getScrambledInput lib mnemonics
  unscramblePaperWalletMnemonic lib passphrase scrambledInput

/-- The words printed, then those written. -/
def Certificate.words (certificate : Certificate) : List String :=
  certificate.walletCertificateRecoveryPhrase ++ certificate.additionalMnemonicWords

/-! ## When a certificate can be restored -/

variable {lib : CryptoPackages Randomness} {printed written : List String}

/-- Eighteen printed words are told from the written ones. -/
theorem getScrambledInput_of_length (hprinted : printed.length = 18) (hne : written ≠ [])
    (hwritten : written.length ≤ 18) :
    getScrambledInput lib (printed ++ written) =
      some ⟨mnemonicToSeedHex lib (join written) none, join printed⟩ := by
  have hfirst : (chunk bccCertificateMnemonicLength (printed ++ written))[0]? = some printed := by
    rw [chunk_zero (by simp [hne]) (by decide)]
    exact congrArg some (List.take_left' hprinted)
  have hsecond : (chunk bccCertificateMnemonicLength (printed ++ written))[1]? = some written :=
    chunk_append hprinted (by decide) hne hwritten
  simp [getScrambledInput, hfirst, hsecond]

/-- The words that are unscrambled: the first eighteen of all. -/
theorem exists_of_getScrambledInput {mnemonics : List String} {input : ScrambledInput}
    (h : getScrambledInput lib mnemonics = some input) :
    input.scrambledInput = join (mnemonics.take 18) := by
  unfold getScrambledInput at h
  obtain ⟨first, hfirst, h⟩ := Option.bind_eq_some_iff.1 h
  obtain ⟨second, _, h⟩ := Option.bind_eq_some_iff.1 h
  obtain rfl := Option.some.inj h
  have hne : mnemonics ≠ [] := by
    rintro rfl
    simp [chunk, bccCertificateMnemonicLength] at hfirst
  rw [chunk_zero hne (by decide)] at hfirst
  rw [← Option.some.inj hfirst]
  rfl

/-- The number of words that come out. -/
theorem length_of_getUnscrambledMnemonics (hlib : Documented lib) {mnemonics words : List String}
    (hspace : ∀ word ∈ mnemonics, ' ' ∉ word.toList)
    (h : getUnscrambledMnemonics lib mnemonics = some words) :
    words.length + ivWords 8 = min 18 mnemonics.length := by
  unfold getUnscrambledMnemonics at h
  obtain ⟨⟨passphrase, scrambledInput⟩, hinput, h⟩ := Option.bind_eq_some_iff.1 h
  obtain ⟨input, hunscrambled, rfl⟩ := Option.map_eq_some_iff.1 h
  have hfirst : scrambledInput = join (mnemonics.take 18) := exists_of_getScrambledInput hinput
  have hne : mnemonics ≠ [] := by
    rintro rfl
    cases hinput
  have hsplit : split scrambledInput = mnemonics.take 18 := by
    rw [hfirst]
    refine split_join ?_ fun word hword => hspace word (List.mem_of_mem_take hword)
    simpa [List.take_eq_nil_iff] using hne
  rw [hlib.words_unscramble passphrase scrambledInput input hunscrambled, hsplit, List.length_take]

/-- A certificate is restored exactly when its printed words are eighteen. -/
theorem getUnscrambledMnemonics_eq_some_iff (hlib : Documented lib) (iv : Vector UInt8 8)
    {input additional : String} (hinput : (split input).length ∈ mnemonicWordCounts)
    (hadditional : (split additional).length ≤ 18) :
    getUnscrambledMnemonics lib
        (scramblePaperWalletMnemonic lib iv (mnemonicToSeedHex lib additional none) input ++
          split additional) = some (split input) ↔
      (split input).length + ivWords 8 = 18 := by
  have hwords : (scramblePaperWalletMnemonic lib iv (mnemonicToSeedHex lib additional none)
      input).length = (split input).length + ivWords 8 :=
    hlib.words_scramble iv _ input hinput
  constructor
  · intro h
    have hlength := length_of_getUnscrambledMnemonics hlib (fun word hword => ?_) h
    · have hpos : 0 < (split additional).length := List.length_pos_iff.2 (split_ne_nil additional)
      rw [List.length_append, hwords] at hlength
      omega
    · rcases List.mem_append.1 hword with hword | hword
      · exact space_not_mem_of_mem_split hword
      · exact space_not_mem_of_mem_split hword
  · intro h
    unfold getUnscrambledMnemonics
    rw [getScrambledInput_of_length (hwords.trans h) (split_ne_nil additional) hadditional]
    simp only [Option.bind_eq_bind, Option.bind_some, join_split, scramblePaperWalletMnemonic,
      unscramblePaperWalletMnemonic, hlib.unscramble_scramble _ _ _ hinput, Option.map_some]

/-- More than eighteen printed words are cut. -/
theorem length_le_of_getScrambledInput (hspace : ∀ word ∈ printed, ' ' ∉ word.toList)
    {passphrase : String}
    (h : getScrambledInput lib (printed ++ written) = some ⟨passphrase, join printed⟩) :
    printed.length ≤ 18 := by
  by_contra hlong
  have hfirst : join printed = join (printed.take 18) := by
    have htake : (printed ++ written).take 18 = printed.take 18 :=
      List.take_append_of_le_length (by omega)
    rw [← htake]
    exact exists_of_getScrambledInput h
  have hne : printed ≠ [] := by
    rintro rfl
    exact hlong (by decide)
  have htake : printed = printed.take 18 :=
    calc
      printed = split (join printed) := (split_join hne hspace).symm
      _ = split (join (printed.take 18)) := congrArg split hfirst
      _ = printed.take 18 := split_join (by simpa [List.take_eq_nil_iff] using hne)
          fun word hword => hspace word (List.mem_of_mem_take hword)
  have hlength := congrArg List.length htake
  rw [List.length_take] at hlength
  omega

/-! ## The certificates of the store -/

theorem generateCertificate_eq (r₁ r₂ : Randomness) (iv : Vector UInt8 8) :
    generateCertificate lib r₁ r₂ iv =
      { recoveryPhrase := split (generateMnemonic lib 24 r₁)
        additionalMnemonicWords := split (generateMnemonic lib 9 r₂)
        walletCertificatePassword := mnemonicToSeedHex lib (generateMnemonic lib 9 r₂) none
        walletCertificateRecoveryPhrase :=
          scramblePaperWalletMnemonic lib iv (mnemonicToSeedHex lib (generateMnemonic lib 9 r₂) none)
            (generateMnemonic lib 24 r₁) } := by
  simp only [generateCertificate, generateAccountMnemonics, generateAdditionalMnemonics,
    walletRecoveryPhraseWordCount, paperWalletWrittenWordsCount, join_split]

theorem length_recoveryPhrase (hlib : Documented lib) (r : Randomness) :
    (split (generateMnemonic lib 24 r)).length = 24 :=
  hlib.words_generateMnemonic 256 (by decide) r

theorem getUnscrambledMnemonics_words_ne (hlib : Documented lib) (r₁ r₂ : Randomness)
    (iv : Vector UInt8 8) :
    getUnscrambledMnemonics lib (generateCertificate lib r₁ r₂ iv).words ≠
      some (generateCertificate lib r₁ r₂ iv).recoveryPhrase := by
  have hphrase := length_recoveryPhrase hlib r₁
  have hadditional : (split (generateMnemonic lib 9 r₂)).length = 9 :=
    hlib.words_generateMnemonic 96 (by decide) r₂
  have hinput : (split (generateMnemonic lib 24 r₁)).length ∈ mnemonicWordCounts := by
    rw [hphrase]
    decide
  rw [generateCertificate_eq]
  intro h
  have hwords := (getUnscrambledMnemonics_eq_some_iff hlib iv hinput (by omega)).1 h
  rw [hphrase] at hwords
  exact absurd hwords (by decide)

/-- Packages that hide a phrase behind as many words as an initialization vector adds. -/
def prefixing : CryptoPackages Unit where
  generateMnemonic ent _ := join (List.replicate ((ent + ent / 32) / 11) "abandon")
  nfkd s := s.getD ""
  pbkdf2 password salt _ length _ := (password ++ salt).take length
  scrambleStrings iv _ input := join (List.replicate (ivWords iv.length) "zoo" ++ split input)
  unscrambleStrings _ scrambled :=
    if 6 < (split scrambled).length then some (join ((split scrambled).drop 6)) else none

theorem split_scrambleStrings_prefixing (iv : Vector UInt8 8) (passphrase input : String) :
    split (prefixing.scrambleStrings iv.toList passphrase input) =
      List.replicate 6 "zoo" ++ split input := by
  have hwords : ∀ word ∈ List.replicate 6 "zoo" ++ split input, ' ' ∉ word.toList := by
    intro word hword
    rcases List.mem_append.1 hword with hword | hword
    · rw [List.eq_of_mem_replicate hword]
      decide
    · exact space_not_mem_of_mem_split hword
  have hiv : ivWords iv.toList.length = 6 := by rw [Vector.length_toList]; rfl
  show split (join (List.replicate (ivWords iv.toList.length) "zoo" ++ split input)) = _
  rw [hiv]
  exact split_join (by simp) hwords

theorem unscrambleStrings_prefixing (passphrase scrambled : String) :
    prefixing.unscrambleStrings passphrase scrambled =
      if 6 < (split scrambled).length then some (join ((split scrambled).drop 6)) else none :=
  rfl

theorem documented_prefixing : Documented prefixing where
  words_generateMnemonic ent hent _ := by
    have hsplit : ∀ n, 0 < n → (split (join (List.replicate n "abandon"))).length = n := by
      intro n hn
      rw [split_join, List.length_replicate]
      · simpa using Nat.pos_iff_ne_zero.1 hn
      · intro word hword
        rw [List.eq_of_mem_replicate hword]
        decide
    refine hsplit _ ?_
    simp only [List.mem_cons, List.not_mem_nil, or_false] at hent
    omega
  unscramble_scramble iv passphrase input _ := by
    have hsplit := split_scrambleStrings_prefixing iv passphrase input
    have hpos : 0 < (split input).length := List.length_pos_iff.2 (split_ne_nil input)
    rw [unscrambleStrings_prefixing, hsplit, if_pos (by simpa using hpos), List.drop_left' (by simp), join_split]
  words_scramble iv passphrase input _ := by
    rw [split_scrambleStrings_prefixing, List.length_append, Nat.add_comm]
    rfl
  words_unscramble _ scrambled input h := by
    obtain ⟨hlong, hinput⟩ := Option.ite_none_right_eq_some.1 h
    obtain rfl := Option.some.inj hinput
    rw [split_join, List.length_drop]
    · exact Nat.sub_add_cancel (Nat.le_of_lt hlong)
    · simpa using hlong
    · exact fun word hword => space_not_mem_of_mem_split (List.mem_of_mem_drop hword)

end Klarity.WalletsStore
