import Klarity.Library.Async
import Klarity.Renderer.Stores.WalletsStore
import Klarity.Renderer.Utils.Crypto

set_option autoImplicit false

/-! # The temporary wallet of a certificate

`_generateCertificate()` creates a wallet for its address, and deletes it once it has the address. Every call
that it awaits may fail, or never come back; a wallet may even be created and the answer be lost. A request
that is still busy with a call from elsewhere makes no other: what it awaits is awaited here as well. -/

namespace Klarity.WalletsStore.PaperWallet

open Words (join)

/-! ## The model -/

inductive CreateWalletReply
  | created (wallet : ListedWallet)
  | noWallet
  | refused
  | lost (wallet : ListedWallet)
  | busy (ended : Async.Result (Option ListedWallet))
  | hangs

inductive DeleteWalletReply
  | deleted
  | failed
  | busy (ended : Async.Result Unit)
  | hangs

/-- The error of a file that is open is told from others. -/
inductive PdfReply
  | saved
  | failed (isOpen : Bool)
  | hangs

structure WalletData where
  name : String
  mnemonic : String
  deriving DecidableEq, Repr

structure Params where
  filePath : String
  timestamp : String
  deriving DecidableEq, Repr

/-- What the awaited calls come back with. The scrambled phrase is asked for with the password and the phrase,
a deletion with the id and whether the wallet is a legacy one, the certificate with its address and words. -/
structure Replies where
  walletsRequest : Async.Result Unit
  walletRecoveryPhrase : Async.Result (List String)
  additionalMnemonics : Async.Result (List String)
  certificateRecoveryPhrase : String → String → Async.Result (List String)
  createWallet : WalletData → CreateWalletReply
  walletAddresses : String → Async.Result (List String)
  deleteWallet : String → Bool → DeleteWalletReply
  paperWalletPdf : Option String → List String → Params → PdfReply

/-- The fields of the store that the operation works on; `isExecuting` is that of `walletsRequest`. -/
structure Store where
  pollingBlocked : Bool := false
  isExecuting : Bool := false
  additionalMnemonicWords : String := ""
  walletCertificatePassword : Option String := none
  walletCertificateRecoveryPhrase : Option String := none
  walletCertificateAddress : Option String := none
  generatingCertificateInProgress : Bool := false
  isGeneratingCertificateError : Bool := false
  certificateStep : Option ℤ := none

/-- The wallets of the node; `created` and `failedDeletions` record what this operation did. -/
structure Node where
  wallets : List ListedWallet
  created : List ListedWallet := []
  failedDeletions : List String := []

structure Run where
  store : Store
  node : Node

abbrev Method : Type → Type := Async Run

def updateStore (g : Store → Store) : Method Unit :=
  Async.modify fun r => { r with store := g r.store }

def updateNode (g : Node → Node) : Method Unit :=
  Async.modify fun r => { r with node := g r.node }

variable {Randomness : Type} (lib : CryptoPackages Randomness) (replies : Replies)

/-! ## The calls of the API -/

def Node.create (wallet : ListedWallet) (node : Node) : Node :=
  { node with wallets := node.wallets ++ [wallet], created := node.created ++ [wallet] }

def createWallet (walletData : WalletData) : Method (Option ListedWallet) :=
  match replies.createWallet walletData with
  | .created wallet => do
      updateNode (Node.create wallet)
      pure (some wallet)
  | .noWallet => pure none
  | .refused => Async.throw
  | .lost wallet => do
      updateNode (Node.create wallet)
      Async.throw
  | .busy ended => Async.await ended
  | .hangs => Async.hang

def deleteWallet (walletId : String) (isLegacy : Bool) : Method Unit :=
  match replies.deleteWallet walletId isLegacy with
  | .deleted =>
      updateNode fun node =>
        { node with wallets := node.wallets.filter fun wallet => wallet.id ≠ walletId }
  | .failed => do
      updateNode fun node => { node with failedDeletions := node.failedDeletions ++ [walletId] }
      Async.throw
  | .busy ended => Async.await ended
  | .hangs => Async.hang

/-! ## The operation -/

def pausePolling : Method Unit := do
  let r ← Async.get
  if r.store.isExecuting then Async.await replies.walletsRequest
  updateStore fun store => { store with pollingBlocked := true }

def resumePolling (store : Store) : Store :=
  { store with pollingBlocked := false }

def updateCertificateCreationState (state isOpen : Bool) (store : Store) : Store :=
  { store with generatingCertificateInProgress := state, isGeneratingCertificateError := isOpen }

def updateCertificateStep (store : Store) : Store :=
  { store with
    isGeneratingCertificateError := false
    certificateStep := some (store.certificateStep.getD 0 + 1) }

/-- A certificate that cannot be saved is reported, not thrown. -/
def downloadCertificate (address : Option String) (recoveryPhrase : List String) (params : Params) :
    Method Unit :=
  match replies.paperWalletPdf address recoveryPhrase params with
  | .saved =>
      updateStore fun store => updateCertificateStep (updateCertificateCreationState false false store)
  | .failed isOpen => updateStore (updateCertificateCreationState false isOpen)
  | .hangs => Async.hang

/-- The recovery phrase, and the scrambled one that is printed. -/
def certificatePhrases : Method (List String × List String) := do
  -- Generate wallet recovery phrase
  let recoveryPhrase ← Async.await replies.walletRecoveryPhrase
  -- Generate 9-words (additional) mnemonic
  let additionalMnemonicWords ← Async.await replies.additionalMnemonics
  -- Generate spending password from 9-word mnemonic and save to store
  let spendingPassword := mnemonicToSeedHex lib (join additionalMnemonicWords) none
  updateStore fun store =>
    { store with
      additionalMnemonicWords := join additionalMnemonicWords
      walletCertificatePassword := some spendingPassword }
  -- Generate paper wallet scrambled mnemonic
  let walletCertificateRecoveryPhrase ←
    Async.await (replies.certificateRecoveryPhrase spendingPassword (join recoveryPhrase))
  updateStore fun store =>
    { store with walletCertificateRecoveryPhrase := some (join walletCertificateRecoveryPhrase) }
  pure (recoveryPhrase, walletCertificateRecoveryPhrase)

/-- The addresses of a temporary wallet that is there. -/
def takeAddresses (wallet : ListedWallet) : Method (List String) := do
  let walletAddresses ← Async.await (replies.walletAddresses wallet.id)
  -- delete temporary wallet
  deleteWallet replies wallet.id wallet.isLegacy
  pure walletAddresses

/-- The addresses of a temporary wallet. -/
def paperWalletAddresses (walletData : WalletData) : Method (Option (List String)) := do
  match ← createWallet replies walletData with
  | some wallet =>
      let walletAddresses ← takeAddresses replies wallet
      pure (some walletAddresses)
  | none => pure none

/-- From the temporary wallet on. -/
def printCertificate (params : Params) (phrases : List String × List String) : Method Unit := do
  let walletAddresses ← paperWalletAddresses replies ⟨"Paper Wallet", join phrases.1⟩
  -- Set wallet certificate address
  let walletAddress := (walletAddresses.getD []).head?
  updateStore fun store => { store with walletCertificateAddress := walletAddress }
  -- download pdf certificate
  downloadCertificate replies walletAddress phrases.2 params

/-- Up to the temporary wallet. -/
def preparePhrases : Method (List String × List String) := do
  -- Pause polling in order not to show Paper wallet in the UI
  pausePolling replies
  updateStore (updateCertificateCreationState true false)
  certificatePhrases lib replies

/-- The body of the `try` block; what it throws is thrown again. -/
def certificate (params : Params) : Method Unit := do
  let phrases ← preparePhrases lib replies
  printCertificate replies params phrases

def generateCertificate (params : Params) : Method Unit :=
  (certificate lib replies params).tryFinally fun r => { r with store := resumePolling r.store }

/-! ## What is promised -/

/-- Every wallet that the operation has created is deleted, unless its deletion has failed. -/
def Node.NoneLeft (node : Node) : Prop :=
  ∀ wallet ∈ node.created, wallet ∉ node.wallets ∨ wallet.id ∈ node.failedDeletions

structure NothingLeft (r : Run) : Prop where
  deleted : r.node.NoneLeft
  resumed : r.store.pollingBlocked = false

/-- The operation comes to the temporary wallet, with these phrases. -/
structure Reached (store : Store) (phrase printed : List String) : Prop where
  paused : store.isExecuting = true → replies.walletsRequest = .returns ()
  recoveryPhrase : replies.walletRecoveryPhrase = .returns phrase
  certificateRecoveryPhrase : ∃ words, replies.additionalMnemonics = .returns words ∧
    replies.certificateRecoveryPhrase (mnemonicToSeedHex lib (join words) none) (join phrase) =
      .returns printed

/-- The answer that the wallet is created arrives, the look-up of its addresses does not fail, and the request
that deletes it is free. -/
def ComesToDeletion (walletData : WalletData) : Prop :=
  ∀ wallet, replies.createWallet walletData ≠ .lost wallet ∧
    (replies.createWallet walletData = .created wallet → replies.walletAddresses wallet.id ≠ .throws ∧
      ∀ ended, replies.deleteWallet wallet.id wallet.isLegacy ≠ .busy ended)

variable {lib replies} {r : Run}

/-! ## Before and after the temporary wallet -/

theorem keeps_updateStore (g : Store → Store) : Async.Keeps Run.node (updateStore g) :=
  Async.keeps_modify fun _ => rfl

theorem keeps_pausePolling : Async.Keeps Run.node (pausePolling replies) := by
  intro r
  unfold pausePolling
  rw [Async.get_bind_run]
  split
  · exact ((Async.keeps_await _).bind fun _ => keeps_updateStore _) r
  · rfl

theorem keeps_certificatePhrases : Async.Keeps Run.node (certificatePhrases lib replies) := by
  refine (Async.keeps_await _).bind fun phrase => (Async.keeps_await _).bind fun words => ?_
  refine (keeps_updateStore _).bind fun _ => (Async.keeps_await _).bind fun printed => ?_
  exact (keeps_updateStore _).bind fun _ => Async.keeps_pure _

theorem keeps_downloadCertificate (address : Option String) (recoveryPhrase : List String) (params : Params) :
    Async.Keeps Run.node (downloadCertificate replies address recoveryPhrase params) := by
  unfold downloadCertificate
  split
  · exact keeps_updateStore _
  · exact keeps_updateStore _
  · exact fun _ => rfl

theorem keeps_afterAddresses (params : Params) (printed : List String) (addresses : Option (List String)) :
    Async.Keeps Run.node (do
      updateStore fun store => { store with walletCertificateAddress := (addresses.getD []).head? }
      downloadCertificate replies (addresses.getD []).head? printed params) :=
  (keeps_updateStore _).bind fun _ => keeps_downloadCertificate _ _ params

/-- The temporary wallet is all that the node sees of the operation. -/
theorem node_printCertificate (params : Params) (phrases : List String × List String) :
    (printCertificate replies params phrases r).2.node =
      (paperWalletAddresses replies ⟨"Paper Wallet", join phrases.1⟩ r).2.node := by
  unfold printCertificate
  rcases h : paperWalletAddresses replies ⟨"Paper Wallet", join phrases.1⟩ r with ⟨addresses | _ | _, r'⟩
  · rw [Async.bind_run_of_returns h]
    exact keeps_afterAddresses params phrases.2 addresses r'
  · rw [Async.bind_run_of_throws h]
  · rw [Async.bind_run_of_hangs h]

theorem keeps_preparePhrases : Async.Keeps Run.node (preparePhrases lib replies) :=
  keeps_pausePolling.bind fun _ => (keeps_updateStore _).bind fun _ => keeps_certificatePhrases

/-! ## How far the operation comes -/

theorem pausePolling_returns_iff :
    (pausePolling replies r).1 = .returns () ↔
      (r.store.isExecuting = true → replies.walletsRequest = .returns ()) := by
  unfold pausePolling
  rw [Async.get_bind_run]
  cases hexecuting : r.store.isExecuting with
  | false => simp [updateStore]
  | true =>
    rw [if_pos rfl, Async.bind_returns_iff]
    constructor
    · rintro ⟨_, _, hreply, -⟩ _
      exact congrArg Prod.fst hreply
    · intro hreply
      exact ⟨(), r, by rw [Async.await_run, hreply rfl], rfl⟩

theorem certificatePhrases_returns_iff {phrase printed : List String} :
    (certificatePhrases lib replies r).1 = .returns (phrase, printed) ↔
      replies.walletRecoveryPhrase = .returns phrase ∧ ∃ words,
        replies.additionalMnemonics = .returns words ∧
        replies.certificateRecoveryPhrase (mnemonicToSeedHex lib (join words) none) (join phrase) =
          .returns printed := by
  unfold certificatePhrases
  simp only [Async.bind_returns_iff, Async.await_run, updateStore, Async.modify_bind_run, Async.pure_run,
    Prod.mk.injEq]
  constructor
  · rintro ⟨phrase', _, ⟨hphrase, rfl⟩, words, _, ⟨hwords, rfl⟩, printed', _, ⟨hprinted, rfl⟩, hpair⟩
    cases hpair
    exact ⟨hphrase, words, hwords, hprinted⟩
  · rintro ⟨hphrase, words, hwords, hprinted⟩
    exact ⟨phrase, _, ⟨hphrase, rfl⟩, words, _, ⟨hwords, rfl⟩, printed, _, ⟨hprinted, rfl⟩, rfl⟩

theorem preparePhrases_returns_iff {phrase printed : List String} :
    (preparePhrases lib replies r).1 = .returns (phrase, printed) ↔
      Reached lib replies r.store phrase printed := by
  unfold preparePhrases
  rw [Async.bind_returns_iff]
  constructor
  · rintro ⟨_, paused, hpaused, hphrases⟩
    obtain ⟨hphrase, hprinted⟩ := certificatePhrases_returns_iff.mp hphrases
    exact ⟨pausePolling_returns_iff.mp (congrArg Prod.fst hpaused), hphrase, hprinted⟩
  · intro h
    have hpaused := pausePolling_returns_iff.mpr h.paused
    refine ⟨(), (pausePolling replies r).2, Prod.ext hpaused rfl, ?_⟩
    exact certificatePhrases_returns_iff.mpr ⟨h.recoveryPhrase, h.certificateRecoveryPhrase⟩

/-- The operation comes to the temporary wallet, or nothing of it. -/
theorem node_certificate (params : Params) (hends : (certificate lib replies params r).1 ≠ .hangs) :
    (∃ phrase printed r', Reached lib replies r.store phrase printed ∧ r'.node = r.node ∧
      (paperWalletAddresses replies ⟨"Paper Wallet", join phrase⟩ r').1 ≠ .hangs ∧
      (certificate lib replies params r).2.node =
        (paperWalletAddresses replies ⟨"Paper Wallet", join phrase⟩ r').2.node) ∨
    (∀ phrase printed, ¬ Reached lib replies r.store phrase printed) ∧
      (certificate lib replies params r).2.node = r.node := by
  have hkeeps : (preparePhrases lib replies r).2.node = r.node := keeps_preparePhrases r
  unfold certificate at hends ⊢
  rcases h : preparePhrases lib replies r with ⟨phrases | _ | _, r'⟩
  · left
    rw [h] at hkeeps
    rw [Async.bind_run_of_returns h] at hends ⊢
    have hreached := preparePhrases_returns_iff.mp (congrArg Prod.fst h)
    refine ⟨phrases.1, phrases.2, r', hreached, hkeeps, ?_, node_printCertificate params phrases⟩
    intro hhangs
    refine hends ?_
    rw [printCertificate, Async.bind_run_of_hangs (Prod.ext hhangs rfl)]
  · right
    rw [h] at hkeeps
    rw [Async.bind_run_of_throws h]
    refine ⟨fun phrase printed hreached => ?_, hkeeps⟩
    have hreturns := preparePhrases_returns_iff.mpr hreached
    rw [h] at hreturns
    cases hreturns
  · rw [Async.bind_run_of_hangs h] at hends
    exact absurd rfl hends

/-! ## The temporary wallet -/

theorem noneLeft_of_created_nil {node : Node} (h : node.created = []) : node.NoneLeft := by
  intro wallet hwallet
  rw [h] at hwallet
  cases hwallet

/-- A wallet that is there after it has been created, and that no deletion has failed for, is left. -/
theorem not_noneLeft_create {node : Node} {wallet : ListedWallet} (hfailed : node.failedDeletions = []) :
    ¬ (node.create wallet).NoneLeft := by
  intro h
  rcases h wallet (by simp [Node.create]) with hgone | hfails
  · simp [Node.create] at hgone
  · simp [Node.create, hfailed] at hfails

theorem noneLeft_of_created_singleton {node : Node} {wallet : ListedWallet} (hcreated : node.created = [wallet])
    (h : wallet ∉ node.wallets ∨ wallet.id ∈ node.failedDeletions) : node.NoneLeft := by
  intro other hother
  rw [hcreated] at hother
  obtain rfl := List.mem_singleton.mp hother
  exact h

/-- A deletion creates nothing. -/
theorem keeps_deleteWallet (walletId : String) (isLegacy : Bool) :
    Async.Keeps (fun r : Run => r.node.created) (deleteWallet replies walletId isLegacy) := by
  unfold deleteWallet
  cases replies.deleteWallet walletId isLegacy with
  | deleted => exact Async.keeps_modify fun _ => rfl
  | failed =>
    refine Async.Keeps.bind ?_ fun _ => Async.keeps_throw
    exact Async.keeps_modify fun _ => rfl
  | busy ended => exact Async.keeps_await ended
  | hangs => exact fun _ => rfl

theorem keeps_takeAddresses (wallet : ListedWallet) :
    Async.Keeps (fun r : Run => r.node.created) (takeAddresses replies wallet) :=
  (Async.keeps_await _).bind fun _ => (keeps_deleteWallet _ _).bind fun _ => Async.keeps_pure _

/-- Once its addresses are there, the wallet is left if and only if the request that deletes it is busy. -/
theorem noneLeft_deleteWallet_iff {wallet : ListedWallet} {node : Node} (hcreated : node.created = [])
    (hfailed : node.failedDeletions = []) (hr : r.node = node.create wallet)
    (hends : (deleteWallet replies wallet.id wallet.isLegacy r).1 ≠ .hangs) :
    (deleteWallet replies wallet.id wallet.isLegacy r).2.node.NoneLeft ↔
      ∀ ended, replies.deleteWallet wallet.id wallet.isLegacy ≠ .busy ended := by
  have hcreated' : (deleteWallet replies wallet.id wallet.isLegacy r).2.node.created = [wallet] := by
    refine (keeps_deleteWallet _ _ r).trans ?_
    show r.node.created = [wallet]
    rw [hr, Node.create, hcreated]
    rfl
  revert hcreated' hends
  unfold deleteWallet
  cases replies.deleteWallet wallet.id wallet.isLegacy with
  | deleted =>
    intro _ hcreated'
    refine iff_of_true (noneLeft_of_created_singleton hcreated' (.inl ?_)) fun _ => (nomatch ·)
    show wallet ∉ r.node.wallets.filter _
    simp
  | failed =>
    intro _ hcreated'
    refine iff_of_true (noneLeft_of_created_singleton hcreated' (.inr ?_)) fun _ => (nomatch ·)
    show wallet.id ∈ r.node.failedDeletions ++ [wallet.id]
    simp
  | busy ended =>
    intro _ _
    refine iff_of_false ?_ fun hfree => hfree ended rfl
    show ¬ r.node.NoneLeft
    rw [hr]
    exact not_noneLeft_create hfailed
  | hangs =>
    intro hends
    exact absurd rfl hends

theorem noneLeft_takeAddresses_iff {wallet : ListedWallet} {node : Node} (hcreated : node.created = [])
    (hfailed : node.failedDeletions = []) (hr : r.node = node.create wallet)
    (hends : (takeAddresses replies wallet r).1 ≠ .hangs) :
    (takeAddresses replies wallet r).2.node.NoneLeft ↔
      replies.walletAddresses wallet.id ≠ .throws ∧
        ∀ ended, replies.deleteWallet wallet.id wallet.isLegacy ≠ .busy ended := by
  unfold takeAddresses at hends ⊢
  cases haddresses : replies.walletAddresses wallet.id with
  | returns addresses =>
    rw [haddresses] at hends
    rw [Async.bind_run_of_returns (Async.await_run _)] at hends ⊢
    rw [Async.bind_pure_run_snd]
    refine (noneLeft_deleteWallet_iff hcreated hfailed hr (Async.bind_hangs hends)).trans ?_
    exact ⟨fun hfree => ⟨(nomatch ·), hfree⟩, And.right⟩
  | throws =>
    rw [Async.bind_run_of_throws (Async.await_run _), hr]
    exact iff_of_false (not_noneLeft_create hfailed) fun h => h.1 rfl
  | hangs =>
    rw [haddresses] at hends
    exact absurd rfl hends

theorem noneLeft_paperWalletAddresses_iff (walletData : WalletData) (hcreated : r.node.created = [])
    (hfailed : r.node.failedDeletions = [])
    (hends : (paperWalletAddresses replies walletData r).1 ≠ .hangs) :
    (paperWalletAddresses replies walletData r).2.node.NoneLeft ↔ ComesToDeletion replies walletData := by
  unfold paperWalletAddresses at hends ⊢
  unfold ComesToDeletion
  cases hreply : replies.createWallet walletData with
  | created wallet =>
    have hcreate : createWallet replies walletData r =
        (.returns (some wallet), { r with node := r.node.create wallet }) := by
      rw [createWallet, hreply]
      rfl
    rw [Async.bind_run_of_returns hcreate] at hends ⊢
    rw [Async.bind_pure_run_snd]
    refine (noneLeft_takeAddresses_iff hcreated hfailed rfl (Async.bind_hangs hends)).trans ?_
    constructor
    · intro hfound other
      refine ⟨(nomatch ·), ?_⟩
      rintro ⟨⟩
      exact hfound
    · intro hfound
      exact (hfound wallet).2 rfl
  | noWallet =>
    have hcreate : createWallet replies walletData r = (.returns none, r) := by
      rw [createWallet, hreply]
      rfl
    rw [Async.bind_run_of_returns hcreate]
    refine iff_of_true (noneLeft_of_created_nil hcreated) ?_
    exact fun _ => ⟨(nomatch ·), (nomatch ·)⟩
  | refused =>
    have hcreate : createWallet replies walletData r = (.throws, r) := by
      rw [createWallet, hreply]
      rfl
    rw [Async.bind_run_of_throws hcreate]
    refine iff_of_true (noneLeft_of_created_nil hcreated) ?_
    exact fun _ => ⟨(nomatch ·), (nomatch ·)⟩
  | lost wallet =>
    have hcreate : createWallet replies walletData r = (.throws, { r with node := r.node.create wallet }) := by
      rw [createWallet, hreply]
      rfl
    rw [Async.bind_run_of_throws hcreate]
    exact iff_of_false (not_noneLeft_create hfailed) fun hfound => (hfound wallet).1 rfl
  | busy ended =>
    -- the wallet of another call may be taken for the temporary one
    have hkeeps : Async.Keeps (fun r : Run => r.node.created) (paperWalletAddresses replies walletData) := by
      unfold paperWalletAddresses createWallet
      rw [hreply]
      refine (Async.keeps_await ended).bind fun answer => ?_
      cases answer with
      | some wallet => exact (keeps_takeAddresses wallet).bind fun _ => Async.keeps_pure _
      | none => exact Async.keeps_pure none
    refine iff_of_true (noneLeft_of_created_nil ((hkeeps r).trans hcreated)) ?_
    exact fun _ => ⟨(nomatch ·), (nomatch ·)⟩
  | hangs =>
    have hcreate : createWallet replies walletData r = (.hangs, r) := by
      rw [createWallet, hreply]
      rfl
    rw [Async.bind_run_of_hangs hcreate] at hends
    exact absurd rfl hends

/-! ## The operation -/

/-- Every call succeeds, the look-up of the addresses apart; mnemonics and keys are blank. -/
def repliesWithAddresses (walletAddresses : Async.Result (List String)) : Replies where
  walletsRequest := .returns ()
  walletRecoveryPhrase := .returns []
  additionalMnemonics := .returns []
  certificateRecoveryPhrase _ _ := .returns []
  createWallet _ := .created ⟨"temporary", false⟩
  walletAddresses _ := walletAddresses
  deleteWallet _ _ := .deleted
  paperWalletPdf _ _ _ := .saved

def blankPackages : CryptoPackages Unit where
  generateMnemonic _ _ := ""
  nfkd _ := ""
  pbkdf2 _ _ _ _ _ := []
  scrambleStrings _ _ _ := ""
  unscrambleStrings _ _ := none

end Klarity.WalletsStore.PaperWallet
