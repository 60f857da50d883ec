import Klarity.Library.Lists
import Klarity.Renderer.Stores.HardwareWallets.SignWitnesses
import Mathlib.Data.List.DropRight
import Mathlib.Tactic.Common

set_option autoImplicit false

/-! # Signing with the account xpub of the call

What a signing call comes to depends on its own account xpub and witnesses only (`ownResult`), provided
that nothing comes between what it writes to the shared state and what it reads there (`Undisturbed`):
`xpubMemo` still holds its xpub when `deriveXpub` takes it, and no response settles a request for another
child.

`Signing.outcome` says of a call that is under way what it will come to if it goes on undisturbed. No
step changes it. -/

namespace Klarity.HardwareWallets.SignWitnesses

open IpcChannel (Delivery Served OwnAnswers)

variable (lib : DerivationPackages)

/-! ## What is to be signed -/

/-- The indices after the last hardened one. -/
def nonHardenedSuffix (path : BIP32Path) : BIP32Path :=
  path.rtakeWhile fun index => !indexIsHardened index

def childXpub (xpub : Bytes) (index : ℕ) : Option Bytes :=
  lib.deriveChildXpub xpub index ed25519Mode

/-- The key at a path below an account xpub. -/
def ownXpub (xpubHex : String) (path : BIP32Path) : Option Bytes :=
  (nonHardenedSuffix path).foldlM (childXpub lib) (bufferFromHex xpubHex)

def witnessOf (witnessSignatureHex : String) (xpub : Bytes) : Option SophieTxWitness :=
  some ⟨xpub.take 32, bufferFromHex witnessSignatureHex⟩

/-- What becomes of a witness below an account xpub. -/
def ownWitness (xpubHex : String) (witness : Witness) : Option (Option SophieTxWitness) :=
  match truthy witness.pubKey, truthy witness.signature with
  | some pubKey, some signature => some (some ⟨bufferFromHex pubKey, bufferFromHex signature⟩)
  | _, _ =>
    match witness.path, truthy witness.witnessSignatureHex with
    | some path, some witnessSignatureHex => (ownXpub lib xpubHex path).map (witnessOf witnessSignatureHex)
    | _, _ => some none

/-- What becomes of the witnesses of a call; `none` where a derivation fails. -/
def ownResult (xpubHex : String) (witnesses : List Witness) : Option (List (Option SophieTxWitness)) :=
  witnesses.mapM (ownWitness lib xpubHex)

/-- The call has returned or thrown. -/
def Signing.Ended (signing : Signing) : Prop := signing.phase = .returned ∨ signing.phase = .threw

instance (signing : Signing) : Decidable signing.Ended := inferInstanceAs (Decidable (_ ∨ _))

/-- The call takes the account xpub from `xpubMemo` next. -/
def Phase.readsMemo : Phase → Bool
  | .ascending path _ _ => path.getLast?.all indexIsHardened
  | _ => false

/-- The account xpub that a call takes is its own, and a response finds no request for another child. -/
def Undisturbed (s : State) : Event → Prop
  | .sign .. => True
  | .resume i => ∀ signing ∈ s.signings[i]?, signing.phase.readsMemo → s.xpubMemo = some signing.xpubHex
  | .deliver (.respond k) => s.channel.AnswersAll k
  | .deliver _ => True

/-- A signing call is made for a wallet with an account xpub, when all earlier calls have ended. -/
def Sequential (s : State) : Event → Prop
  | .sign xpubHex _ => xpubHex ≠ "" ∧ ∀ signing ∈ s.signings, signing.Ended
  | _ => True

/-! ## The outcome of a call under way -/

def Phase.outcome (xpubHex : String) : Phase → Option (Option SophieTxWitness)
  | .ascending path suffix witnessSignatureHex =>
      ((ownXpub lib xpubHex path).bind fun xpub => suffix.foldlM (childXpub lib) xpub).map
        (witnessOf witnessSignatureHex)
  | .derived xpub suffix witnessSignatureHex =>
      (suffix.foldlM (childXpub lib) xpub).map (witnessOf witnessSignatureHex)
  | .requesting _ parentXpub lastIndex suffix witnessSignatureHex =>
      ((lastIndex :: suffix).foldlM (childXpub lib) parentXpub).map (witnessOf witnessSignatureHex)
  | .signed witness => some witness
  | .returned | .threw => none

def Signing.outcome (signing : Signing) : Option (List (Option SophieTxWitness)) :=
  match signing.phase with
  | .returned => some signing.signedWitnesses
  | phase =>
      (phase.outcome lib signing.xpubHex).bind fun witness =>
        (ownResult lib signing.xpubHex signing.remaining).map fun witnesses =>
          signing.signedWitnesses ++ witness :: witnesses

variable {lib}

theorem nonHardenedSuffix_concat (path : BIP32Path) (index : ℕ) :
    nonHardenedSuffix (path ++ [index])
      = if indexIsHardened index then [] else nonHardenedSuffix path ++ [index] := by
  rw [nonHardenedSuffix, List.rtakeWhile_concat]
  by_cases hindex : indexIsHardened index <;> simp [hindex, nonHardenedSuffix]

/-- The suffix of a path that is put together from hardened indices and others after them. -/
theorem nonHardenedSuffix_append {pre suf : BIP32Path} (hpre : ∀ index ∈ pre, indexIsHardened index)
    (hsuf : ∀ index ∈ suf, indexIsHardened index = false) : nonHardenedSuffix (pre ++ suf) = suf := by
  induction suf using List.reverseRecOn with
  | nil =>
      rw [List.append_nil]
      rcases List.eq_nil_or_concat pre with rfl | ⟨pre, index, rfl⟩
      · rfl
      · rw [List.concat_eq_append, nonHardenedSuffix_concat, if_pos (hpre index (by simp))]
  | append_singleton suf index ih =>
      have hindex : indexIsHardened index = false := hsuf index (by simp)
      rw [← List.append_assoc, nonHardenedSuffix_concat, hindex,
        ih fun i hi => hsuf i (List.mem_append_left _ hi)]
      rfl

theorem ownXpub_concat (xpubHex : String) (path : BIP32Path) {index : ℕ}
    (hindex : indexIsHardened index = false) :
    ownXpub lib xpubHex (path ++ [index])
      = (ownXpub lib xpubHex path).bind fun xpub => childXpub lib xpub index := by
  rw [ownXpub, nonHardenedSuffix_concat, hindex]
  simp only [Bool.false_eq_true, if_false, List.foldlM_append, ownXpub]
  cases (nonHardenedSuffix path).foldlM (childXpub lib) (bufferFromHex xpubHex) <;> simp

/-- At a hardened index, and at the end of the path, the key is the account xpub. -/
theorem ownXpub_of_readsMemo (xpubHex : String) {path : BIP32Path}
    (hpath : path.getLast?.all indexIsHardened = true) :
    ownXpub lib xpubHex path = some (bufferFromHex xpubHex) := by
  have hnil : nonHardenedSuffix path = [] := by
    rcases List.eq_nil_or_concat path with rfl | ⟨path, index, rfl⟩
    · rfl
    · rw [List.concat_eq_append, nonHardenedSuffix_concat, if_pos (by simpa using hpath)]
  rw [ownXpub, hnil]
  rfl

/-! ## Steps that keep the outcome -/

theorem Signing.outcome_of_ne {signing : Signing} (h : signing.phase ≠ .returned) :
    signing.outcome lib = (signing.phase.outcome lib signing.xpubHex).bind fun witness =>
      (ownResult lib signing.xpubHex signing.remaining).map fun witnesses =>
        signing.signedWitnesses ++ witness :: witnesses := by
  unfold Signing.outcome
  split
  · next heq => exact absurd heq h
  · rfl

/-- A call may stand elsewhere as long as its witness stays the same. -/
theorem Signing.outcome_update {signing : Signing} {phase : Phase} (h : signing.phase ≠ .returned)
    (hphase : phase ≠ .returned)
    (heq : phase.outcome lib signing.xpubHex = signing.phase.outcome lib signing.xpubHex) :
    ({ signing with phase := phase } : Signing).outcome lib = signing.outcome lib := by
  rw [outcome_of_ne hphase, outcome_of_ne h, heq]

theorem SophieWitness_outcome (witness : Witness) (xpubHex : String) (xpubMemo : Option String) :
    (SophieWitness witness xpubHex xpubMemo).1.outcome lib xpubHex = ownWitness lib xpubHex witness
      ∧ (SophieWitness witness xpubHex xpubMemo).1 ≠ .returned := by
  have hascending : ∀ path witnessSignatureHex,
      (Phase.ascending path [] witnessSignatureHex).outcome lib xpubHex
        = (ownXpub lib xpubHex path).map (witnessOf witnessSignatureHex) := by
    intro path witnessSignatureHex
    cases h : ownXpub lib xpubHex path <;> simp [Phase.outcome, h]
  unfold SophieWitness ownWitness
  cases truthy witness.pubKey <;> cases truthy witness.signature <;> cases witness.path <;>
    cases truthy witness.witnessSignatureHex <;> refine ⟨?_, by simp⟩ <;>
    first
    | rfl
    | exact hascending _ _

theorem Signing.next_outcome (signing : Signing) (xpubMemo : Option String) :
    (signing.next xpubMemo).1.outcome lib
      = (ownResult lib signing.xpubHex signing.remaining).map fun witnesses =>
          signing.signedWitnesses ++ witnesses := by
  unfold Signing.next
  split
  · next hremaining =>
      rw [hremaining]
      simp [Signing.outcome, ownResult]
  · next witness remaining hremaining =>
      obtain ⟨houtcome, hne⟩ := @SophieWitness_outcome lib witness signing.xpubHex xpubMemo
      rw [outcome_of_ne hne, hremaining]
      show ((SophieWitness _ _ _).1.outcome lib signing.xpubHex).bind _ = _
      rw [houtcome, ownResult, ownResult, List.mapM_cons]
      cases ownWitness lib signing.xpubHex witness with
      | none => rfl
      | some signed =>
          cases remaining.mapM (ownWitness lib signing.xpubHex) <;> rfl

theorem Signing.next_frame (signing : Signing) (xpubMemo : Option String) :
    (signing.next xpubMemo).1.xpubHex = signing.xpubHex
      ∧ (signing.next xpubMemo).1.witnesses = signing.witnesses := by
  unfold Signing.next
  split <;> exact ⟨rfl, rfl⟩

/-! ## What a step does -/

variable {s s' : State} {i : ℕ} {signing : Signing}

theorem step_cases {e : Event} (h : step lib s e = some s') :
    (∃ xpubHex witnesses, e = .sign xpubHex witnesses ∧ s' = s.sign xpubHex witnesses) ∨
    (∃ i signing, e = .resume i ∧ s.signings[i]? = some signing ∧ s.resume lib i signing = some s') ∨
    (∃ delivery channel, e = .deliver delivery ∧
      IpcChannel.deliver (deriveXpubHandler lib) s.channel delivery = some channel ∧
      s' = { s with channel := channel }) := by
  cases e with
  | sign xpubHex witnesses => exact Or.inl ⟨xpubHex, witnesses, rfl, (Option.some.inj h).symm⟩
  | resume i =>
      obtain ⟨signing, hi, h⟩ := Option.bind_eq_some_iff.1 h
      exact Or.inr (Or.inl ⟨i, signing, rfl, hi, h⟩)
  | deliver delivery =>
      obtain ⟨channel, hchannel, h⟩ := Option.map_eq_some_iff.1 h
      exact Or.inr (Or.inr ⟨delivery, channel, rfl, hchannel, h.symm⟩)

theorem resume_cases (h : s.resume lib i signing = some s') :
    (∃ path suffix witnessSignatureHex, signing.phase = .ascending path suffix witnessSignatureHex ∧
      s' = s.update i signing (s.deriveXpub path suffix witnessSignatureHex)) ∨
    (∃ xpub witnessSignatureHex, signing.phase = .derived xpub [] witnessSignatureHex ∧
      s' = s.update i signing (.signed (witnessOf witnessSignatureHex xpub))) ∨
    (∃ xpub lastIndex suffix witnessSignatureHex,
      signing.phase = .derived xpub (lastIndex :: suffix) witnessSignatureHex ∧
      s' = { s with
          channel := s.channel.request (.params (lib.bufToHex xpub) lastIndex ed25519Mode) }.update i signing
        (.requesting s.channel.calls.length xpub lastIndex suffix witnessSignatureHex)) ∨
    (∃ call parentXpub lastIndex suffix witnessSignatureHex c answer,
      signing.phase = .requesting call parentXpub lastIndex suffix witnessSignatureHex ∧
      s.channel.calls[call]? = some c ∧ answer ∈ c.settled ∧
      s' = s.update i signing (Phase.ofAnswer lib suffix witnessSignatureHex answer)) ∨
    (∃ witness next, signing.phase = .signed witness ∧
      next = ({ signing with
        signedWitnesses := signing.signedWitnesses ++ [witness] } : Signing).next s.xpubMemo ∧
      s' = { s with xpubMemo := next.2, signings := s.signings.set i next.1 }) := by
  unfold State.resume at h
  split at h
  · next path suffix witnessSignatureHex hphase =>
      exact Or.inl ⟨path, suffix, witnessSignatureHex, hphase, (Option.some.inj h).symm⟩
  · next xpub witnessSignatureHex hphase =>
      exact Or.inr (Or.inl ⟨xpub, witnessSignatureHex, hphase, (Option.some.inj h).symm⟩)
  · next xpub lastIndex suffix witnessSignatureHex hphase =>
      exact Or.inr (Or.inr (Or.inl
        ⟨xpub, lastIndex, suffix, witnessSignatureHex, hphase, (Option.some.inj h).symm⟩))
  · next call parentXpub lastIndex suffix witnessSignatureHex hphase =>
      obtain ⟨answer, hanswer, h⟩ := Option.map_eq_some_iff.1 h
      obtain ⟨c, hc, hhead⟩ := Option.bind_eq_some_iff.1 hanswer
      exact Or.inr (Or.inr (Or.inr (Or.inl ⟨call, parentXpub, lastIndex, suffix, witnessSignatureHex, c,
        answer, hphase, hc, List.mem_of_mem_head? hhead, h.symm⟩)))
  · next witness hphase =>
      exact Or.inr (Or.inr (Or.inr (Or.inr ⟨witness, _, hphase, rfl, (Option.some.inj h).symm⟩)))
  · exact absurd h (by simp)
  · exact absurd h (by simp)

/-- At its last hardened index `deriveXpub` takes what `xpubMemo` holds. -/
theorem deriveXpub_of_readsMemo (htable : s.derivedXpubs = []) {path suffix : BIP32Path}
    {witnessSignatureHex : String} (hpath : path.getLast?.all indexIsHardened = true) :
    s.deriveXpub path suffix witnessSignatureHex
      = s.xpubMemo.elim .threw fun xpubHex =>
          .derived (bufferFromHex xpubHex) suffix witnessSignatureHex := by
  unfold State.deriveXpub
  rw [htable]
  cases hlast : path.getLast? with
  | none => cases s.xpubMemo <;> rfl
  | some lastIndex =>
      rw [hlast] at hpath
      have hindex : indexIsHardened lastIndex = true := hpath
      simp only [List.lookup_nil, hindex, if_true]
      cases s.xpubMemo <;> rfl

theorem deriveXpub_concat (htable : s.derivedXpubs = []) {path suffix : BIP32Path} {index : ℕ}
    {witnessSignatureHex : String} (hindex : indexIsHardened index = false) :
    s.deriveXpub (path ++ [index]) suffix witnessSignatureHex
      = .ascending path (index :: suffix) witnessSignatureHex := by
  unfold State.deriveXpub
  rw [htable]
  simp [hindex]

/-- A path is taken from the memo, or has one more index to derive. -/
theorem readsMemo_or_concat (path : BIP32Path) :
    path.getLast?.all indexIsHardened = true ∨
      ∃ rest index, path = rest ++ [index] ∧ indexIsHardened index = false := by
  rcases List.eq_nil_or_concat path with rfl | ⟨rest, index, rfl⟩
  · exact Or.inl rfl
  · by_cases hindex : indexIsHardened index
    · exact Or.inl (by simpa using hindex)
    · exact Or.inr ⟨rest, index, List.concat_eq_append, by simpa using hindex⟩

/-! ## What holds in every run -/

/-- A request is for the child that its call waits for. -/
def Phase.Asked (lib : DerivationPackages) (channel : IpcChannel.State Value) : Phase → Prop
  | .requesting call parentXpub lastIndex _ _ =>
      channel.message? call = some (.params (lib.bufToHex parentXpub) lastIndex ed25519Mode)
  | _ => True

/-- Nobody writes the table, and each call waits for its own request. -/
structure Inv (lib : DerivationPackages) (s : State) : Prop where
  served : Served (deriveXpubHandler lib) s.channel
  table : s.derivedXpubs = []
  asked : ∀ signing ∈ s.signings, signing.phase.Asked lib s.channel

theorem SophieWitness_asked (channel : IpcChannel.State Value) (witness : Witness) (xpubHex : String)
    (xpubMemo : Option String) : (SophieWitness witness xpubHex xpubMemo).1.Asked lib channel := by
  unfold SophieWitness
  repeat' split
  all_goals trivial

theorem Signing.next_asked (channel : IpcChannel.State Value) (signing : Signing)
    (xpubMemo : Option String) : (signing.next xpubMemo).1.phase.Asked lib channel := by
  unfold Signing.next
  split
  · trivial
  · exact SophieWitness_asked _ _ _ _

theorem Inv.update (h : Inv lib s) {phase : Phase} (hphase : phase.Asked lib s.channel) :
    Inv lib (s.update i signing phase) := by
  refine ⟨h.served, h.table, fun x hx => ?_⟩
  rcases List.mem_or_eq_of_mem_set hx with hx | rfl
  · exact h.asked x hx
  · exact hphase

/-- What the calls wait for is what they asked for on a channel that keeps the messages. -/
theorem Inv.channel (h : Inv lib s) {channel : IpcChannel.State Value}
    (hserved : Served (deriveXpubHandler lib) channel)
    (hkeep : ∀ n message, s.channel.message? n = some message → channel.message? n = some message) :
    Inv lib { s with channel := channel } := by
  refine ⟨hserved, h.table, fun x hx => ?_⟩
  have hasked := h.asked x hx
  cases hphase : x.phase with
  | requesting call parentXpub lastIndex suffix witnessSignatureHex =>
      rw [hphase] at hasked
      exact hkeep call _ hasked
  | _ => trivial

theorem inv_resume (h : Inv lib s) (hresume : s.resume lib i signing = some s') : Inv lib s' := by
  rcases resume_cases hresume with ⟨path, suffix, sig, -, rfl⟩ | ⟨xpub, sig, -, rfl⟩
    | ⟨xpub, lastIndex, suffix, sig, -, rfl⟩ | ⟨call, xpub, lastIndex, suffix, sig, c, answer, -, -, -, rfl⟩
    | ⟨witness, next, -, rfl, rfl⟩
  · refine h.update ?_
    rcases readsMemo_or_concat path with hpath | ⟨rest, index, rfl, hindex⟩
    · rw [deriveXpub_of_readsMemo h.table hpath]
      cases s.xpubMemo <;> trivial
    · rw [deriveXpub_concat h.table hindex]
      trivial
  · exact h.update trivial
  · exact (h.channel (h.served.request _) fun n m hm => IpcChannel.message?_request hm _).update
      (IpcChannel.message?_request_self _)
  · refine h.update ?_
    unfold Phase.ofAnswer
    split <;> trivial
  · refine ⟨h.served, h.table, fun x hx => ?_⟩
    rcases List.mem_or_eq_of_mem_set hx with hx | rfl
    · exact h.asked x hx
    · exact Signing.next_asked _ _ _

theorem inv_step {e : Event} (h : Inv lib s) (hstep : step lib s e = some s') : Inv lib s' := by
  rcases step_cases hstep with ⟨xpubHex, witnesses, -, rfl⟩ | ⟨i, signing, -, -, hresume⟩
    | ⟨delivery, channel, -, hdeliver, rfl⟩
  · refine ⟨h.served, h.table, fun x hx => ?_⟩
    rcases List.mem_append.1 hx with hx | hx
    · exact h.asked x hx
    · obtain rfl := List.mem_singleton.1 hx
      exact Signing.next_asked _ _ _
  · exact inv_resume h hresume
  · obtain ⟨hserved, -, hmessage⟩ := h.served.deliver hdeliver
    exact h.channel hserved fun n m hm => (hmessage n).trans hm

theorem inv_reaches {ok : State → Event → Prop} (h : (machine lib).Reaches ok s) : Inv lib s :=
  h.invariant (P := Inv lib) ⟨IpcChannel.served_init, rfl, fun _ h => absurd h List.not_mem_nil⟩
    (fun _ _ _ _ _ hs hstep => inv_step hs hstep)

/-! ## What holds in undisturbed runs -/

/-- Every call comes to its own result. -/
structure Own (lib : DerivationPackages) (s : State) : Prop where
  answers : OwnAnswers (deriveXpubHandler lib) s.channel
  outcome : ∀ signing ∈ s.signings,
    signing.outcome lib = ownResult lib signing.xpubHex signing.witnesses

theorem Own.update (h : Own lib s) {phase : Phase} (hmem : signing ∈ s.signings)
    (hne : signing.phase ≠ .returned) (hphase : phase ≠ .returned)
    (heq : phase.outcome lib signing.xpubHex = signing.phase.outcome lib signing.xpubHex) :
    Own lib (s.update i signing phase) := by
  refine ⟨h.answers, fun x hx => ?_⟩
  rcases List.mem_or_eq_of_mem_set hx with hx | rfl
  · exact h.outcome x hx
  · rw [Signing.outcome_update hne hphase heq]
    exact h.outcome signing hmem

/-- With the account xpub of the call in `xpubMemo`, `deriveXpub` keeps to the key of the path. -/
theorem deriveXpub_outcome (htable : s.derivedXpubs = []) {path suffix : BIP32Path}
    {witnessSignatureHex xpubHex : String}
    (hmemo : path.getLast?.all indexIsHardened = true → s.xpubMemo = some xpubHex) :
    (s.deriveXpub path suffix witnessSignatureHex).outcome lib xpubHex
        = (Phase.ascending path suffix witnessSignatureHex).outcome lib xpubHex
      ∧ s.deriveXpub path suffix witnessSignatureHex ≠ .returned := by
  rcases readsMemo_or_concat path with hpath | ⟨rest, index, rfl, hindex⟩
  · rw [deriveXpub_of_readsMemo htable hpath, hmemo hpath]
    refine ⟨?_, by simp⟩
    simp only [Option.elim_some, Phase.outcome, ownXpub_of_readsMemo xpubHex hpath, Option.bind_some]
  · rw [deriveXpub_concat htable hindex]
    refine ⟨?_, by simp⟩
    simp only [Phase.outcome, ownXpub_concat xpubHex rest hindex, Option.bind_assoc]
    rfl

/-- The answer of the main process is the child that was asked for. -/
theorem ofAnswer_outcome (hhex : ∀ b, lib.hexToBuf (lib.bufToHex b) = b) (xpubHex : String)
    (parentXpub : Bytes) (lastIndex : ℕ) (suffix : BIP32Path) (witnessSignatureHex : String) (call : ℕ) :
    (Phase.ofAnswer lib suffix witnessSignatureHex
        (deriveXpubHandler lib (.params (lib.bufToHex parentXpub) lastIndex ed25519Mode))).outcome lib xpubHex
      = (Phase.requesting call parentXpub lastIndex suffix witnessSignatureHex).outcome lib xpubHex := by
  simp only [deriveXpubHandler, hhex, Phase.outcome, List.foldlM_cons, childXpub]
  cases hchild : lib.deriveChildXpub parentXpub lastIndex ed25519Mode with
  | none => rfl
  | some xpub =>
      simp only [Phase.ofAnswer, hhex]
      rfl

theorem ofAnswer_ne_returned (suffix : BIP32Path) (witnessSignatureHex : String) (answer : Outcome Value) :
    Phase.ofAnswer lib suffix witnessSignatureHex answer ≠ .returned := by
  unfold Phase.ofAnswer
  split <;> simp

theorem own_resume (hhex : ∀ b, lib.hexToBuf (lib.bufToHex b) = b) (hinv : Inv lib s) (h : Own lib s)
    (hi : s.signings[i]? = some signing) (hok : Undisturbed s (.resume i))
    (hresume : s.resume lib i signing = some s') : Own lib s' := by
  have hmem : signing ∈ s.signings := List.mem_of_getElem? hi
  rcases resume_cases hresume with ⟨path, suffix, sig, hphase, rfl⟩ | ⟨xpub, sig, hphase, rfl⟩
    | ⟨xpub, lastIndex, suffix, sig, hphase, rfl⟩
    | ⟨call, xpub, lastIndex, suffix, sig, c, answer, hphase, hc, hanswer, rfl⟩
    | ⟨witness, next, hphase, rfl, rfl⟩
  · have hmemo : path.getLast?.all indexIsHardened = true → s.xpubMemo = some signing.xpubHex :=
      fun hpath => hok signing hi (by rw [hphase]; exact hpath)
    obtain ⟨heq, hne⟩ := @deriveXpub_outcome lib s hinv.table path suffix sig signing.xpubHex hmemo
    exact h.update hmem (by rw [hphase]; simp) hne (by rw [hphase]; exact heq)
  · exact h.update hmem (by rw [hphase]; simp) (by simp) (by rw [hphase]; rfl)
  · have hrequest : Own lib
        { s with channel := s.channel.request (.params (lib.bufToHex xpub) lastIndex ed25519Mode) } :=
      ⟨h.answers.request _, h.outcome⟩
    exact hrequest.update hmem (by rw [hphase]; simp) (by simp) (by rw [hphase]; rfl)
  · -- the call was settled with the answer to its own request
    have hasked := hinv.asked signing hmem
    rw [hphase] at hasked
    have hmessage : some c.message = some (.params (lib.bufToHex xpub) lastIndex ed25519Mode) := by
      rw [← hasked, IpcChannel.State.message?, hc]
      rfl
    rw [h.answers call c hc answer hanswer, Option.some.inj hmessage]
    refine h.update hmem (by rw [hphase]; simp) (ofAnswer_ne_returned _ _ _) ?_
    rw [hphase]
    exact ofAnswer_outcome hhex signing.xpubHex xpub lastIndex suffix sig call
  · refine ⟨h.answers, fun x hx => ?_⟩
    rcases List.mem_or_eq_of_mem_set hx with hx | rfl
    · exact h.outcome x hx
    · obtain ⟨hxpub, hwitnesses⟩ := Signing.next_frame
        { signing with signedWitnesses := signing.signedWitnesses ++ [witness] } s.xpubMemo
      rw [Signing.next_outcome, hxpub, hwitnesses, ← h.outcome signing hmem,
        Signing.outcome_of_ne (by rw [hphase]; simp), hphase]
      simp [Phase.outcome]

theorem own_step (hhex : ∀ b, lib.hexToBuf (lib.bufToHex b) = b) {e : Event} (hinv : Inv lib s)
    (h : Own lib s) (hok : Undisturbed s e) (hstep : step lib s e = some s') : Own lib s' := by
  rcases step_cases hstep with ⟨xpubHex, witnesses, -, rfl⟩ | ⟨i, signing, rfl, hi, hresume⟩
    | ⟨delivery, channel, rfl, hdeliver, rfl⟩
  · refine ⟨h.answers, fun x hx => ?_⟩
    rcases List.mem_append.1 hx with hx | hx
    · exact h.outcome x hx
    · let signing : Signing := { xpubHex, witnesses, remaining := witnesses, phase := .returned }
      have hx : x = (signing.next s.xpubMemo).1 := List.mem_singleton.1 hx
      obtain ⟨hxpub, hwitnesses⟩ := signing.next_frame s.xpubMemo
      rw [hx, Signing.next_outcome, hxpub, hwitnesses]
      simp [signing]
  · exact own_resume hhex hinv h hi hok hresume
  · refine ⟨OwnAnswers.deliver hinv.served h.answers hdeliver ?_, h.outcome⟩
    rintro k rfl
    exact hok

theorem own_reaches (hhex : ∀ b, lib.hexToBuf (lib.bufToHex b) = b)
    (h : (machine lib).Reaches Undisturbed s) : Own lib s :=
  h.invariant (P := Own lib)
    ⟨fun _ _ h => absurd h (by simp [machine, IpcChannel.State.onRequest]), fun _ h => absurd h List.not_mem_nil⟩
    (fun _ _ _ hr hok hs hstep => own_step hhex (inv_reaches hr) hs hok hstep)

/-! ## Every call ends -/

def Event.isSign : Event → Bool
  | .sign .. => true
  | _ => false

/-- A bound on the steps that a call still takes, with those of its requests. -/
def Phase.work : Phase → ℕ
  | .ascending path suffix _ => 6 * path.length + 5 * suffix.length + 3
  | .derived _ suffix _ => 5 * suffix.length + 2
  | .requesting _ _ _ suffix _ => 5 * suffix.length + 3
  | .signed _ => 1
  | .returned | .threw => 0

def Witness.work (witness : Witness) : ℕ :=
  6 * witness.path.elim 0 List.length + 3

def Signing.work (signing : Signing) : ℕ :=
  signing.phase.work + (signing.remaining.map Witness.work).sum

def State.work (s : State) : ℕ :=
  (s.signings.map Signing.work).sum + s.channel.inFlight

theorem SophieWitness_work (witness : Witness) (xpubHex : String) (xpubMemo : Option String) :
    (SophieWitness witness xpubHex xpubMemo).1.work ≤ witness.work := by
  unfold SophieWitness Witness.work
  split
  · simp only [Phase.work]
    omega
  · split
    · next path _ hpath _ =>
        rw [hpath]
        exact Nat.le_refl _
    · simp only [Phase.work]
      omega

theorem Signing.next_work (signing : Signing) (xpubMemo : Option String) :
    (signing.next xpubMemo).1.work ≤ (signing.remaining.map Witness.work).sum := by
  unfold Signing.next
  split
  · next hremaining =>
      simp [Signing.work, Phase.work, hremaining]
  · next witness remaining hremaining =>
      have hle := SophieWitness_work witness signing.xpubHex xpubMemo
      rw [hremaining, List.map_cons, List.sum_cons]
      exact Nat.add_le_add_right hle _

theorem work_update (hi : s.signings[i]? = some signing) {phase : Phase}
    (hlt : phase.work < signing.phase.work) : (s.update i signing phase).work < s.work := by
  have hsum := List.sum_map_set Signing.work hi { signing with phase := phase }
  simp only [State.work, State.update, Signing.work] at hsum ⊢
  omega

theorem deriveXpub_work (htable : s.derivedXpubs = []) (path suffix : BIP32Path)
    (witnessSignatureHex : String) : (s.deriveXpub path suffix witnessSignatureHex).work
      < (Phase.ascending path suffix witnessSignatureHex).work := by
  rcases readsMemo_or_concat path with hpath | ⟨rest, index, rfl, hindex⟩
  · rw [deriveXpub_of_readsMemo htable hpath]
    cases s.xpubMemo with
    | none => simp [Phase.work]
    | some xpubHex =>
        simp only [Option.elim_some, Phase.work]
        omega
  · rw [deriveXpub_concat htable hindex]
    simp only [Phase.work, List.length_append, List.length_cons, List.length_nil]
    omega

theorem work_resume (hinv : Inv lib s) (hi : s.signings[i]? = some signing)
    (hresume : s.resume lib i signing = some s') : s'.work < s.work := by
  rcases resume_cases hresume with ⟨path, suffix, sig, hphase, rfl⟩ | ⟨xpub, sig, hphase, rfl⟩
    | ⟨xpub, lastIndex, suffix, sig, hphase, rfl⟩
    | ⟨call, xpub, lastIndex, suffix, sig, c, answer, hphase, -, -, rfl⟩ | ⟨witness, next, hphase, rfl, rfl⟩
  · exact work_update hi (hphase ▸ deriveXpub_work hinv.table path suffix sig)
  · refine work_update hi ?_
    rw [hphase]
    simp [Phase.work]
  · -- the request takes three steps of its own
    have hsum := List.sum_map_set Signing.work hi
      { signing with phase := .requesting s.channel.calls.length xpub lastIndex suffix sig }
    simp only [State.work, State.update, Signing.work, hphase, Phase.work, IpcChannel.inFlight_request,
      List.length_cons] at hsum ⊢
    omega
  · refine work_update hi ?_
    rw [hphase]
    unfold Phase.ofAnswer
    split
    · simp [Phase.work]
    · simp [Phase.work]
  · have hle : (Signing.next { signing with
        signedWitnesses := signing.signedWitnesses ++ [witness] } s.xpubMemo).1.work
          ≤ (signing.remaining.map Witness.work).sum := Signing.next_work _ _
    have hsum := List.sum_map_set Signing.work hi (Signing.next
      { signing with signedWitnesses := signing.signedWitnesses ++ [witness] } s.xpubMemo).1
    have hwork : signing.work = 1 + (signing.remaining.map Witness.work).sum := by
      rw [Signing.work, hphase]
      rfl
    simp only [State.work] at hsum ⊢
    omega

/-- Every step but the start of another call brings the calls closer to their ends. -/
theorem work_step {e : Event} (hinv : Inv lib s) (he : e.isSign = false)
    (hstep : step lib s e = some s') : s'.work < s.work := by
  rcases step_cases hstep with ⟨xpubHex, witnesses, rfl, -⟩ | ⟨i, signing, -, hi, hresume⟩
    | ⟨delivery, channel, -, hdeliver, rfl⟩
  · exact absurd he (by simp [Event.isSign])
  · exact work_resume hinv hi hresume
  · obtain ⟨-, hinFlight, -⟩ := hinv.served.deliver hdeliver
    simp only [State.work]
    omega

/-- A call that has not ended can go on, or its request is on its way. -/
theorem exists_step (hinv : Inv lib s) (hmem : signing ∈ s.signings)
    (hended : ¬ signing.Ended) :
    ∃ e, e.isSign = false ∧ step lib s e ≠ none := by
  obtain ⟨i, hi⟩ := List.mem_iff_getElem?.1 hmem
  have hresume : s.resume lib i signing ≠ none → ∃ e, e.isSign = false ∧ step lib s e ≠ none :=
    fun h => ⟨.resume i, rfl, by simpa [step, hi] using h⟩
  cases hphase : signing.phase with
  | ascending path suffix sig => exact hresume (by simp [State.resume, hphase])
  | derived xpub suffix sig => exact hresume (by cases suffix <;> simp [State.resume, hphase])
  | signed witness => exact hresume (by simp [State.resume, hphase])
  | returned => exact absurd (Or.inl hphase) hended
  | threw => exact absurd (Or.inr hphase) hended
  | requesting call xpub lastIndex suffix sig =>
      have hasked := hinv.asked signing hmem
      rw [hphase] at hasked
      obtain ⟨c, hc, -⟩ := Option.map_eq_some_iff.1 hasked
      by_cases hopen : c.settled = []
      · obtain ⟨delivery, channel, hdeliver⟩ := hinv.served.exists_deliver hc hopen
        exact ⟨.deliver delivery, rfl, by simp [step, hdeliver]⟩
      · obtain ⟨answer, rest, hanswers⟩ := List.exists_cons_of_ne_nil hopen
        exact hresume (by simp [State.resume, hphase, hc, hanswers])

/-! ## Calls that do not overlap -/

def Phase.isAscending : Phase → Bool
  | .ascending .. => true
  | _ => false

/-- The request that a call waits for. -/
def Phase.call? : Phase → Option ℕ
  | .requesting call .. => some call
  | _ => none

/-- Only the last call is under way, and what is in the shared state is its own. -/
structure Alone (s : State) : Prop where
  one : IpcChannel.OneAtATime s.channel
  last : ∀ j x, s.signings[j]? = some x → x.Ended ∨ j + 1 = s.signings.length
  xpub : ∀ x ∈ s.signings, x.xpubHex ≠ ""
  memo : ∀ x ∈ s.signings, x.phase.isAscending → s.xpubMemo = some x.xpubHex
  waits : ∀ n, s.channel.open n = true → ∃ x ∈ s.signings, x.phase.call? = some n

theorem Signing.Ended.not_ascending (h : signing.Ended) : signing.phase.isAscending = false := by
  rcases h with h | h <;> rw [h] <;> rfl

theorem Signing.Ended.call?_eq_none (h : signing.Ended) : signing.phase.call? = none := by
  rcases h with h | h <;> rw [h] <;> rfl

/-- An open request is that of the call under way. -/
theorem Alone.call?_of_open (h : Alone s) (hi : s.signings[i]? = some signing) (hended : ¬ signing.Ended)
    {n : ℕ} (hopen : s.channel.open n = true) : signing.phase.call? = some n := by
  obtain ⟨x, hx, hcall⟩ := h.waits n hopen
  obtain ⟨j, hj⟩ := List.mem_iff_getElem?.1 hx
  have hx : ¬ x.Ended := fun he => absurd (he.call?_eq_none.symm.trans hcall) (by simp)
  have hij : j = i := by
    have hjlast := (h.last j x hj).resolve_left hx
    have hilast := (h.last i signing hi).resolve_left hended
    omega
  rw [hij, hi] at hj
  rw [Option.some.inj hj]
  exact hcall

theorem Alone.set (h : Alone s) (hi : s.signings[i]? = some signing) (hended : ¬ signing.Ended)
    {signing' : Signing} {xpubMemo : Option String} {channel : IpcChannel.State Value}
    (hone : IpcChannel.OneAtATime channel) (hxpub : signing'.xpubHex = signing.xpubHex)
    (hmemo : signing'.phase.isAscending → xpubMemo = some signing.xpubHex)
    (hwaits : ∀ n, channel.open n = true → signing'.phase.call? = some n) :
    Alone { s with
      xpubMemo := xpubMemo, channel := channel, signings := s.signings.set i signing' } := by
  have hlast := (h.last i signing hi).resolve_left hended
  have hother : ∀ j x, (s.signings.set i signing')[j]? = some x → (j = i ∧ x = signing') ∨
      (s.signings[j]? = some x ∧ x.Ended) := by
    intro j x hj
    by_cases hji : j = i
    · subst hji
      have hlt := (List.getElem?_eq_some_iff.1 hi).1
      rw [List.getElem?_set_self hlt] at hj
      exact Or.inl ⟨rfl, (Option.some.inj hj).symm⟩
    · rw [List.getElem?_set_ne (Ne.symm hji)] at hj
      exact Or.inr ⟨hj, (h.last j x hj).resolve_right fun hjlast => hji (by omega)⟩
  refine ⟨hone, ?_, ?_, ?_, ?_⟩
  · intro j x hj
    rw [List.length_set]
    rcases hother j x hj with ⟨rfl, -⟩ | ⟨-, hx⟩
    · exact Or.inr hlast
    · exact Or.inl hx
  · intro x hx
    rcases List.mem_or_eq_of_mem_set hx with hx | rfl
    · exact h.xpub x hx
    · rw [hxpub]
      exact h.xpub signing (List.mem_of_getElem? hi)
  · intro x hx hascending
    obtain ⟨j, hj⟩ := List.mem_iff_getElem?.1 hx
    rcases hother j x hj with ⟨-, rfl⟩ | ⟨-, hx⟩
    · rw [hxpub]
      exact hmemo hascending
    · exact absurd hascending (by simp [hx.not_ascending])
  · exact fun n hn => ⟨signing', List.mem_set_self hi, hwaits n hn⟩

theorem SophieWitness_memo {witness : Witness} {xpubHex : String} {xpubMemo : Option String}
    (hxpub : xpubHex ≠ "") (hascending : (SophieWitness witness xpubHex xpubMemo).1.isAscending = true) :
    (SophieWitness witness xpubHex xpubMemo).2 = some xpubHex := by
  unfold SophieWitness at hascending ⊢
  rw [if_pos hxpub] at hascending ⊢
  split at hascending
  · exact absurd hascending (by simp [Phase.isAscending])
  · split at hascending
    · rfl
    · exact absurd hascending (by simp [Phase.isAscending])

/-- A call that goes on to a path has set the memo. -/
theorem Signing.next_memo {xpubMemo : Option String} (hxpub : signing.xpubHex ≠ "")
    (hascending : (signing.next xpubMemo).1.phase.isAscending = true) :
    (signing.next xpubMemo).2 = some signing.xpubHex := by
  unfold Signing.next at hascending ⊢
  split at hascending
  · exact absurd hascending (by simp [Phase.isAscending])
  · exact SophieWitness_memo hxpub hascending

theorem alone_resume (h : Alone s) (hi : s.signings[i]? = some signing)
    (hresume : s.resume lib i signing = some s') : Alone s' := by
  have hmem : signing ∈ s.signings := List.mem_of_getElem? hi
  have hended : ¬ signing.Ended := by
    rintro (hphase | hphase) <;> simp [State.resume, hphase] at hresume
  have hclosed : signing.phase.call? = none → ∀ n, s.channel.open n = false := by
    intro hnone n
    by_contra hopen
    exact absurd (hnone.symm.trans (h.call?_of_open hi hended (by simpa using hopen))) (by simp)
  rcases resume_cases hresume with ⟨path, suffix, sig, hphase, rfl⟩ | ⟨xpub, sig, hphase, rfl⟩
    | ⟨xpub, lastIndex, suffix, sig, hphase, rfl⟩
    | ⟨call, xpub, lastIndex, suffix, sig, c, answer, hphase, hc, hanswer, rfl⟩
    | ⟨witness, next, hphase, rfl, rfl⟩
  · have hnone := hclosed (by rw [hphase]; rfl)
    exact h.set hi hended h.one rfl (fun _ => h.memo signing hmem (by rw [hphase]; rfl))
      (fun n hn => absurd hn (by simp [hnone n]))
  · have hnone := hclosed (by rw [hphase]; rfl)
    exact h.set hi hended h.one rfl (fun hascending => absurd hascending (by simp [Phase.isAscending]))
      (fun n hn => absurd hn (by simp [hnone n]))
  · have hnone := hclosed (by rw [hphase]; rfl)
    refine h.set hi hended (h.one.request hnone _) rfl
      (fun hascending => absurd hascending (by simp [Phase.isAscending])) (fun n hn => ?_)
    rcases IpcChannel.open_call hn with hn | rfl
    · exact absurd hn (by simp [hnone n])
    · rfl
  · -- the request that was open is settled
    have hnone : ∀ n, s.channel.open n = false := by
      intro n
      by_contra hopen
      have hopen : s.channel.open n = true := by simpa using hopen
      have hcall := h.call?_of_open hi hended hopen
      rw [hphase] at hcall
      obtain rfl : call = n := Option.some.inj hcall
      simp only [IpcChannel.State.open, hc, List.isEmpty_iff] at hopen
      rw [hopen] at hanswer
      exact absurd hanswer List.not_mem_nil
    refine h.set hi hended h.one rfl (fun hascending => ?_) (fun n hn => absurd hn (by simp [hnone n]))
    unfold Phase.ofAnswer at hascending
    split at hascending <;> exact absurd hascending (by simp [Phase.isAscending])
  · have hnone := hclosed (by rw [hphase]; rfl)
    exact h.set hi hended h.one (Signing.next_frame _ _).1
      (Signing.next_memo (h.xpub signing hmem)) (fun n hn => absurd hn (by simp [hnone n]))

theorem alone_step {e : Event} (hinv : Inv lib s) (h : Alone s) (hok : Sequential s e)
    (hstep : step lib s e = some s') : Alone s' := by
  rcases step_cases hstep with ⟨xpubHex, witnesses, rfl, rfl⟩ | ⟨i, signing, -, hi, hresume⟩
    | ⟨delivery, channel, -, hdeliver, rfl⟩
  · obtain ⟨hxpub, hended⟩ := hok
    let signing : Signing := { xpubHex, witnesses, remaining := witnesses, phase := .returned }
    have hnew : (signing.next s.xpubMemo).1.xpubHex = xpubHex := (signing.next_frame s.xpubMemo).1
    refine ⟨h.one, ?_, ?_, ?_, ?_⟩
    · intro j x hj
      rcases List.getElem?_concat_eq_some.1 hj with hj | ⟨rfl, -⟩
      · exact Or.inl (hended x (List.mem_of_getElem? hj))
      · exact Or.inr (by simp [State.sign])
    · intro x hx
      rcases List.mem_append.1 hx with hx | hx
      · exact h.xpub x hx
      · have hx : x = (signing.next s.xpubMemo).1 := List.mem_singleton.1 hx
        rw [hx, hnew]
        exact hxpub
    · intro x hx hascending
      rcases List.mem_append.1 hx with hx | hx
      · exact absurd hascending (by simp [(hended x hx).not_ascending])
      · have hx : x = (signing.next s.xpubMemo).1 := List.mem_singleton.1 hx
        rw [hx] at hascending ⊢
        rw [hnew]
        exact @Signing.next_memo signing _ hxpub hascending
    · intro n hn
      obtain ⟨x, hx, hcall⟩ := h.waits n hn
      exact absurd (((hended x hx).call?_eq_none).symm.trans hcall) (by simp)
  · exact alone_resume h hi hresume
  · obtain ⟨hone, hopen⟩ := h.one.deliver hinv.served hdeliver
    exact ⟨hone, h.last, h.xpub, h.memo, fun n hn => h.waits n (hopen n hn)⟩

theorem alone_reaches (h : (machine lib).Reaches Sequential s) : Alone s := by
  refine h.invariant (P := Alone) ⟨⟨?_, ?_⟩, ?_, ?_, ?_, ?_⟩
    (fun _ _ _ hr hok hs hstep => alone_step (inv_reaches hr) hs hok hstep)
  · exact Nat.zero_le 1
  · exact fun n hn => absurd hn List.not_mem_nil
  · exact fun j x hj => absurd hj (by simp [machine])
  · exact fun x hx => absurd hx List.not_mem_nil
  · exact fun x hx => absurd hx List.not_mem_nil
  · exact fun n hn => absurd hn (by simp [machine, IpcChannel.State.open, IpcChannel.State.onRequest])

/-- Calls that do not overlap do not disturb each other. -/
theorem undisturbed_of_sequential (h : (machine lib).Reaches Sequential s) :
    (machine lib).Reaches Undisturbed s := by
  refine h.of_invariant (P := fun s => Inv lib s ∧ Alone s) (fun s hs => ⟨inv_reaches hs, alone_reaches hs⟩) ?_
  rintro s e ⟨hinv, halone⟩ -
  cases e with
  | sign xpubHex witnesses => trivial
  | resume i =>
      intro signing hi hreads
      refine halone.memo signing (List.mem_of_getElem? hi) ?_
      cases hphase : signing.phase with
      | ascending path suffix sig => rfl
      | _ =>
          rw [hphase] at hreads
          exact absurd hreads (by simp [Phase.readsMemo])
  | deliver delivery =>
      cases delivery with
      | respond k => exact halone.one.answersAll hinv.served k
      | receive k => trivial
      | finish k => trivial

/-! ## The main result -/

/-- Each call that has ended has its own result, and every call ends. -/
structure OwnResults (lib : DerivationPackages) (s : State) : Prop where
  returned : ∀ signing ∈ s.signings, signing.phase = .returned →
    ownResult lib signing.xpubHex signing.witnesses = some signing.signedWitnesses
  threw : ∀ signing ∈ s.signings, signing.phase = .threw →
    ownResult lib signing.xpubHex signing.witnesses = none
  ends : (∀ e : Event, e.isSign = false → step lib s e = none) → ∀ signing ∈ s.signings, signing.Ended
  bounded : ∃ bound, ∀ events s', (∀ e ∈ events, e.isSign = false) →
    (machine lib).exec s events = some s' → events.length ≤ bound

theorem allSteps_of_forall (ok : Event → Prop) (events : List Event) (s : State)
    (h : ∀ e ∈ events, ok e) : (machine lib).allSteps (fun _ e => ok e) s events := by
  induction events generalizing s with
  | nil => trivial
  | cons e events ih =>
      refine ⟨h e (List.mem_cons_self ..), ?_⟩
      split
      · exact ih _ fun e he => h e (List.mem_cons_of_mem _ he)
      · trivial

theorem ownResults (hinv : Inv lib s) (h : Own lib s) : OwnResults lib s where
  returned signing hmem hphase := by
    rw [← h.outcome signing hmem, Signing.outcome, hphase]
  threw signing hmem hphase := by
    rw [← h.outcome signing hmem, Signing.outcome, hphase]
    rfl
  ends hstuck signing hmem := by
    by_contra hended
    obtain ⟨e, he, hstep⟩ := exists_step hinv hmem hended
    exact hstep (hstuck e he)
  bounded := by
    refine ⟨s.work, fun events s' hevents hexec => ?_⟩
    refine (machine lib).length_le_measure (P := Inv lib) State.work ?_ events hinv
      (allSteps_of_forall (fun e => e.isSign = false) events s hevents) hexec
    exact fun t e t' ht he hstep => ⟨inv_step ht hstep, work_step ht he hstep⟩

/-- **A signing call depends on its own account xpub only** in every run in which its xpub is still in
    `xpubMemo` when `deriveXpub` takes it, and no response finds a request for another child. Runs in
    which signing calls do not overlap are among them. -/
theorem own_results_of_undisturbed (hhex : ∀ b, lib.hexToBuf (lib.bufToHex b) = b) :
    (∀ s, (machine lib).Reaches Undisturbed s → OwnResults lib s)
    ∧ (∀ s, (machine lib).Reaches Sequential s → (machine lib).Reaches Undisturbed s)
    ∧ ∀ xpubHex pre suf, (∀ index ∈ pre, indexIsHardened index = true) →
        (∀ index ∈ suf, indexIsHardened index = false) →
        ownXpub lib xpubHex (pre ++ suf) = suf.foldlM (childXpub lib) (bufferFromHex xpubHex) := by
  refine ⟨fun s h => ownResults (inv_reaches h) (own_reaches hhex h), fun s => undisturbed_of_sequential, ?_⟩
  intro xpubHex pre suf hpre hsuf
  rw [ownXpub, nonHardenedSuffix_append hpre hsuf]

/-! ## Calls on their own, and calls that overlap -/

/-- Keys that spell out their derivation. -/
def indexLib : DerivationPackages where
  bufToHex := hexOfBytes
  hexToBuf := bufferFromHex
  deriveChildXpub xpub index _ := some (xpub ++ [index.toUInt8])

/-- A witness of a Ledger, below one hardened index. -/
def ledgerWitness (index : ℕ) : Witness :=
  { path := some [hardenedThreshold + 1852, index], witnessSignatureHex := some "ff" }

/-- The way of one request and its answer. -/
def answered : List Event := [.deliver (.receive 0), .deliver (.finish 0), .deliver (.respond 0)]

def oneCall : List Event :=
  [.sign "aa" [ledgerWitness 5], .resume 0, .resume 0, .resume 0] ++ answered
    ++ [.resume 0, .resume 0, .resume 0]

theorem own_results_of_one_call : ∃ s, (machine indexLib).Reaches Undisturbed s ∧ OwnResults indexLib s
    ∧ s.signings.map Signing.signedWitnesses = [[some ⟨[0xaa, 5], [0xff]⟩]] := by
  obtain ⟨howned, hsequential, -⟩ := @own_results_of_undisturbed indexLib bufferFromHex_hexOfBytes
  have hsteps : (machine indexLib).allSteps Sequential (machine indexLib).init oneCall :=
    ⟨⟨by decide, fun _ h => absurd h List.not_mem_nil⟩, trivial, trivial, trivial, trivial, trivial, trivial,
      trivial, trivial, trivial, trivial⟩
  have hrun := hsequential _ (Machine.Reaches.exec oneCall .init hsteps rfl)
  exact ⟨_, hrun, howned _ hrun, rfl⟩

/-- Both calls begin in one turn of the event loop. -/
def sharedMemo : List Event :=
  [.sign "aa" [ledgerWitness 5], .sign "bb" [ledgerWitness 5], .resume 0, .resume 1, .resume 0, .resume 1,
    .resume 0, .resume 1] ++ answered
    ++ [.resume 0, .resume 1, .resume 0, .resume 1, .resume 0, .resume 1]

/-- The second call begins while the first one waits for the main process. -/
def sharedResponse : List Event :=
  [.sign "aa" [ledgerWitness 5], .resume 0, .resume 0, .resume 0, .sign "bb" [ledgerWitness 7], .resume 1,
    .resume 1, .resume 1] ++ answered
    ++ [.resume 0, .resume 1, .resume 0, .resume 1, .resume 0, .resume 1]

/-- After `sharedMemo` the first call has signed with a key of the second one's account, and after
    `sharedResponse` the second call with a key of the first one's. -/
theorem overlapping_calls_take_keys_of_each_other :
    (∃ s, (machine indexLib).Reaches Machine.anyStep s ∧ s.signings.map Signing.signedWitnesses
        = [[some ⟨[0xbb, 5], [0xff]⟩], [some ⟨[0xbb, 5], [0xff]⟩]] ∧ ¬ OwnResults indexLib s) ∧
    ∃ s, (machine indexLib).Reaches Machine.anyStep s ∧ s.signings.map Signing.signedWitnesses
        = [[some ⟨[0xaa, 5], [0xff]⟩], [some ⟨[0xaa, 5], [0xff]⟩]] ∧ ¬ OwnResults indexLib s := by
  refine ⟨⟨_, Machine.reaches_of_exec sharedMemo rfl, rfl, fun h => ?_⟩,
    ⟨_, Machine.reaches_of_exec sharedResponse rfl, rfl, fun h => ?_⟩⟩
  · have hfirst := h.returned _ (List.mem_cons_self ..) rfl
    exact absurd hfirst (by decide)
  · have hsecond := h.returned _ (List.mem_cons_of_mem _ (List.mem_cons_self ..)) rfl
    exact absurd hsecond (by decide)

end Klarity.HardwareWallets.SignWitnesses
